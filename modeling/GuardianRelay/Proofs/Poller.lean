import GuardianRelay.Poller
import GuardianRelay.Proofs.Attestation.RoundTrip
import GuardianRelay.Proofs.Program

/-!
# Waits in Virtual Time

A wait is a program that knows neither its source nor its clock. This module runs it in virtual
time, in which only lookups and pauses last. A source is given by what becomes of each lookup: it
answers after a while, or never (`Behavior`). Whatever else a source may depend on, in one wait its
lookups come one after the other, so a behavior for each of them says everything.

A lookup that takes longer than is left for it is cut off at the deadline. It counts as one that
found nothing, and so does one that failed. So there are two ways for a wait to end (`Ends`): with
what the first lookup in time found, at the moment when it found it, or at the deadline.

## Conventions

Times are milliseconds. A lookup that answers at the deadline itself is in time: the answer is
there when the time is over, and it is looked at first. A wait at the deadline still makes a last
lookup, for which no time is left; it finds what is there at once.

## Main results

* `run_poll_succ`: what one round of a wait does.
* `run_poll`: a wait that has time left ends in one of the two ways, whatever it looked up before.
* `await_ends`: how a wait ends, and when, and what it looked up.
-/

namespace GuardianRelay.Poller

/-! ### Sources -/

/-- What becomes of a lookup that is given the time. -/
inductive Behavior where
  /-- There is an answer after so many milliseconds. -/
  | answers (millis : ℕ) (answer : Outcome LookupAnswer)
  /-- There is never an answer. -/
  | stalls

namespace Behavior

/-- What a wait learns of a lookup for which so much time is left. -/
def reply (budget : ℕ) : Behavior → Option (Outcome LookupAnswer)
  | answers millis answer => if millis ≤ budget then some answer else none
  | stalls => none

/-- How long a lookup lasts for which so much time is left. -/
def duration (budget : ℕ) : Behavior → ℕ
  | answers millis _ => min millis budget
  | stalls => budget

/-- A lookup lasts no longer than there is time for it. -/
theorem duration_le (behavior : Behavior) (budget : ℕ) : behavior.duration budget ≤ budget := by
  cases behavior with
  | answers millis answer => exact Nat.min_le_right millis budget
  | stalls => exact Nat.le_refl budget

end Behavior

/-- What becomes of the lookups of a wait: of the first, of the second, and so on. -/
abbrev Source := ℕ → MessageKey → Behavior

/-- A lookup that was made: when it began, for which message, and what became of it. -/
structure Attempt where
  start : ℕ
  key : MessageKey
  behavior : Behavior

/-- The lookup finds bytes, at a time, if it is not cut off before. -/
def Attempt.Finds (attempt : Attempt) (time : ℕ) (b : Bytes) : Prop :=
  ∃ millis, attempt.behavior = .answers millis (.ok (.found b)) ∧ attempt.start + millis = time

/-- The lookup finds bytes before it is cut off. -/
def Attempt.FindsBy (attempt : Attempt) (deadline : ℕ) : Prop :=
  ∃ time b, attempt.Finds time b ∧ time ≤ deadline

/-- When the lookup has ended, at the deadline at the latest. -/
def Attempt.ending (attempt : Attempt) (deadline : ℕ) : ℕ :=
  attempt.start + attempt.behavior.duration (deadline - attempt.start)

/-- When the time of a wait is over. -/
def deadlineFrom (poller : Poller) (start : ℕ) : ℕ := start + poller.deadlineMillis

/-! ### Time -/

/-- What time it is, and what was looked up until now. -/
structure Timeline where
  now : ℕ
  attempts : List Attempt

namespace Timeline

/-- A pause. -/
def pause (timeline : Timeline) (millis : ℕ) : Timeline :=
  { timeline with now := timeline.now + millis }

/-- The next lookup, for a message. -/
def attempt (timeline : Timeline) (source : Source) (key : MessageKey) : Attempt :=
  ⟨timeline.now, key, source timeline.attempts.length key⟩

/-- When a lookup has been made that lasted so long. -/
def made (timeline : Timeline) (attempt : Attempt) (millis : ℕ) : Timeline :=
  ⟨timeline.now + millis, timeline.attempts ++ [attempt]⟩

end Timeline

/-- Answers what a wait asks, where only lookups and pauses last. -/
def inTime (source : Source) : (request : Request) → StateM Timeline request.Reply
  | .lookup key budget => fun timeline =>
      let attempt := timeline.attempt source key
      (attempt.behavior.reply budget, timeline.made attempt (attempt.behavior.duration budget))
  | .now => fun timeline => (timeline.now, timeline)
  | .sleep millis => fun timeline => ((), timeline.pause millis)

/-- What becomes of an action that begins at a time, and the time when it has ended. -/
def Action.runFrom {α : Type} (action : Action α) (source : Source) (timeline : Timeline) :
    Outcome α × Timeline :=
  (Program.run (inTime source) action).run timeline

namespace Action

variable {α : Type} {source : Source} {timeline : Timeline} {f : ℕ → Action α}

/-- What has ended takes no time. -/
@[simp] theorem runFrom_ofOutcome (outcome : Outcome α) :
    Action.runFrom (Program.ofOutcome outcome) source timeline = (outcome, timeline) := by
  cases outcome <;> rfl

/-- A failure takes no time. -/
@[simp] theorem runFrom_throw (error : RelayError) :
    Action.runFrom (throw error : Action α) source timeline = (.error error, timeline) := rfl

/-- To ask for the time takes none. -/
@[simp] theorem runFrom_now_bind :
    Action.runFrom (now >>= f) source timeline = (f timeline.now).runFrom source timeline := rfl

/-- A lookup is made. -/
@[simp] theorem runFrom_lookup_bind {key : MessageKey} {budget : ℕ}
    {f : Option (Outcome LookupAnswer) → Action α} :
    Action.runFrom (lookup key budget >>= f) source timeline =
      (f ((timeline.attempt source key).behavior.reply budget)).runFrom source
        (timeline.made (timeline.attempt source key)
          ((timeline.attempt source key).behavior.duration budget)) := rfl

/-- A pause is made. -/
@[simp] theorem runFrom_sleep_bind {millis : ℕ} {f : Unit → Action α} :
    Action.runFrom (sleep millis >>= f) source timeline =
      (f ()).runFrom source (timeline.pause millis) := rfl

end Action

variable {poller : Poller} {key : MessageKey} {source : Source} {start : ℕ}

/-! ### One round -/

/-- What a lookup found, if it was in time. -/
def foundBytes? : Option (Outcome LookupAnswer) → Option Bytes
  | some (.ok (.found b)) => some b
  | _ => none

/-- A wait goes in rounds: it looks up, and if nothing is found and there is time left, it pauses
and goes on. -/
theorem poll_succ (lookups : ℕ) :
    poller.poll key start (lookups + 1) =
      now >>= fun before => lookup key (poller.deadlineMillis - (before - start)) >>= fun reply =>
        match foundBytes? reply with
        | some b => Program.ofOutcome (Outcome.ofParsed (Attestation.decode b))
        | none => now >>= fun after =>
            if poller.deadlineMillis ≤ after - start then throw (giveUp key (after - start))
            else
              sleep (min poller.intervalMillis (poller.deadlineMillis - (after - start))) >>=
                fun _ => poller.poll key start lookups := by
  rw [poll]
  refine congrArg (now >>= ·) (funext fun before => ?_)
  refine congrArg (lookup key _ >>= ·) (funext fun reply => ?_)
  rcases reply with _ | _ | _ | _ <;> rfl

section Attempt

variable {attempt : Attempt} {deadline time : ℕ} {b : Bytes}

/-- What the wait learns is found exactly if the lookup finds it before it is cut off. -/
theorem foundBytes?_reply_eq_some_iff (hstart : attempt.start ≤ deadline) :
    foundBytes? (attempt.behavior.reply (deadline - attempt.start)) = some b ↔
      ∃ time, attempt.Finds time b ∧ time ≤ deadline := by
  rcases attempt with ⟨start, key, behavior⟩
  dsimp only at hstart ⊢
  constructor
  · intro hfound
    rcases behavior with ⟨millis, answer⟩ | _
    · by_cases hle : millis ≤ deadline - start
      · rw [Behavior.reply, if_pos hle] at hfound
        rcases answer with _ | _ | _
        · simp [foundBytes?] at hfound
        · obtain rfl := Option.some.inj hfound
          exact ⟨start + millis, ⟨millis, rfl, rfl⟩, by omega⟩
        · simp [foundBytes?] at hfound
      · rw [Behavior.reply, if_neg hle] at hfound
        simp [foundBytes?] at hfound
    · simp [Behavior.reply, foundBytes?] at hfound
  · rintro ⟨_, ⟨millis, rfl, rfl⟩, htime⟩
    have hle : millis ≤ deadline - start := by
      dsimp only at htime
      omega
    rw [Behavior.reply, if_pos hle]
    rfl

/-- Nothing is found if the lookup does not find anything before it is cut off. -/
theorem foundBytes?_reply_eq_none_iff (hstart : attempt.start ≤ deadline) :
    foundBytes? (attempt.behavior.reply (deadline - attempt.start)) = none ↔
      ¬ attempt.FindsBy deadline := by
  rw [Option.eq_none_iff_forall_ne_some]
  simp only [Ne, foundBytes?_reply_eq_some_iff hstart]
  constructor
  · rintro h ⟨time, b, hfinds, htime⟩
    exact h b ⟨time, hfinds, htime⟩
  · rintro h b ⟨time, hfinds, htime⟩
    exact h ⟨time, b, hfinds, htime⟩

/-- A lookup does not last beyond the deadline. -/
theorem Attempt.ending_le (hstart : attempt.start ≤ deadline) :
    attempt.ending deadline ≤ deadline := by
  have hduration := attempt.behavior.duration_le (deadline - attempt.start)
  rw [Attempt.ending]
  omega

/-- A lookup that finds something in time ends when it finds it. -/
theorem Attempt.Finds.ending_eq (h : attempt.Finds time b) (htime : time ≤ deadline) :
    attempt.ending deadline = time := by
  obtain ⟨millis, hbehavior, rfl⟩ := h
  rw [Attempt.ending, hbehavior, Behavior.duration]
  omega

end Attempt

/-! ### All rounds -/

/-- How a wait goes on that began at `start`: the next lookup is the one of that number, made at
that time, and these lookups are made from then on, until it ends at a time with an outcome. -/
inductive Waits (poller : Poller) (source : Source) (key : MessageKey) (start : ℕ) :
    ℕ → ℕ → List Attempt → ℕ → Outcome Attestation → Prop
  /-- The lookup finds something in time. -/
  | found {n time millis : ℕ} {b : Bytes} :
      source n key = .answers millis (.ok (.found b)) →
      time + millis ≤ poller.deadlineFrom start →
      Waits poller source key start n time [⟨time, key, source n key⟩] (time + millis)
        (Outcome.ofParsed (Attestation.decode b))
  /-- The lookup finds nothing and lasts until the deadline. -/
  | timedOut {n time : ℕ} :
      ¬ Attempt.FindsBy ⟨time, key, source n key⟩ (poller.deadlineFrom start) →
      Attempt.ending ⟨time, key, source n key⟩ (poller.deadlineFrom start) =
        poller.deadlineFrom start →
      Waits poller source key start n time [⟨time, key, source n key⟩]
        (poller.deadlineFrom start) (.error (giveUp key poller.deadlineMillis))
  /-- The lookup finds nothing, and the wait goes on after a pause, which ends at the deadline at
  the latest. -/
  | again {n time finish : ℕ} {attempts : List Attempt} {outcome : Outcome Attestation} :
      ¬ Attempt.FindsBy ⟨time, key, source n key⟩ (poller.deadlineFrom start) →
      Attempt.ending ⟨time, key, source n key⟩ (poller.deadlineFrom start) <
        poller.deadlineFrom start →
      Waits poller source key start (n + 1)
        (min (Attempt.ending ⟨time, key, source n key⟩ (poller.deadlineFrom start) +
            poller.intervalMillis)
          (poller.deadlineFrom start))
        attempts finish outcome →
      Waits poller source key start n time (⟨time, key, source n key⟩ :: attempts) finish outcome

/-- What a round of a wait does in time. -/
theorem run_poll_succ {lookups : ℕ} {timeline : Timeline} (hstart : start ≤ timeline.now)
    (hnow : timeline.now ≤ poller.deadlineFrom start) :
    let attempt := timeline.attempt source key
    let deadline := poller.deadlineFrom start
    let finish := attempt.ending deadline
    (poller.poll key start (lookups + 1)).runFrom source timeline =
      match foundBytes? (attempt.behavior.reply (deadline - attempt.start)) with
      | some b =>
          (Outcome.ofParsed (Attestation.decode b), ⟨finish, timeline.attempts ++ [attempt]⟩)
      | none =>
          if finish = deadline then
            (.error (giveUp key poller.deadlineMillis), ⟨deadline, timeline.attempts ++ [attempt]⟩)
          else
            (poller.poll key start lookups).runFrom source
              ⟨min (finish + poller.intervalMillis) deadline, timeline.attempts ++ [attempt]⟩ := by
  intro attempt deadline finish
  have hdeadline : deadline = start + poller.deadlineMillis := rfl
  have hbudget : poller.deadlineMillis - (timeline.now - start) = deadline - timeline.now := by
    omega
  have hmade : timeline.made attempt (attempt.behavior.duration (deadline - timeline.now)) =
      ⟨finish, timeline.attempts ++ [attempt]⟩ := rfl
  have hfinish : finish ≤ deadline := Attempt.ending_le hnow
  have hlater : start ≤ finish := hstart.trans (Nat.le_add_right _ _)
  rw [poll_succ, Action.runFrom_now_bind, Action.runFrom_lookup_bind, hbudget, hmade]
  change Action.runFrom (match foundBytes? (attempt.behavior.reply (deadline - attempt.start)) with
    | some b => _ | none => _) _ _ = _
  rcases foundBytes? (attempt.behavior.reply (deadline - attempt.start)) with _ | b
  · rw [Action.runFrom_now_bind]
    dsimp only
    by_cases hlate : finish = deadline
    · have helapsed : finish - start = poller.deadlineMillis := by omega
      rw [if_pos hlate, if_pos (by omega), Action.runFrom_throw, helapsed, hlate]
    · have hpause : finish + min poller.intervalMillis
          (poller.deadlineMillis - (finish - start)) =
            min (finish + poller.intervalMillis) deadline := by omega
      rw [if_neg hlate, if_neg (by omega), Action.runFrom_sleep_bind, ← hpause]
      rfl
  · exact Action.runFrom_ofOutcome _

/-- **The rounds of a wait.** A wait that has time left, and lookups enough for every millisecond
of it, comes to its end. -/
theorem run_poll (hinterval : 0 < poller.intervalMillis) {lookups : ℕ} {timeline : Timeline}
    (hstart : start ≤ timeline.now) (hnow : timeline.now ≤ poller.deadlineFrom start)
    (hlookups : poller.deadlineFrom start < timeline.now + lookups) :
    ∃ outcome finish attempts,
      (poller.poll key start lookups).runFrom source timeline =
        (outcome, ⟨finish, timeline.attempts ++ attempts⟩) ∧
      Waits poller source key start timeline.attempts.length timeline.now attempts finish
        outcome := by
  induction lookups generalizing timeline with
  | zero => omega
  | succ lookups ih =>
      rw [run_poll_succ hstart hnow]
      set attempt := timeline.attempt source key with hattempt
      have hending := attempt.ending_le hnow
      rcases hfound : foundBytes? (attempt.behavior.reply
          (poller.deadlineFrom start - attempt.start)) with _ | b
      · have hmissed := (foundBytes?_reply_eq_none_iff hnow).mp hfound
        by_cases hlate : attempt.ending (poller.deadlineFrom start) = poller.deadlineFrom start
        · exact ⟨_, _, [attempt], if_pos hlate, .timedOut hmissed hlate⟩
        · have hearly := Nat.lt_of_le_of_ne hending hlate
          have hlater : timeline.now ≤ attempt.ending (poller.deadlineFrom start) :=
            Nat.le_add_right _ _
          -- the pause takes a millisecond at least, so there is still a lookup for each one left
          obtain ⟨outcome, finish, attempts, hrun, hwaits⟩ := @ih
            ⟨min (attempt.ending (poller.deadlineFrom start) + poller.intervalMillis)
              (poller.deadlineFrom start), timeline.attempts ++ [attempt]⟩
            (by dsimp only; omega) (Nat.min_le_right _ _) (by dsimp only; omega)
          rw [List.append_assoc] at hrun
          rw [List.length_append] at hwaits
          exact ⟨outcome, finish, attempt :: attempts, (if_neg hlate).trans hrun,
            .again hmissed hearly hwaits⟩
      · obtain ⟨time, hfinds, htime⟩ := (foundBytes?_reply_eq_some_iff hnow).mp hfound
        rw [hfinds.ending_eq htime]
        obtain ⟨millis, hbehavior, rfl⟩ := hfinds
        exact ⟨_, _, [attempt], rfl, .found hbehavior htime⟩

/-! ### How a wait ends -/

/-- How a wait of a poller ends that began at `start` and made some lookups: at a time, with an
outcome. -/
inductive Ends (poller : Poller) (key : MessageKey) (start : ℕ) :
    List Attempt → ℕ → Outcome Attestation → Prop
  /-- The last lookup found something before it was cut off, and was the first that did. -/
  | found {earlier : List Attempt} {last : Attempt} {time : ℕ} {b : Bytes} :
      (∀ attempt ∈ earlier, ¬ attempt.FindsBy (poller.deadlineFrom start)) →
      last.Finds time b →
      time ≤ poller.deadlineFrom start →
      Ends poller key start (earlier ++ [last]) time (Outcome.ofParsed (Attestation.decode b))
  /-- No lookup found anything before it was cut off, and the time is over. -/
  | timedOut {attempts : List Attempt} :
      (∀ attempt ∈ attempts, ¬ attempt.FindsBy (poller.deadlineFrom start)) →
      Ends poller key start attempts (poller.deadlineFrom start)
        (.error (.timeout key.chain key.emitter key.sequence (poller.deadlineMillis / 1000)))

section Waits

variable {n time finish : ℕ} {attempts : List Attempt} {outcome : Outcome Attestation}

/-- A lookup that found nothing does not change how a wait ends. -/
theorem Ends.cons {attempt : Attempt} (h : Ends poller key start attempts finish outcome)
    (hmissed : ¬ attempt.FindsBy (poller.deadlineFrom start)) :
    Ends poller key start (attempt :: attempts) finish outcome := by
  cases h with
  | @found earlier last _ _ hearlier hfinds htime =>
      have hnone : ∀ other ∈ attempt :: earlier, ¬ other.FindsBy (poller.deadlineFrom start) :=
        List.forall_mem_cons.mpr ⟨hmissed, hearlier⟩
      exact .found hnone hfinds htime
  | timedOut hattempts => exact .timedOut (List.forall_mem_cons.mpr ⟨hmissed, hattempts⟩)

/-- A wait ends when the first lookup in time has found something, or at the deadline. -/
theorem Waits.ends (h : Waits poller source key start n time attempts finish outcome) :
    Ends poller key start attempts finish outcome := by
  induction h with
  | found hbehavior htime =>
      have hnone : ∀ other ∈ [], ¬ Attempt.FindsBy other (poller.deadlineFrom start) := nofun
      exact .found hnone ⟨_, hbehavior, rfl⟩ htime
  | timedOut hmissed _ => exact .timedOut (List.forall_mem_singleton.mpr hmissed)
  | again hmissed _ _ ih => exact ih.cons hmissed

/-- A wait looks up its own message, and no lookup begins after the deadline. -/
theorem Waits.of_mem (h : Waits poller source key start n time attempts finish outcome)
    (htime : time ≤ poller.deadlineFrom start) {attempt : Attempt} (hmem : attempt ∈ attempts) :
    attempt.key = key ∧ time ≤ attempt.start ∧ attempt.start ≤ poller.deadlineFrom start := by
  induction h with
  | found | timedOut =>
      obtain rfl := List.mem_singleton.mp hmem
      exact ⟨rfl, Nat.le_refl _, htime⟩
  | @again n time _ _ _ _ _ _ ih =>
      rcases List.mem_cons.mp hmem with rfl | hlater
      · exact ⟨rfl, Nat.le_refl _, htime⟩
      · obtain ⟨hkey, hstart, hdeadline⟩ := ih (Nat.min_le_right _ _) hlater
        have hending : time ≤ Attempt.ending ⟨time, key, source n key⟩
            (poller.deadlineFrom start) := Nat.le_add_right _ _
        exact ⟨hkey, by omega, hdeadline⟩

/-- A wait makes a lookup. -/
theorem Waits.ne_nil (h : Waits poller source key start n time attempts finish outcome) :
    attempts ≠ [] := by
  cases h with
  | found | timedOut | again => exact List.cons_ne_nil _ _

/-- The lookups of a wait are those of its source, one after the other. -/
theorem Waits.behaviors (h : Waits poller source key start n time attempts finish outcome) :
    attempts.map Attempt.behavior =
      (List.range' n attempts.length).map fun lookup => source lookup key := by
  induction h with
  | found | timedOut => rfl
  | again _ _ _ ih =>
      rw [List.map_cons, ih, List.length_cons, List.range'_succ, List.map_cons]

end Waits

/-- **How a wait ends**, in virtual time and with any source. It looks up its own message, again
and again, and begins no lookup after the deadline. It ends as soon as a lookup has found something
before it was cut off, with the attestation or with why it is none; the lookups before found
nothing in time. If there is no such lookup it ends at the deadline, which is as far from its
beginning as the poller says, and it says how many whole seconds that are. -/
theorem await_ends (poller : Poller) (hinterval : 0 < poller.intervalMillis) (key : MessageKey)
    (source : Source) (start : ℕ) :
    ∃ outcome finish attempts,
      (poller.await key).runFrom source ⟨start, []⟩ = (outcome, ⟨finish, attempts⟩) ∧
      attempts ≠ [] ∧
      attempts.map Attempt.behavior =
        (List.range attempts.length).map (fun lookup => source lookup key) ∧
      (∀ attempt ∈ attempts, attempt.key = key ∧ start ≤ attempt.start ∧
        attempt.start ≤ start + poller.deadlineMillis) ∧
      Ends poller key start attempts finish outcome := by
  have hlookups : poller.deadlineFrom start <
      start + pollLimit poller.intervalMillis poller.deadlineMillis := by
    rw [pollLimit_of_pos hinterval, deadlineFrom]
    omega
  have hdeadline : start ≤ poller.deadlineFrom start := Nat.le_add_right _ _
  obtain ⟨outcome, finish, attempts, hrun, hwaits⟩ :=
    @run_poll poller key source start hinterval _ ⟨start, []⟩ (Nat.le_refl start) hdeadline hlookups
  refine ⟨outcome, finish, attempts, ?_, ?_, ?_, ?_, ?_⟩
  · rw [await, Action.runFrom_now_bind]
    exact hrun
  · exact hwaits.ne_nil
  · rw [hwaits.behaviors, List.range_eq_range']
    rfl
  · intro attempt hmem
    exact hwaits.of_mem hdeadline hmem
  · exact hwaits.ends

/-- A source that fails after a while, then has nothing after another while, and then finds the
default attestation in 1.7 seconds. -/
def lateSource : Source
  | 0, _ => .answers 100 (.error (.rpc .undelivered))
  | 1, _ => .answers 200 (.ok .notFound)
  | _, _ => .answers 1700 (.ok (.found (default : Attestation).written))

/-- A lookup that finds the attestation at the deadline itself is in time. -/
theorem await_ends_atDeadline : 0 < (⟨5000, 12000⟩ : Poller).intervalMillis ∧
    ∃ attempts, (Poller.await ⟨5000, 12000⟩ ⟨1, Address.zero, 42⟩).runFrom lateSource ⟨7, []⟩ =
        (.ok default, ⟨12007, attempts⟩) ∧
      Ends ⟨5000, 12000⟩ ⟨1, Address.zero, 42⟩ 7 attempts 12007 (.ok default) := by
  refine ⟨by decide, ?_⟩
  obtain ⟨outcome, finish, attempts, hrun, -, -, -, hends⟩ :=
    await_ends ⟨5000, 12000⟩ (by decide) ⟨1, Address.zero, 42⟩ lateSource 7
  have hcomputed : ((Poller.await ⟨5000, 12000⟩ ⟨1, Address.zero, 42⟩).runFrom lateSource
        ⟨7, []⟩).1 = .ok default ∧
      ((Poller.await ⟨5000, 12000⟩ ⟨1, Address.zero, 42⟩).runFrom lateSource ⟨7, []⟩).2.now =
        12007 := by
    decide +kernel
  rw [hrun] at hcomputed
  obtain ⟨rfl, rfl⟩ := hcomputed
  exact ⟨attempts, hrun, hends⟩

end GuardianRelay.Poller
