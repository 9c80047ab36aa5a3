import GuardianRelay.Proofs.Poller
import Mathlib.Algebra.Order.Floor.Div

/-!
# The Pace of a Wait

A wait does not count its lookups. It ends because time goes on: between two lookups it pauses, and
it never pauses beyond the deadline, at which there is one last lookup. This module counts what
comes of that, in virtual time and with any source: how often a wait looks up and how long it
pauses, and when its lookups are if they take no time themselves.

## Conventions

A time of `t` milliseconds is `t ⌈/⌉ i` intervals of `i` milliseconds, where a part of an interval
counts as one. A pause that the deadline cuts short is such a part.

## Main results

* `Waits.pausesFrom_eq`: a wait pauses after each of its lookups but the last.
* `Waits.length_le`: how often a wait looks up at most.
* `Waits.after_misses`: when the lookups are that take no time and find nothing.
* `await_paced`: how many lookups and which pauses a wait makes.
-/

namespace GuardianRelay.Poller

variable {poller : Poller} {key : MessageKey} {source : Source} {start : ℕ}

/-! ### Pauses -/

/-- A pause that was made: when it began, and how long it was. -/
structure Pause where
  start : ℕ
  millis : ℕ
deriving DecidableEq

/-- The pause that a question is, if it is one, at a time. -/
def Request.pauses (time : ℕ) : Request → List Pause
  | .sleep millis => [⟨time, millis⟩]
  | _ => []

/-- The pauses of an action that begins at a time, in their order. -/
def Action.pausesFrom {α : Type} : Action α → Source → Timeline → List Pause
  | .done _, _, _ => []
  | .fail _, _, _ => []
  | .ask request next, source, timeline =>
    let (reply, later) := inTime source request timeline
    request.pauses timeline.now ++ Action.pausesFrom (next reply) source later

namespace Action

variable {α : Type} {timeline : Timeline} {f : ℕ → Action α}

/-- What has ended makes no pause. -/
@[simp] theorem pausesFrom_ofOutcome (outcome : Outcome α) :
    Action.pausesFrom (Program.ofOutcome outcome) source timeline = [] := by
  cases outcome <;> rfl

/-- A failure makes no pause. -/
@[simp] theorem pausesFrom_throw (error : RelayError) :
    Action.pausesFrom (throw error : Action α) source timeline = [] := rfl

/-- To ask for the time is no pause. -/
@[simp] theorem pausesFrom_now_bind :
    Action.pausesFrom (now >>= f) source timeline = (f timeline.now).pausesFrom source timeline :=
  rfl

/-- A lookup is no pause. -/
@[simp] theorem pausesFrom_lookup_bind {budget : ℕ}
    {f : Option (Outcome LookupAnswer) → Action α} :
    Action.pausesFrom (lookup key budget >>= f) source timeline =
      (f ((timeline.attempt source key).behavior.reply budget)).pausesFrom source
        (timeline.made (timeline.attempt source key)
          ((timeline.attempt source key).behavior.duration budget)) := rfl

/-- A pause is made. -/
@[simp] theorem pausesFrom_sleep_bind {millis : ℕ} {f : Unit → Action α} :
    Action.pausesFrom (sleep millis >>= f) source timeline =
      ⟨timeline.now, millis⟩ :: (f ()).pausesFrom source (timeline.pause millis) := rfl

end Action

/-- The pause after a lookup: it begins when the lookup has ended, and it lasts for an interval, or
until the deadline if that is sooner. -/
def pauseAfter (poller : Poller) (start : ℕ) (attempt : Attempt) : Pause where
  start := attempt.ending (poller.deadlineFrom start)
  millis := min poller.intervalMillis
    (poller.deadlineFrom start - attempt.ending (poller.deadlineFrom start))

/-- A round of a wait pauses if nothing is found and there is time left. -/
theorem pausesFrom_poll_succ {lookups : ℕ} {timeline : Timeline} (hstart : start ≤ timeline.now)
    (hnow : timeline.now ≤ poller.deadlineFrom start) :
    let attempt := timeline.attempt source key
    let deadline := poller.deadlineFrom start
    let finish := attempt.ending deadline
    (poller.poll key start (lookups + 1)).pausesFrom source timeline =
      match foundBytes? (attempt.behavior.reply (deadline - attempt.start)) with
      | some _ => []
      | none =>
          if finish = deadline then []
          else poller.pauseAfter start attempt :: (poller.poll key start lookups).pausesFrom source
            ⟨min (finish + poller.intervalMillis) deadline, timeline.attempts ++ [attempt]⟩ := by
  intro attempt deadline finish
  have hdeadline : deadline = start + poller.deadlineMillis := rfl
  have hbudget : poller.deadlineMillis - (timeline.now - start) = deadline - timeline.now := by
    omega
  have hmade : timeline.made attempt (attempt.behavior.duration (deadline - timeline.now)) =
      ⟨finish, timeline.attempts ++ [attempt]⟩ := rfl
  have hfinish : finish ≤ deadline := Attempt.ending_le hnow
  have hlater : start ≤ finish := hstart.trans (Nat.le_add_right _ _)
  rw [poll_succ, Action.pausesFrom_now_bind, Action.pausesFrom_lookup_bind, hbudget, hmade]
  change Action.pausesFrom (match foundBytes? (attempt.behavior.reply (deadline - attempt.start))
    with | some b => _ | none => _) _ _ = _
  rcases foundBytes? (attempt.behavior.reply (deadline - attempt.start)) with _ | b
  · rw [Action.pausesFrom_now_bind]
    dsimp only
    by_cases hlate : finish = deadline
    · rw [if_pos hlate, if_pos (by omega), Action.pausesFrom_throw]
    · have hpause : min poller.intervalMillis (poller.deadlineMillis - (finish - start)) =
          min poller.intervalMillis (deadline - finish) := by omega
      have hafter : finish + min poller.intervalMillis (deadline - finish) =
          min (finish + poller.intervalMillis) deadline := by omega
      rw [if_neg hlate, if_neg (by omega), Action.pausesFrom_sleep_bind, hpause, ← hafter]
      rfl
  · exact Action.pausesFrom_ofOutcome _

section Waits

variable {n time finish : ℕ} {attempts : List Attempt} {outcome : Outcome Attestation}

/-- **The pauses of a wait.** A wait with lookups enough pauses after each of those that it makes,
but for the last. -/
theorem Waits.pausesFrom_eq {lookups : ℕ} {timeline : Timeline}
    (h : Waits poller source key start timeline.attempts.length timeline.now attempts finish
      outcome)
    (hinterval : 0 < poller.intervalMillis) (hstart : start ≤ timeline.now)
    (hnow : timeline.now ≤ poller.deadlineFrom start)
    (hlookups : poller.deadlineFrom start ≤ timeline.now + lookups) :
    (poller.poll key start (lookups + 1)).pausesFrom source timeline =
      attempts.dropLast.map (poller.pauseAfter start) := by
  generalize hn : timeline.attempts.length = n at h
  generalize htime : timeline.now = time at h
  induction h generalizing timeline lookups with
  | @found n time millis b hbehavior hintime =>
    subst hn htime
    have hfound : foundBytes? ((timeline.attempt source key).behavior.reply _) = some b :=
      (foundBytes?_reply_eq_some_iff hnow).mpr ⟨_, ⟨millis, hbehavior, rfl⟩, hintime⟩
    rw [pausesFrom_poll_succ hstart hnow, hfound]
    rfl
  | timedOut hmissed hlate =>
    subst hn htime
    have hfound : foundBytes? ((timeline.attempt source key).behavior.reply _) = none :=
      (foundBytes?_reply_eq_none_iff hnow).mpr hmissed
    rw [pausesFrom_poll_succ hstart hnow, hfound]
    exact if_pos hlate
  | again hmissed hearly hwaits ih =>
    subst hn htime
    have hfound : foundBytes? ((timeline.attempt source key).behavior.reply _) = none :=
      (foundBytes?_reply_eq_none_iff hnow).mpr hmissed
    have hlater : timeline.now ≤
        (timeline.attempt source key).ending (poller.deadlineFrom start) := Nat.le_add_right _ _
    change (timeline.attempt source key).ending (poller.deadlineFrom start) < _ at hearly
    -- there is time left, and a lookup for each millisecond of it, so there is another lookup
    obtain ⟨lookups, rfl⟩ := Nat.exists_eq_add_one_of_ne_zero (show lookups ≠ 0 by omega)
    rw [pausesFrom_poll_succ hstart hnow, hfound, List.dropLast_cons_of_ne_nil hwaits.ne_nil,
      List.map_cons]
    refine (if_neg hearly.ne).trans (congrArg _ (ih ?_ ?_ ?_ List.length_append rfl))
    all_goals
      dsimp only
      omega

/-! ### How many lookups there are -/

/-- An interval less, if there is time at all, is one less. -/
theorem ceilDiv_sub_add_one {interval millis : ℕ} (hinterval : 0 < interval)
    (hmillis : 0 < millis) : (millis - interval) ⌈/⌉ interval + 1 = millis ⌈/⌉ interval := by
  have hlast : millis + interval - 1 = millis - 1 + interval := by omega
  simp only [Nat.ceilDiv_eq_add_pred_div]
  rw [hlast, Nat.add_div_right _ hinterval, Nat.add_left_inj]
  rcases Nat.lt_or_ge millis interval with hpart | hwhole
  · rw [Nat.div_eq_of_lt (by omega), Nat.div_eq_of_lt (by omega)]
  · rw [Nat.sub_add_cancel hwhole]

/-- A wait looks up once for each interval that is left, and once more, at most. -/
theorem Waits.length_le (h : Waits poller source key start n time attempts finish outcome)
    (hinterval : 0 < poller.intervalMillis) :
    attempts.length ≤ (poller.deadlineFrom start - time) ⌈/⌉ poller.intervalMillis + 1 := by
  induction h with
  | found | timedOut => exact Nat.le_add_left 1 _
  | @again n time _ attempts _ _ hearly _ ih =>
    have hlater : time ≤ Attempt.ending ⟨time, key, source n key⟩ (poller.deadlineFrom start) :=
      Nat.le_add_right _ _
    -- a round takes an interval, unless it comes to the deadline
    have hless : poller.deadlineFrom start -
        min (Attempt.ending ⟨time, key, source n key⟩ (poller.deadlineFrom start) +
          poller.intervalMillis) (poller.deadlineFrom start) ≤
        poller.deadlineFrom start - time - poller.intervalMillis := by omega
    rw [List.length_cons, ← ceilDiv_sub_add_one hinterval (by omega)]
    exact Nat.add_le_add_right (ih.trans (Nat.add_le_add_right
      ((gc_smul_ceilDiv hinterval).monotone_l hless) 1)) 1

/-! ### How long the pauses are -/

/-- A pause after which there is another one lasts for an interval. -/
theorem Waits.millis_pauseAfter
    (h : Waits poller source key start n time attempts finish outcome) :
    ∀ attempt ∈ attempts.dropLast.dropLast,
      (poller.pauseAfter start attempt).millis = poller.intervalMillis := by
  induction h with
  | found | timedOut => nofun
  | again _ hearly hwaits ih =>
    cases hwaits with
    | found | timedOut => nofun
    | again _ hagain hlater =>
      obtain ⟨last, later, rfl⟩ := List.exists_cons_of_ne_nil hlater.ne_nil
      refine List.forall_mem_cons.mpr ⟨?_, ih⟩
      -- the next lookup ends before the deadline, so the pause that led to it was not cut short
      have hbefore := (Nat.le_add_right _ _).trans_lt hagain
      dsimp only [pauseAfter] at hbefore ⊢
      omega

/-- How a wait that began at `start` keeps its pace. -/
structure Paced (poller : Poller) (start : ℕ) (attempts : List Attempt) (pauses : List Pause) :
    Prop where
  /-- There is a lookup. -/
  one_le : 1 ≤ attempts.length
  /-- There is one lookup for each interval until the deadline, and one more, at most. -/
  length_le : attempts.length ≤ poller.deadlineMillis ⌈/⌉ poller.intervalMillis + 1
  /-- There is a pause between two lookups. -/
  between : pauses.length + 1 = attempts.length
  /-- Every pause but the last lasts for an interval. -/
  whole : ∀ pause ∈ pauses.dropLast, pause.millis = poller.intervalMillis
  /-- No pause lasts beyond the deadline. -/
  in_time : ∀ pause ∈ pauses, pause.start + pause.millis ≤ start + poller.deadlineMillis

/-- A wait keeps its pace. -/
theorem Waits.paced (h : Waits poller source key start 0 start attempts finish outcome)
    (hinterval : 0 < poller.intervalMillis) :
    Paced poller start attempts (attempts.dropLast.map (poller.pauseAfter start)) where
  one_le := List.length_pos_iff.mpr h.ne_nil
  length_le := by
    have hlength := h.length_le hinterval
    rwa [deadlineFrom, Nat.add_sub_cancel_left] at hlength
  between := by
    rw [List.length_map, List.length_dropLast]
    exact Nat.sub_add_cancel (List.length_pos_iff.mpr h.ne_nil)
  whole := by
    rw [← List.map_dropLast]
    exact List.forall_mem_map.mpr h.millis_pauseAfter
  in_time := by
    refine List.forall_mem_map.mpr fun attempt hmem => ?_
    obtain ⟨-, -, hbegun⟩ := h.of_mem (Nat.le_add_right _ _) (List.mem_of_mem_dropLast hmem)
    have hending := attempt.ending_le hbegun
    rw [deadlineFrom] at hending
    dsimp only [pauseAfter, deadlineFrom]
    omega

/-! ### Lookups that take no time -/

/-- A lookup that takes no time and finds nothing: there is nothing, or it fails. -/
def Behavior.MissesAtOnce (behavior : Behavior) : Prop :=
  ∃ answer, behavior = .answers 0 answer ∧ ∀ b, answer ≠ .ok (.found b)

/-- Such a lookup ends when it begins. -/
theorem Behavior.MissesAtOnce.ending_eq {attempt : Attempt} (h : attempt.behavior.MissesAtOnce)
    (deadline : ℕ) : attempt.ending deadline = attempt.start := by
  obtain ⟨answer, hbehavior, -⟩ := h
  rw [Attempt.ending, hbehavior, duration, Nat.zero_min, Nat.add_zero]

/-- Such a lookup does not find anything later either. -/
theorem Behavior.MissesAtOnce.ne_found {behavior : Behavior} {millis : ℕ} {b : Bytes}
    (h : behavior.MissesAtOnce) : behavior ≠ .answers millis (.ok (.found b)) := by
  rintro rfl
  obtain ⟨_, hanswer, hnothing⟩ := h
  cases hanswer
  exact hnothing b rfl

/-- When a lookup is made, by its number, if those before take no time. -/
def tick (poller : Poller) (start n : ℕ) : ℕ :=
  start + min (n * poller.intervalMillis) poller.deadlineMillis

/-- The lookup is made before the deadline if its number is less than there are intervals. -/
theorem lt_ceilDiv_iff (hinterval : 0 < poller.intervalMillis) :
    n < poller.deadlineMillis ⌈/⌉ poller.intervalMillis ↔
      n * poller.intervalMillis < poller.deadlineMillis := by
  rw [← not_le, ceilDiv_le_iff_le_mul hinterval, not_le, Nat.mul_comm]

/-- After a lookup before the deadline that takes no time and finds nothing, the next one is made in
its turn. -/
theorem Waits.after_miss
    (h : Waits poller source key start n (poller.tick start n) attempts finish outcome)
    (hmiss : (source n key).MissesAtOnce)
    (hn : n * poller.intervalMillis < poller.deadlineMillis) :
    ∃ later, attempts = ⟨poller.tick start n, key, source n key⟩ :: later ∧
      Waits poller source key start (n + 1) (poller.tick start (n + 1)) later finish outcome := by
  have hending : Attempt.ending ⟨poller.tick start n, key, source n key⟩
      (poller.deadlineFrom start) = poller.tick start n := hmiss.ending_eq _
  have htick : poller.tick start n < poller.deadlineFrom start := by
    rw [tick, deadlineFrom]
    omega
  have hnext : min (poller.tick start n + poller.intervalMillis) (poller.deadlineFrom start) =
      poller.tick start (n + 1) := by
    rw [tick, tick, deadlineFrom, Nat.succ_mul]
    omega
  cases h with
  | found hbehavior => exact absurd hbehavior hmiss.ne_found
  | timedOut _ hlate => exact absurd (hending.symm.trans hlate) htick.ne
  | again _ _ hwaits =>
    rw [hending, hnext] at hwaits
    exact ⟨_, rfl, hwaits⟩

/-- Lookups that take no time and find nothing are made in their turns, and the next one in its
turn, which is at the deadline at the latest. -/
theorem Waits.after_misses
    (h : Waits poller source key start 0 start attempts finish outcome)
    (hinterval : 0 < poller.intervalMillis) {misses : ℕ}
    (hcount : misses ≤ poller.deadlineMillis ⌈/⌉ poller.intervalMillis)
    (hmisses : ∀ k < misses, (source k key).MissesAtOnce) :
    ∃ earlier later, attempts = earlier ++ later ∧
      earlier.map Attempt.start = (List.range misses).map (poller.tick start) ∧
      Waits poller source key start misses (poller.tick start misses) later finish outcome := by
  induction misses with
  | zero =>
    refine ⟨[], attempts, rfl, rfl, ?_⟩
    rwa [tick, Nat.zero_mul, Nat.zero_min, Nat.add_zero]
  | succ misses ih =>
    obtain ⟨earlier, _, rfl, hearlier, hwaits⟩ := ih (Nat.le_of_succ_le hcount)
      fun k hk => hmisses k (hk.trans misses.lt_succ_self)
    obtain ⟨later, rfl, hlater⟩ := hwaits.after_miss (hmisses misses misses.lt_succ_self)
      ((lt_ceilDiv_iff hinterval).mp hcount)
    refine ⟨earlier ++ [⟨poller.tick start misses, key, source misses key⟩], later, by simp, ?_,
      hlater⟩
    rw [List.map_append, hearlier, List.range_succ, List.map_append]
    rfl

/-- If every lookup takes no time and finds nothing, there is one at the beginning of each interval
and one at the deadline. -/
theorem Waits.starts_eq_of_misses
    (h : Waits poller source key start 0 start attempts finish outcome)
    (hinterval : 0 < poller.intervalMillis) (hmisses : ∀ k, (source k key).MissesAtOnce) :
    attempts.map Attempt.start =
      (List.range (poller.deadlineMillis ⌈/⌉ poller.intervalMillis)).map
        (fun k => start + k * poller.intervalMillis) ++ [start + poller.deadlineMillis] := by
  obtain ⟨earlier, later, rfl, hearlier, hlater⟩ :=
    h.after_misses hinterval le_rfl fun k _ => hmisses k
  have hmiss := hmisses (poller.deadlineMillis ⌈/⌉ poller.intervalMillis)
  have htick : poller.tick start (poller.deadlineMillis ⌈/⌉ poller.intervalMillis) =
      poller.deadlineFrom start := by
    have hover := not_lt.mp (mt (lt_ceilDiv_iff hinterval).mpr (lt_irrefl _))
    rw [tick, deadlineFrom, Nat.min_eq_right hover]
  have hstarts : later.map Attempt.start = [start + poller.deadlineMillis] := by
    rw [htick] at hlater
    cases hlater with
    | found hbehavior => exact absurd hbehavior hmiss.ne_found
    | timedOut => rfl
    | again _ hearly => exact absurd (hmiss.ending_eq _) hearly.ne
  rw [List.map_append, hearlier, hstarts]
  refine congrArg (· ++ _) (List.map_congr_left fun k hk => ?_)
  have hbefore := (lt_ceilDiv_iff hinterval).mp (List.mem_range.mp hk)
  rw [tick, Nat.min_eq_left hbefore.le]

/-- A lookup that takes no time and finds something ends the wait when it is made. -/
theorem Waits.of_found_at_once {b : Bytes}
    (h : Waits poller source key start n time attempts finish outcome)
    (htime : time ≤ poller.deadlineFrom start)
    (hfound : source n key = .answers 0 (.ok (.found b))) :
    outcome = Outcome.ofParsed (Attestation.decode b) ∧ finish = time := by
  have hfinds : Attempt.FindsBy ⟨time, key, source n key⟩ (poller.deadlineFrom start) :=
    ⟨time, b, ⟨0, hfound, rfl⟩, htime⟩
  cases h with
  | found hbehavior =>
    rw [hfound] at hbehavior
    cases hbehavior
    exact ⟨rfl, rfl⟩
  | timedOut hmissed | again hmissed => exact absurd hfinds hmissed

end Waits

/-- A source that answers at once: first that there is nothing, so many times, and then with the
default attestation. -/
def promptSource (misses : ℕ) : Source := fun n _ =>
  .answers 0 (.ok (if n < misses then .notFound else .found (default : Attestation).written))

/-- It finds nothing at first. -/
theorem promptSource_missesAtOnce {misses n : ℕ} (h : n < misses) :
    (promptSource misses n key).MissesAtOnce := by
  rw [promptSource, if_pos h]
  exact ⟨_, rfl, nofun⟩

/-! ### What a wait makes -/

/-- **How many lookups and which pauses a wait makes**, in virtual time and with any source. It
comes to its end, and until then it looks up once, or more often, but not more than once for each
interval until the deadline and once more. Every pause lasts for an interval, but for the last,
which may be cut short, and none lasts beyond the deadline. If every lookup takes no time and finds
nothing, the lookups are made at the beginning of each interval, as long as that is before the
deadline, and then at the deadline. If that is so of the first ones only, and the next one takes no
time either and finds something, the wait ends in its turn, with what was found. -/
theorem await_paced (poller : Poller) (hinterval : 0 < poller.intervalMillis) (key : MessageKey)
    (source : Source) (start : ℕ) :
    ∃ outcome finish attempts,
      (poller.await key).runFrom source ⟨start, []⟩ = (outcome, ⟨finish, attempts⟩) ∧
      Ends poller key start attempts finish outcome ∧
      Paced poller start attempts ((poller.await key).pausesFrom source ⟨start, []⟩) ∧
      (∀ k, k < poller.deadlineMillis ⌈/⌉ poller.intervalMillis ↔
        k * poller.intervalMillis < poller.deadlineMillis) ∧
      ((∀ k, (source k key).MissesAtOnce) →
        attempts.map Attempt.start =
          (List.range (poller.deadlineMillis ⌈/⌉ poller.intervalMillis)).map
            (fun k => start + k * poller.intervalMillis) ++ [start + poller.deadlineMillis]) ∧
      ∀ misses b, misses ≤ poller.deadlineMillis ⌈/⌉ poller.intervalMillis →
        (∀ k < misses, (source k key).MissesAtOnce) →
        source misses key = .answers 0 (.ok (.found b)) →
        outcome = Outcome.ofParsed (Attestation.decode b) ∧
          finish = start + min (misses * poller.intervalMillis) poller.deadlineMillis := by
  have hdeadline : start ≤ poller.deadlineFrom start := Nat.le_add_right _ _
  have hlimit := pollLimit_of_pos hinterval poller.deadlineMillis
  obtain ⟨outcome, finish, attempts, hrun, hwaits⟩ :=
    @run_poll poller key source start hinterval (poller.deadlineMillis + 1) ⟨start, []⟩
      (Nat.le_refl start) hdeadline (Nat.lt_succ_self _)
  have hpauses : (poller.await key).pausesFrom source ⟨start, []⟩ =
      attempts.dropLast.map (poller.pauseAfter start) := by
    rw [await, Action.pausesFrom_now_bind, hlimit]
    exact hwaits.pausesFrom_eq hinterval (Nat.le_refl start) hdeadline (Nat.le_refl _)
  refine ⟨outcome, finish, attempts, ?_, hwaits.ends, ?_, fun k => lt_ceilDiv_iff hinterval,
    hwaits.starts_eq_of_misses hinterval, fun misses b hcount hmisses hfound => ?_⟩
  · rw [await, Action.runFrom_now_bind, hlimit]
    exact hrun
  · rw [hpauses]
    exact hwaits.paced hinterval
  · obtain ⟨_, later, -, -, hlater⟩ := hwaits.after_misses hinterval hcount hmisses
    exact hlater.of_found_at_once (Nat.add_le_add_left (Nat.min_le_right _ _) start) hfound

/-- With an interval of five seconds and twelve seconds of time, two lookups that find nothing are
followed by one after ten seconds, and three by one at the deadline. -/
theorem await_paced_prompt : 0 < (⟨5000, 12000⟩ : Poller).intervalMillis ∧
    ∀ misses time, (misses, time) ∈ [(2, 10007), (3, 12007)] → ∃ attempts,
      (Poller.await ⟨5000, 12000⟩ ⟨1, Address.zero, 42⟩).runFrom (promptSource misses) ⟨7, []⟩ =
        (Outcome.ofParsed (Attestation.decode (default : Attestation).written),
          ⟨time, attempts⟩) := by
  refine ⟨by decide, fun misses time hmem => ?_⟩
  obtain ⟨outcome, finish, attempts, hrun, -, -, -, -, hends⟩ :=
    await_paced ⟨5000, 12000⟩ (by decide) ⟨1, Address.zero, 42⟩ (promptSource misses) 7
  have hfound : promptSource misses misses ⟨1, Address.zero, 42⟩ =
      .answers 0 (.ok (.found (default : Attestation).written)) := by
    rw [promptSource, if_neg (lt_irrefl misses)]
  have hcount : misses ≤ 12000 ⌈/⌉ 5000 ∧ 7 + min (misses * 5000) 12000 = time := by
    simp only [List.mem_cons, Prod.mk.injEq, List.not_mem_nil, or_false] at hmem
    obtain ⟨rfl, rfl⟩ | ⟨rfl, rfl⟩ := hmem <;> decide
  obtain ⟨rfl, rfl⟩ :=
    hends misses _ hcount.1 (fun k hk => promptSource_missesAtOnce hk) hfound
  exact ⟨attempts, hcount.2 ▸ hrun⟩

end GuardianRelay.Poller
