import GuardianRelay.Error
import GuardianRelay.Polling
import Mathlib.Algebra.Order.Floor.Div

/-!
# Polls on a Schedule

Whoever waits for a confirmation asks at once and then after every interval, in virtual time, where
only the pauses last. An answer may decide the wait. If none does, the wait ends at the first poll
for which the time is over, and as a poll comes before the look at the clock, there is always one.

The waits of both kinds of chains are loops of this kind, each with its own answers. What a round
does has to be shown for each of them; what the rounds come to is shown here, once.

## Conventions

A timeout of `t` milliseconds is `t ⌈/⌉ i` intervals of `i` milliseconds, where a part of an
interval counts as one. Polls are numbered from zero.

## Main results

* `Schedule.last_le_iff`: which poll is the last one.
* `Schedule.exists_ends`: a loop ends on a schedule if its rounds are those of the schedule.
-/

namespace GuardianRelay

/-! ### Time -/

/-- What time it is, and when questions were asked until now. -/
structure Progress where
  now : ℕ
  asked : List ℕ

namespace Progress

/-- A question. -/
def ask (progress : Progress) : Progress :=
  { progress with asked := progress.asked ++ [progress.now] }

/-- A pause. -/
def pause (progress : Progress) (millis : ℕ) : Progress :=
  { progress with now := progress.now + millis }

/-- A question more was asked. -/
theorem length_asked_ask (progress : Progress) :
    progress.ask.asked.length = progress.asked.length + 1 := List.length_append

end Progress

/-! ### Schedules -/

/-- When a wait polls: at its start and after each interval, until its time is over. -/
structure Schedule where
  start : ℕ
  intervalMillis : ℕ
  timeoutMillis : ℕ

namespace Schedule

variable {schedule : Schedule} {n : ℕ}

/-- When a poll is made, by its number. -/
def time (schedule : Schedule) (n : ℕ) : ℕ := schedule.start + n * schedule.intervalMillis

/-- When so many polls are made. -/
def times (schedule : Schedule) (count : ℕ) : List ℕ := (List.range count).map schedule.time

/-- The number of the last poll, if none is decisive before. -/
def last (schedule : Schedule) : ℕ := schedule.timeoutMillis ⌈/⌉ schedule.intervalMillis

/-- The last poll is the first one for which the time is over. -/
theorem last_le_iff (hinterval : 0 < schedule.intervalMillis) :
    schedule.last ≤ n ↔ schedule.timeoutMillis ≤ n * schedule.intervalMillis := by
  rw [last, ceilDiv_le_iff_le_mul hinterval, Nat.mul_comm]

/-- The limit of a wait that pauses is not reached by its last poll. -/
theorem last_lt_pollLimit (hinterval : 0 < schedule.intervalMillis) :
    schedule.last < pollLimit schedule.intervalMillis schedule.timeoutMillis := by
  rw [pollLimit_of_pos hinterval, Nat.lt_succ_iff, last_le_iff hinterval]
  exact Nat.le_mul_of_pos_right _ hinterval

/-- How things stand before a poll, if some questions were asked before the wait. -/
def before (schedule : Schedule) (earlier : List ℕ) (n : ℕ) : Progress :=
  ⟨schedule.time n, earlier ++ schedule.times n⟩

section Before

variable {earlier : List ℕ}

/-- The wait begins at its start. -/
theorem before_zero : schedule.before earlier 0 = ⟨schedule.start, earlier⟩ := by
  rw [before, time, Nat.zero_mul, Nat.add_zero, times, List.range_zero, List.map_nil,
    List.append_nil]

/-- A poll is made in its turn. -/
theorem ask_before :
    (schedule.before earlier n).ask =
      ⟨schedule.time n, earlier ++ schedule.times (n + 1)⟩ := by
  rw [times, List.range_succ, List.map_append, ← List.append_assoc]
  rfl

/-- The next poll is made after an interval. -/
theorem pause_before :
    (schedule.before earlier n).ask.pause schedule.intervalMillis =
      schedule.before earlier (n + 1) := by
  rw [ask_before, before, time, time, Nat.succ_mul, ← Nat.add_assoc]
  rfl

/-- A poll comes after those before it. -/
theorem length_asked_before :
    (schedule.before earlier n).asked.length = earlier.length + n := by
  rw [before, times, List.length_append, List.length_map, List.length_range]

end Before

/-! ### How a wait ends -/

variable {α : Type} {verdict? : ℕ → Option (Outcome α)} {late : RelayError}

/-- How a wait ends on a schedule, if some of its polls are decisive: with the poll of a number, and
with an outcome. -/
inductive Ends (schedule : Schedule) (verdict? : ℕ → Option (Outcome α)) (late : RelayError) :
    ℕ → Outcome α → Prop
  /-- The poll is the first that is decisive, and in time. -/
  | decided {n : ℕ} {outcome : Outcome α} :
      n ≤ schedule.last →
      (∀ k < n, verdict? k = none) →
      verdict? n = some outcome →
      Ends schedule verdict? late n outcome
  /-- No poll is decisive until the time is over. -/
  | late :
      (∀ k ≤ schedule.last, verdict? k = none) →
      Ends schedule verdict? late schedule.last (.error late)

/-- A value is the verdict of the poll that ends the wait. -/
theorem Ends.verdict_of_ok {a : α} (h : schedule.Ends verdict? late n (.ok a)) :
    verdict? n = some (.ok a) := by
  cases h with
  | decided _ _ hverdict => exact hverdict

/-- The first decisive poll ends the wait, if it is in time. -/
theorem Ends.eq_of_decided {m : ℕ} {outcome first : Outcome α}
    (h : schedule.Ends verdict? late n outcome) (hm : m ≤ schedule.last)
    (hundecided : ∀ k < m, verdict? k = none) (hfirst : verdict? m = some first) :
    n = m ∧ outcome = first := by
  cases h with
  | decided hn hearlier hverdict =>
      obtain hlt | rfl | hgt := Nat.lt_trichotomy n m
      · rw [hundecided n hlt] at hverdict
        contradiction
      · rw [hfirst] at hverdict
        exact ⟨rfl, (Option.some.inj hverdict).symm⟩
      · rw [hearlier m hgt] at hfirst
        contradiction
  | late hnone =>
      rw [hnone m hm] at hfirst
      contradiction

/-- If no poll is decisive, the last one ends the wait. -/
theorem Ends.eq_of_undecided {outcome : Outcome α} (h : schedule.Ends verdict? late n outcome)
    (hundecided : ∀ k ≤ schedule.last, verdict? k = none) :
    n = schedule.last ∧ outcome = .error late := by
  cases h with
  | decided hn _ hverdict =>
      rw [hundecided n hn] at hverdict
      contradiction
  | late => exact ⟨rfl, rfl⟩

/-- What a round of a wait comes to, with the verdict of its poll: it ends with this verdict, or
because the time is over, or the wait goes on after a pause, and `next` is what becomes of it. -/
def round (schedule : Schedule) (late : RelayError) (progress : Progress)
    (next : Progress → Outcome α × Progress) : Option (Outcome α) → Outcome α × Progress
  | some outcome => (outcome, progress.ask)
  | none =>
      if schedule.timeoutMillis ≤ progress.now - schedule.start then (.error late, progress.ask)
      else next (progress.ask.pause schedule.intervalMillis)

/-- **A loop ends on its schedule** if its rounds are those of the schedule, of which the loop is
given the number that it may still make. -/
theorem exists_ends (verdict? : ℕ → Option (Outcome α))
    (rounds : ℕ → Progress → Outcome α × Progress) (hinterval : 0 < schedule.intervalMillis)
    (hround : ∀ fuel progress, rounds (fuel + 1) progress =
      schedule.round late progress (rounds fuel) (verdict? progress.asked.length))
    {fuel : ℕ} (hfuel : schedule.last < fuel) (earlier : List ℕ) :
    ∃ n outcome,
      rounds fuel ⟨schedule.start, earlier⟩ =
        (outcome, ⟨schedule.time n, earlier ++ schedule.times (n + 1)⟩) ∧
      schedule.Ends (fun k => verdict? (earlier.length + k)) late n outcome := by
  -- No poll before the next one was decisive or the last, and there is a round for each one left.
  suffices h : ∀ n, n ≤ schedule.last → schedule.last < n + fuel →
      (∀ k < n, verdict? (earlier.length + k) = none) →
      ∃ m outcome,
        rounds fuel (schedule.before earlier n) =
          (outcome, ⟨schedule.time m, earlier ++ schedule.times (m + 1)⟩) ∧
        schedule.Ends (fun k => verdict? (earlier.length + k)) late m outcome by
    rw [← before_zero]
    exact h 0 (Nat.zero_le _) (by omega) nofun
  clear hfuel
  induction fuel with
  | zero =>
      intro n hn hfuel
      omega
  | succ fuel ih =>
      intro n hn hfuel hundecided
      have helapsed : (schedule.before earlier n).now - schedule.start =
          n * schedule.intervalMillis := Nat.add_sub_cancel_left _ _
      rw [hround, length_asked_before]
      cases hverdict : verdict? (earlier.length + n) with
      | some outcome =>
          exact ⟨n, outcome, congrArg _ ask_before, .decided hn hundecided hverdict⟩
      | none =>
          have hupTo : ∀ k < n + 1, verdict? (earlier.length + k) = none := fun k hk =>
            (Nat.lt_succ_iff_lt_or_eq.mp hk).elim (hundecided k) fun heq => heq ▸ hverdict
          rw [round, helapsed, pause_before]
          split
          next hover =>
            obtain rfl : n = schedule.last := hn.antisymm ((last_le_iff hinterval).mpr hover)
            exact ⟨_, _, congrArg _ ask_before,
              .late fun k hk => hupTo k (Nat.lt_succ_of_le hk)⟩
          next hearly =>
            rw [← last_le_iff hinterval] at hearly
            exact ih (n + 1) (by omega) (by omega) hupTo

end Schedule

end GuardianRelay
