import GuardianRelay.Proofs.Steps
import Mathlib.Data.List.Basic

/-!
# What a History Tells Last

Where later entries of a history count in the place of earlier ones, what holds at its end is what
the last entry that tells something tells. This module has that reading of a history, and the one
induction that it is for: a map that is written step by step, each step writing what its event tells
and nothing else, ends as what its events told last.

## Main results

* `latest?_eq_some_iff`, `latest?_eq_none_iff`: what was told last, and when nothing was told.
* `Steps.holds`: what is held after a run.
-/

namespace GuardianRelay

variable {α β : Type} {tells : α → Option β}

/-- What the last entry of a history tells that tells something. -/
def latest? (tells : α → Option β) (history : List α) : Option β := history.reverse.findSome? tells

@[simp] theorem latest?_nil : latest? tells [] = none := rfl

/-- The later of two histories counts first. -/
theorem latest?_append (before after : List α) :
    latest? tells (before ++ after) = (latest? tells after).or (latest? tells before) := by
  rw [latest?, List.reverse_append, List.findSome?_append]
  rfl

@[simp] theorem latest?_singleton (entry : α) : latest? tells [entry] = tells entry := by
  simp [latest?]

/-- The first entry counts last. -/
theorem latest?_cons (entry : α) (history : List α) :
    latest? tells (entry :: history) = (latest? tells history).or (tells entry) := by
  rw [← List.singleton_append, latest?_append, latest?_singleton]

/-- **What was told last**: an entry tells it, and none after that entry tells anything. -/
theorem latest?_eq_some_iff {history : List α} {value : β} :
    latest? tells history = some value ↔
      ∃ before entry after, history = before ++ entry :: after ∧ tells entry = some value ∧
        ∀ later ∈ after, tells later = none := by
  rw [latest?, List.findSome?_eq_some_iff]
  constructor
  · rintro ⟨after, entry, before, hhistory, hentry, hafter⟩
    refine ⟨before.reverse, entry, after.reverse, ?_, hentry, ?_⟩
    · rw [← List.reverse_reverse history, hhistory]
      simp
    · intro later hlater
      exact hafter later (List.mem_reverse.mp hlater)
  · rintro ⟨before, entry, after, rfl, hentry, hafter⟩
    refine ⟨after.reverse, entry, before.reverse, by simp, hentry, ?_⟩
    intro later hlater
    exact hafter later (List.mem_reverse.mp hlater)

/-- Nothing was told if no entry tells anything. -/
theorem latest?_eq_none_iff {history : List α} :
    latest? tells history = none ↔ ∀ entry ∈ history, tells entry = none := by
  simp [latest?, List.findSome?_eq_none_iff]

/-- Where one value only is ever told, and told at least once, it is what was told last. -/
theorem latest?_eq_some_of_forall {history : List α} {value : β}
    (hall : ∀ entry ∈ history, ∀ told, tells entry = some told → told = value)
    (hsome : ∃ entry ∈ history, (tells entry).isSome) : latest? tells history = some value := by
  cases htold : latest? tells history with
  | none =>
      obtain ⟨entry, hentry, hsome⟩ := hsome
      rw [latest?_eq_none_iff.mp htold entry hentry] at hsome
      contradiction
  | some told =>
      obtain ⟨before, entry, after, rfl, hentry, -⟩ := latest?_eq_some_iff.mp htold
      rw [hall entry (List.mem_append_right before List.mem_cons_self) told hentry]

/-! ### Maps that are written in steps -/

/-- **What is held after a run.** A state holds a map from keys to values. If every step makes it
hold what its event tells, and leaves it where the event tells nothing, then a run makes it hold
what its events told last, and leaves it where they told nothing. -/
theorem Steps.holds {σ ε κ : Type} {step : σ → ε → σ → Prop} {start finish : σ} {events : List ε}
    {held : κ → Option β} (Holds : σ → (κ → Option β) → Prop) (tells : κ → ε → Option β)
    (h : Steps step start events finish)
    (hstep : ∀ {state event next held}, event ∈ events → step state event next →
      Holds state held → Holds next fun key => (tells key event).or (held key))
    (hstart : Holds start held) :
    Holds finish fun key => (latest? (tells key) events).or (held key) := by
  induction h generalizing held with
  | nil => exact hstart
  | @cons start next finish event events hfirst _ ih =>
      have hnext := ih (fun hmem => hstep (List.mem_cons_of_mem _ hmem))
        (hstep List.mem_cons_self hfirst hstart)
      simp only [latest?_cons, Option.or_assoc]
      exact hnext

end GuardianRelay
