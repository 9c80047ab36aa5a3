import GuardianRelay.Program

/-!
# Steps That Follow Each Other

Several parties meet on one state, and each of them changes it with what it does. A system of this
kind is given by what one step may be: from which state, with what happening, to which state. A run
of it is any sequence of such steps, in whatever order the parties take them.

What every step keeps, a run keeps, and what has happened in a run was one of its steps.

## Main results

* `Steps.keeps`: what a run keeps.
* `Steps.simulates`: what is matched step by step is matched as a whole.
* `Steps.exists_step_of_mem`: what has happened was a step.
-/

namespace GuardianRelay

variable {σ ε : Type}

/-- Steps that follow each other, and what happens in them. -/
inductive Steps (step : σ → ε → σ → Prop) : σ → List ε → σ → Prop
  | nil (state : σ) : Steps step state [] state
  | cons {start next finish : σ} {event : ε} {events : List ε} :
      step start event next →
      Steps step next events finish →
      Steps step start (event :: events) finish

namespace Steps

variable {step : σ → ε → σ → Prop} {start middle finish : σ} {event : ε} {events : List ε}

/-- Runs that follow each other. -/
theorem append {before after : List ε} (h : Steps step start before middle)
    (h' : Steps step middle after finish) : Steps step start (before ++ after) finish := by
  induction h with
  | nil => exact h'
  | cons hstep _ ih => exact .cons hstep (ih h')

/-- Runs that follow each other, where the first one ends. -/
theorem append_iff {before after : List ε} :
    Steps step start (before ++ after) finish ↔
      ∃ middle, Steps step start before middle ∧ Steps step middle after finish := by
  constructor
  · intro h
    induction before generalizing start with
    | nil => exact ⟨start, .nil start, h⟩
    | cons event before ih =>
        obtain _ | ⟨hfirst, hrest⟩ := h
        obtain ⟨middle, hbefore, hafter⟩ := ih hrest
        exact ⟨middle, .cons hfirst hbefore, hafter⟩
  · rintro ⟨middle, hbefore, hafter⟩
    exact hbefore.append hafter

/-- Steps that are made of smaller ones follow each other as those do. -/
theorem flatMap {ε' : Type} {larger : σ → ε' → σ → Prop} {whole : List ε'} (parts : ε' → List ε)
    (h : Steps larger start whole finish)
    (hparts : ∀ {state next event}, larger state event next →
      Steps step state (parts event) next) :
    Steps step start (whole.flatMap parts) finish := by
  induction h with
  | nil => exact .nil _
  | cons hfirst _ ih => exact (hparts hfirst).append ih

/-- What every step keeps is kept. -/
theorem keeps {P : σ → Prop} (h : Steps step start events finish)
    (hstep : ∀ {state next event}, step state event next → P state → P next) (hstart : P start) :
    P finish := by
  induction h with
  | nil => exact hstart
  | cons hfirst _ ih => exact ih (hstep hfirst hstart)

/-- What is true of all that happens is true in every step. -/
theorem restrict {p : ε → Prop} (h : Steps step start events finish)
    (hp : ∀ event ∈ events, p event) :
    Steps (fun state event next => p event ∧ step state event next) start events finish := by
  induction h with
  | nil => exact .nil _
  | cons hfirst _ ih =>
      obtain ⟨hevent, hrest⟩ := List.forall_mem_cons.mp hp
      exact .cons ⟨hevent, hfirst⟩ (ih hrest)

/-- Steps that are computed follow each other as far as there is something to happen. -/
theorem of_foldl (next : σ → ε → σ) (start : σ) (events : List ε) :
    Steps (fun state event later => later = next state event) start events
      (events.foldl next start) := by
  induction events generalizing start with
  | nil => exact .nil start
  | cons event later ih => exact .cons rfl (ih (next start event))

/-- Where every step is matched by one of another system, a run is matched by one in which the same
happens. -/
theorem simulates {τ : Type} {step' : τ → ε → τ → Prop} {R : σ → τ → Prop} {start' : τ}
    (h : Steps step start events finish)
    (hstep : ∀ {state next event state'}, step state event next → R state state' →
      ∃ next', step' state' event next' ∧ R next next')
    (hstart : R start start') :
    ∃ finish', Steps step' start' events finish' ∧ R finish finish' := by
  induction h generalizing start' with
  | nil => exact ⟨start', .nil start', hstart⟩
  | cons hfirst _ ih =>
      obtain ⟨next', hfirst', hnext⟩ := hstep hfirst hstart
      obtain ⟨finish', hrest', hfinish⟩ := ih hnext
      exact ⟨finish', .cons hfirst' hrest', hfinish⟩

/-- What has happened was one of the steps. -/
theorem exists_step_of_mem (h : Steps step start events finish) (hmem : event ∈ events) :
    ∃ state next later, step state event next ∧ Steps step next later finish := by
  induction h with
  | nil => nomatch hmem
  | cons hfirst hrest ih =>
      obtain rfl | hlater := List.mem_cons.mp hmem
      · exact ⟨_, _, _, hfirst, hrest⟩
      · exact ih hlater

end Steps

end GuardianRelay
