import GuardianRelay.Program

/-!
# Runs of Programs

A program does not know what its questions will be answered. This module says what a program
can do, whatever the answers are: `Program.Runs p exchanges outcome` holds if `p`, asking the
questions and getting the answers of `exchanges` in their order, ends with `outcome`. A
property of all runs is a property under all surroundings, also under those that remember what
they were asked, change their mind or fail.

## Main results

* `Program.runs_bind_iff`, `Program.runs_attempt_bind_iff`: the runs of programs that are put
  together.
* `Program.Runs.append_unique`: the answers determine the questions and the outcome.
* `Program.Reaches.of_runs`: what is asked before a program comes to be another.
* `Program.Runs.run_eq`: a program that is answered from a memory as in one of its runs makes that
  run.
-/

namespace GuardianRelay

/-- A question with the answer that it got. -/
structure Exchange (I : Interface) where
  request : I.Request
  reply : I.Reply request

namespace Program

variable {I : Interface} {α β : Type}

/-- `p.Runs exchanges outcome`: asked and answered like this, `p` ends like this. -/
inductive Runs : Program I α → List (Exchange I) → Outcome α → Prop
  | done (value : α) : Runs (.done value) [] (.ok value)
  | fail (error : RelayError) : Runs (.fail error) [] (.error error)
  | ask {request : I.Request} {next : I.Reply request → Program I α}
      {reply : I.Reply request} {exchanges : List (Exchange I)} {outcome : Outcome α} :
      Runs (next reply) exchanges outcome →
      Runs (.ask request next) (⟨request, reply⟩ :: exchanges) outcome

variable {exchanges : List (Exchange I)}

/-- Throwing is failing. -/
@[simp] theorem throw_eq (error : RelayError) : (throw error : Program I α) = fail error := rfl

/-- What becomes of a program whose value is changed afterwards. -/
theorem attempt_map (f : α → β) (p : Program I α) :
    (f <$> p).attempt = Except.map f <$> p.attempt := by
  induction p with
  | done value | fail error => rfl
  | ask request next ih => exact congrArg (ask request) (funext ih)

/-! ### Inversion -/

/-- A program that is done asks nothing and has its value. -/
theorem runs_done_iff {value : α} {outcome : Outcome α} :
    (done value : Program I α).Runs exchanges outcome ↔
      exchanges = [] ∧ outcome = .ok value := by
  constructor
  · rintro ⟨⟩
    exact ⟨rfl, rfl⟩
  · rintro ⟨rfl, rfl⟩
    exact .done value

/-- A program that has failed asks nothing and has its error. -/
theorem runs_fail_iff {error : RelayError} {outcome : Outcome α} :
    (fail error : Program I α).Runs exchanges outcome ↔
      exchanges = [] ∧ outcome = .error error := by
  constructor
  · rintro ⟨⟩
    exact ⟨rfl, rfl⟩
  · rintro ⟨rfl, rfl⟩
    exact .fail error

/-- A program that asks gets some answer and goes on with it. -/
theorem runs_ask_iff {request : I.Request} {next : I.Reply request → Program I α}
    {outcome : Outcome α} :
    (ask request next).Runs exchanges outcome ↔
      ∃ reply later, exchanges = ⟨request, reply⟩ :: later ∧
        (next reply).Runs later outcome := by
  constructor
  · rintro (_ | _ | h)
    exact ⟨_, _, rfl, h⟩
  · rintro ⟨reply, later, rfl, h⟩
    exact .ask h

/-- An outcome, as a program, asks nothing. -/
theorem runs_ofOutcome_iff {result outcome : Outcome α} :
    (ofOutcome result : Program I α).Runs exchanges outcome ↔
      exchanges = [] ∧ outcome = result := by
  cases result with
  | ok value => exact runs_done_iff
  | error error => exact runs_fail_iff

/-- A question that is put first is answered before what comes after it. -/
theorem runs_request_bind_iff {r : I.Request} {f : I.Reply r → Program I α}
    {outcome : Outcome α} :
    (request r >>= f).Runs exchanges outcome ↔
      ∃ reply later, exchanges = ⟨r, reply⟩ :: later ∧ (f reply).Runs later outcome :=
  runs_ask_iff

/-! ### Programs that are put together -/

/-- A sequence runs as its first program and then, unless that failed, as its second. -/
theorem runs_bind_iff {p : Program I α} {f : α → Program I β} {outcome : Outcome β} :
    (p >>= f).Runs exchanges outcome ↔
      (∃ value first second, p.Runs first (.ok value) ∧ (f value).Runs second outcome ∧
        exchanges = first ++ second) ∨
      ∃ error, p.Runs exchanges (.error error) ∧ outcome = .error error := by
  induction p generalizing exchanges with
  | done value =>
      constructor
      · intro h
        exact .inl ⟨value, [], exchanges, .done value, h, rfl⟩
      · rintro (⟨_, _, _, ⟨⟩, h, rfl⟩ | ⟨_, ⟨⟩, _⟩)
        exact h
  | fail error =>
      constructor
      · rintro ⟨⟩
        exact .inr ⟨error, .fail error, rfl⟩
      · rintro (⟨_, _, _, ⟨⟩, _⟩ | ⟨_, ⟨⟩, rfl⟩)
        exact .fail error
  | ask request next ih =>
      simp only [bind_ask, runs_ask_iff, ih]
      constructor
      · rintro ⟨reply, later, rfl, hlater⟩
        obtain ⟨value, first, second, hp, hf, rfl⟩ | ⟨error, hp, rfl⟩ := hlater
        · exact .inl ⟨value, ⟨request, reply⟩ :: first, second, ⟨reply, first, rfl, hp⟩,
            hf, rfl⟩
        · exact .inr ⟨error, ⟨reply, later, rfl, hp⟩, rfl⟩
      · rintro (⟨value, _, second, ⟨reply, first, rfl, hp⟩, hf, rfl⟩ |
          ⟨error, ⟨reply, later, rfl, hp⟩, rfl⟩)
        · exact ⟨reply, first ++ second, rfl, .inl ⟨value, first, second, hp, hf, rfl⟩⟩
        · exact ⟨reply, later, rfl, .inr ⟨error, hp, rfl⟩⟩

/-- Going on with the value of an outcome, unless that is a failure. -/
theorem runs_ofOutcome_bind_iff {result : Outcome α} {f : α → Program I β}
    {outcome : Outcome β} :
    (ofOutcome result >>= f).Runs exchanges outcome ↔
      (∃ value, result = .ok value ∧ (f value).Runs exchanges outcome) ∨
      ∃ error, result = .error error ∧ exchanges = [] ∧ outcome = .error error := by
  cases result with
  | ok value => simp [ofOutcome]
  | error error => simp [ofOutcome, runs_fail_iff]

/-- What becomes of a program is had as a value, by the same questions. -/
theorem runs_attempt_iff {p : Program I α} {outcome : Outcome (Outcome α)} :
    p.attempt.Runs exchanges outcome ↔ ∃ result, p.Runs exchanges result ∧
      outcome = .ok result := by
  induction p generalizing exchanges with
  | done value => simp [attempt, runs_done_iff, and_assoc]
  | fail error => simp [attempt, runs_done_iff, runs_fail_iff, and_assoc]
  | ask request next ih =>
      simp only [attempt, runs_ask_iff, ih]
      constructor
      · rintro ⟨reply, later, rfl, result, hp, rfl⟩
        exact ⟨result, ⟨reply, later, rfl, hp⟩, rfl⟩
      · rintro ⟨result, ⟨reply, later, rfl, hp⟩, rfl⟩
        exact ⟨reply, later, rfl, result, hp, rfl⟩

/-- Going on with what became of a program, as a value, always goes on. -/
theorem runs_attempt_bind_iff {p : Program I α} {f : Outcome α → Program I β}
    {outcome : Outcome β} :
    (p.attempt >>= f).Runs exchanges outcome ↔
      ∃ result first second, p.Runs first result ∧ (f result).Runs second outcome ∧
        exchanges = first ++ second := by
  simp only [runs_bind_iff, runs_attempt_iff]
  constructor
  · rintro (⟨value, first, second, ⟨result, hp, hvalue⟩, hf, rfl⟩ |
      ⟨error, ⟨result, -, herror⟩, -⟩)
    · obtain rfl := Except.ok.inj hvalue
      exact ⟨value, first, second, hp, hf, rfl⟩
    · contradiction
  · rintro ⟨result, first, second, hp, hf, rfl⟩
    exact .inl ⟨result, first, second, ⟨result, hp, rfl⟩, hf, rfl⟩

/-- Making an outcome of what became of a program asks nothing more. -/
theorem runs_attempt_ofOutcome_iff {p : Program I α} {f : Outcome α → Outcome β}
    {outcome : Outcome β} :
    (p.attempt >>= fun result => ofOutcome (f result)).Runs exchanges outcome ↔
      ∃ result, p.Runs exchanges result ∧ outcome = f result := by
  simp only [runs_attempt_bind_iff, runs_ofOutcome_iff]
  constructor
  · rintro ⟨result, first, _, hp, ⟨rfl, rfl⟩, rfl⟩
    exact ⟨result, by rwa [List.append_nil], rfl⟩
  · rintro ⟨result, hp, rfl⟩
    exact ⟨result, exchanges, [], hp, ⟨rfl, rfl⟩, (List.append_nil _).symm⟩

/-! ### Equal answers -/

/-- A program that gets the same answers asks the same questions and ends in the same way; it
does not matter what comes afterwards. -/
theorem Runs.append_unique {p : Program I α} {first first' later later' : List (Exchange I)}
    {outcome outcome' : Outcome α} (h : p.Runs first outcome) (h' : p.Runs first' outcome')
    (heq : first ++ later = first' ++ later') :
    first = first' ∧ later = later' ∧ outcome = outcome' := by
  induction h generalizing first' with
  | done value =>
      obtain ⟨rfl, rfl⟩ := runs_done_iff.mp h'
      exact ⟨rfl, heq, rfl⟩
  | fail error =>
      obtain ⟨rfl, rfl⟩ := runs_fail_iff.mp h'
      exact ⟨rfl, heq, rfl⟩
  | ask _ ih =>
      obtain ⟨reply, rest, rfl, hrest⟩ := runs_ask_iff.mp h'
      obtain ⟨hhead, htail⟩ := List.cons.inj heq
      obtain rfl := eq_of_heq (Exchange.mk.inj hhead).2
      obtain ⟨rfl, hlater, houtcome⟩ := ih hrest htail
      exact ⟨rfl, hlater, houtcome⟩

/-- The answers determine the outcome. -/
theorem Runs.outcome_unique {p : Program I α} {outcome outcome' : Outcome α}
    (h : p.Runs exchanges outcome) (h' : p.Runs exchanges outcome') : outcome = outcome' :=
  (h.append_unique h' (show exchanges ++ [] = exchanges ++ [] from rfl)).2.2

/-! ### Runs that go on -/

/-- Asked and answered like this, a program has begun, and may go on. -/
def Begins (p : Program I α) (exchanges : List (Exchange I)) : Prop :=
  ∃ later outcome, p.Runs (exchanges ++ later) outcome

/-- What has ended has begun. -/
theorem Runs.begins {p : Program I α} {outcome : Outcome α} (h : p.Runs exchanges outcome) :
    p.Begins exchanges :=
  ⟨[], outcome, by rwa [List.append_nil]⟩

/-! ### What is left of a program -/

/-- Asked and answered like this, a program goes on as that one. -/
inductive Leads : Program I α → List (Exchange I) → Program I α → Prop
  | refl (p : Program I α) : Leads p [] p
  | ask {request : I.Request} {next : I.Reply request → Program I α} {reply : I.Reply request}
      {exchanges : List (Exchange I)} {q : Program I α} :
      Leads (next reply) exchanges q →
      Leads (.ask request next) (⟨request, reply⟩ :: exchanges) q

/-- A program runs on as what is left of it. -/
theorem Leads.runs_iff {p q : Program I α} {later : List (Exchange I)} {outcome : Outcome α}
    (h : p.Leads exchanges q) : p.Runs (exchanges ++ later) outcome ↔ q.Runs later outcome := by
  induction h with
  | refl => rfl
  | @ask request next reply exchanges q _ ih =>
      rw [List.cons_append, runs_ask_iff, ← ih]
      constructor
      · rintro ⟨other, rest, heq, hruns⟩
        obtain ⟨hhead, rfl⟩ := List.cons.inj heq
        obtain rfl := eq_of_heq (Exchange.mk.inj hhead).2
        exact hruns
      · intro hruns
        exact ⟨reply, _, rfl, hruns⟩

/-- A program that has failed does not come to ask. -/
theorem not_leads_fail_ask {error : RelayError} {request : I.Request}
    {next : I.Reply request → Program I α} :
    ¬ (fail error : Program I α).Leads exchanges (ask request next) := nofun

/-- A program goes on as it does after the first answer. -/
theorem leads_ask_cons_iff {request : I.Request} {next : I.Reply request → Program I α}
    {reply : I.Reply request} {q : Program I α} :
    (ask request next).Leads (⟨request, reply⟩ :: exchanges) q ↔
      (next reply).Leads exchanges q := by
  constructor
  · rintro (_ | h)
    exact h
  · exact .ask

/-! ### Failures on the way -/

/-- Told these things, in this order and as far as it asks, a program fails. -/
def FailsWithin (p : Program I α) (told : List (Exchange I)) (error : RelayError) : Prop :=
  ∃ asked, asked <+: told ∧ p.Runs asked (.error error)

/-- A program that has failed needs not be told anything. -/
theorem failsWithin_fail_iff {told : List (Exchange I)} {error error' : RelayError} :
    (fail error : Program I α).FailsWithin told error' ↔ error' = error := by
  constructor
  · rintro ⟨asked, -, hruns⟩
    exact Except.error.inj (runs_fail_iff.mp hruns).2
  · rintro rfl
    exact ⟨[], List.nil_prefix, .fail error'⟩

/-- A program that asks does not fail before it is told. -/
theorem not_failsWithin_ask_nil {request : I.Request} {next : I.Reply request → Program I α}
    {error : RelayError} : ¬ (ask request next).FailsWithin [] error := by
  rintro ⟨asked, hprefix, hruns⟩
  obtain ⟨reply, later, rfl, -⟩ := runs_ask_iff.mp hruns
  exact List.cons_ne_nil _ _ (List.prefix_nil.mp hprefix)

/-- A program fails within what it is told if it does after the first answer. -/
theorem failsWithin_ask_cons_iff {request : I.Request} {next : I.Reply request → Program I α}
    {reply : I.Reply request} {told : List (Exchange I)} {error : RelayError} :
    (ask request next).FailsWithin (⟨request, reply⟩ :: told) error ↔
      (next reply).FailsWithin told error := by
  constructor
  · rintro ⟨asked, hprefix, hruns⟩
    obtain ⟨other, later, rfl, hlater⟩ := runs_ask_iff.mp hruns
    obtain ⟨hhead, hrest⟩ := List.cons_prefix_cons.mp hprefix
    obtain rfl := eq_of_heq (Exchange.mk.inj hhead).2
    exact ⟨later, hrest, hlater⟩
  · rintro ⟨asked, hprefix, hruns⟩
    exact ⟨_ :: asked, List.cons_prefix_cons.mpr ⟨rfl, hprefix⟩, .ask hruns⟩

/-! ### Kinds of questions -/

/-- Under all answers, a program fails or comes to be one of some programs, and until then it asks
only questions of a kind. -/
inductive Reaches (kind : I.Request → Prop) (last : Program I α → Prop) : Program I α → Prop
  | self {p : Program I α} : last p → Reaches kind last p
  | fail (error : RelayError) : Reaches kind last (.fail error)
  | ask {request : I.Request} {next : I.Reply request → Program I α} :
      kind request →
      (∀ reply, Reaches kind last (next reply)) →
      Reaches kind last (.ask request next)

/-- Under all answers, a program asks only questions of a kind. -/
def Asks (kind : I.Request → Prop) (p : Program I α) : Prop :=
  p.Reaches kind fun q => ∃ value, q = .done value

section Reaches

variable {kind : I.Request → Prop} {last : Program I α → Prop}

/-- A program that is done asks nothing. -/
theorem Asks.done (value : α) : Asks kind (.done value : Program I α) := .self ⟨value, rfl⟩

/-- An outcome, as a program, asks nothing. -/
theorem Asks.ofOutcome (result : Outcome α) : Asks kind (ofOutcome result : Program I α) := by
  cases result with
  | ok value => exact .done value
  | error error => exact .fail error

/-- A question is of its kind. -/
theorem Asks.request {r : I.Request} {next : I.Reply r → Program I α} (hkind : kind r)
    (h : ∀ reply, Asks kind (next reply)) : Asks kind (.ask r next) :=
  .ask hkind h

/-- What is asked before a program comes up to it. -/
theorem Asks.reaches_bind {p : Program I β} {f : β → Program I α} (h : Asks kind p)
    (hf : ∀ value, (f value).Reaches kind last) : (p >>= f).Reaches kind last := by
  induction h with
  | self hdone =>
      obtain ⟨value, rfl⟩ := hdone
      exact hf value
  | fail error => exact .fail error
  | ask hkind _ ih => exact .ask hkind ih

/-- A sequence asks what its two programs ask. -/
theorem Asks.bind {p : Program I β} {f : β → Program I α} (h : Asks kind p)
    (hf : ∀ value, Asks kind (f value)) : Asks kind (p >>= f) :=
  h.reaches_bind hf

/-- A run fails before the program is one of the last ones, or it is split where it becomes one. -/
theorem Reaches.of_runs {p : Program I α} {outcome : Outcome α} (h : p.Reaches kind last)
    (hruns : p.Runs exchanges outcome) :
    (∃ error, outcome = .error error ∧ ∀ x ∈ exchanges, kind x.request) ∨
      ∃ before later q, exchanges = before ++ later ∧ (∀ x ∈ before, kind x.request) ∧
        last q ∧ p.Leads before q ∧ q.Runs later outcome := by
  induction h generalizing exchanges with
  | @self p hlast => exact .inr ⟨[], exchanges, p, rfl, nofun, hlast, .refl p, hruns⟩
  | fail error =>
      obtain ⟨rfl, rfl⟩ := runs_fail_iff.mp hruns
      exact .inl ⟨error, rfl, nofun⟩
  | ask hkind _ ih =>
      obtain ⟨reply, rest, rfl, hrest⟩ := runs_ask_iff.mp hruns
      obtain ⟨error, rfl, hasked⟩ | ⟨before, later, q, rfl, hasked, hlast, hleads, hq⟩ :=
        ih reply hrest
      · exact .inl ⟨error, rfl, List.forall_mem_cons.mpr ⟨hkind, hasked⟩⟩
      · exact .inr ⟨_ :: before, later, q, rfl, List.forall_mem_cons.mpr ⟨hkind, hasked⟩, hlast,
          .ask hleads, hq⟩

/-- What a program asks in a run is of its kind. -/
theorem Asks.of_runs {p : Program I α} {outcome : Outcome α} (h : Asks kind p)
    (hruns : p.Runs exchanges outcome) : ∀ x ∈ exchanges, kind x.request := by
  obtain ⟨_, -, hasked⟩ | ⟨before, later, _, rfl, hasked, ⟨value, rfl⟩, -, hdone⟩ :=
    Reaches.of_runs h hruns
  · exact hasked
  · obtain ⟨rfl, -⟩ := runs_done_iff.mp hdone
    rwa [List.append_nil]

end Reaches

/-! ### How programs end -/

/-- Under all answers, a program that has a value ends as one of some programs. -/
def EndsIn (p : Program I α) (last : Program I α → Prop) : Prop :=
  ∀ exchanges value, p.Runs exchanges (.ok value) →
    ∃ q later, last q ∧ later <:+ exchanges ∧ q.Runs later (.ok value)

variable {last : Program I α → Prop}

/-- A program ends as itself. -/
theorem EndsIn.self {p : Program I α} (h : last p) : p.EndsIn last :=
  fun exchanges _ hruns => ⟨p, exchanges, h, List.suffix_rfl, hruns⟩

/-- A program that has failed has no value. -/
theorem EndsIn.fail {error : RelayError} : (fail error : Program I α).EndsIn last :=
  fun _ _ hruns => nomatch hruns

/-- A sequence ends as its second program does. -/
theorem EndsIn.bind {p : Program I β} {f : β → Program I α} (h : ∀ value, (f value).EndsIn last) :
    (p >>= f).EndsIn last := by
  intro exchanges value hruns
  obtain ⟨first, earlier, rest, -, hrest, rfl⟩ | ⟨error, -, herror⟩ := runs_bind_iff.mp hruns
  · obtain ⟨q, later, hlast, hsuffix, hq⟩ := h first rest value hrest
    exact ⟨q, later, hlast, hsuffix.trans (List.suffix_append earlier rest), hq⟩
  · contradiction

/-! ### Surroundings with a memory -/

/-- The questions are answered like this from a memory, which is then like that. -/
def Answered {σ : Type} (answer : (r : I.Request) → StateM σ (I.Reply r)) :
    σ → List (Exchange I) → σ → Prop
  | memory, [], memory' => memory' = memory
  | memory, ⟨r, reply⟩ :: later, memory' =>
    (answer r memory).1 = reply ∧ Answered answer (answer r memory).2 later memory'

/-- If the questions of a run are answered from a memory as they are in the run, it is the run
that the program makes. -/
theorem Runs.run_eq {σ : Type} {answer : (r : I.Request) → StateM σ (I.Reply r)}
    {p : Program I α} {outcome : Outcome α} {memory memory' : σ} (h : p.Runs exchanges outcome)
    (hanswered : Answered answer memory exchanges memory') :
    (p.run answer).run memory = (outcome, memory') := by
  induction h generalizing memory with
  | done value | fail error =>
      obtain rfl := hanswered
      rfl
  | ask _ ih =>
      obtain ⟨rfl, hlater⟩ := hanswered
      exact ih hlater

end Program

end GuardianRelay
