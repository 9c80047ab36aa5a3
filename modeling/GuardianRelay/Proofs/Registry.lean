import GuardianRelay.Proofs.Endpoint
import GuardianRelay.Proofs.Latest
import GuardianRelay.Proofs.Registration
import Mathlib.Data.Set.Basic

/-!
# Registries of Endpoints

A chain holds the endpoints that are registered on it, one for each other chain. An endpoint writes
this map with transactions and reads it with questions, and the two ways have nothing in common but
the chain. This module says what they have to do together, for any kind of chain
(`Registering.Keeps`), and reduces it to what has to be known of one step, of one question and of
one transaction (`Registering.Lawful`).

What happens is taken down as it happens: what an endpoint asks and is answered, and which
transactions land, in their order. A transaction lands once it is handed in, or later, or never. An
endpoint that waits for it may give up before, so an attempt to register may fail and yet leave its
transaction behind, which lands while another attempt is made. What is held in the end is therefore
what landed last. It is also what was registered last with success, if no transaction lands of an
attempt that failed, and none after its attempt is over (`Registering.Settles`).

## Main results

* `Registering.Lawful.holds_of_steps`: what is held after any events.
* `Registering.Lawful.ends`: what an attempt comes to.
* `Registering.Lawful.holds_of_settles`: what is held after an attempt of which nothing is left.
* `Registering.Lawful.keeps`: the whole of it.
-/

namespace GuardianRelay

/-! ### What happens -/

/-- What happens while endpoints are registered on a chain. -/
inductive ChainEvent (I : Interface) where
  /-- The endpoint asks something and is answered. -/
  | asked (exchange : Exchange I)
  /-- A transaction lands, under its name. -/
  | landed (tx : TxId) (signed : SignedTransaction)

/-- What is asked in an event. -/
def ChainEvent.asked? {I : Interface} : ChainEvent I → Option (Exchange I)
  | .asked exchange => some exchange
  | .landed .. => none

/-- What is asked in events, in its order. -/
def askedIn {I : Interface} (events : List (ChainEvent I)) : List (Exchange I) :=
  events.filterMap ChainEvent.asked?

theorem askedIn_append {I : Interface} (before after : List (ChainEvent I)) :
    askedIn (before ++ after) = askedIn before ++ askedIn after := List.filterMap_append

/-- Of events that are all asked, everything is. -/
theorem askedIn_map_asked {I : Interface} (exchanges : List (Exchange I)) :
    askedIn (exchanges.map .asked) = exchanges := by
  rw [askedIn, List.filterMap_map]
  exact List.filterMap_some

/-- An attempt to register an endpoint: of which chain, under which address, what happens from its
beginning to that of the next attempt, and how it ends. -/
structure Attempt (I : Interface) where
  foreign : ChainId
  address : Address
  events : List (ChainEvent I)
  outcome : Outcome Registration

/-- What an attempt asks. -/
def Attempt.asked {I : Interface} (attempt : Attempt I) : List (Exchange I) :=
  askedIn attempt.events

/-- The address that an attempt has registered for a chain, if it succeeded. -/
def Attempt.registered? {I : Interface} (foreign : ChainId) (attempt : Attempt I) :
    Option Address :=
  if attempt.foreign = foreign ∧ attempt.outcome.isOk then some attempt.address else none

/-- An endpoint that registers others, and the chain on which it does. -/
structure Registering (I : Interface) (σ : Type) where
  /-- The chain of the endpoint. -/
  chain : ChainId
  /-- Registers an address for a chain. -/
  register : ChainId → Address → Program I Registration
  /-- Reads the address that is registered for a chain. -/
  registered : ChainId → Program I (Option Address)
  /-- The transaction that an exchange hands in. -/
  submission? : Exchange I → Option SignedTransaction
  /-- The failure that the node answered in an exchange. -/
  failure? : Exchange I → Option RelayError
  /-- The transaction that lands in an event. -/
  landing? : ChainEvent I → Option SignedTransaction
  /-- The address that a transaction registers, and for which chain. -/
  carried? : SignedTransaction → Option (ChainId × Address)
  /-- What the chain does in an event. -/
  Step : σ → ChainEvent I → σ → Prop
  /-- The chain while nothing is registered on it. -/
  empty : σ

namespace Registering

variable {I : Interface} {σ : Type} {m : Registering I σ} {state next : σ}
  {events : List (ChainEvent I)} {attempt : Attempt I} {attempts : List (Attempt I)}
  {foreign : ChainId} {address : Address} {chains : Set ChainId}

/-- The transactions that exchanges hand in, in their order. -/
def submissions (m : Registering I σ) (exchanges : List (Exchange I)) : List SignedTransaction :=
  exchanges.filterMap m.submission?

/-- The failures that the node answered, in their order. -/
def failures (m : Registering I σ) (exchanges : List (Exchange I)) : List RelayError :=
  exchanges.filterMap m.failure?

/-- The transactions that land, in their order. -/
def landings (m : Registering I σ) (events : List (ChainEvent I)) : List SignedTransaction :=
  events.filterMap m.landing?

/-- The address that lands for a chain in an event. -/
def landed? (m : Registering I σ) (foreign : ChainId) (event : ChainEvent I) : Option Address :=
  ((m.landing? event).bind m.carried?).bind fun (chain, address) =>
    if chain = foreign then some address else none

/-- An attempt is made on a chain in a state, and leaves the chain in another one. -/
structure Makes (m : Registering I σ) (state : σ) (attempt : Attempt I) (next : σ) : Prop where
  runs : (m.register attempt.foreign attempt.address).Runs attempt.asked attempt.outcome
  steps : Steps m.Step state attempt.events next

/-- What lands during an attempt was handed in by it before. -/
def LandsOwn (m : Registering I σ) (attempt : Attempt I) : Prop :=
  ∀ before event after signed, attempt.events = before ++ event :: after →
    m.landing? event = some signed → signed ∈ m.submissions (askedIn (before ++ [event]))

/-- Nothing is left of an attempt when it is over: what lands during it was handed in by it, and if
it fails, nothing lands. -/
structure Settles (m : Registering I σ) (attempt : Attempt I) : Prop where
  own : m.LandsOwn attempt
  succeeds : m.landings attempt.events ≠ [] → attempt.outcome.isOk

/-- Attempts are made one after the other, beginning while nothing is registered. They are about
some chains, and what lands was handed in by one of them. -/
structure History (m : Registering I σ) (chains : Set ChainId) (attempts : List (Attempt I))
    (state : σ) : Prop where
  steps : Steps m.Makes m.empty attempts state
  foreign_mem : ∀ attempt ∈ attempts, attempt.foreign ∈ chains
  handedIn : ∀ attempt ∈ attempts, ∀ signed ∈ m.landings attempt.events,
    ∃ other ∈ attempts, signed ∈ m.submissions other.asked

/-- What the endpoint reads for a chain in a state of its chain. Reading changes nothing; it gives
this value unless the node fails, and it can give it. -/
structure Reads (m : Registering I σ) (state : σ) (foreign : ChainId) (held : Option Address) :
    Prop where
  ends : ∀ {exchanges outcome next}, (m.registered foreign).Runs exchanges outcome →
    Steps m.Step state (exchanges.map .asked) next →
    next = state ∧ (outcome = .ok held ∨ ∃ error ∈ m.failures exchanges, outcome = .error error)
  answers : ∃ exchanges, (m.registered foreign).Runs exchanges (.ok held) ∧
    Steps m.Step state (exchanges.map .asked) state

/-- What an endpoint reads is one value. -/
theorem Reads.unique {held held' : Option Address} (h : m.Reads state foreign held)
    (h' : m.Reads state foreign held') : held = held' := by
  obtain ⟨exchanges, hruns, hsteps⟩ := h.answers
  obtain ⟨-, hok | ⟨_, -, herror⟩⟩ := h'.ends hruns hsteps
  · exact Except.ok.inj hok
  · contradiction

/-! ### What is promised -/

/-- **Writing and reading go together**, for some chains. -/
structure Keeps (m : Registering I σ) (chains : Set ChainId) : Prop where
  /-- After any attempts, what is read for a chain is the address that landed last for it, and
  nothing if none did. -/
  latest : ∀ {attempts state foreign}, m.History chains attempts state → foreign ∈ chains →
    m.Reads state foreign (latest? (m.landed? foreign) (attempts.flatMap Attempt.events))
  /-- If nothing is left of any attempt when it is over, then this is the address of the last
  attempt for the chain that succeeded, and nothing if none did. -/
  latest_of_settles : ∀ {attempts state foreign}, m.History chains attempts state →
    (∀ attempt ∈ attempts, m.Settles attempt) → foreign ∈ chains →
    m.Reads state foreign (latest? (Attempt.registered? foreign) attempts)
  /-- An attempt that succeeds leaves its address for its own chain, and every other chain's as it
  was. -/
  changes : ∀ {attempts state attempt next registration}, m.History chains attempts state →
    m.Makes state attempt next → m.LandsOwn attempt → attempt.foreign ∈ chains →
    attempt.outcome = .ok registration →
    m.Reads next attempt.foreign (some attempt.address) ∧
      ∀ foreign ∈ chains, foreign ≠ attempt.foreign → ∀ held,
        m.Reads next foreign held ↔ m.Reads state foreign held
  /-- An attempt that succeeds hands in one transaction, or none if its address was held before. -/
  handsIn : ∀ {attempts state attempt next registration held}, m.History chains attempts state →
    m.Makes state attempt next → m.LandsOwn attempt → attempt.foreign ∈ chains →
    attempt.outcome = .ok registration → m.Reads state attempt.foreign held →
    (m.submissions attempt.asked).length = if held = some attempt.address then 0 else 1
  /-- An attempt for no chain, for the chain itself or with the zero address fails, asks nothing and
  changes nothing. -/
  invalid : ∀ {state attempt next}, m.Makes state attempt next → m.LandsOwn attempt →
    attempt.foreign = 0 ∨ attempt.foreign = m.chain ∨ attempt.address = Address.zero →
    (∃ fault, attempt.outcome = .error (.invalidForeignEndpoint fault)) ∧ attempt.asked = [] ∧
      next = state

/-! ### What it rests on -/

/-- What has to be known of a kind of chain, where `Holds` says which map a state of the chain is,
and `Registers` which transactions register an address for a chain. -/
structure Lawful (m : Registering I σ) (chains : Set ChainId)
    (registrar : ChainId → Address → Registrar I)
    (Holds : σ → (ChainId → Option Address) → Prop)
    (Registers : SignedTransaction → ChainId → Address → Prop) : Prop where
  register_eq : ∀ {foreign address}, m.register foreign address =
    (registrar foreign address).register
  check_eq : ∀ {foreign address}, (registrar foreign address).check =
    checkForeignEndpoint m.chain foreign address
  address_eq : ∀ {foreign address}, (registrar foreign address).address = address
  read_eq : ∀ {foreign address}, (registrar foreign address).read = m.registered foreign
  landing?_landed : ∀ {tx signed}, m.landing? (.landed tx signed) = some signed
  carried?_eq : ∀ {signed foreign address}, Registers signed foreign address →
    m.carried? signed = some (foreign, address)
  /-- While nothing is registered the map is empty. -/
  holds_empty : Holds m.empty fun _ => none
  /-- What lands in an event is held after it. -/
  holds_step : ∀ {state event next held}, m.Step state event next → Holds state held →
    (∀ signed, m.landing? event = some signed → ∃ foreign ∈ chains, ∃ address,
      address ≠ Address.zero ∧ Registers signed foreign address) →
    Holds next fun foreign => (m.landed? foreign event).or (held foreign)
  /-- What is held is read. -/
  reads : ∀ {state held foreign}, Holds state held → foreign ∈ chains →
    m.Reads state foreign (held foreign)
  /-- Reading hands nothing in. -/
  submissions_registered : ∀ {foreign exchanges outcome},
    (m.registered foreign).Runs exchanges outcome → m.submissions exchanges = []
  /-- At most one transaction is handed in, and it registers the address for the chain. -/
  submissions_land : ∀ {foreign address exchanges result},
    (registrar foreign address).land.Runs exchanges result →
    m.submissions exchanges = [] ∨
      ∃ signed, m.submissions exchanges = [signed] ∧ Registers signed foreign address
  /-- A transaction that is said to have landed has landed. -/
  landings_of_ok : ∀ {foreign address events state next tx},
    (registrar foreign address).land.Runs (askedIn events) (.ok tx) →
    Steps m.Step state events next → m.landings events ≠ []
  /-- No failure says that there is a registration. -/
  clear_of_error : ∀ {foreign address events state next error},
    (registrar foreign address).land.Runs (askedIn events) (.error error) →
    Steps m.Step state events next →
    error.rpcText?.any (registrar foreign address).duplicate = false

/-! ### Events -/

theorem submissions_append (m : Registering I σ) (before after : List (Exchange I)) :
    m.submissions (before ++ after) = m.submissions before ++ m.submissions after :=
  List.filterMap_append

theorem landings_append (m : Registering I σ) (before after : List (ChainEvent I)) :
    m.landings (before ++ after) = m.landings before ++ m.landings after := List.filterMap_append

/-- What lands was handed in. -/
theorem LandsOwn.mem_submissions (h : m.LandsOwn attempt) {signed : SignedTransaction}
    (hsigned : signed ∈ m.landings attempt.events) : signed ∈ m.submissions attempt.asked := by
  obtain ⟨event, hevent, hlands⟩ := List.mem_filterMap.mp hsigned
  obtain ⟨before, after, hsplit⟩ := List.append_of_mem hevent
  have hmem := h before event after signed hsplit hlands
  have hasked : attempt.asked = askedIn (before ++ [event]) ++ askedIn after := by
    rw [Attempt.asked, hsplit, ← askedIn_append, List.append_assoc, List.singleton_append]
  rw [hasked, submissions_append]
  exact List.mem_append_left _ hmem

/-- Until something is handed in, nothing lands. -/
theorem LandsOwn.landings_eq_nil (h : m.LandsOwn attempt) {before after : List (ChainEvent I)}
    (hsplit : attempt.events = before ++ after) (hnone : m.submissions (askedIn before) = []) :
    m.landings before = [] := by
  rw [landings, List.filterMap_eq_nil_iff]
  intro event hevent
  by_contra hlands
  obtain ⟨signed, hsigned⟩ := Option.ne_none_iff_exists'.mp hlands
  obtain ⟨first, later, rfl⟩ := List.append_of_mem hevent
  have hmem := h first event (later ++ after) signed (by simp [hsplit]) hsigned
  rw [← List.singleton_append, ← List.append_assoc, askedIn_append, submissions_append,
    List.append_eq_nil_iff] at hnone
  rw [hnone.1] at hmem
  contradiction

/-- Where nothing lands, everything that happens is asked. -/
theorem eq_map_asked (hlanded : ∀ {tx signed}, m.landing? (.landed tx signed) = some signed)
    (hnone : m.landings events = []) : events = (askedIn events).map .asked := by
  induction events with
  | nil => rfl
  | cons event later ih =>
      cases event with
      | asked exchange =>
          have hlater : m.landings later = [] := by
            rw [← List.singleton_append, landings_append] at hnone
            exact (List.append_eq_nil_iff.mp hnone).2
          exact congrArg (ChainEvent.asked exchange :: ·) (ih hlater)
      | landed tx signed =>
          rw [landings, List.filterMap_cons_some hlanded] at hnone
          contradiction

/-- Where nothing lands, nothing lands for a chain. -/
theorem latest?_landed?_of_landings_eq_nil (h : m.landings events = []) (foreign : ChainId) :
    latest? (m.landed? foreign) events = none := by
  rw [latest?_eq_none_iff]
  intro event hevent
  rw [landed?, List.filterMap_eq_nil_iff.mp h event hevent]
  rfl

/-- Where only addresses for one chain land, and something does, the address lands for that chain
and none for any other one. -/
theorem latest?_landed?_of_carried {chain : ChainId}
    (hall : ∀ signed ∈ m.landings events, m.carried? signed = some (chain, address))
    (hsome : m.landings events ≠ []) (foreign : ChainId) :
    latest? (m.landed? foreign) events = if chain = foreign then some address else none := by
  have hlanded : ∀ event ∈ events, ∀ signed, m.landing? event = some signed →
      m.landed? foreign event = if chain = foreign then some address else none := by
    intro event hevent signed hsigned
    have hcarried := hall signed (List.mem_filterMap.mpr ⟨event, hevent, hsigned⟩)
    rw [landed?, hsigned, Option.bind_some, hcarried]
    rfl
  have hquiet : ∀ event, m.landing? event = none → m.landed? foreign event = none := by
    intro event hnone
    rw [landed?, hnone]
    rfl
  by_cases hchain : chain = foreign
  · rw [if_pos hchain]
    refine latest?_eq_some_of_forall (fun event hevent told htold => ?_) ?_
    · cases hlanding : m.landing? event with
      | none =>
          rw [hquiet event hlanding] at htold
          contradiction
      | some signed =>
          rw [hlanded event hevent signed hlanding, if_pos hchain] at htold
          exact (Option.some.inj htold).symm
    · obtain ⟨signed, hsigned⟩ := List.exists_mem_of_ne_nil _ hsome
      obtain ⟨event, hevent, hlanding⟩ := List.mem_filterMap.mp hsigned
      refine ⟨event, hevent, ?_⟩
      rw [hlanded event hevent signed hlanding, if_pos hchain]
      rfl
  · rw [if_neg hchain, latest?_eq_none_iff]
    intro event hevent
    cases hlanding : m.landing? event with
    | none => exact hquiet event hlanding
    | some signed => rw [hlanded event hevent signed hlanding, if_neg hchain]

/-- What an attempt comes to, on a chain that holds an address, or none, for the chain which it is
about. -/
inductive Ends (m : Registering I σ) (held : Option Address) (attempt : Attempt I) : Prop
  /-- The address cannot be registered. -/
  | invalid {fault : EndpointFault} :
      checkForeignEndpoint m.chain attempt.foreign attempt.address = .error fault →
      attempt.outcome = .error (.invalidForeignEndpoint fault) → attempt.asked = [] →
      Ends m held attempt
  /-- The attempt fails before anything is handed in. -/
  | refused {error : RelayError} :
      checkForeignEndpoint m.chain attempt.foreign attempt.address = .ok () →
      attempt.outcome = .error error → m.submissions attempt.asked = [] → Ends m held attempt
  /-- The address was held. -/
  | unchanged :
      checkForeignEndpoint m.chain attempt.foreign attempt.address = .ok () →
      held = some attempt.address → attempt.outcome = .ok .unchanged →
      m.submissions attempt.asked = [] → Ends m held attempt
  /-- A transaction is handed in, and lands. -/
  | submitted {tx : TxId} {signed : SignedTransaction} :
      checkForeignEndpoint m.chain attempt.foreign attempt.address = .ok () →
      held ≠ some attempt.address → attempt.outcome = .ok (.submitted tx) →
      m.submissions attempt.asked = [signed] → m.landings attempt.events ≠ [] →
      Ends m held attempt
  /-- A transaction is handed in, and the attempt fails. -/
  | lost {error : RelayError} {signed : SignedTransaction} :
      checkForeignEndpoint m.chain attempt.foreign attempt.address = .ok () →
      held ≠ some attempt.address → attempt.outcome = .error error →
      m.submissions attempt.asked = [signed] → Ends m held attempt

/-- An attempt that succeeds found its address held and hands in nothing, or it hands in one
transaction, which lands. -/
theorem Ends.of_ok {held : Option Address} {registration : Registration}
    (h : m.Ends held attempt) (hok : attempt.outcome = .ok registration) :
    (held = some attempt.address ∧ m.submissions attempt.asked = []) ∨
      (held ≠ some attempt.address ∧ (∃ signed, m.submissions attempt.asked = [signed]) ∧
        m.landings attempt.events ≠ []) := by
  cases h with
  | invalid _ hended | refused _ hended | lost _ _ hended =>
      rw [hended] at hok
      contradiction
  | unchanged _ hheld _ hnone => exact .inl ⟨hheld, hnone⟩
  | submitted _ hheld _ hone hlands => exact .inr ⟨hheld, ⟨_, hone⟩, hlands⟩

namespace Lawful

variable {registrar : ChainId → Address → Registrar I}
  {Holds : σ → (ChainId → Option Address) → Prop}
  {Registers : SignedTransaction → ChainId → Address → Prop} {held : ChainId → Option Address}

/-! ### Attempts -/

/-- What an attempt hands in is at most one transaction, which registers its address, and then the
address is one that can be registered. -/
theorem submissions_of_makes (law : m.Lawful chains registrar Holds Registers)
    (h : m.Makes state attempt next) :
    m.submissions attempt.asked = [] ∨
      checkForeignEndpoint m.chain attempt.foreign attempt.address = .ok () ∧
      ∃ signed, m.submissions attempt.asked = [signed] ∧
        Registers signed attempt.foreign attempt.address := by
  have hruns := h.runs
  rw [law.register_eq, Registrar.runs_register_iff] at hruns
  generalize attempt.asked = asked, attempt.outcome = outcome at hruns
  cases hruns with
  | invalid => exact .inl rfl
  | unread _ hread =>
      rw [law.read_eq] at hread
      exact .inl (law.submissions_registered hread)
  | held _ hread =>
      rw [law.read_eq] at hread
      exact .inl (law.submissions_registered hread)
  | landed hcheck hread _ hland =>
      rw [law.read_eq] at hread
      rw [submissions_append, law.submissions_registered hread, List.nil_append]
      obtain hnone | hone := law.submissions_land hland
      · exact .inl hnone
      · rw [law.check_eq] at hcheck
        exact .inr ⟨hcheck, hone⟩

/-- Whatever an attempt hands in registers its address, which is not the zero address. -/
theorem registers_of_mem_submissions (law : m.Lawful chains registrar Holds Registers)
    (h : m.Makes state attempt next) {signed : SignedTransaction}
    (hsigned : signed ∈ m.submissions attempt.asked) :
    attempt.address ≠ Address.zero ∧ Registers signed attempt.foreign attempt.address := by
  obtain hnone | ⟨hcheck, registering, hone, hregisters⟩ := law.submissions_of_makes h
  · rw [hnone] at hsigned
    contradiction
  · rw [hone, List.mem_singleton] at hsigned
    exact ⟨(checkForeignEndpoint_eq_ok_iff.mp hcheck).2.2, hsigned ▸ hregisters⟩

/-- Whatever lands of attempts registers an address for one of their chains. -/
theorem registers_of_history (law : m.Lawful chains registrar Holds Registers)
    (h : m.History chains attempts state) (hattempt : attempt ∈ attempts)
    {signed : SignedTransaction} (hsigned : signed ∈ m.landings attempt.events) :
    ∃ foreign ∈ chains, ∃ address, address ≠ Address.zero ∧ Registers signed foreign address := by
  obtain ⟨other, hother, hhanded⟩ := h.handedIn attempt hattempt signed hsigned
  obtain ⟨_, _, _, hmakes, -⟩ := h.steps.exists_step_of_mem hother
  exact ⟨other.foreign, h.foreign_mem other hother, other.address,
    law.registers_of_mem_submissions hmakes hhanded⟩

/-- **What is held after any events** is what landed last, if only addresses for the chains land. -/
theorem holds_of_steps (law : m.Lawful chains registrar Holds Registers)
    (hsteps : Steps m.Step state events next) (hholds : Holds state held)
    (hregisters : ∀ signed ∈ m.landings events, ∃ foreign ∈ chains, ∃ address,
      address ≠ Address.zero ∧ Registers signed foreign address) :
    Holds next fun foreign => (latest? (m.landed? foreign) events).or (held foreign) :=
  Steps.holds Holds m.landed? hsteps (fun hevent hstep hstate =>
    law.holds_step hstep hstate fun signed hsigned =>
      hregisters signed (List.mem_filterMap.mpr ⟨_, hevent, hsigned⟩)) hholds

/-- After any attempts, what is held is what landed last. -/
theorem holds_of_history (law : m.Lawful chains registrar Holds Registers)
    (h : m.History chains attempts state) :
    Holds state fun foreign =>
      latest? (m.landed? foreign) (attempts.flatMap Attempt.events) := by
  have hsteps := Steps.flatMap Attempt.events h.steps Makes.steps
  have hholds := law.holds_of_steps hsteps law.holds_empty fun signed hsigned => by
    rw [landings, List.filterMap_flatMap] at hsigned
    obtain ⟨attempt, hattempt, hlands⟩ := List.mem_flatMap.mp hsigned
    exact law.registers_of_history h hattempt hlands
  simpa only [Option.or_none] using hholds

/-- While nothing lands, the endpoint reads what is held. -/
theorem eq_held_of_read (law : m.Lawful chains registrar Holds Registers)
    {value : Option Address} (hread : (m.registered foreign).Runs (askedIn events) (.ok value))
    (hsteps : Steps m.Step state events next) (hnone : m.landings events = [])
    (hholds : Holds state held) (hforeign : foreign ∈ chains) :
    next = state ∧ value = held foreign := by
  rw [eq_map_asked law.landing?_landed hnone] at hsteps
  obtain ⟨hnext, hok | ⟨_, -, herror⟩⟩ := (law.reads hholds hforeign).ends hread hsteps
  · exact ⟨hnext, Except.ok.inj hok⟩
  · contradiction

/-- **What an attempt comes to** of which only its own transaction lands. -/
theorem ends (law : m.Lawful chains registrar Holds Registers)
    (h : m.Makes state attempt next) (hown : m.LandsOwn attempt) (hholds : Holds state held)
    (hforeign : attempt.foreign ∈ chains) : m.Ends (held attempt.foreign) attempt := by
  have hruns := h.runs
  rw [law.register_eq, Registrar.runs_register_iff] at hruns
  generalize hasked : attempt.asked = asked, hended : attempt.outcome = outcome at hruns
  cases hruns with
  | invalid hcheck =>
      rw [law.check_eq] at hcheck
      exact .invalid hcheck hended hasked
  | unread hcheck hread =>
      rw [law.check_eq] at hcheck
      rw [law.read_eq, ← hasked] at hread
      exact .refused hcheck hended (law.submissions_registered hread)
  | held hcheck hread =>
      rw [law.check_eq] at hcheck
      rw [law.read_eq, law.address_eq, ← hasked] at hread
      have hnone : m.submissions attempt.asked = [] := law.submissions_registered hread
      have hquiet := hown.landings_eq_nil (List.append_nil _).symm hnone
      obtain ⟨-, hheld⟩ := law.eq_held_of_read hread h.steps hquiet hholds hforeign
      exact .unchanged hcheck hheld.symm hended hnone
  | @landed reading landing value result hcheck hread hne hland =>
      rw [law.check_eq] at hcheck
      rw [law.read_eq] at hread
      rw [law.address_eq] at hne
      -- what is asked falls into the reading and the rest, and so does what happens
      obtain ⟨before, after, hevents, rfl, rfl⟩ := List.filterMap_eq_append_iff.mp hasked
      have hnone : m.submissions (askedIn before) = [] := law.submissions_registered hread
      have hsteps := h.steps
      rw [hevents] at hsteps
      obtain ⟨middle, hbefore, hafter⟩ := Steps.append_iff.mp hsteps
      obtain ⟨rfl, rfl⟩ := law.eq_held_of_read hread hbefore
        (hown.landings_eq_nil hevents hnone) hholds hforeign
      cases result with
      | error error =>
          rw [Registrar.registeredAfter,
            Outcome.settle_of_clear (law.clear_of_error hland hafter)] at hended
          obtain hnothing | ⟨-, signed, hone, -⟩ := law.submissions_of_makes h
          · exact .refused hcheck hended hnothing
          · exact .lost hcheck hne hended hone
      | ok tx =>
          have hlands : m.landings attempt.events ≠ [] := by
            rw [hevents, landings_append]
            exact List.append_ne_nil_of_right_ne_nil _ (law.landings_of_ok hland hafter)
          obtain hnothing | ⟨-, signed, hone, -⟩ := law.submissions_of_makes h
          · exact absurd (hown.landings_eq_nil (List.append_nil _).symm hnothing) hlands
          · exact .submitted hcheck hne hended hone hlands

/-- What is held after an attempt of which only its own transaction lands. -/
theorem holds_of_landsOwn (law : m.Lawful chains registrar Holds Registers)
    (h : m.Makes state attempt next) (hown : m.LandsOwn attempt) (hholds : Holds state held)
    (hforeign : attempt.foreign ∈ chains) :
    Holds next fun foreign =>
      if attempt.foreign = foreign ∧ m.landings attempt.events ≠ [] then some attempt.address
      else held foreign := by
  have hregisters : ∀ signed ∈ m.landings attempt.events,
      attempt.address ≠ Address.zero ∧ Registers signed attempt.foreign attempt.address :=
    fun signed hsigned =>
      law.registers_of_mem_submissions h (hown.mem_submissions hsigned)
  have hnext := law.holds_of_steps h.steps hholds fun signed hsigned =>
    ⟨attempt.foreign, hforeign, attempt.address, hregisters signed hsigned⟩
  convert hnext using 2 with foreign
  by_cases hlands : m.landings attempt.events = []
  · rw [if_neg (fun h => h.2 hlands), latest?_landed?_of_landings_eq_nil hlands, Option.none_or]
  · rw [latest?_landed?_of_carried
      (fun signed hsigned => law.carried?_eq (hregisters signed hsigned).2) hlands]
    by_cases hchain : attempt.foreign = foreign <;> simp [hchain, hlands]

/-- What is held after an attempt that succeeds: its address for its chain. -/
theorem holds_of_ok (law : m.Lawful chains registrar Holds Registers)
    (h : m.Makes state attempt next) (hown : m.LandsOwn attempt) (hholds : Holds state held)
    (hforeign : attempt.foreign ∈ chains) {registration : Registration}
    (hok : attempt.outcome = .ok registration) :
    Holds next fun foreign =>
      if attempt.foreign = foreign then some attempt.address else held foreign := by
  have hnext := law.holds_of_landsOwn h hown hholds hforeign
  obtain ⟨hheld, -⟩ | ⟨-, -, hlands⟩ := (law.ends h hown hholds hforeign).of_ok hok
  · convert hnext using 2 with foreign
    by_cases hchain : attempt.foreign = foreign
    · subst hchain
      simp [hheld]
    · simp [hchain]
  · simpa only [hlands, ne_eq, not_false_eq_true, and_true] using hnext

/-- **What is held after an attempt of which nothing is left**: its address for its chain, if it
succeeds, and otherwise what was held before. -/
theorem holds_of_settles (law : m.Lawful chains registrar Holds Registers)
    (h : m.Makes state attempt next) (hsettles : m.Settles attempt) (hholds : Holds state held)
    (hforeign : attempt.foreign ∈ chains) :
    Holds next fun foreign => (attempt.registered? foreign).or (held foreign) := by
  cases hended : attempt.outcome with
  | ok registration =>
      convert law.holds_of_ok h hsettles.own hholds hforeign hended using 2 with foreign
      by_cases hchain : attempt.foreign = foreign <;>
        simp [Attempt.registered?, hended, hchain, Except.isOk, Except.toBool]
  | error error =>
      have hnone : m.landings attempt.events = [] := by
        by_contra hlands
        have hok := hsettles.succeeds hlands
        rw [hended] at hok
        contradiction
      convert law.holds_of_landsOwn h hsettles.own hholds hforeign using 2 with foreign
      simp [Attempt.registered?, hended, hnone, Except.isOk, Except.toBool]

/-- An attempt that cannot be made asks nothing. -/
theorem of_invalid (law : m.Lawful chains registrar Holds Registers)
    (h : m.Makes state attempt next) (hown : m.LandsOwn attempt)
    (hinvalid : attempt.foreign = 0 ∨ attempt.foreign = m.chain ∨
      attempt.address = Address.zero) :
    (∃ fault, attempt.outcome = .error (.invalidForeignEndpoint fault)) ∧ attempt.asked = [] ∧
      next = state := by
  have hchecked : ¬ (registrar attempt.foreign attempt.address).check = .ok () := by
    rw [law.check_eq, checkForeignEndpoint_eq_ok_iff]
    tauto
  have hruns := h.runs
  rw [law.register_eq, Registrar.runs_register_iff] at hruns
  generalize hasked : attempt.asked = asked, attempt.outcome = outcome at hruns
  cases hruns with
  | @invalid fault =>
      have hnone : m.landings attempt.events = [] := by
        refine hown.landings_eq_nil (List.append_nil _).symm ?_
        rw [← Attempt.asked, hasked]
        rfl
      have hsteps := h.steps
      rw [eq_map_asked law.landing?_landed hnone, ← Attempt.asked, hasked] at hsteps
      obtain _ | _ := hsteps
      exact ⟨⟨fault, rfl⟩, rfl, rfl⟩
  | unread hcheck | held hcheck | landed hcheck => exact absurd hcheck hchecked

/-- **Writing and reading go together** on a kind of chain of which this is known. -/
theorem keeps (law : m.Lawful chains registrar Holds Registers) : m.Keeps chains where
  latest h hforeign := law.reads (law.holds_of_history h) hforeign
  latest_of_settles {attempts state foreign} h hsettles hforeign := by
    have hholds := Steps.holds Holds Attempt.registered? h.steps
      (fun hattempt hmakes hstate => law.holds_of_settles hmakes (hsettles _ hattempt) hstate
        (h.foreign_mem _ hattempt)) law.holds_empty
    simp only [Option.or_none] at hholds
    exact law.reads hholds hforeign
  changes {attempts state attempt next registration} h hmakes hown hforeign hok := by
    have hstate := law.holds_of_history h
    have hnext := law.holds_of_ok hmakes hown hstate hforeign hok
    refine ⟨?_, fun foreign hmem hne held => ?_⟩
    · simpa using law.reads hnext hforeign
    · have hbefore := law.reads hstate hmem
      have hafter := law.reads hnext hmem
      rw [if_neg (Ne.symm hne)] at hafter
      constructor
      · intro hreads
        exact hreads.unique hafter ▸ hbefore
      · intro hreads
        exact hreads.unique hbefore ▸ hafter
  handsIn {attempts state attempt next registration held} h hmakes hown hforeign hok hreads := by
    have hstate := law.holds_of_history h
    obtain rfl := hreads.unique (law.reads hstate hforeign)
    obtain ⟨hheld, hnone⟩ | ⟨hheld, ⟨signed, hone⟩, -⟩ :=
      (law.ends hmakes hown hstate hforeign).of_ok hok
    · rw [if_pos hheld, hnone, List.length_nil]
    · rw [if_neg hheld, hone, List.length_singleton]
  invalid h hown hinvalid := law.of_invalid h hown hinvalid

end Lawful

end Registering

end GuardianRelay
