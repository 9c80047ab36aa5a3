import GuardianRelay.Proofs.Pairing
import Mathlib.Logic.Relation

/-!
# Attempts to Pair

A pairing that fails may leave one chain changed and the other not, and a registration that failed
may have been handed in all the same, and land later. To try again helps in spite of that. Two
chains that keep what is registered (`Chains`, `Answers`) are changed by the attempts of one pairing
in one direction only. All that is ever handed in to a side is the one address that belongs there,
so a side that holds it goes on to hold it, and is not given it again (`Makes.leads`). An attempt in
which nothing fails therefore ends with both addresses in their places, wherever the attempts before
have left off (`Makes.completes`).

That endpoints of either kind answer as this module has it is shown elsewhere (`pair_registers`).

## Main results

* `Makes.leads`: what every attempt keeps.
* `Makes.completes`: what an attempt comes to in which nothing fails.
* `pair_reliable`: the whole of what a pairing promises.
-/

namespace GuardianRelay.Pairing

variable {endpoints : Pair} {remoteChain : ChainId} {remoteAddress : Address}
  {exchanges : List (Exchange surroundings)} {outcome : Outcome Registrations}

/-! ### Two chains -/

/-- Two chains, as far as pairings can see them. -/
structure Chains where
  /-- The addresses that each side holds for other chains. -/
  held : Side → ChainId → Option Address
  /-- The registrations that were handed in to each side. -/
  handedIn : Side → List (ChainId × Address)

namespace Chains

variable {chains next : Chains} {side other : Side} {foreign : ChainId} {address : Address}

/-- A registration is handed in. -/
def handIn (chains : Chains) (side : Side) (foreign : ChainId) (address : Address) : Chains :=
  { chains with
    handedIn := Function.update chains.handedIn side
      (chains.handedIn side ++ [(foreign, address)]) }

/-- A registration lands, and is held. -/
def store (chains : Chains) (side : Side) (foreign : ChainId) (address : Address) : Chains :=
  { chains with
    held := Function.update chains.held side
      (Function.update (chains.held side) foreign (some address)) }

@[simp] theorem held_handIn : (chains.handIn side foreign address).held = chains.held := rfl

@[simp] theorem handedIn_store : (chains.store side foreign address).handedIn = chains.handedIn :=
  rfl

/-- What a side holds on which a registration has landed. -/
theorem held_store : (chains.store side foreign address).held side = fun foreign' =>
    if foreign = foreign' then some address else chains.held side foreign' := by
  funext foreign'
  by_cases h : foreign = foreign'
  · subst h
    simp [store]
  · simp [store, h, Function.update_of_ne (Ne.symm h)]

theorem held_store_self :
    (chains.store side foreign address).held side foreign = some address := by
  simp [held_store]

/-- The other side holds what it held. -/
theorem held_store_of_ne (h : other ≠ side) :
    (chains.store side foreign address).held other = chains.held other := by
  simp [store, h]

theorem handedIn_handIn_of_ne (h : other ≠ side) :
    (chains.handIn side foreign address).handedIn other = chains.handedIn other := by
  simp [handIn, h]

/-- What was handed in may land at any time. -/
inductive Lands : Chains → Chains → Prop
  | land {chains : Chains} {side : Side} {foreign : ChainId} {address : Address} :
      (foreign, address) ∈ chains.handedIn side →
      Lands chains (chains.store side foreign address)

end Chains

/-- How two endpoints answer, on chains that keep what is registered. A registration that fails may
have been handed in, and then it may land later. -/
inductive Answers (endpoints : Pair) : Chains → Exchange surroundings → Chains → Prop
  /-- It cannot be registered. -/
  | rejected {chains : Chains} {side : Side} {foreign : ChainId} {address : Address}
      {fault : EndpointFault} :
      checkForeignEndpoint (endpoints.chainOf side) foreign address = .error fault →
      Answers endpoints chains
        ⟨.register side foreign address, .error (.invalidForeignEndpoint fault)⟩ chains
  /-- The chain holds it. -/
  | unchanged {chains : Chains} {side : Side} {foreign : ChainId} {address : Address} :
      checkForeignEndpoint (endpoints.chainOf side) foreign address = .ok () →
      chains.held side foreign = some address →
      Answers endpoints chains ⟨.register side foreign address, .ok .unchanged⟩ chains
  /-- It is handed in, and has landed. -/
  | submitted {chains : Chains} {side : Side} {foreign : ChainId} {address : Address}
      {tx : TxId} :
      checkForeignEndpoint (endpoints.chainOf side) foreign address = .ok () →
      chains.held side foreign ≠ some address →
      Answers endpoints chains ⟨.register side foreign address, .ok (.submitted tx)⟩
        ((chains.handIn side foreign address).store side foreign address)
  /-- It fails before anything is handed in. -/
  | refused {chains : Chains} {side : Side} {foreign : ChainId} {address : Address}
      {error : RelayError} :
      checkForeignEndpoint (endpoints.chainOf side) foreign address = .ok () →
      Answers endpoints chains ⟨.register side foreign address, .error error⟩ chains
  /-- It is handed in, and fails. -/
  | lost {chains : Chains} {side : Side} {foreign : ChainId} {address : Address}
      {error : RelayError} :
      checkForeignEndpoint (endpoints.chainOf side) foreign address = .ok () →
      chains.held side foreign ≠ some address →
      Answers endpoints chains ⟨.register side foreign address, .error error⟩
        (chains.handIn side foreign address)
  /-- What the chain holds is read. -/
  | read {chains : Chains} {side : Side} {foreign : ChainId} :
      Answers endpoints chains ⟨.registered side foreign, .ok (chains.held side foreign)⟩ chains
  /-- What the chain holds is not read. -/
  | unread {chains : Chains} {side : Side} {foreign : ChainId} {error : RelayError} :
      Answers endpoints chains ⟨.registered side foreign, .error error⟩ chains

/-- One step of two chains: some registrations land, and an exchange follows. -/
def Step (endpoints : Pair) (chains : Chains) (x : Exchange surroundings) (next : Chains) : Prop :=
  ∃ landed, Relation.ReflTransGen Chains.Lands chains landed ∧ Answers endpoints landed x next

/-- An attempt to pair two endpoints: what is asked, and how it ends. -/
structure Attempt where
  exchanges : List (Exchange surroundings)
  outcome : Outcome Registrations

/-- An attempt is made on two chains. -/
structure Makes (endpoints : Pair) (remoteChain : ChainId) (remoteAddress : Address)
    (chains : Chains) (attempt : Attempt) (next : Chains) : Prop where
  runs : (pair endpoints remoteChain remoteAddress).Runs attempt.exchanges attempt.outcome
  steps : Steps (Step endpoints) chains attempt.exchanges next

/-! ### What an attempt keeps -/

/-- Only what belongs there was handed in to a side. -/
def Chains.Clean (endpoints : Pair) (remoteAddress : Address) (chains : Chains) : Prop :=
  ∀ side foreign address, (foreign, address) ∈ chains.handedIn side →
    endpoints.Wants remoteAddress side foreign address

/-- Only what belongs there is to be registered on a side. -/
def Asks (endpoints : Pair) (remoteAddress : Address) (x : Exchange surroundings) : Prop :=
  ∀ side foreign address, x.request = .register side foreign address →
    endpoints.Wants remoteAddress side foreign address

/-- What is held on a side later, and what was handed in to it in the meantime. -/
structure Chains.Leads (endpoints : Pair) (remoteAddress : Address) (chains next : Chains) :
    Prop where
  clean : next.Clean endpoints remoteAddress
  /-- A side that holds what belongs there goes on to do so, and nothing is handed in to it. -/
  held_and_handedIn : ∀ {side foreign address}, endpoints.Wants remoteAddress side foreign address →
    chains.held side foreign = some address →
    next.held side foreign = some address ∧ next.handedIn side = chains.handedIn side

variable {chains next : Chains} {side : Side} {foreign : ChainId} {address : Address}
  {x : Exchange surroundings}

/-- A pairing asks for nothing else than what belongs on a side. -/
theorem Pairs.asks (h : Pairs endpoints remoteChain remoteAddress exchanges outcome) :
    ∀ x ∈ exchanges, Asks endpoints remoteAddress x := by
  intro x hx side foreign address hrequest
  obtain rfl | ⟨hchain, own, hown, hrequests⟩ := h.requests_isPrefix
  · contradiction
  · have hmem := hrequests.subset (List.mem_map_of_mem (f := Exchange.request) hx)
    simp only [hrequest, List.mem_cons, List.not_mem_nil, or_false, reduceCtorEq,
      Request.register.injEq] at hmem
    obtain ⟨rfl, rfl, rfl⟩ | ⟨rfl, rfl, rfl⟩ := hmem
    · exact ⟨hchain.symm, rfl⟩
    · exact ⟨rfl, hown⟩

namespace Chains.Leads

theorem refl (hclean : chains.Clean endpoints remoteAddress) :
    chains.Leads endpoints remoteAddress chains :=
  ⟨hclean, fun _ hheld => ⟨hheld, rfl⟩⟩

theorem trans {later : Chains} (h : chains.Leads endpoints remoteAddress next)
    (h' : next.Leads endpoints remoteAddress later) :
    chains.Leads endpoints remoteAddress later := by
  refine ⟨h'.clean, fun hwants hheld => ?_⟩
  obtain ⟨hnext, hsame⟩ := h.held_and_handedIn hwants hheld
  obtain ⟨hlater, hsame'⟩ := h'.held_and_handedIn hwants hnext
  exact ⟨hlater, hsame'.trans hsame⟩

end Chains.Leads

/-- A read-back asks for nothing. -/
theorem asks_registered {reply : Outcome (Option Address)} :
    Asks endpoints remoteAddress ⟨.registered side foreign, reply⟩ := by
  rintro _ _ _ ⟨⟩

/-- What belongs on a side changes nothing there when it lands on chains that hold it. -/
theorem held_store_of_wants {other : Side} {foreign' : ChainId} {address' : Address}
    (hlands : endpoints.Wants remoteAddress other foreign' address')
    (hwants : endpoints.Wants remoteAddress side foreign address)
    (hheld : chains.held side foreign = some address) :
    (chains.store other foreign' address').held side foreign = some address := by
  by_cases hside : side = other
  · subst hside
    obtain ⟨rfl, rfl⟩ := hlands.unique hwants
    exact Chains.held_store_self
  · rw [Chains.held_store_of_ne hside]
    exact hheld

/-- What may land is what belongs there. -/
theorem leads_of_lands (hclean : chains.Clean endpoints remoteAddress)
    (h : Relation.ReflTransGen Chains.Lands chains next) :
    chains.Leads endpoints remoteAddress next := by
  induction h with
  | refl => exact .refl hclean
  | tail _ hland ih =>
      refine ih.trans ?_
      cases hland with
      | land hmem =>
          exact ⟨ih.clean, fun hwants hheld =>
            ⟨held_store_of_wants (ih.clean _ _ _ hmem) hwants hheld, rfl⟩⟩

/-- What is handed in belongs there, and is not handed in where it is held. -/
theorem leads_of_handIn (hclean : chains.Clean endpoints remoteAddress)
    (hwants : endpoints.Wants remoteAddress side foreign address)
    (hheld : chains.held side foreign ≠ some address) :
    chains.Leads endpoints remoteAddress (chains.handIn side foreign address) where
  clean other foreign' address' hmem := by
    by_cases hside : other = side
    · subst hside
      simp only [Chains.handIn, Function.update_self, List.mem_append, List.mem_singleton,
        Prod.mk.injEq] at hmem
      obtain hmem | ⟨rfl, rfl⟩ := hmem
      · exact hclean _ _ _ hmem
      · exact hwants
    · rw [Chains.handedIn_handIn_of_ne hside] at hmem
      exact hclean _ _ _ hmem
  held_and_handedIn {other foreign' address'} hother hheld' := by
    refine ⟨hheld', Chains.handedIn_handIn_of_ne ?_⟩
    rintro rfl
    obtain ⟨rfl, rfl⟩ := hwants.unique hother
    contradiction

/-- An answer to what belongs on a side. -/
theorem leads_of_answers (hclean : chains.Clean endpoints remoteAddress)
    (hasks : Asks endpoints remoteAddress x) (h : Answers endpoints chains x next) :
    chains.Leads endpoints remoteAddress next := by
  cases h with
  | rejected | unchanged | refused | read | unread => exact .refl hclean
  | lost _ hheld => exact leads_of_handIn hclean (hasks _ _ _ rfl) hheld
  | submitted _ hheld =>
      have hwants := hasks _ _ _ rfl
      have hleads := leads_of_handIn hclean hwants hheld
      exact ⟨hleads.clean, fun hother hheld' =>
        ⟨held_store_of_wants hwants hother hheld', (hleads.held_and_handedIn hother hheld').2⟩⟩

/-- A step of what belongs on a side. -/
theorem Step.leads (h : Step endpoints chains x next)
    (hclean : chains.Clean endpoints remoteAddress) (hasks : Asks endpoints remoteAddress x) :
    chains.Leads endpoints remoteAddress next := by
  obtain ⟨landed, hlands, hanswers⟩ := h
  have hlanded := leads_of_lands hclean hlands
  exact hlanded.trans (leads_of_answers hlanded.clean hasks hanswers)

/-- **What an attempt keeps**, however it goes: a side that holds what belongs there goes on to hold
it, and nothing is handed in to it. -/
theorem Makes.leads {attempt : Attempt}
    (h : Makes endpoints remoteChain remoteAddress chains attempt next)
    (hclean : chains.Clean endpoints remoteAddress) :
    chains.Leads endpoints remoteAddress next :=
  (h.steps.restrict (runs_pair_iff.mp h.runs).asks).keeps
    (P := fun later => chains.Leads endpoints remoteAddress later)
    (fun ⟨hasks, hstep⟩ hleads => hleads.trans (hstep.leads hleads.clean hasks)) (.refl hclean)

/-- What any number of attempts keep. -/
theorem leads_of_attempts {attempts : List Attempt}
    (h : Steps (Makes endpoints remoteChain remoteAddress) chains attempts next)
    (hclean : chains.Clean endpoints remoteAddress) :
    chains.Leads endpoints remoteAddress next :=
  h.keeps (P := fun later => chains.Leads endpoints remoteAddress later)
    (fun hmakes hleads => hleads.trans (hmakes.leads hleads.clean)) (.refl hclean)

/-! ### Attempts in which nothing fails -/

/-- A registration that succeeds leaves its address, and has changed nothing if it was held. -/
theorem Step.of_registered {registration : Registration}
    (h : Step endpoints chains ⟨.register side foreign address, .ok registration⟩ next)
    (hclean : chains.Clean endpoints remoteAddress)
    (hwants : endpoints.Wants remoteAddress side foreign address) :
    next.held side foreign = some address ∧
      (chains.held side foreign = some address → registration = .unchanged) := by
  obtain ⟨landed, hlands, hanswers⟩ := h
  have hlanded := leads_of_lands hclean hlands
  cases hanswers with
  | unchanged _ hheld => exact ⟨hheld, fun _ => rfl⟩
  | submitted _ hheld =>
      exact ⟨Chains.held_store_self, fun h => absurd (hlanded.held_and_handedIn hwants h).1 hheld⟩

/-- A read-back that succeeds is as it should be on a side that holds what belongs there. -/
theorem Step.verdict_of_held {reply : Outcome (Option Address)} {chain : ChainId}
    (h : Step endpoints chains ⟨.registered side foreign, reply⟩ next)
    (hclean : chains.Clean endpoints remoteAddress)
    (hwants : endpoints.Wants remoteAddress side foreign address)
    (hheld : chains.held side foreign = some address)
    (hanswered : failure? ⟨.registered side foreign, reply⟩ = none) :
    verdict chain address reply = .ok () := by
  obtain ⟨landed, hlands, hanswers⟩ := h
  cases hanswers with
  | read =>
      rw [((leads_of_lands hclean hlands).held_and_handedIn hwants hheld).1]
      exact if_pos rfl
  | unread => contradiction

/-- After both registrations both addresses are in their places. -/
theorem exists_of_registrations {onHere onRemote : Registration}
    {later : List (Exchange surroundings)}
    (h : Steps (Step endpoints) chains
      (⟨.register .here remoteChain remoteAddress, .ok onHere⟩ ::
        ⟨.register .remote endpoints.chain address, .ok onRemote⟩ :: later) next)
    (hclean : chains.Clean endpoints remoteAddress)
    (hhere : endpoints.Wants remoteAddress .here remoteChain remoteAddress)
    (hremote : endpoints.Wants remoteAddress .remote endpoints.chain address) :
    ∃ middle : Chains, Steps (Step endpoints) middle later next ∧
      middle.Clean endpoints remoteAddress ∧
      (middle.held .here remoteChain = some remoteAddress ∧
        (chains.held .here remoteChain = some remoteAddress → onHere = .unchanged)) ∧
      middle.held .remote endpoints.chain = some address ∧
        (chains.held .remote endpoints.chain = some address → onRemote = .unchanged) := by
  obtain _ | ⟨hfirst, _ | ⟨hsecond, hlater⟩⟩ := h
  have hfirstAsks : Asks endpoints remoteAddress
      ⟨.register .here remoteChain remoteAddress, .ok onHere⟩ := by
    rintro _ _ _ ⟨⟩
    exact hhere
  have hsecondAsks : Asks endpoints remoteAddress
      ⟨.register .remote endpoints.chain address, .ok onRemote⟩ := by
    rintro _ _ _ ⟨⟩
    exact hremote
  have hone := hfirst.leads hclean hfirstAsks
  have htwo := hsecond.leads hone.clean hsecondAsks
  obtain ⟨hheldHere, hunchangedHere⟩ := hfirst.of_registered hclean hhere
  obtain ⟨hheldRemote, hunchangedRemote⟩ := hsecond.of_registered hone.clean hremote
  exact ⟨_, hlater, htwo.clean, ⟨(htwo.held_and_handedIn hhere hheldHere).1, hunchangedHere⟩,
    hheldRemote, fun h => hunchangedRemote (hone.held_and_handedIn hremote h).1⟩

/-- **An attempt in which nothing fails** ends with both addresses in their places, and says of a
side that held its address before that nothing was handed in to it. -/
theorem Makes.completes {attempt : Attempt}
    (h : Makes endpoints remoteChain remoteAddress chains attempt next)
    (hclean : chains.Clean endpoints remoteAddress)
    (hchain : endpoints.remoteChain = remoteChain) (haddress : endpoints.address = .ok address)
    (hanswered : ∀ x ∈ attempt.exchanges, failure? x = none) :
    ∃ registrations, attempt.outcome = .ok registrations ∧
      (next.held .here remoteChain = some remoteAddress ∧
        (chains.held .here remoteChain = some remoteAddress → registrations.onHere = .unchanged)) ∧
      next.held .remote endpoints.chain = some address ∧
        (chains.held .remote endpoints.chain = some address →
          registrations.onRemote = .unchanged) := by
  obtain ⟨exchanges, outcome⟩ := attempt
  obtain ⟨hruns, hsteps⟩ := h
  have hpairs := runs_pair_iff.mp hruns
  have hhere : endpoints.Wants remoteAddress .here remoteChain remoteAddress := ⟨hchain.symm, rfl⟩
  have hremote : endpoints.Wants remoteAddress .remote endpoints.chain address := ⟨rfl, haddress⟩
  cases hpairs with
  | wrongRemote hwrong => contradiction
  | unaddressed _ herror =>
      rw [haddress] at herror
      contradiction
  | unregisteredHere | unregisteredRemote => simp [failure?] at hanswered
  | unverifiedHere _ hown hreply =>
      obtain rfl := Except.ok.inj (haddress.symm.trans hown)
      obtain ⟨middle, hlater, hmiddle, ⟨hheld, -⟩, -⟩ :=
        exists_of_registrations hsteps hclean hhere hremote
      obtain _ | ⟨hread, -⟩ := hlater
      rw [hread.verdict_of_held hmiddle hhere hheld (hanswered _ (by simp))] at hreply
      contradiction
  | unverifiedRemote _ hown hfirst hsecond =>
      obtain rfl := Except.ok.inj (haddress.symm.trans hown)
      obtain ⟨middle, hlater, hmiddle, -, hheld, -⟩ :=
        exists_of_registrations hsteps hclean hhere hremote
      obtain _ | ⟨hread, _ | ⟨hread', -⟩⟩ := hlater
      have hone := hread.leads hmiddle asks_registered
      rw [hread'.verdict_of_held hone.clean hremote (hone.held_and_handedIn hremote hheld).1
        (hanswered _ (by simp))] at hsecond
      contradiction
  | paired _ hown =>
      obtain rfl := Except.ok.inj (haddress.symm.trans hown)
      obtain ⟨middle, hlater, hmiddle, ⟨hheldHere, hunchangedHere⟩,
        hheldRemote, hunchangedRemote⟩ := exists_of_registrations hsteps hclean hhere hremote
      obtain _ | ⟨hread, _ | ⟨hread', ⟨⟩⟩⟩ := hlater
      have hone := hread.leads hmiddle asks_registered
      have htwo := hone.trans (hread'.leads hone.clean asks_registered)
      exact ⟨_, rfl, ⟨(htwo.held_and_handedIn hhere hheldHere).1, hunchangedHere⟩,
        (htwo.held_and_handedIn hremote hheldRemote).1, hunchangedRemote⟩

/-- After an attempt in which nothing fails, each side holds what the pairing wants it to. -/
theorem Makes.held_of_wants {attempt : Attempt} {wanted : Address}
    (h : Makes endpoints remoteChain remoteAddress chains attempt next)
    (hclean : chains.Clean endpoints remoteAddress)
    (hchain : endpoints.remoteChain = remoteChain) (haddress : endpoints.address = .ok address)
    (hanswered : ∀ x ∈ attempt.exchanges, failure? x = none)
    (hwants : endpoints.Wants remoteAddress side foreign wanted) :
    next.held side foreign = some wanted := by
  obtain ⟨-, -, ⟨hheldHere, -⟩, hheldRemote, -⟩ :=
    h.completes hclean hchain haddress hanswered
  cases side with
  | here =>
      have hhere : endpoints.Wants remoteAddress .here remoteChain remoteAddress :=
        ⟨hchain.symm, rfl⟩
      obtain ⟨rfl, rfl⟩ := hwants.unique hhere
      exact hheldHere
  | remote =>
      have hremote : endpoints.Wants remoteAddress .remote endpoints.chain address :=
        ⟨rfl, haddress⟩
      obtain ⟨rfl, rfl⟩ := hwants.unique hremote
      exact hheldRemote

/-! ### The whole of it -/

/-- **What a pairing promises.** Whatever its endpoints answer, if only they reject what cannot be
registered, its outcome says what it has seen. And on two chains that keep what is registered, after
any attempts, an attempt in which nothing fails succeeds with both addresses in their places, and
hands nothing in to a side that held its address before. -/
theorem pair_reliable (endpoints : Pair) (remoteChain : ChainId) (remoteAddress : Address) :
    (∀ exchanges outcome, (pair endpoints remoteChain remoteAddress).Runs exchanges outcome →
      Rejects endpoints exchanges →
      Reports endpoints remoteChain remoteAddress exchanges outcome) ∧
    ∀ start attempts chains attempt next address,
      endpoints.remoteChain = remoteChain → endpoints.address = .ok address →
      (∀ side, start.handedIn side = []) →
      Steps (Makes endpoints remoteChain remoteAddress) start attempts chains →
      Makes endpoints remoteChain remoteAddress chains attempt next →
      (∀ x ∈ attempt.exchanges, failure? x = none) →
      ∃ registrations, attempt.outcome = .ok registrations ∧
        next.held .here remoteChain = some remoteAddress ∧
        next.held .remote endpoints.chain = some address ∧
        (chains.held .here remoteChain = some remoteAddress →
          registrations.onHere = .unchanged ∧ next.handedIn .here = chains.handedIn .here) ∧
        (chains.held .remote endpoints.chain = some address →
          registrations.onRemote = .unchanged ∧
            next.handedIn .remote = chains.handedIn .remote) := by
  refine ⟨fun exchanges outcome hruns hrejects => (runs_pair_iff.mp hruns).reports hrejects, ?_⟩
  intro start attempts chains attempt next address hchain haddress hstart hattempts hmakes hanswered
  have hclean : start.Clean endpoints remoteAddress := by
    intro side foreign address hmem
    rw [hstart side] at hmem
    contradiction
  have hearlier := (leads_of_attempts hattempts hclean).clean
  have hleads := hmakes.leads hearlier
  obtain ⟨registrations, houtcome, ⟨hheldHere, hunchangedHere⟩, hheldRemote, hunchangedRemote⟩ :=
    hmakes.completes hearlier hchain haddress hanswered
  have hhere : endpoints.Wants remoteAddress .here remoteChain remoteAddress := ⟨hchain.symm, rfl⟩
  have hremote : endpoints.Wants remoteAddress .remote endpoints.chain address := ⟨rfl, haddress⟩
  exact ⟨registrations, houtcome, hheldHere, hheldRemote,
    fun h => ⟨hunchangedHere h, (hleads.held_and_handedIn hhere h).2⟩,
    fun h => ⟨hunchangedRemote h, (hleads.held_and_handedIn hremote h).2⟩⟩

/-- Two endpoints, on the first chain and on the second. -/
def twoEndpoints : Pair := ⟨1, .ok ⟨FixedBytes.ofNat 7⟩, 2⟩

/-- Chains on which nothing was ever registered. -/
def nothing : Chains := ⟨fun _ _ => none, fun _ => []⟩

/-- An attempt whose second registration is handed in and fails. -/
def halfDone : Attempt where
  exchanges := [⟨.register .here 2 ⟨FixedBytes.ofNat 9⟩, .ok (.submitted "0x01")⟩,
    ⟨.register .remote 1 ⟨FixedBytes.ofNat 7⟩, .error (.rpc (.nodeError "busy"))⟩]
  outcome := .error (.rpc (.nodeError "busy"))

/-- What it leaves. -/
def afterHalf : Chains :=
  ((nothing.handIn .here 2 ⟨FixedBytes.ofNat 9⟩).store .here 2 ⟨FixedBytes.ofNat 9⟩).handIn
    .remote 1 ⟨FixedBytes.ofNat 7⟩

/-- An attempt that finds the first registration done. -/
def retried : Attempt where
  exchanges := [⟨.register .here 2 ⟨FixedBytes.ofNat 9⟩, .ok .unchanged⟩,
    ⟨.register .remote 1 ⟨FixedBytes.ofNat 7⟩, .ok (.submitted "0x02")⟩,
    ⟨.registered .here 2, .ok (some ⟨FixedBytes.ofNat 9⟩)⟩,
    ⟨.registered .remote 1, .ok (some ⟨FixedBytes.ofNat 7⟩)⟩]
  outcome := .ok ⟨.unchanged, .submitted "0x02"⟩

/-- An attempt that fails half-way is made good by the next one, which hands in what is missing. -/
theorem pair_reliable_retried :
    ∃ chains next,
      Makes twoEndpoints 2 ⟨FixedBytes.ofNat 9⟩ nothing halfDone chains ∧
      Makes twoEndpoints 2 ⟨FixedBytes.ofNat 9⟩ chains retried next ∧
      Reports twoEndpoints 2 ⟨FixedBytes.ofNat 9⟩ retried.exchanges retried.outcome ∧
      next.held .here 2 = some ⟨FixedBytes.ofNat 9⟩ ∧
      next.held .remote 1 = some ⟨FixedBytes.ofNat 7⟩ ∧
      next.handedIn .here = chains.handedIn .here := by
  have hfirst : Makes twoEndpoints 2 ⟨FixedBytes.ofNat 9⟩ nothing halfDone afterHalf :=
    ⟨runs_pair_iff.mpr (.unregisteredRemote rfl rfl),
      .cons ⟨_, .refl, .submitted (by decide) nofun⟩
        (.cons ⟨_, .refl, .lost (by decide) nofun⟩ (.nil _))⟩
  have hsecond : Makes twoEndpoints 2 ⟨FixedBytes.ofNat 9⟩ afterHalf retried _ :=
    ⟨runs_pair_iff.mpr (.paired rfl rfl rfl rfl),
      .cons ⟨_, .refl, .unchanged (by decide) (by decide)⟩
        (.cons ⟨_, .refl, .submitted (by decide) (by decide)⟩
          (.cons ⟨_, .refl, .read⟩ (.cons ⟨_, .refl, .read⟩ (.nil _))))⟩
  have hrejects : Rejects twoEndpoints retried.exchanges := by
    intro side foreign address reply fault hmem hfault
    simp only [retried, List.mem_cons, List.not_mem_nil, or_false] at hmem
    obtain hmem | hmem | hmem | hmem := hmem <;> cases hmem
    · have hok : checkForeignEndpoint 1 2 ⟨FixedBytes.ofNat 9⟩ = .ok () := by decide
      cases hok.symm.trans hfault
    · have hok : checkForeignEndpoint 2 1 ⟨FixedBytes.ofNat 7⟩ = .ok () := by decide
      cases hok.symm.trans hfault
  obtain ⟨hreports, hcompletes⟩ := pair_reliable twoEndpoints 2 ⟨FixedBytes.ofNat 9⟩
  obtain ⟨_, -, hhere, hremote, hunchanged, -⟩ := hcompletes nothing [halfDone] afterHalf retried _
    ⟨FixedBytes.ofNat 7⟩ rfl rfl (fun _ => rfl) (.cons hfirst (.nil _)) hsecond (by decide)
  exact ⟨afterHalf, _, hfirst, hsecond, hreports _ _ hsecond.runs hrejects, hhere, hremote,
    (hunchanged (by decide)).2⟩

end GuardianRelay.Pairing
