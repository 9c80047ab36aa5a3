import GuardianRelay.Pairing
import GuardianRelay.Proofs.Registry

/-!
# Runs of Pairings

A pairing asks two endpoints for four things: to register each other, and to read both back. Each of
these can fail, and a pairing is over with the first that does. This module enumerates the runs
(`Pairs`). What their outcomes say (`Reports`) is read off: what a pairing that succeeds has seen on
both chains, and how far the others came. Nothing has to be known of the endpoints for that, except
that they reject what cannot be registered. In a read-back nothing stands for the zero address, and
so an endpoint that took the zero address would seem to hold it.

## Main results

* `runs_pair_iff`: the runs are exactly the ones enumerated.
* `Pairs.requests_isPrefix`: the questions, in their order.
* `Pairs.reports`: what the outcome says, under all answers.
-/

namespace GuardianRelay.Pairing

variable {endpoints : Pair} {remoteChain : ChainId} {remoteAddress : Address}
  {exchanges : List (Exchange surroundings)} {outcome : Outcome Registrations}

/-! ### Sides -/

/-- The other one of the two endpoints. -/
def Side.other : Side → Side
  | here => remote
  | remote => here

/-- The chain of a side. -/
def Pair.chainOf (endpoints : Pair) : Side → ChainId
  | .here => endpoints.chain
  | .remote => endpoints.remoteChain

/-- The address that is to be registered on a side: that of the other one. -/
def Pair.expected (endpoints : Pair) (remoteAddress : Address) : Side → Outcome Address
  | .here => .ok remoteAddress
  | .remote => endpoints.address

/-- What belongs on a side: the address of the other one, for its chain. -/
def Pair.Wants (endpoints : Pair) (remoteAddress : Address) (side : Side) (foreign : ChainId)
    (address : Address) : Prop :=
  foreign = endpoints.chainOf side.other ∧ endpoints.expected remoteAddress side = .ok address

/-- There is one address that belongs on a side, for one chain. -/
theorem Pair.Wants.unique {side : Side} {foreign foreign' : ChainId} {address address' : Address}
    (h : endpoints.Wants remoteAddress side foreign address)
    (h' : endpoints.Wants remoteAddress side foreign' address') :
    foreign = foreign' ∧ address = address' :=
  ⟨h.1.trans h'.1.symm, Except.ok.inj (h.2.symm.trans h'.2)⟩

/-- The side that is asked. -/
def Request.side : Request → Side
  | .register side .. | .registered side _ => side

/-- The failure that was answered. -/
def failure? : Exchange surroundings → Option RelayError
  | ⟨.register .., .error error⟩ | ⟨.registered .., .error error⟩ => some error
  | _ => none

/-! ### Runs -/

/-- What a read-back says of the address that a chain should hold. -/
def verdict (chain : ChainId) (expected : Address) : Outcome (Option Address) → Outcome Unit
  | .error error => .error error
  | .ok held =>
    if held.getD Address.zero = expected then .ok ()
    else .error (.registrationVerificationFailed chain expected (held.getD Address.zero))

/-- Going on after a registration, unless it failed. -/
theorem runs_register_bind_iff {α : Type} {side : Side} {foreign : ChainId} {address : Address}
    {f : Registration → Action α} {outcome : Outcome α} :
    (register side foreign address >>= f).Runs exchanges outcome ↔
      (∃ registration later,
        exchanges = ⟨.register side foreign address, .ok registration⟩ :: later ∧
        (f registration).Runs later outcome) ∨
      ∃ error, exchanges = [⟨.register side foreign address, .error error⟩] ∧
        outcome = .error error := by
  rw [register, Program.bind_ask, Program.runs_ask_iff]
  simp only [Program.runs_ofOutcome_bind_iff]
  constructor
  · rintro ⟨_, later, rfl, ⟨registration, rfl, hlater⟩ | ⟨error, rfl, rfl, rfl⟩⟩
    · exact .inl ⟨registration, later, rfl, hlater⟩
    · exact .inr ⟨error, rfl, rfl⟩
  · rintro (⟨registration, later, rfl, hlater⟩ | ⟨error, rfl, rfl⟩)
    · exact ⟨_, later, rfl, .inl ⟨registration, rfl, hlater⟩⟩
    · exact ⟨_, [], rfl, .inr ⟨error, rfl, rfl, rfl⟩⟩

/-- Going on after a read-back, unless it says that something is wrong. -/
theorem runs_verify_bind_iff {α : Type} {side : Side} {chain foreign : ChainId}
    {expected : Address} {f : Unit → Action α} {outcome : Outcome α} :
    (verify side chain foreign expected >>= f).Runs exchanges outcome ↔
      ∃ reply later, exchanges = ⟨.registered side foreign, reply⟩ :: later ∧
        ((verdict chain expected reply = .ok () ∧ (f ()).Runs later outcome) ∨
          ∃ error, verdict chain expected reply = .error error ∧ later = [] ∧
            outcome = .error error) := by
  have hverify : verify side chain foreign expected =
      Program.ask (I := surroundings) (.registered side foreign) fun reply =>
        Program.ofOutcome (verdict chain expected reply) := by
    refine congrArg (Program.ask _) (funext fun reply => ?_)
    cases reply with
    | error error => rfl
    | ok held =>
        change (if held.getD Address.zero ≠ expected then _ else _) = _
        rw [verdict]
        split <;> simp_all [Program.ofOutcome]
  rw [hverify, Program.bind_ask, Program.runs_ask_iff]
  simp only [Program.runs_ofOutcome_bind_iff, Unique.exists_iff]

/-- How two endpoints are paired. -/
inductive Pairs (endpoints : Pair) (remoteChain : ChainId) (remoteAddress : Address) :
    List (Exchange surroundings) → Outcome Registrations → Prop
  /-- The remote endpoint is on another chain than it should be. -/
  | wrongRemote :
      endpoints.remoteChain ≠ remoteChain →
      Pairs endpoints remoteChain remoteAddress []
        (.error (.invalidForeignEndpoint (.wrongRemote endpoints.remoteChain remoteChain)))
  /-- There is no address to be registered for the endpoint that pairing starts from. -/
  | unaddressed {error : RelayError} :
      endpoints.remoteChain = remoteChain → endpoints.address = .error error →
      Pairs endpoints remoteChain remoteAddress [] (.error error)
  /-- The first registration failed. -/
  | unregisteredHere {address : Address} {error : RelayError} :
      endpoints.remoteChain = remoteChain → endpoints.address = .ok address →
      Pairs endpoints remoteChain remoteAddress
        [⟨.register .here remoteChain remoteAddress, .error error⟩] (.error error)
  /-- The second registration failed. -/
  | unregisteredRemote {address : Address} {onHere : Registration} {error : RelayError} :
      endpoints.remoteChain = remoteChain → endpoints.address = .ok address →
      Pairs endpoints remoteChain remoteAddress
        [⟨.register .here remoteChain remoteAddress, .ok onHere⟩,
          ⟨.register .remote endpoints.chain address, .error error⟩]
        (.error error)
  /-- The first read-back says that something is wrong. -/
  | unverifiedHere {address : Address} {onHere onRemote : Registration}
      {reply : Outcome (Option Address)} {error : RelayError} :
      endpoints.remoteChain = remoteChain → endpoints.address = .ok address →
      verdict endpoints.chain remoteAddress reply = .error error →
      Pairs endpoints remoteChain remoteAddress
        [⟨.register .here remoteChain remoteAddress, .ok onHere⟩,
          ⟨.register .remote endpoints.chain address, .ok onRemote⟩,
          ⟨.registered .here remoteChain, reply⟩]
        (.error error)
  /-- The second read-back says that something is wrong. -/
  | unverifiedRemote {address : Address} {onHere onRemote : Registration}
      {first second : Outcome (Option Address)} {error : RelayError} :
      endpoints.remoteChain = remoteChain → endpoints.address = .ok address →
      verdict endpoints.chain remoteAddress first = .ok () →
      verdict endpoints.remoteChain address second = .error error →
      Pairs endpoints remoteChain remoteAddress
        [⟨.register .here remoteChain remoteAddress, .ok onHere⟩,
          ⟨.register .remote endpoints.chain address, .ok onRemote⟩,
          ⟨.registered .here remoteChain, first⟩, ⟨.registered .remote endpoints.chain, second⟩]
        (.error error)
  /-- Both are in place. -/
  | paired {address : Address} {onHere onRemote : Registration}
      {first second : Outcome (Option Address)} :
      endpoints.remoteChain = remoteChain → endpoints.address = .ok address →
      verdict endpoints.chain remoteAddress first = .ok () →
      verdict endpoints.remoteChain address second = .ok () →
      Pairs endpoints remoteChain remoteAddress
        [⟨.register .here remoteChain remoteAddress, .ok onHere⟩,
          ⟨.register .remote endpoints.chain address, .ok onRemote⟩,
          ⟨.registered .here remoteChain, first⟩, ⟨.registered .remote endpoints.chain, second⟩]
        (.ok ⟨onHere, onRemote⟩)

/-- What is left of a pairing once it is known whose endpoints are to be paired. -/
def pairAt (endpoints : Pair) (remoteChain : ChainId) (remoteAddress address : Address) :
    Action Registrations := do
  let onHere ← register .here remoteChain remoteAddress
  let onRemote ← register .remote endpoints.chain address
  verify .here endpoints.chain remoteChain remoteAddress
  verify .remote endpoints.remoteChain endpoints.chain address
  return { onHere, onRemote }

/-- A pairing begins by making sure of that, and asks nothing for it. -/
theorem runs_pair_iff_pairAt :
    (pair endpoints remoteChain remoteAddress).Runs exchanges outcome ↔
      (endpoints.remoteChain ≠ remoteChain ∧ exchanges = [] ∧ outcome =
        .error (.invalidForeignEndpoint (.wrongRemote endpoints.remoteChain remoteChain))) ∨
      endpoints.remoteChain = remoteChain ∧
        ((∃ address, endpoints.address = .ok address ∧
          (pairAt endpoints remoteChain remoteAddress address).Runs exchanges outcome) ∨
        ∃ error, endpoints.address = .error error ∧ exchanges = [] ∧ outcome = .error error) := by
  rw [pair]
  split
  next hwrong =>
    rw [Program.throw_eq, Program.bind_fail, Program.runs_fail_iff]
    tauto
  next hright =>
    change (Program.ofOutcome endpoints.address >>=
      pairAt endpoints remoteChain remoteAddress).Runs exchanges outcome ↔ _
    rw [Program.runs_ofOutcome_bind_iff, and_iff_right (not_not.mp hright)]
    exact (or_iff_right fun h => hright h.1).symm

/-- Two endpoints are paired in one of these ways. -/
theorem runs_pair_iff :
    (pair endpoints remoteChain remoteAddress).Runs exchanges outcome ↔
      Pairs endpoints remoteChain remoteAddress exchanges outcome := by
  rw [runs_pair_iff_pairAt]
  constructor
  · rintro (⟨hwrong, rfl, rfl⟩ | ⟨hchain, ⟨address, haddress, hruns⟩ | ⟨error, haddress, rfl, rfl⟩⟩)
    · exact .wrongRemote hwrong
    · obtain ⟨onHere, _, rfl, hhere⟩ | ⟨error, rfl, rfl⟩ := runs_register_bind_iff.mp hruns
      · obtain ⟨onRemote, _, rfl, hremote⟩ | ⟨error, rfl, rfl⟩ := runs_register_bind_iff.mp hhere
        · obtain ⟨first, _, rfl, ⟨hfirst, hread⟩ | ⟨error, hfirst, rfl, rfl⟩⟩ :=
            runs_verify_bind_iff.mp hremote
          · obtain ⟨second, _, rfl, ⟨hsecond, hdone⟩ | ⟨error, hsecond, rfl, rfl⟩⟩ :=
              runs_verify_bind_iff.mp hread
            · obtain ⟨rfl, rfl⟩ := Program.runs_done_iff.mp hdone
              exact .paired hchain haddress hfirst hsecond
            · exact .unverifiedRemote hchain haddress hfirst hsecond
          · exact .unverifiedHere hchain haddress hfirst
        · exact .unregisteredRemote hchain haddress
      · exact .unregisteredHere hchain haddress
    · exact .unaddressed hchain haddress
  · intro h
    cases h with
    | wrongRemote hwrong => exact .inl ⟨hwrong, rfl, rfl⟩
    | unaddressed hchain haddress => exact .inr ⟨hchain, .inr ⟨_, haddress, rfl, rfl⟩⟩
    | @unregisteredHere address error hchain haddress =>
        refine .inr ⟨hchain, .inl ⟨address, haddress, ?_⟩⟩
        exact runs_register_bind_iff.mpr (.inr ⟨error, rfl, rfl⟩)
    | @unregisteredRemote address onHere error hchain haddress =>
        refine .inr ⟨hchain, .inl ⟨address, haddress, ?_⟩⟩
        refine runs_register_bind_iff.mpr (.inl ⟨onHere, _, rfl, ?_⟩)
        exact runs_register_bind_iff.mpr (.inr ⟨error, rfl, rfl⟩)
    | @unverifiedHere address onHere onRemote reply error hchain haddress hreply =>
        refine .inr ⟨hchain, .inl ⟨address, haddress, ?_⟩⟩
        refine runs_register_bind_iff.mpr (.inl ⟨onHere, _, rfl, ?_⟩)
        refine runs_register_bind_iff.mpr (.inl ⟨onRemote, _, rfl, ?_⟩)
        exact runs_verify_bind_iff.mpr ⟨reply, [], rfl, .inr ⟨error, hreply, rfl, rfl⟩⟩
    | @unverifiedRemote address onHere onRemote first second error hchain haddress hfirst hsecond =>
        refine .inr ⟨hchain, .inl ⟨address, haddress, ?_⟩⟩
        refine runs_register_bind_iff.mpr (.inl ⟨onHere, _, rfl, ?_⟩)
        refine runs_register_bind_iff.mpr (.inl ⟨onRemote, _, rfl, ?_⟩)
        refine runs_verify_bind_iff.mpr ⟨first, _, rfl, .inl ⟨hfirst, ?_⟩⟩
        exact runs_verify_bind_iff.mpr ⟨second, [], rfl, .inr ⟨error, hsecond, rfl, rfl⟩⟩
    | @paired address onHere onRemote first second hchain haddress hfirst hsecond =>
        refine .inr ⟨hchain, .inl ⟨address, haddress, ?_⟩⟩
        refine runs_register_bind_iff.mpr (.inl ⟨onHere, _, rfl, ?_⟩)
        refine runs_register_bind_iff.mpr (.inl ⟨onRemote, _, rfl, ?_⟩)
        refine runs_verify_bind_iff.mpr ⟨first, _, rfl, .inl ⟨hfirst, ?_⟩⟩
        refine runs_verify_bind_iff.mpr ⟨second, [], rfl, .inl ⟨hsecond, ?_⟩⟩
        exact .done _

/-- The questions of a pairing are these four, as far as it comes. -/
theorem Pairs.requests_isPrefix
    (h : Pairs endpoints remoteChain remoteAddress exchanges outcome) :
    exchanges = [] ∨ endpoints.remoteChain = remoteChain ∧
      ∃ address, endpoints.address = .ok address ∧ exchanges.map Exchange.request <+:
        [.register .here remoteChain remoteAddress, .register .remote endpoints.chain address,
          .registered .here remoteChain, .registered .remote endpoints.chain] := by
  cases h with
  | wrongRemote | unaddressed => exact .inl rfl
  | unregisteredHere hchain haddress => exact .inr ⟨hchain, _, haddress, _, rfl⟩
  | unregisteredRemote hchain haddress => exact .inr ⟨hchain, _, haddress, _, rfl⟩
  | unverifiedHere hchain haddress => exact .inr ⟨hchain, _, haddress, _, rfl⟩
  | unverifiedRemote hchain haddress => exact .inr ⟨hchain, _, haddress, _, rfl⟩
  | paired hchain haddress => exact .inr ⟨hchain, _, haddress, _, rfl⟩

/-! ### Under all answers -/

/-- The endpoints reject what cannot be registered. -/
def Rejects (endpoints : Pair) (exchanges : List (Exchange surroundings)) : Prop :=
  ∀ side foreign address reply fault, ⟨.register side foreign address, reply⟩ ∈ exchanges →
    checkForeignEndpoint (endpoints.chainOf side) foreign address = .error fault →
    reply = .error (.invalidForeignEndpoint fault)

/-- What was registered is not the zero address. -/
theorem Rejects.ne_zero (h : Rejects endpoints exchanges) {side : Side} {foreign : ChainId}
    {address : Address} {registration : Registration}
    (hmem : ⟨.register side foreign address, .ok registration⟩ ∈ exchanges) :
    address ≠ Address.zero := by
  cases hcheck : checkForeignEndpoint (endpoints.chainOf side) foreign address with
  | error fault => cases h side foreign address _ fault hmem hcheck
  | ok => exact (checkForeignEndpoint_eq_ok_iff.mp hcheck).2.2

/-- A read-back is as it should be if the chain holds the address. -/
theorem verdict_eq_ok_iff {chain : ChainId} {expected : Address}
    {reply : Outcome (Option Address)} (hexpected : expected ≠ Address.zero) :
    verdict chain expected reply = .ok () ↔ reply = .ok (some expected) := by
  obtain error | _ | address := reply
  · simp [verdict]
  · simp [verdict, hexpected.symm]
  · simp [verdict]

/-- What a read-back says of another address, or none. -/
theorem verdict_of_ne {chain : ChainId} {expected : Address} {held : Option Address}
    (hexpected : expected ≠ Address.zero) (hheld : held ≠ some expected) :
    verdict chain expected (.ok held) =
      .error (.registrationVerificationFailed chain expected (held.getD Address.zero)) := by
  rw [verdict, if_neg]
  intro heq
  have hok : verdict chain expected (.ok held) = .ok () := if_pos heq
  exact hheld (Except.ok.inj ((verdict_eq_ok_iff hexpected).mp hok))

/-- What the outcome of a pairing says. -/
structure Reports (endpoints : Pair) (remoteChain : ChainId) (remoteAddress : Address)
    (exchanges : List (Exchange surroundings)) (outcome : Outcome Registrations) : Prop where
  /-- If it succeeds, both endpoints were registered, and after that both chains held them. -/
  of_ok : ∀ {registrations}, outcome = .ok registrations →
    endpoints.remoteChain = remoteChain ∧ ∃ address, endpoints.address = .ok address ∧
      exchanges = [⟨.register .here remoteChain remoteAddress, .ok registrations.onHere⟩,
        ⟨.register .remote endpoints.chain address, .ok registrations.onRemote⟩,
        ⟨.registered .here remoteChain, .ok (some remoteAddress)⟩,
        ⟨.registered .remote endpoints.chain, .ok (some address)⟩]
  /-- If a chain holds another address than it should, or none, it fails and says so. -/
  of_mismatch : ∀ {side foreign held}, ⟨.registered side foreign, .ok held⟩ ∈ exchanges →
    ∃ expected, endpoints.Wants remoteAddress side foreign expected ∧
      (held ≠ some expected → outcome = .error (.registrationVerificationFailed
        (endpoints.chainOf side) expected (held.getD Address.zero)))
  /-- If the remote endpoint is on another chain, nothing is asked. -/
  of_wrongRemote : endpoints.remoteChain ≠ remoteChain →
    exchanges = [] ∧ ∃ fault, outcome = .error (.invalidForeignEndpoint fault)
  /-- If the first registration fails, nothing is asked of the remote endpoint. -/
  of_unregisteredHere : ∀ {foreign address error},
    ⟨.register .here foreign address, .error error⟩ ∈ exchanges →
    outcome = .error error ∧ ∀ x ∈ exchanges, x.request.side = .here

/-- A pairing that succeeds has seen both endpoints in place. -/
theorem Pairs.of_ok {registrations : Registrations}
    (h : Pairs endpoints remoteChain remoteAddress exchanges (.ok registrations))
    (hrejects : Rejects endpoints exchanges) :
    endpoints.remoteChain = remoteChain ∧ ∃ address, endpoints.address = .ok address ∧
      exchanges = [⟨.register .here remoteChain remoteAddress, .ok registrations.onHere⟩,
        ⟨.register .remote endpoints.chain address, .ok registrations.onRemote⟩,
        ⟨.registered .here remoteChain, .ok (some remoteAddress)⟩,
        ⟨.registered .remote endpoints.chain, .ok (some address)⟩] := by
  cases h with
  | paired hchain haddress hfirst hsecond =>
      have hhere := hrejects.ne_zero List.mem_cons_self
      have hremote := hrejects.ne_zero (List.mem_cons_of_mem _ List.mem_cons_self)
      obtain rfl := (verdict_eq_ok_iff hhere).mp hfirst
      obtain rfl := (verdict_eq_ok_iff hremote).mp hsecond
      exact ⟨hchain, _, haddress, rfl⟩

/-- What is read back was registered before, and a pairing ends with what its read-back says if
something is wrong. -/
theorem Pairs.verdict_of_mem (h : Pairs endpoints remoteChain remoteAddress exchanges outcome)
    {side : Side} {foreign : ChainId} {reply : Outcome (Option Address)}
    (hmem : ⟨.registered side foreign, reply⟩ ∈ exchanges) :
    ∃ expected, endpoints.Wants remoteAddress side foreign expected ∧
      (∃ registration, ⟨.register side foreign expected, .ok registration⟩ ∈ exchanges) ∧
      (verdict (endpoints.chainOf side) expected reply = .ok () ∨
        ∃ error, verdict (endpoints.chainOf side) expected reply = .error error ∧
          outcome = .error error) := by
  cases h with
  | wrongRemote | unaddressed | unregisteredHere | unregisteredRemote => simp at hmem
  | unverifiedHere hchain haddress hreply =>
      simp only [List.mem_cons, List.not_mem_nil, or_false] at hmem
      obtain hmem | hmem | hmem := hmem <;> cases hmem
      exact ⟨remoteAddress, ⟨hchain.symm, rfl⟩, ⟨_, List.mem_cons_self⟩, .inr ⟨_, hreply, rfl⟩⟩
  | unverifiedRemote hchain haddress hfirst hsecond =>
      simp only [List.mem_cons, List.not_mem_nil, or_false] at hmem
      obtain hmem | hmem | hmem | hmem := hmem <;> cases hmem
      · exact ⟨remoteAddress, ⟨hchain.symm, rfl⟩, ⟨_, List.mem_cons_self⟩, .inl hfirst⟩
      · exact ⟨_, ⟨rfl, haddress⟩, ⟨_, List.mem_cons_of_mem _ List.mem_cons_self⟩,
          .inr ⟨_, hsecond, rfl⟩⟩
  | paired hchain haddress hfirst hsecond =>
      simp only [List.mem_cons, List.not_mem_nil, or_false] at hmem
      obtain hmem | hmem | hmem | hmem := hmem <;> cases hmem
      · exact ⟨remoteAddress, ⟨hchain.symm, rfl⟩, ⟨_, List.mem_cons_self⟩, .inl hfirst⟩
      · exact ⟨_, ⟨rfl, haddress⟩, ⟨_, List.mem_cons_of_mem _ List.mem_cons_self⟩,
          .inl hsecond⟩

/-- **What the outcome of a pairing says**, whatever the endpoints answer, if only they reject what
cannot be registered. -/
theorem Pairs.reports (h : Pairs endpoints remoteChain remoteAddress exchanges outcome)
    (hrejects : Rejects endpoints exchanges) :
    Reports endpoints remoteChain remoteAddress exchanges outcome where
  of_ok houtcome := (houtcome ▸ h).of_ok hrejects
  of_mismatch {side foreign held} hmem := by
    obtain ⟨expected, hexpected, ⟨registration, hregistered⟩, hverdict⟩ := h.verdict_of_mem hmem
    refine ⟨expected, hexpected, fun hheld => ?_⟩
    rw [verdict_of_ne (hrejects.ne_zero hregistered) hheld] at hverdict
    obtain hok | ⟨error, herror, rfl⟩ := hverdict
    · contradiction
    · rw [Except.error.inj herror]
  of_wrongRemote hwrong := by
    cases h with
    | wrongRemote => exact ⟨rfl, _, rfl⟩
    | _ => contradiction
  of_unregisteredHere {foreign address error} hmem := by
    cases h with
    | unregisteredHere hchain haddress =>
        simp only [List.mem_cons, List.not_mem_nil, or_false] at hmem
        cases hmem
        simp [Request.side]
    | _ => simp at hmem

end GuardianRelay.Pairing
