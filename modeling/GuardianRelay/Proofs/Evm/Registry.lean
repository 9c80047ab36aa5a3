import GuardianRelay.Proofs.Evm.Abi
import GuardianRelay.Proofs.Registry

/-!
# Registries in Contracts

A contract keeps the endpoints of other chains in a map from chains to words, in which a word of
zeros stands for none. It is written by the call that registers an endpoint and read by another
call, and it takes both apart by itself: a selector, and words in which numbers stand with their
most significant byte first. This module models the contract and the node in front of it
(`Slots.Step`). Transactions land some time after they were handed in, under the names that the node
gave them, or never; the node has a receipt of a transaction only when that has landed; and no
answer of the node reads like a rejection.

## Main results

* `Endpoint.registration?_registerEmitter`, `queried?_registeredEmitter`: what the contract reads in
  the two calls.
* `Endpoint.runs_registered_iff`: reading is one question.
* `Slots.landings_of_ok`: an execution that succeeds has its transaction landed.
* `Slots.clear_of_error`: no failure of an execution reads like a rejection.
* `Endpoint.lawful_registering`: all that has to be known of a contract-model chain.
-/

namespace GuardianRelay.Evm

/-! ### Calls as the contract reads them -/

/-- The chain that stands in the first word of the arguments. -/
def chainArgument? (data : Bytes) : Option ChainId :=
  (Arguments.numberAt? (data.drop selectorLength) 0).bind fun n =>
    if n < UInt16.size then some (UInt16.ofNat n) else none

/-- The address that stands in the second word of the arguments. -/
def addressArgument? (data : Bytes) : Option Address :=
  (FixedBytes.ofList? (((data.drop selectorLength).drop wordLength).take 32)).map Address.mk

/-- The chain whose endpoint a call asks for. -/
def queried? (data : Bytes) : Option ChainId :=
  if data.take selectorLength = selector "getRegisteredEmitter(uint16)" then chainArgument? data
  else none

/-- The address that a transaction registers, and for which chain, if it calls the contract of an
endpoint to do that. -/
def Endpoint.registration? (endpoint : Endpoint) (transaction : UnsignedTransaction) :
    Option (ChainId × Address) :=
  if transaction.target = Address.ofEvm endpoint.program ∧
      transaction.data.take selectorLength = selector "registerEmitter(uint16,bytes32)" then
    (chainArgument? transaction.data).bind fun chain =>
      (addressArgument? transaction.data).map fun address => (chain, address)
  else none

/-- A chain is read in the word in which it is written. -/
theorem chainArgument?_append {front after : Bytes} (foreign : ChainId)
    (hfront : front.length = selectorLength) :
    chainArgument? (front ++ ((Word.ofNat foreign.toNat).toList ++ after)) = some foreign := by
  have hread := Arguments.numberAt?_append [] (Word.ofNat foreign.toNat) after
  have hvalue : (Word.ofNat foreign.toNat).toNat = foreign.toNat :=
    (FixedBytes.toNat_ofNat foreign.toNat).trans
      (Nat.mod_eq_of_lt (Nat.lt_of_lt_of_le foreign.toNat_lt (by decide)))
  rw [hvalue, List.nil_append, List.length_nil] at hread
  rw [chainArgument?, List.drop_left' hfront, hread, Option.bind_some, if_pos foreign.toNat_lt,
    UInt16.ofNat_toNat]

/-- An address is read in the word in which it is written. -/
theorem addressArgument?_append {front after : Bytes} {w : Word} (address : Address)
    (hfront : front.length = selectorLength) :
    addressArgument? (front ++ (w.toList ++ (address.bytes.toList ++ after))) = some address := by
  have hword : (w.toList ++ (address.bytes.toList ++ after)).drop wordLength =
      address.bytes.toList ++ after := List.drop_left' w.length_toList
  rw [addressArgument?, List.drop_left' hfront, hword,
    List.take_left' address.bytes.length_toList, FixedBytes.ofList?_toList]
  rfl

/-- The contract is asked for the chain that the endpoint asks for. -/
theorem queried?_registeredEmitter (foreign : ChainId) :
    queried? (Call.registeredEmitter foreign).encode = some foreign := by
  have hselector : (Call.registeredEmitter foreign).encode.take selectorLength =
      selector "getRegisteredEmitter(uint16)" := Call.selector_encode _
  rw [queried?, if_pos hselector]
  exact chainArgument?_append foreign (length_selector _)

/-- The contract registers the address that the endpoint registers, for the same chain. -/
theorem Endpoint.registration?_registerEmitter (endpoint : Endpoint) (foreign : ChainId)
    (address : Address) (value : ℕ) (limit : UInt64) :
    endpoint.registration?
      (endpoint.transaction (.registerEmitter foreign address) value limit) =
        some (foreign, address) := by
  have hchain : chainArgument? (Call.registerEmitter foreign address).encode = some foreign :=
    chainArgument?_append foreign (length_selector _)
  have haddress : addressArgument? (Call.registerEmitter foreign address).encode = some address :=
    addressArgument?_append address (length_selector _)
  have hselector : (Call.registerEmitter foreign address).encode.take selectorLength =
      selector "registerEmitter(uint16,bytes32)" := Call.selector_encode _
  rw [registration?, transaction, UnsignedTransaction.call, if_pos ⟨rfl, hselector⟩, hchain,
    haddress]
  rfl

/-! ### The contract and its node -/

/-- The state of a contract-model chain, as far as registrations can see it. -/
structure Slots where
  /-- The words of the contract's map. -/
  words : ChainId → Word
  /-- The names of the transactions that have landed. -/
  landed : Set TxId

/-- A failure that does not read as if there were a registration. -/
def IsClear (error : RelayError) : Prop :=
  error.rpcText?.any saysDuplicateRegistration = false

namespace Slots

/-- A chain on which nothing is registered. -/
def empty : Slots := ⟨fun _ => FixedBytes.zero, ∅⟩

/-- A transaction lands: what it registers is stored. -/
def store (state : Slots) (endpoint : Endpoint) (tx : TxId) (signed : SignedTransaction) :
    Slots where
  words := match endpoint.registration? signed.transaction with
    | some (foreign, address) => Function.update state.words foreign address.bytes
    | none => state.words
  landed := insert tx state.landed

/-- An exchange in which a node answers from the state of the chain. A question for the endpoint of
a chain is answered with the word that the contract has, and receipts are there for transactions
that have landed. Other questions may be answered in any way, and any question with a failure. -/
def Answers (state : Slots) (endpoint : Endpoint) : Exchange surroundings → Prop
  | ⟨.node _, .error error⟩ => IsClear error
  | ⟨.node (.call target data), .ok reply⟩ => ∀ foreign, target = endpoint.program →
    queried? data = some foreign → reply = (state.words foreign).toList
  | ⟨.node (.receipt tx), .ok (some receipt)⟩ => receipt.succeeded = true ∧ tx ∈ state.landed
  | _ => True

/-- One step of a contract-model chain. -/
inductive Step (endpoint : Endpoint) : Slots → ChainEvent surroundings → Slots → Prop
  /-- Something is asked that hands nothing in. -/
  | asked {state : Slots} {x : Exchange surroundings} :
      submission? x = none → state.Answers endpoint x → Step endpoint state (.asked x) state
  /-- A transaction is taken, under a new name, which does not read like a rejection either. -/
  | taken {state : Slots} {signed : SignedTransaction} {tx : TxId} :
      tx ∉ state.landed →
      IsClear (.rpc (.unconfirmed tx endpoint.settings.confirmationSeconds)) →
      Step endpoint state (.asked ⟨.node (.submit signed), .ok tx⟩) state
  /-- The node fails when it is given a transaction, which may be on its way nevertheless. -/
  | unanswered {state : Slots} {signed : SignedTransaction} {error : RelayError} :
      IsClear error → Step endpoint state (.asked ⟨.node (.submit signed), .error error⟩) state
  /-- A transaction lands. -/
  | landed {state : Slots} {tx : TxId} {signed : SignedTransaction} :
      tx ∉ state.landed → Step endpoint state (.landed tx signed) (state.store endpoint tx signed)

variable {endpoint : Endpoint} {state next : Slots} {events : List (ChainEvent surroundings)}
  {held : ChainId → Option Address}

/-- The map that a state of the chain is: no word stands for the zero address. -/
def Holds (state : Slots) (held : ChainId → Option Address) : Prop :=
  ∀ foreign, state.words foreign = ((held foreign).getD Address.zero).bytes ∧
    held foreign ≠ some Address.zero

/-! ### What happens in a step -/

/-- A transaction that has landed stays so. -/
theorem Step.landed_subset {event : ChainEvent surroundings} (h : Step endpoint state event next) :
    state.landed ⊆ next.landed := by
  cases h with
  | asked | taken | unanswered => exact Set.Subset.rfl
  | landed => exact Set.subset_insert _ _

/-- Transactions that have landed stay so. -/
theorem landed_subset (h : Steps (Step endpoint) state events next) :
    state.landed ⊆ next.landed :=
  h.keeps (P := fun later => state.landed ⊆ later.landed)
    (fun hstep hsubset => hsubset.trans hstep.landed_subset) Set.Subset.rfl

/-- A name under which a transaction has landed in the meantime is that of a landing. -/
theorem exists_landed_of_mem {tx : TxId} (h : Steps (Step endpoint) state events next)
    (hbefore : tx ∉ state.landed) (hafter : tx ∈ next.landed) :
    ∃ signed, .landed tx signed ∈ events := by
  induction h with
  | nil => contradiction
  | @cons start next finish event events hfirst _ ih =>
      by_cases hnext : tx ∈ next.landed
      · cases hfirst with
        | asked | taken | unanswered => contradiction
        | @landed tx' signed =>
            obtain rfl : tx = tx' := (Set.mem_insert_iff.mp hnext).resolve_right hbefore
            exact ⟨signed, List.mem_cons_self⟩
      · obtain ⟨signed, hsigned⟩ := ih hnext hafter
        exact ⟨signed, List.mem_cons_of_mem _ hsigned⟩

/-- What was asked was asked in a step. -/
theorem exists_step_of_mem_asked {x : Exchange surroundings}
    (h : Steps (Step endpoint) state events next) (hx : x ∈ askedIn events) :
    ∃ earlier later, state.landed ⊆ earlier.landed ∧ Step endpoint earlier (.asked x) later ∧
      later.landed ⊆ next.landed := by
  obtain ⟨event, hevent, hasked⟩ := List.mem_filterMap.mp hx
  obtain ⟨before, after, rfl⟩ := List.append_of_mem hevent
  obtain ⟨earlier, hbefore, _ | ⟨hstep, hafter⟩⟩ := Steps.append_iff.mp h
  cases event with
  | asked exchange =>
      obtain rfl := Option.some.inj hasked
      exact ⟨earlier, _, landed_subset hbefore, hstep, landed_subset hafter⟩
  | landed => contradiction

/-- A failure that the node answered does not read like a rejection. -/
theorem isClear_of_mem {request : NodeRequest} {error : RelayError}
    (h : Steps (Step endpoint) state events next)
    (hmem : ⟨.node request, .error error⟩ ∈ askedIn events) : IsClear error := by
  obtain ⟨_, _, -, hstep, -⟩ := exists_step_of_mem_asked h hmem
  cases hstep with
  | asked _ hanswers =>
      cases request <;> exact hanswers
  | unanswered hclear => exact hclear

/-- A name that was given is new, and does not read like a rejection. -/
theorem of_taken {signed : SignedTransaction} {tx : TxId}
    (h : Steps (Step endpoint) state events next)
    (hmem : ⟨.node (.submit signed), .ok tx⟩ ∈ askedIn events) :
    tx ∉ state.landed ∧
      IsClear (.rpc (.unconfirmed tx endpoint.settings.confirmationSeconds)) := by
  obtain ⟨_, _, hsubset, hstep, -⟩ := exists_step_of_mem_asked h hmem
  cases hstep with
  | asked hnone => contradiction
  | taken hfresh hclear => exact ⟨fun hlanded => hfresh (hsubset hlanded), hclear⟩

/-- A receipt that was given is that of a transaction that has landed. -/
theorem of_receipt {tx : TxId} {receipt : Receipt}
    (h : Steps (Step endpoint) state events next)
    (hmem : ⟨.node (.receipt tx), .ok (some receipt)⟩ ∈ askedIn events) :
    receipt.succeeded = true ∧ tx ∈ next.landed := by
  obtain ⟨_, later, -, hstep, hsubset⟩ := exists_step_of_mem_asked h hmem
  cases hstep with
  | asked _ hanswers => exact ⟨hanswers.1, hsubset hanswers.2⟩

/-! ### What executions come to -/

variable {call : Call} {value : ℕ}

/-- **An execution that succeeds has its transaction landed** while it waited. -/
theorem landings_of_ok {receipt : Receipt} (h : Steps (Step endpoint) state events next)
    (hruns : Endpoint.Executes endpoint call value (askedIn events) (.ok receipt)) :
    ∃ tx signed, .landed tx signed ∈ events := by
  obtain ⟨signed, tx, htaken, hreceipt, -⟩ := hruns.of_ok
  exact ⟨tx, exists_landed_of_mem h (of_taken h htaken).1 (of_receipt h hreceipt).2⟩

/-- **No failure of an execution reads like a rejection.** -/
theorem clear_of_error {error : RelayError} (h : Steps (Step endpoint) state events next)
    (hruns : Endpoint.Executes endpoint call value (askedIn events) (.error error)) :
    IsClear error := by
  have hnode (request : NodeRequest)
      (hmem : ⟨.node request, .error error⟩ ∈ askedIn events) : IsClear error :=
    isClear_of_mem h hmem
  generalize hasked : askedIn events = asked at hruns hnode
  generalize houtcome : (Except.error error : Outcome Receipt) = outcome at hruns
  cases hruns with
  | refused hrefused =>
      obtain rfl := Except.error.inj houtcome
      obtain rfl := Endpoint.eq_error_of_limitAfter hrefused
      exact hnode _ List.mem_cons_self
  | unpriced =>
      obtain rfl := Except.error.inj houtcome
      exact hnode _ (List.mem_cons_of_mem _ List.mem_cons_self)
  | unweighed =>
      obtain rfl := Except.error.inj houtcome
      exact hnode _ (List.mem_cons_of_mem _ (List.mem_cons_of_mem _ List.mem_cons_self))
  | unaffordable =>
      obtain rfl := Except.error.inj houtcome
      rfl
  | unnamed _ hlearning =>
      obtain rfl := Except.error.inj houtcome
      cases hlearning with
      | untold => exact hnode .networkId (by simp)
  | unsubmitted _ _ hsubmitting =>
      obtain rfl := Except.error.inj houtcome
      obtain ⟨request, -, hanswer⟩ | ⟨fields, fault, -, rfl⟩ := hsubmitting.of_error
      · exact hnode request (by simp [hanswer])
      · rfl
  | @submitted _ _ _ tx _ _ _ _ _ _ _ hsubmitting hwaiting =>
      obtain rfl := houtcome
      obtain ⟨signed, hsigned⟩ := hsubmitting.mem_of_ok
      obtain hanswer | ⟨rfl, receipt, hreceipt, hfailed⟩ | ⟨rfl, -⟩ := hwaiting.of_error
      · exact hnode (.receipt tx) (by simp [hanswer])
      · -- a transaction that has landed did not fail
        have hmem : ⟨.node (.receipt tx), .ok (some receipt)⟩ ∈ askedIn events := by
          rw [hasked]
          simp [hreceipt]
        rw [(of_receipt h hmem).1] at hfailed
        contradiction
      · have hmem : ⟨.node (.submit signed), .ok tx⟩ ∈ askedIn events := by
          rw [hasked]
          simp [hsigned]
        exact (of_taken h hmem).2

end Slots

/-! ### Reading -/

namespace Endpoint

variable {endpoint : Endpoint} {exchanges : List (Exchange surroundings)} {foreign : ChainId}
  {address : Address}

/-- The question for the endpoint of a chain, with its answer. -/
def query (endpoint : Endpoint) (foreign : ChainId) (reply : Outcome Bytes) :
    Exchange surroundings :=
  ⟨.node (.call endpoint.program (Call.registeredEmitter foreign).encode), reply⟩

/-- What a word of the contract's map stands for. -/
def endpointOf (w : Word) : Option Address :=
  if (Address.mk w).isZero then none else some ⟨w⟩

/-- The endpoint that an answer tells. -/
def heldIn (reply : Outcome Bytes) : Outcome (Option Address) :=
  reply >>= fun data => (Outcome.ofRpc (word data 0)).map endpointOf

/-- The endpoint of a chain is read with one question. -/
theorem runs_registered_iff {outcome : Outcome (Option Address)} :
    (endpoint.registered foreign).Runs exchanges outcome ↔
      ∃ reply, exchanges = [endpoint.query foreign reply] ∧ outcome = heldIn reply := by
  have hregistered : endpoint.registered foreign =
      Action.call endpoint.program (.registeredEmitter foreign) >>= fun data =>
        Program.ofOutcome ((Outcome.ofRpc (word data 0)).map endpointOf) := by
    rw [registered]
    refine bind_congr fun data => ?_
    cases word data 0 <;> rfl
  rw [hregistered]
  constructor
  · intro h
    obtain ⟨data, _, rfl, hread⟩ | ⟨error, rfl, rfl⟩ := Action.runs_node_bind_iff.mp h
    · obtain ⟨rfl, rfl⟩ := Program.runs_ofOutcome_iff.mp hread
      exact ⟨.ok data, rfl, rfl⟩
    · exact ⟨.error error, rfl, rfl⟩
  · rintro ⟨error | data, rfl, rfl⟩
    · exact Action.runs_node_bind_iff.mpr (.inr ⟨error, rfl, rfl⟩)
    · exact Action.runs_node_bind_iff.mpr
        (.inl ⟨data, [], rfl, Program.runs_ofOutcome_iff.mpr ⟨rfl, rfl⟩⟩)

/-- The word of an address stands for it, and that of the zero address for none. -/
theorem endpointOf_getD {held : Option Address} (h : held ≠ some Address.zero) :
    endpointOf (held.getD Address.zero).bytes = held := by
  cases held with
  | none => rfl
  | some address =>
      have hne : ¬ (Address.mk address.bytes).isZero = true := fun hzero =>
        h (congrArg some (Address.isZero_iff.mp hzero))
      exact if_neg hne

/-- The first word of an answer that is one word is that word. -/
theorem word_toList (w : Word) : word w.toList 0 = .ok w := by
  rw [word, Nat.zero_mul, List.drop_zero, List.take_of_length_le (by simp [wordLength]),
    FixedBytes.ofList?_toList]

/-! ### The whole of it -/

/-- An endpoint that registers others, and the contract-model chain on which it does. -/
def registering (endpoint : Endpoint) : Registering surroundings Slots where
  chain := endpoint.chain
  register := endpoint.register
  registered := endpoint.registered
  submission? := submission?
  failure? := Action.failure?
  landing?
    | .landed _ signed => some signed
    | .asked _ => none
  carried? signed := endpoint.registration? signed.transaction
  Step := Slots.Step endpoint
  empty := .empty

/-- A transaction registers an address for a chain if it is one of that call. -/
def RegistersBy (endpoint : Endpoint) (signed : SignedTransaction) (foreign : ChainId)
    (address : Address) : Prop :=
  ∃ limit, signed.transaction = endpoint.transaction (.registerEmitter foreign address) 0 limit

/-- The word that a contract holds is read as what it stands for. -/
theorem heldIn_of_holds {state : Slots} {held : ChainId → Option Address} (h : state.Holds held)
    (foreign : ChainId) : heldIn (.ok (state.words foreign).toList) = .ok (held foreign) := by
  obtain ⟨hword, hzero⟩ := h foreign
  change (Outcome.ofRpc (word (state.words foreign).toList 0)).map endpointOf = _
  rw [word_toList, hword]
  exact congrArg Except.ok (endpointOf_getD hzero)

/-- What a contract holds is read. -/
theorem reads_of_holds {state : Slots} {held : ChainId → Option Address} (h : state.Holds held)
    (foreign : ChainId) : endpoint.registering.Reads state foreign (held foreign) where
  ends {exchanges outcome next} hruns hsteps := by
    obtain ⟨reply, rfl, rfl⟩ := runs_registered_iff.mp hruns
    obtain _ | ⟨hstep, ⟨⟩⟩ := hsteps
    cases hstep with
    | asked _ hanswers =>
        refine ⟨rfl, ?_⟩
        cases reply with
        | error error => exact .inr ⟨error, List.mem_cons_self, rfl⟩
        | ok data =>
            obtain rfl : data = (state.words foreign).toList :=
              hanswers foreign rfl (queried?_registeredEmitter foreign)
            exact .inl (heldIn_of_holds h foreign)
  answers := by
    refine ⟨[endpoint.query foreign (.ok (state.words foreign).toList)],
      runs_registered_iff.mpr ⟨_, rfl, (heldIn_of_holds h foreign).symm⟩,
      .cons (.asked rfl ?_) (.nil _)⟩
    intro foreign' _ hqueried
    rw [queried?_registeredEmitter] at hqueried
    rw [Option.some.inj hqueried]

/-- What lands is held. -/
theorem holds_of_step {state next : Slots} {event : ChainEvent surroundings}
    {held : ChainId → Option Address} (hstep : Slots.Step endpoint state event next)
    (h : state.Holds held)
    (hregisters : ∀ signed, endpoint.registering.landing? event = some signed →
      ∃ foreign address, address ≠ Address.zero ∧ endpoint.RegistersBy signed foreign address) :
    next.Holds fun foreign => (endpoint.registering.landed? foreign event).or (held foreign) := by
  cases hstep with
  | asked | taken | unanswered => exact h
  | @landed tx signed =>
      obtain ⟨chain, address, hne, limit, htransaction⟩ := hregisters signed rfl
      have hcarried : endpoint.registration? signed.transaction = some (chain, address) := by
        rw [htransaction, registration?_registerEmitter]
      intro foreign
      have hlanded : endpoint.registering.landed? foreign (.landed tx signed) =
          if chain = foreign then some address else none := by
        change ((endpoint.registration? signed.transaction).bind _) = _
        rw [hcarried]
        rfl
      have hwords : (state.store endpoint tx signed).words =
          Function.update state.words chain address.bytes := by
        simp only [Slots.store, hcarried]
      dsimp only
      rw [hlanded, hwords]
      by_cases hchain : chain = foreign
      · subst hchain
        simp [hne]
      · simpa [hchain, Ne.symm hchain] using h foreign

/-- A transaction is landed by an execution. -/
theorem runs_land_iff {result : Outcome TxId} :
    (endpoint.registrar foreign address).land.Runs exchanges result ↔
      ∃ outcome, Executes endpoint (.registerEmitter foreign address) 0 exchanges outcome ∧
        result = outcome.map Receipt.hash := by
  rw [registrar, map_eq_pure_bind, Program.runs_bind_iff]
  simp only [runs_execute_iff, Program.pure_eq, Program.runs_done_iff]
  constructor
  · rintro (⟨receipt, _, _, hexecutes, ⟨rfl, rfl⟩, rfl⟩ | ⟨error, hexecutes, rfl⟩)
    · rw [List.append_nil]
      exact ⟨_, hexecutes, rfl⟩
    · exact ⟨_, hexecutes, rfl⟩
  · rintro ⟨error | receipt, hexecutes, rfl⟩
    · exact .inr ⟨error, hexecutes, rfl⟩
    · exact .inl ⟨receipt, exchanges, [], hexecutes, ⟨rfl, rfl⟩, (List.append_nil _).symm⟩

/-- **All that has to be known of a contract-model chain.** -/
theorem lawful_registering (endpoint : Endpoint) :
    endpoint.registering.Lawful Set.univ endpoint.registrar Slots.Holds endpoint.RegistersBy where
  register_eq := register_eq
  check_eq := rfl
  address_eq := rfl
  read_eq := rfl
  landing?_landed := rfl
  carried?_eq := by
    rintro signed foreign address ⟨limit, htransaction⟩
    change endpoint.registration? signed.transaction = _
    rw [htransaction, registration?_registerEmitter]
  holds_empty _ := ⟨rfl, nofun⟩
  holds_step hstep h hregisters := holds_of_step hstep h fun signed hsigned => by
    obtain ⟨foreign, -, address, hne, hby⟩ := hregisters signed hsigned
    exact ⟨foreign, address, hne, hby⟩
  reads h _ := reads_of_holds h _
  submissions_registered hruns := by
    obtain ⟨reply, rfl, -⟩ := runs_registered_iff.mp hruns
    rfl
  submissions_land hruns := by
    obtain ⟨outcome, hexecutes, -⟩ := runs_land_iff.mp hruns
    obtain hnone | ⟨_, limit, _, signed, -, -, hone, htransaction⟩ := hexecutes.submissions_eq
    · exact .inl hnone
    · exact .inr ⟨signed, hone, limit, htransaction⟩
  landings_of_ok hruns hsteps := by
    obtain ⟨error | receipt, hexecutes, houtcome⟩ := runs_land_iff.mp hruns
    · contradiction
    · obtain ⟨tx, signed, hlanded⟩ := Slots.landings_of_ok hsteps hexecutes
      exact List.ne_nil_of_mem (List.mem_filterMap.mpr ⟨_, hlanded, rfl⟩)
  clear_of_error hruns hsteps := by
    obtain ⟨error | receipt, hexecutes, houtcome⟩ := runs_land_iff.mp hruns
    · obtain rfl := Except.error.inj houtcome
      exact Slots.clear_of_error hsteps hexecutes
    · contradiction

end Endpoint

end GuardianRelay.Evm
