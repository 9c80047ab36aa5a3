import GuardianRelay.Proofs.Registry
import GuardianRelay.Proofs.Svm.Posting

/-!
# Registries in Accounts

On an account-model chain the endpoint of another chain is kept in an account of its own, whose
address is derived from the chain. It is written by an instruction that carries the chain and the
address and names the account, and it is read from the data of the account. In both of them numbers
stand with their least significant byte first, behind marks that differ. This module models the
program and the node in front of it (`Accounts.Step`): a landed registration leaves its record in
the account that the instruction names, whatever account that is. That the right account is read
again rests on the accounts of different chains being different (`Endpoint.Separates`).

## Main results

* `EndpointRecord.parse_encode`: a record is read from an account as it is written there.
* `Endpoint.registration?_of_registerInstruction`: what the program reads in the instruction.
* `Endpoint.runs_registered_iff`: reading is one question, if there is an address for the account.
* `Endpoint.lawful_registering`: all that has to be known of an account-model chain.
-/

namespace GuardianRelay.Svm

/-! ### Records -/

/-- A mark takes eight bytes. -/
theorem length_accountMark (name : String) : (accountMark name).length = 8 := by
  rw [accountMark, discriminator, List.length_take, FixedBytes.length_toList]
  rfl

/-- A record is read from an account as it is written there. -/
theorem EndpointRecord.parse_encode (record : EndpointRecord) (name : String) :
    parse (record.encode name) = .ok record := by
  have hchain : ((record.encode name).drop 8).take 2 =
      Bytes.littleEndian 2 record.chain.toNat := by
    rw [encode, List.append_assoc, List.drop_left' (length_accountMark name),
      List.take_left' (Bytes.length_littleEndian _ _)]
  have haddress : ((record.encode name).drop 10).take 32 = record.address.bytes.toList := by
    rw [encode, List.drop_left' (by simp [length_accountMark]),
      List.take_of_length_le (by simp [Address.toList])]
    rfl
  have hvalue : Bytes.toNatLE (Bytes.littleEndian 2 record.chain.toNat) = record.chain.toNat := by
    rw [Bytes.toNatLE_littleEndian]
    exact Nat.mod_eq_of_lt record.chain.toNat_lt
  rw [parse, haddress, FixedBytes.ofList?_toList, hchain, hvalue, UInt16.ofNat_toNat]

namespace Endpoint

/-! ### Instructions as the program reads them -/

/-- The program that an endpoint drives. -/
def program (endpoint : Endpoint) : Address :=
  match endpoint.role with
  | .messenger messenger => messenger.program
  | .tokens integration => integration.program

/-- The name of the instruction that registers an endpoint. -/
def registerName (endpoint : Endpoint) : String :=
  match endpoint.role with
  | .messenger _ => "register_emitter"
  | .tokens _ => "register_foreign_contract"

/-- The name of the accounts that record endpoints. -/
def recordName (endpoint : Endpoint) : String :=
  match endpoint.role with
  | .messenger _ => "ForeignEmitter"
  | .tokens _ => "ForeignContract"

/-- The address that a transaction registers, and for which chain, if it is an instruction to the
program of an endpoint to do that. -/
def registration? (endpoint : Endpoint) (transaction : UnsignedTransaction) :
    Option (ChainId × Address) :=
  if transaction.target = endpoint.program ∧
      transaction.data.take 8 = instructionMark endpoint.registerName then do
    let (chain, b) ← littleEndian? 2 (transaction.data.drop 8)
    let (address, _) ← key? b
    return (.ofNat chain, address)
  else none

variable {endpoint : Endpoint} {foreign : ChainId} {address : Address}
  {transaction : UnsignedTransaction} {exchanges : List (Exchange surroundings)}

/-- What is read in data that have the mark of the instruction. -/
theorem registration?_eq (htarget : transaction.target = endpoint.program)
    (hdata : transaction.data = instructionMark endpoint.registerName ++
      Bytes.littleEndian 2 foreign.toNat ++ address.toList) :
    endpoint.registration? transaction = some (foreign, address) := by
  have hmark : transaction.data.take 8 = instructionMark endpoint.registerName := by
    rw [hdata, List.append_assoc, List.take_left' (length_instructionMark _)]
  have hfields : transaction.data.drop 8 =
      Bytes.littleEndian 2 foreign.toNat ++ address.toList := by
    rw [hdata, List.append_assoc, List.drop_left' (length_instructionMark _)]
  have hchain := littleEndian?_littleEndian (n := 2) foreign.toNat_lt address.toList
  have hkey := key?_append address []
  rw [List.append_nil] at hkey
  rw [registration?, if_pos ⟨htarget, hmark⟩, hfields, hchain]
  simp only [Option.bind_eq_bind, Option.bind_some, hkey, Option.pure_def, UInt16.ofNat_toNat]

/-- **What the program reads in the instruction** that registers an address for a chain: both of
them; and the account that the instruction names in the third place is that of the chain. -/
theorem registration?_of_registerInstruction
    (h : endpoint.registerInstruction foreign address = .ok transaction) :
    endpoint.registration? transaction = some (foreign, address) ∧
      ∃ record, endpoint.endpointRecord foreign = .ok record ∧
        transaction.accounts[2]? = some (.writable record) := by
  have hname (htarget : transaction.target = endpoint.program)
      (hdata : transaction.data = instructionMark endpoint.registerName ++
        Bytes.littleEndian 2 foreign.toNat ++ address.toList) :
      endpoint.registration? transaction = some (foreign, address) :=
    registration?_eq htarget hdata
  rw [registerInstruction] at h
  rw [endpointRecord]
  rw [program, registerName] at hname
  cases hrole : endpoint.role with
  | messenger messenger =>
      rw [hrole] at h hname
      obtain ⟨record, hrecord, h⟩ := Outcome.bind_eq_ok_iff.mp (Outcome.mapError_eq_ok_iff.mp h)
      obtain rfl := Except.ok.inj h
      exact ⟨hname rfl rfl, record, hrecord, rfl⟩
  | tokens integration =>
      rw [hrole] at h hname
      dsimp only at h
      split at h
      next => contradiction
      next bridge _ =>
        obtain ⟨record, hrecord, h⟩ :=
          Outcome.bind_eq_ok_iff.mp (Outcome.mapError_eq_ok_iff.mp h)
        obtain ⟨registered, -, h⟩ := Outcome.bind_eq_ok_iff.mp h
        obtain rfl := Except.ok.inj h
        exact ⟨hname rfl rfl, record, hrecord, rfl⟩

end Endpoint

/-! ### The program and its node -/

/-- The data of the accounts of a chain. -/
abbrev Accounts := Address → Option Bytes

/-- A failure that does not read as if there were an account already. -/
def IsClear (error : RelayError) : Prop := error.rpcText?.any saysInUse = false

namespace Accounts

/-- A transaction lands: what it registers is recorded in the account that it names. -/
def store (state : Accounts) (endpoint : Endpoint) (signed : SignedTransaction) : Accounts :=
  match endpoint.registration? signed.transaction, signed.transaction.accounts[2]? with
  | some (chain, address), some use =>
    Function.update state use.key
      (some (EndpointRecord.encode ⟨chain, address⟩ endpoint.recordName))
  | _, _ => state

/-- An exchange in which a node answers from the state of the chain. A question for an account is
answered with its data. Other questions may be answered in any way, and any question with a
failure. -/
def Answers (state : Accounts) : Exchange surroundings → Prop
  | ⟨_, .error error⟩ => IsClear error
  | ⟨.account key, .ok data⟩ => data = state key
  | _ => True

/-- One step of an account-model chain. -/
inductive Step (endpoint : Endpoint) : Accounts → ChainEvent surroundings → Accounts → Prop
  /-- Something is asked that hands nothing in. -/
  | asked {state : Accounts} {x : Exchange surroundings} :
      submission? x = none → state.Answers x → Step endpoint state (.asked x) state
  /-- The node answers that a transaction has landed which it was given. -/
  | confirmed {state : Accounts} {signed : SignedTransaction} {tx : TxId} :
      Step endpoint state (.asked ⟨.submit signed, .ok tx⟩) (state.store endpoint signed)
  /-- The node fails when it is given a transaction, which may be on its way nevertheless. -/
  | unanswered {state : Accounts} {signed : SignedTransaction} {error : RelayError} :
      IsClear error → Step endpoint state (.asked ⟨.submit signed, .error error⟩) state
  /-- A transaction lands. -/
  | landed {state : Accounts} {tx : TxId} {signed : SignedTransaction} :
      Step endpoint state (.landed tx signed) (state.store endpoint signed)

variable {endpoint : Endpoint} {state next : Accounts} {events : List (ChainEvent surroundings)}

/-- A failure that the node answered does not read like a rejection. -/
theorem isClear_of_mem {request : NodeRequest} {error : RelayError}
    (h : Steps (Step endpoint) state events next)
    (hmem : ⟨request, .error error⟩ ∈ askedIn events) : IsClear error := by
  obtain ⟨event, hevent, hasked⟩ := List.mem_filterMap.mp hmem
  obtain ⟨_, _, _, hstep, -⟩ := h.exists_step_of_mem hevent
  cases event with
  | landed => contradiction
  | asked exchange =>
      obtain rfl := Option.some.inj hasked
      cases hstep with
      | asked _ hanswers => exact hanswers
      | unanswered hclear => exact hclear

end Accounts

namespace Endpoint

variable {endpoint : Endpoint} {foreign : ChainId} {address : Address}
  {exchanges : List (Exchange surroundings)} {chains : Set ChainId} {record : ChainId → Address}

/-! ### Reading -/

/-- The address that the data of an account record for a chain. -/
def recorded (foreign : ChainId) (data : Bytes) : Outcome Address :=
  match EndpointRecord.parse data with
  | .error fault => .error (.rpc fault)
  | .ok record =>
    if record.chain = foreign then .ok record.address
    else .error (.rpc (.endpointChain foreign record.chain))

/-- The endpoint of a chain that an answer tells. -/
def heldIn (foreign : ChainId) : Outcome (Option Bytes) → Outcome (Option Address)
  | .error error => .error error
  | .ok none => .ok none
  | .ok (some data) => (recorded foreign data).map some

/-- The endpoint of a chain is read with one question for the account of the chain, if there is an
address for that. -/
theorem runs_registered_iff {outcome : Outcome (Option Address)} :
    (endpoint.registered foreign).Runs exchanges outcome ↔
      (∃ key reply, endpoint.endpointRecord foreign = .ok key ∧
        exchanges = [Action.lookup key reply] ∧ outcome = heldIn foreign reply) ∨
      ∃ fault, endpoint.endpointRecord foreign = .error fault ∧ exchanges = [] ∧
        outcome = .error (.invalidSeed fault) := by
  have hregistered : endpoint.registered foreign =
      Action.derived (endpoint.endpointRecord foreign) >>= fun key =>
        Action.account key >>= fun answer => Program.ofOutcome (heldIn foreign (.ok answer)) := by
    rw [registered]
    refine bind_congr fun key => bind_congr fun answer => ?_
    cases answer with
    | none => rfl
    | some data =>
        dsimp only [heldIn, recorded]
        cases EndpointRecord.parse data with
        | error fault => rfl
        | ok record =>
            by_cases hchain : record.chain = foreign <;>
              simp [hchain, Outcome.ofRpc, Except.mapError, Program.ofOutcome, Except.map]
  rw [hregistered, Action.runs_derived_bind_iff]
  refine or_congr_left ?_
  constructor
  · rintro ⟨key, hkey, hruns⟩
    obtain ⟨answer, _, rfl, hread⟩ | ⟨error, rfl, rfl⟩ := Action.runs_node_bind_iff.mp hruns
    · obtain ⟨rfl, rfl⟩ := Program.runs_ofOutcome_iff.mp hread
      exact ⟨key, .ok answer, hkey, rfl, rfl⟩
    · exact ⟨key, .error error, hkey, rfl, rfl⟩
  · rintro ⟨key, error | answer, hkey, rfl, rfl⟩
    · exact ⟨key, hkey, Action.runs_node_bind_iff.mpr (.inr ⟨error, rfl, rfl⟩)⟩
    · exact ⟨key, hkey, Action.runs_node_bind_iff.mpr
        (.inl ⟨answer, [], rfl, Program.runs_ofOutcome_iff.mpr ⟨rfl, rfl⟩⟩)⟩

/-! ### The whole of it -/

/-- The accounts of some chains have addresses, different ones for different chains. -/
structure Separates (endpoint : Endpoint) (chains : Set ChainId) (record : ChainId → Address) :
    Prop where
  endpointRecord_eq : ∀ foreign ∈ chains, endpoint.endpointRecord foreign = .ok (record foreign)
  injOn : Set.InjOn record chains

/-- An endpoint that registers others, and the account-model chain on which it does. -/
def registering (endpoint : Endpoint) : Registering surroundings Accounts where
  chain := endpoint.chain
  register := endpoint.register
  registered := endpoint.registered
  submission? := submission?
  failure? := Action.failure?
  landing?
    | .landed _ signed | .asked ⟨.submit signed, .ok _⟩ => some signed
    | .asked _ => none
  carried? signed := endpoint.registration? signed.transaction
  Step := Accounts.Step endpoint
  empty := fun _ => none

/-- A transaction registers an address for a chain if it is that instruction. -/
def RegistersBy (endpoint : Endpoint) (signed : SignedTransaction) (foreign : ChainId)
    (address : Address) : Prop :=
  endpoint.registerInstruction foreign address = .ok signed.transaction

/-- The map that a state of the chain is, for some chains: their accounts have the records. -/
def Holds (endpoint : Endpoint) (chains : Set ChainId) (record : ChainId → Address)
    (state : Accounts) (held : ChainId → Option Address) : Prop :=
  ∀ foreign ∈ chains, state (record foreign) =
    (held foreign).map fun address => EndpointRecord.encode ⟨foreign, address⟩ endpoint.recordName

/-- The record that an account holds is read. -/
theorem heldIn_map_encode (held : Option Address) :
    heldIn foreign (.ok (held.map fun address =>
      EndpointRecord.encode ⟨foreign, address⟩ endpoint.recordName)) = .ok held := by
  cases held with
  | none => rfl
  | some address =>
      change (recorded foreign _).map some = _
      rw [recorded, EndpointRecord.parse_encode]
      dsimp only
      rw [if_pos rfl]
      rfl

/-- What the accounts hold is read. -/
theorem reads_of_holds (hseparates : endpoint.Separates chains record) {state : Accounts}
    {held : ChainId → Option Address} (h : endpoint.Holds chains record state held)
    (hforeign : foreign ∈ chains) :
    endpoint.registering.Reads state foreign (held foreign) where
  ends {exchanges outcome next} hruns hsteps := by
    obtain ⟨key, reply, hkey, rfl, rfl⟩ | ⟨fault, hfault, -⟩ := runs_registered_iff.mp hruns
    · obtain rfl : record foreign = key :=
        Except.ok.inj ((hseparates.endpointRecord_eq foreign hforeign).symm.trans hkey)
      obtain _ | ⟨hstep, ⟨⟩⟩ := hsteps
      cases hstep with
      | asked _ hanswers =>
          refine ⟨rfl, ?_⟩
          cases reply with
          | error error => exact .inr ⟨error, List.mem_cons_self, rfl⟩
          | ok data =>
              obtain rfl : data = state (record foreign) := hanswers
              rw [h foreign hforeign]
              exact .inl (heldIn_map_encode _)
    · rw [hseparates.endpointRecord_eq foreign hforeign] at hfault
      contradiction
  answers := by
    refine ⟨[Action.lookup (record foreign) (.ok (state (record foreign)))],
      runs_registered_iff.mpr (.inl ⟨_, _, hseparates.endpointRecord_eq foreign hforeign, rfl, ?_⟩),
      .cons (.asked rfl rfl) (.nil _)⟩
    rw [h foreign hforeign, heldIn_map_encode]

/-- A landing of a registration is held. -/
theorem holds_store (hseparates : endpoint.Separates chains record) {state : Accounts}
    {held : ChainId → Option Address} (h : endpoint.Holds chains record state held)
    {signed : SignedTransaction} {chain : ChainId} (hchain : chain ∈ chains)
    (hby : endpoint.RegistersBy signed chain address) :
    endpoint.Holds chains record (state.store endpoint signed) fun foreign =>
      (if chain = foreign then some address else none).or (held foreign) := by
  obtain ⟨hcarried, key, hkey, hnamed⟩ := registration?_of_registerInstruction hby
  obtain rfl : record chain = key :=
    Except.ok.inj ((hseparates.endpointRecord_eq chain hchain).symm.trans hkey)
  have hstore : state.store endpoint signed = Function.update state (record chain)
      (some (EndpointRecord.encode ⟨chain, address⟩ endpoint.recordName)) := by
    simp only [Accounts.store, hcarried, hnamed]
    rfl
  intro foreign hforeign
  rw [hstore]
  by_cases hsame : chain = foreign
  · subst hsame
    simp
  · have hother : record foreign ≠ record chain := fun heq =>
      hsame (hseparates.injOn hforeign hchain heq).symm
    simpa [hsame, hother] using h foreign hforeign

/-- What lands is held. -/
theorem holds_of_step (hseparates : endpoint.Separates chains record) {state next : Accounts}
    {event : ChainEvent surroundings} {held : ChainId → Option Address}
    (hstep : Accounts.Step endpoint state event next) (h : endpoint.Holds chains record state held)
    (hregisters : ∀ signed, endpoint.registering.landing? event = some signed →
      ∃ foreign ∈ chains, ∃ address, endpoint.RegistersBy signed foreign address) :
    endpoint.Holds chains record next fun foreign =>
      (endpoint.registering.landed? foreign event).or (held foreign) := by
  have hlands {signed : SignedTransaction}
      (hlanding : endpoint.registering.landing? event = some signed) :
      endpoint.Holds chains record (state.store endpoint signed) fun foreign =>
        (endpoint.registering.landed? foreign event).or (held foreign) := by
    obtain ⟨chain, hchain, address, hby⟩ := hregisters signed hlanding
    have hcarried : endpoint.registering.carried? signed = some (chain, address) :=
      (registration?_of_registerInstruction hby).1
    convert holds_store hseparates h hchain hby using 3 with foreign
    rw [Registering.landed?, hlanding, Option.bind_some, hcarried]
    rfl
  cases hstep with
  | @asked x hnone =>
      have hquiet : endpoint.registering.landing? (.asked x) = none := by
        obtain ⟨request, reply⟩ := x
        cases request with
        | submit => contradiction
        | _ => rfl
      have hlanded (foreign : ChainId) :
          endpoint.registering.landed? foreign (.asked x) = none := by
        rw [Registering.landed?, hquiet]
        rfl
      simpa only [hlanded, Option.none_or] using h
  | confirmed | landed => exact hlands rfl
  | unanswered => exact h

/-- **All that has to be known of an account-model chain**, if the accounts of different chains are
different. -/
theorem lawful_registering (hseparates : endpoint.Separates chains record) :
    endpoint.registering.Lawful chains endpoint.registrar (endpoint.Holds chains record)
      endpoint.RegistersBy where
  register_eq := register_eq
  check_eq := rfl
  address_eq := rfl
  read_eq := rfl
  landing?_landed := rfl
  carried?_eq hby := (registration?_of_registerInstruction hby).1
  holds_empty _ _ := rfl
  holds_step hstep h hregisters := holds_of_step hseparates hstep h fun signed hsigned => by
    obtain ⟨foreign, hforeign, address, -, hby⟩ := hregisters signed hsigned
    exact ⟨foreign, hforeign, address, hby⟩
  reads h hforeign := reads_of_holds hseparates h hforeign
  submissions_registered hruns := by
    obtain ⟨_, _, -, rfl, -⟩ | ⟨_, -, rfl, -⟩ := runs_registered_iff.mp hruns <;> rfl
  submissions_land hruns := by
    obtain ⟨transaction, hinstruction, hsubmit⟩ | ⟨_, -, rfl, -⟩ :=
      Program.runs_ofOutcome_bind_iff.mp hruns
    · obtain hnone | ⟨signed, hone, rfl⟩ := (runs_submit_iff.mp hsubmit).submissions_eq
      · exact .inl hnone
      · exact .inr ⟨signed, hone, hinstruction⟩
    · exact .inl rfl
  landings_of_ok {foreign address events state next tx} hruns hsteps := by
    obtain ⟨transaction, -, hsubmit⟩ | ⟨_, -, -, herror⟩ :=
      Program.runs_ofOutcome_bind_iff.mp hruns
    · obtain ⟨signed, hsigned⟩ := (runs_submit_iff.mp hsubmit).mem_of_ok
      obtain ⟨event, hevent, hasked⟩ := List.mem_filterMap.mp hsigned
      cases event with
      | landed => contradiction
      | asked exchange =>
          obtain rfl := Option.some.inj hasked
          exact List.ne_nil_of_mem (List.mem_filterMap.mpr ⟨_, hevent, rfl⟩)
    · contradiction
  clear_of_error {foreign address events state next error} hruns hsteps := by
    obtain ⟨transaction, -, hsubmit⟩ | ⟨error, hinstruction, -, houtcome⟩ :=
      Program.runs_ofOutcome_bind_iff.mp hruns
    · have hsubmits := runs_submit_iff.mp hsubmit
      have hnode (request : NodeRequest) (hmem : ⟨request, .error error⟩ ∈ askedIn events) :
          IsClear error := Accounts.isClear_of_mem hsteps hmem
      generalize askedIn events = asked at hsubmits hnode
      cases hsubmits with
      | undated => exact hnode _ List.mem_cons_self
      | unsigned => rfl
      | handedIn => exact hnode _ (List.mem_cons_of_mem _ List.mem_cons_self)
    · obtain rfl := Except.error.inj houtcome
      rw [rpcText?_of_registerInstruction hinstruction]
      rfl

end Endpoint

end GuardianRelay.Svm
