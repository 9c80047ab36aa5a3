import GuardianRelay.Proofs.Svm.Compilation
import GuardianRelay.Proofs.Svm.Delivery

/-!
# Instructions Have Messages

The core bridge, the messenger and the token integration each take a few instructions. An
instruction names addresses that are derived, addresses that a caller chooses, and well-known ones,
and nothing keeps these from being the same. What every instruction has in common is enough for its
message: only the account that pays for it has to sign, and it names few accounts. So it has a
message unless its data are too long, and in the message an account may do what the instruction lets
it do, however often the instruction names it.

## Main results

* `Built`: the instructions.
* `Built.paidBy`: what they have in common.
* `PaidBy.exists_compile_iff`: with that in common, transactions have messages.
* `built_compiles`: instructions have messages, and what accounts may do in them.
-/

namespace GuardianRelay

namespace AccountUse

@[simp] theorem isSigner_writable (key : Address) : (writable key).isSigner = false := rfl

@[simp] theorem isSigner_readonly (key : Address) : (readonly key).isSigner = false := rfl

@[simp] theorem key_signer (key : Address) : (signer key).key = key := rfl

end AccountUse

namespace Svm

open Outcome (Yields yields_bind yields_ok)

variable {payer : Address} {transaction : UnsignedTransaction} {recentBlock : FixedBytes 32}

/-! ### Who has to sign -/

section Uses

variable {use : AccountUse} {uses uses' : List AccountUse}

/-- Nobody but the payer has to sign. -/
def SignedBy (payer : Address) (uses : List AccountUse) : Prop :=
  ∀ use ∈ uses, use.isSigner → use.key = payer

@[simp] theorem signedBy_nil : SignedBy payer [] := nofun

@[simp] theorem signedBy_cons :
    SignedBy payer (use :: uses) ↔ (use.isSigner → use.key = payer) ∧ SignedBy payer uses :=
  List.forall_mem_cons

@[simp] theorem signedBy_append :
    SignedBy payer (uses ++ uses') ↔ SignedBy payer uses ∧ SignedBy payer uses' :=
  List.forall_mem_append

end Uses

/-- Only the payer has to sign, and few accounts are named. -/
structure PaidBy (payer : Address) (transaction : UnsignedTransaction) : Prop where
  signedBy : SignedBy payer transaction.accounts
  length_le : transaction.accounts.length ≤ 22

/-- An instruction whose accounts only the payer has to sign. -/
theorem paidBy_instruction {chain : ChainId} {program : Address} {data : Bytes}
    {accounts : List AccountUse} (hsigned : SignedBy payer accounts)
    (hlength : accounts.length ≤ 22) : PaidBy payer (.instruction chain program data accounts) :=
  ⟨hsigned, hlength⟩

/-! ### Instructions -/

section Builders

variable {chain foreign : ChainId} {a : Attestation} {owner : Address} {seed : UInt64}

namespace CoreBridge

variable {core : CoreBridge}

/-- Posting an attestation is signed by the payer. -/
theorem post_paidBy : Yields (PaidBy payer) (core.post chain payer a) :=
  yields_bind fun _ => yields_bind fun _ => yields_ok (paidBy_instruction (by simp) (by simp))

/-- Posting an attestation says its fields. -/
theorem post_data : Yields (·.data = postData a) (core.post chain payer a) :=
  yields_bind fun _ => yields_bind fun _ => yields_ok rfl

/-- The fields of an attestation take 61 bytes in front of its payload. -/
theorem length_postData : (postData a).length = 61 + a.payload.length := by
  simp [postData, counted]
  omega

end CoreBridge

namespace Messenger

variable {program : Messenger} {emitter : Address} {payload : Bytes}

/-- Publishing a message is signed by the payer. -/
theorem send_paidBy : Yields (PaidBy payer) (program.send chain payer payload seed) :=
  yields_bind fun _ => yields_ok (paidBy_instruction (by simp) (by simp))

/-- Receiving a message is signed by the payer. -/
theorem receive_paidBy : Yields (PaidBy payer) (program.receive chain payer a) :=
  yields_bind fun _ => yields_bind fun _ => yields_bind fun _ =>
    yields_ok (paidBy_instruction (by simp) (by simp))

/-- Registering an emitter is signed by the owner. -/
theorem register_paidBy : Yields (PaidBy owner) (program.register chain owner foreign emitter) :=
  yields_bind fun _ => yields_ok (paidBy_instruction (by simp) (by simp))

end Messenger

namespace TokenIntegration

variable {program : TokenIntegration} {transfer : OutboundTransfer} {wrapped : Bool}
  {mint recipient foreignEndpoint contract foreignBridge : Address}

/-- Some accounts that depend on what a mint is, of which only the payer has to sign. -/
def OfMint (payer : Address) (uses : List AccountUse) : Prop :=
  SignedBy payer uses ∧ uses.length ≤ 3

/-- Sending tokens is signed by the payer. -/
theorem send_paidBy : Yields (PaidBy payer) (program.send chain payer transfer seed) := by
  rw [send]
  refine yields_bind fun contract => yields_bind fun payerTokens => yields_bind fun passing => ?_
  dsimp only
  split
  all_goals
    refine yields_bind fun account =>
      Yields.bind (q := OfMint payer) (yields_ok ⟨by simp, by simp⟩) fun ofMint hofMint => ?_
    obtain ⟨hsigned, hlength⟩ := hofMint
    refine yields_bind fun message => yields_ok (paidBy_instruction (by simp [hsigned]) ?_)
    simp only [List.length_append, List.length_cons, List.length_nil]
    omega

/-- Redeeming a transfer is signed by the payer. -/
theorem redeem_paidBy : Yields (PaidBy payer)
    (program.redeem chain payer a mint wrapped recipient foreignEndpoint) := by
  rw [redeem]
  refine yields_bind fun payerTokens => yields_bind fun contract => yields_bind fun _ =>
    yields_bind fun passing => yields_bind fun posted => yields_bind fun claim => ?_
  dsimp only
  split
  all_goals
    refine yields_bind fun account =>
      Yields.bind (q := OfMint payer) (yields_ok ⟨by simp, by simp⟩) fun ofMint hofMint => ?_
    obtain ⟨hsigned, hlength⟩ := hofMint
    refine yields_ok (paidBy_instruction (by simp [hsigned]) ?_)
    simp only [List.length_append, List.length_cons, List.length_nil]
    omega

/-- Registering a contract is signed by the owner. -/
theorem register_paidBy :
    Yields (PaidBy owner) (program.register chain owner foreign contract foreignBridge) :=
  yields_bind fun _ => yields_bind fun _ => yields_ok (paidBy_instruction (by simp) (by simp))

end TokenIntegration

end Builders

/-- The instructions that an account pays for, or owns the program of. -/
inductive Built (payer : Address) : UnsignedTransaction → Prop
  | post {core : CoreBridge} {chain : ChainId} {a : Attestation}
      {transaction : UnsignedTransaction} :
      core.post chain payer a = .ok transaction → Built payer transaction
  | publish {program : Messenger} {chain : ChainId} {payload : Bytes} {seed : UInt64}
      {transaction : UnsignedTransaction} :
      program.send chain payer payload seed = .ok transaction → Built payer transaction
  | receive {program : Messenger} {chain : ChainId} {a : Attestation}
      {transaction : UnsignedTransaction} :
      program.receive chain payer a = .ok transaction → Built payer transaction
  | registerEmitter {program : Messenger} {chain foreign : ChainId} {emitter : Address}
      {transaction : UnsignedTransaction} :
      program.register chain payer foreign emitter = .ok transaction → Built payer transaction
  | sendTokens {program : TokenIntegration} {chain : ChainId} {transfer : OutboundTransfer}
      {seed : UInt64} {transaction : UnsignedTransaction} :
      program.send chain payer transfer seed = .ok transaction → Built payer transaction
  | redeemTransfer {program : TokenIntegration} {chain : ChainId} {a : Attestation}
      {mint : Address} {wrapped : Bool} {recipient foreignEndpoint : Address}
      {transaction : UnsignedTransaction} :
      program.redeem chain payer a mint wrapped recipient foreignEndpoint = .ok transaction →
      Built payer transaction
  | registerContract {program : TokenIntegration} {chain foreign : ChainId}
      {contract foreignBridge : Address} {transaction : UnsignedTransaction} :
      program.register chain payer foreign contract foreignBridge = .ok transaction →
      Built payer transaction

/-- Every instruction is signed by the account that pays for it, and by no other. -/
theorem Built.paidBy (h : Built payer transaction) : PaidBy payer transaction := by
  cases h with
  | post h => exact CoreBridge.post_paidBy _ h
  | publish h => exact Messenger.send_paidBy _ h
  | receive h => exact Messenger.receive_paidBy _ h
  | registerEmitter h => exact Messenger.register_paidBy _ h
  | sendTokens h => exact TokenIntegration.send_paidBy _ h
  | redeemTransfer h => exact TokenIntegration.redeem_paidBy _ h
  | registerContract h => exact TokenIntegration.register_paidBy _ h

/-! ### Messages -/

/-- What is signed by the payer, and names few accounts, has a message if its data can be counted. -/
theorem PaidBy.exists_compile_iff (h : PaidBy payer transaction) :
    (∃ message, compile transaction payer recentBlock = .ok message) ↔
      transaction.data.length ≤ 65535 := by
  have hlength := h.length_le
  constructor
  · intro hmessage
    exact (Svm.exists_compile_iff.mp hmessage).2.2.2
  · intro hdata
    exact exists_compile h.signedBy (by omega) hdata recentBlock

/-- **Instructions have messages**, however the addresses that they name coincide. An instruction
has a message for the account that it was made for exactly when it has at most 65535 bytes of data;
if it posts an attestation, exactly when the payload has at most 65474. In the message all accounts
of the instruction stand, each once, with the payer in front. Nobody but the payer signs. An account
may be written if it is the payer, or if the instruction wants to write it in one of its uses, and
otherwise not. -/
theorem built_compiles (h : Built payer transaction) (recentBlock : FixedBytes 32) :
    ((∃ message, compile transaction payer recentBlock = .ok message) ↔
      transaction.data.length ≤ 65535) ∧
    (∀ message, compile transaction payer recentBlock = .ok message →
      ∃ m, Message.decode? message = some m ∧ m.keys.Nodup ∧ m.keys.head? = some payer ∧
        (∀ use ∈ transaction.accounts, use.key ∈ m.keys) ∧
        (∀ i key, m.keys[i]? = some key → (m.Signs i ↔ key = payer)) ∧
        ∀ i key, m.keys[i]? = some key → (m.MayWrite i ↔
          key = payer ∨ ∃ use ∈ transaction.accounts, use.key = key ∧ use.isWritable)) ∧
    ∀ (core : CoreBridge) (chain : ChainId) (a : Attestation),
      core.post chain payer a = .ok transaction →
      ((∃ message, compile transaction payer recentBlock = .ok message) ↔
        a.payload.length ≤ 65474) := by
  refine ⟨h.paidBy.exists_compile_iff, ?_, ?_⟩
  · intro message hmessage
    obtain ⟨m, hdecode, hcarries⟩ := exists_carries_of_compile hmessage
    refine ⟨m, hdecode, hcarries.nodup, hcarries.payer_first, ?_, hcarries.signs_iff,
      hcarries.mayWrite_iff⟩
    intro use huse
    exact (hcarries.mem_keys_iff use.key).mpr (.inr (.inl ⟨use, huse, rfl⟩))
  · intro core chain a hpost
    have hdata : transaction.data = CoreBridge.postData a := CoreBridge.post_data _ hpost
    rw [h.paidBy.exists_compile_iff, hdata, CoreBridge.length_postData]
    omega

/-- An integration of which all addresses are the token program's. -/
def crowded : TokenIntegration where
  program := tokenProgram
  bridge := tokenProgram
  senderConfig := tokenProgram
  redeemerConfig := tokenProgram
  bridgeConfig := tokenProgram
  authoritySigner := tokenProgram
  custodySigner := tokenProgram
  mintAuthority := tokenProgram
  emitter := tokenProgram
  tracker := tokenProgram
  core := ⟨tokenProgram, tokenProgram, tokenProgram⟩

/-- The token program registers a contract of its own name, of another chain, with itself. The
message names it once, as the only account that signs. The message of the open endpoint's
attestation can be posted. -/
theorem built_compiles_crowded :
    (∃ transaction message m,
      crowded.register 1 tokenProgram 8 tokenProgram tokenProgram = .ok transaction ∧
      compile transaction tokenProgram FixedBytes.zero = .ok message ∧
      Message.decode? message = some m ∧ m.keys.Nodup ∧ m.keys.head? = some tokenProgram ∧
      ∀ i key, m.keys[i]? = some key → (m.Signs i ↔ key = tokenProgram)) ∧
    ∃ transaction message,
      Endpoint.IsPost Endpoint.openEndpoint Endpoint.emptyMessage transaction ∧
      compile transaction Endpoint.openEndpoint.payer FixedBytes.zero = .ok message := by
  refine ⟨?_, ?_⟩
  · have hregister : (crowded.register 1 tokenProgram 8 tokenProgram tokenProgram).map
        (fun transaction => transaction.data.length) = .ok 42 := by decide +kernel
    obtain ⟨transaction, htransaction, hlength⟩ := Outcome.map_eq_ok_iff.mp hregister
    obtain ⟨hcompiles, hcarries, -⟩ :=
      built_compiles (.registerContract htransaction) FixedBytes.zero
    obtain ⟨message, hmessage⟩ := hcompiles.mpr (by omega)
    obtain ⟨m, hdecode, hnodup, hfirst, -, hsigns, -⟩ := hcarries message hmessage
    exact ⟨transaction, message, m, htransaction, hmessage, hdecode, hnodup, hfirst, hsigns⟩
  · obtain ⟨record, account, foreign, hnamed⟩ := Endpoint.exists_named
    obtain ⟨guardianSet, hpost⟩ := Endpoint.exists_isPost hnamed.posted
    obtain ⟨-, -, hcompiles⟩ := built_compiles (.post hpost) FixedBytes.zero
    obtain ⟨message, hmessage⟩ := (hcompiles _ _ _ hpost).mpr (by decide)
    exact ⟨_, message, hpost, hmessage⟩

end Svm

end GuardianRelay
