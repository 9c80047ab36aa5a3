import GuardianRelay.Proofs.Bytes
import GuardianRelay.Proofs.Svm.Delivery
import GuardianRelay.Proofs.Svm.Layout

/-!
# Posted Attestations as the Chain Reads Them

An attestation is written twice. Its body, most significant byte first, is what guardians sign and
what is hashed. To post it, the fields are laid out again, least significant byte first, and the
chain puts the body together from them. This module gives the reader of the second layout and shows
that nothing gets lost between the two: what is read is the attestation without its signatures, so
its body is the one that was hashed, and the account in which it is posted belongs to what is posted
there.

The instruction that redeems the attestation names it by the same hash and reads the same account,
and the record that it leaves is the account that is asked for when somebody wants to know whether
the attestation was redeemed.

## Main results

* `Posting.read?_postData`: posted data are read to their end, as the fields of the attestation.
* `writable_of_post`: which accounts posting changes.
* `Redeeming.of_isDelivery`: what an endpoint submits to redeem is one of these instructions.
* `Redeeming.exists_accounts`: what an instruction that redeems says, reads and leaves.
* `post_redeem_agree`: both together.
-/

namespace GuardianRelay.Svm

variable {a : Attestation}

/-! ### Reading numbers -/

/-- Reads a number of `n` bytes, least significant byte first. -/
def littleEndian? (n : ℕ) (b : Bytes) : Option (ℕ × Bytes) :=
  (fixed? n b).map fun (field, rest) => (Bytes.toNatLE field.toList, rest)

/-- Reads so many bytes. -/
def bytes? (n : ℕ) (b : Bytes) : Option (Bytes × Bytes) :=
  if b.length < n then none else some (b.take n, b.drop n)

/-- A number is read where it stands, if it fits. -/
theorem littleEndian?_littleEndian {n v : ℕ} (h : v < 256 ^ n) (rest : Bytes) :
    littleEndian? n (Bytes.littleEndian n v ++ rest) = some (v, rest) := by
  have hfield := fixed?_append ⟨Bytes.littleEndian n v, Bytes.length_littleEndian n v⟩ rest
  have hvalue : Bytes.toNatLE (Bytes.littleEndian n v) = v := by
    rw [Bytes.toNatLE_littleEndian, Nat.mod_eq_of_lt h]
  rw [littleEndian?, hfield]
  exact congrArg (fun value => some (value, rest)) hvalue

/-- Bytes are read where they stand. -/
theorem bytes?_length_append (b rest : Bytes) : bytes? b.length (b ++ rest) = some (b, rest) := by
  rw [bytes?, if_neg (by simp), List.take_left, List.drop_left]

/-! ### Posted data -/

/-- What the chain reads in the data of an instruction that posts an attestation. -/
structure Posting where
  instruction : UInt8
  version : UInt8
  guardianSetIndex : UInt32
  timestamp : UInt32
  nonce : UInt32
  emitterChain : ChainId
  emitter : Address
  sequence : UInt64
  consistencyLevel : UInt8
  payload : Bytes
deriving DecidableEq

namespace Posting

/-- Reads posted data: the fields follow each other, and the payload stands behind its length. -/
def read? (b : Bytes) : Option (Posting × Bytes) := do
  let (instruction, b) ← byte? b
  let (version, b) ← byte? b
  let (guardianSetIndex, b) ← littleEndian? 4 b
  let (timestamp, b) ← littleEndian? 4 b
  let (nonce, b) ← littleEndian? 4 b
  let (emitterChain, b) ← littleEndian? 2 b
  let (emitter, b) ← key? b
  let (sequence, b) ← littleEndian? 8 b
  let (consistencyLevel, b) ← byte? b
  let (length, b) ← littleEndian? 4 b
  let (payload, b) ← bytes? length b
  return ({ instruction, version, guardianSetIndex := .ofNat guardianSetIndex,
            timestamp := .ofNat timestamp, nonce := .ofNat nonce,
            emitterChain := .ofNat emitterChain, emitter, sequence := .ofNat sequence,
            consistencyLevel, payload }, b)

/-- The attestation that is put together from what was read; nobody has signed it. -/
def attestation (p : Posting) : Attestation where
  version := p.version
  guardianSetIndex := p.guardianSetIndex
  signatures := []
  timestamp := p.timestamp
  nonce := p.nonce
  emitterChain := p.emitterChain
  emitter := p.emitter
  sequence := p.sequence
  consistencyLevel := p.consistencyLevel
  payload := p.payload

/-- The fields of an attestation behind the number of the instruction that posts it. -/
def ofAttestation (a : Attestation) : Posting where
  instruction := 2
  version := a.version
  guardianSetIndex := a.guardianSetIndex
  timestamp := a.timestamp
  nonce := a.nonce
  emitterChain := a.emitterChain
  emitter := a.emitter
  sequence := a.sequence
  consistencyLevel := a.consistencyLevel
  payload := a.payload

/-- **Posted data are read to their end**, as the fields of the attestation, if the length of the
payload fits its four bytes. -/
theorem read?_postData (h : a.payload.length < 2 ^ 32) :
    read? (CoreBridge.postData a) = some (ofAttestation a, []) := by
  have hset := littleEndian?_littleEndian (n := 4) a.guardianSetIndex.toNat_lt
  have htimestamp := littleEndian?_littleEndian (n := 4) a.timestamp.toNat_lt
  have hnonce := littleEndian?_littleEndian (n := 4) a.nonce.toNat_lt
  have hchain := littleEndian?_littleEndian (n := 2) a.emitterChain.toNat_lt
  have hsequence := littleEndian?_littleEndian (n := 8) a.sequence.toNat_lt
  have hlength := littleEndian?_littleEndian (n := 4) h a.payload
  have hpayload := bytes?_length_append a.payload []
  rw [List.append_nil] at hpayload
  simp only [read?, CoreBridge.postData, counted, List.append_assoc, List.cons_append,
    List.nil_append, byte?, Option.bind_eq_bind, Option.bind_some, hset, htimestamp, hnonce,
    hchain, key?_append, hsequence, hlength, hpayload, Option.pure_def, UInt32.ofNat_toNat,
    UInt16.ofNat_toNat, UInt64.ofNat_toNat, ofAttestation]

/-- What is put together is the attestation without its signatures. -/
theorem attestation_ofAttestation (a : Attestation) :
    (ofAttestation a).attestation = { a with signatures := [] } := rfl

end Posting

/-! ### Instructions that redeem -/

/-- A mark takes eight bytes. -/
theorem length_instructionMark (name : String) : (instructionMark name).length = 8 := by
  rw [instructionMark, discriminator, List.length_take, FixedBytes.length_toList]
  rfl

/-- Posting changes the account that belongs to the hash, and what the payer has. -/
theorem writable_of_post {core : CoreBridge} {chain : ChainId} {payer : Address}
    {transaction : UnsignedTransaction} (h : core.post chain payer a = .ok transaction) :
    transaction.target = core.program ∧ transaction.data = CoreBridge.postData a ∧
    ∃ account, core.posted a = .ok account ∧
      transaction.accounts.filter (·.isWritable) = [.writable account, .signer payer] := by
  obtain ⟨guardianSet, -, h⟩ := Outcome.bind_eq_ok_iff.mp h
  obtain ⟨account, haccount, h⟩ := Outcome.bind_eq_ok_iff.mp h
  obtain rfl := Except.ok.inj h
  exact ⟨rfl, rfl, account, haccount, rfl⟩

namespace Endpoint

/-- The instructions of a program that redeem an attestation which was posted: a message is
received, or a transfer is redeemed, in tokens of the chain or in wrapped ones. -/
inductive Redeeming (a : Attestation) : Role → UnsignedTransaction → Prop
  | message {program : Messenger} {chain : ChainId} {payer : Address}
      {transaction : UnsignedTransaction} :
      program.receive chain payer a = .ok transaction →
      Redeeming a (.messenger program) transaction
  | transfer {program : TokenIntegration} {chain : ChainId} {payer mint : Address}
      {wrapped : Bool} {recipient foreign : Address} {transaction : UnsignedTransaction} :
      program.redeem chain payer a mint wrapped recipient foreign = .ok transaction →
      Redeeming a (.tokens program) transaction

/-- The place at which an instruction that redeems names the account of the attestation. -/
def postedPlace : Role → ℕ
  | .messenger _ => 3
  | .tokens _ => 11

/-- The place at which an instruction that redeems names the record that it leaves. -/
def recordPlace : Role → ℕ
  | .messenger _ => 5
  | .tokens _ => 12

variable {endpoint : Endpoint} {transaction : UnsignedTransaction}

/-- What an endpoint submits to redeem an attestation is such an instruction. -/
theorem Redeeming.of_isDelivery (h : IsDelivery endpoint a transaction) :
    Redeeming a endpoint.role transaction := by
  rw [IsDelivery, redeemInstruction] at h
  cases hrole : endpoint.role with
  | messenger program =>
      rw [hrole] at h
      obtain ⟨message, -, h⟩ := Outcome.bind_eq_ok_iff.mp h
      exact .message (Outcome.mapError_eq_ok_iff.mp h)
  | tokens program =>
      rw [hrole] at h
      obtain ⟨_, _, _, _, _, -, -, -, h⟩ := redeem_of_redeemTransfer h
      exact .transfer h

/-- **What an instruction that redeems says, reads and leaves**: behind its mark the hash of the
body, the account that belongs to that hash, and the record of the redemption. -/
theorem Redeeming.exists_accounts (h : Redeeming a endpoint.role transaction) :
    transaction.data.length = 40 ∧ transaction.data.drop 8 = a.messageHash.toList ∧
    ∃ account record, endpoint.core.posted a = .ok account ∧
      endpoint.replayRecord a = .ok record ∧
      transaction.accounts[postedPlace endpoint.role]? = some (.readonly account) ∧
      transaction.accounts[recordPlace endpoint.role]? = some (.writable record) := by
  have htold (name : String) : (instructionMark name ++ a.messageHash.toList).length = 40 ∧
      (instructionMark name ++ a.messageHash.toList).drop 8 = a.messageHash.toList := by
    constructor
    · rw [List.length_append, length_instructionMark, FixedBytes.length_toList]
    · exact List.drop_left' (length_instructionMark name)
  rw [core, replayRecord]
  cases hrole : endpoint.role with
  | messenger program =>
      rw [hrole] at h
      obtain ⟨h⟩ | _ := h
      obtain ⟨account, haccount, h⟩ := Outcome.bind_eq_ok_iff.mp h
      obtain ⟨foreign, -, h⟩ := Outcome.bind_eq_ok_iff.mp h
      obtain ⟨record, hrecord, h⟩ := Outcome.bind_eq_ok_iff.mp h
      obtain rfl := Except.ok.inj h
      exact ⟨(htold _).1, (htold _).2, account, record, haccount, hrecord, rfl, rfl⟩
  | tokens program =>
      rw [hrole] at h
      obtain _ | ⟨h⟩ := h
      obtain ⟨account, record, haccount, hrecord, hdata, hreads, hwrites⟩ := exists_of_redeem h
      rw [hdata]
      exact ⟨(htold _).1, (htold _).2, account, record, haccount, hrecord, hreads, hwrites⟩

/-- Whether an attestation was redeemed is whether there is a record. -/
theorem isRedeemed_eq {record : Address} (h : endpoint.replayRecord a = .ok record) :
    endpoint.isRedeemed a = Action.accountExists record := by
  rw [isRedeemed, h]
  rfl

/-- **Posting and redeeming agree**, for both programs and every attestation whose payload can be
counted in four bytes. The posted data are read to their end, and what is put together from them is
the attestation without its signatures, with the same body. An instruction that posts it changes,
besides what the payer has, the account that belongs to the hash of that body. An instruction that
redeems the attestation carries the same hash behind its mark and reads the same account; the record
that it leaves is the account whose existence means that the attestation was redeemed. -/
theorem post_redeem_agree (endpoint : Endpoint) (a : Attestation)
    (hpayload : a.payload.length < 2 ^ 32) :
    ∃ posting, Posting.read? (CoreBridge.postData a) = some (posting, []) ∧
      posting.instruction = 2 ∧
      posting.attestation = { a with signatures := [] } ∧
      posting.attestation.body = a.body ∧
      (∀ chain payer transaction, endpoint.core.post chain payer a = .ok transaction →
        transaction.target = endpoint.core.program ∧
        transaction.data = CoreBridge.postData a ∧
        ∃ account,
          (ProgramAccount.postedAttestation (Keccak.hash posting.attestation.body)).address
            endpoint.core.program = .ok account ∧
          transaction.accounts.filter (·.isWritable) = [.writable account, .signer payer]) ∧
      ∀ transaction, Redeeming a endpoint.role transaction →
        transaction.data.length = 40 ∧
        transaction.data.drop 8 = (Keccak.hash posting.attestation.body).toList ∧
        ∃ account record,
          (ProgramAccount.postedAttestation (Keccak.hash posting.attestation.body)).address
            endpoint.core.program = .ok account ∧
          transaction.accounts[postedPlace endpoint.role]? = some (.readonly account) ∧
          transaction.accounts[recordPlace endpoint.role]? = some (.writable record) ∧
          endpoint.isRedeemed a = Action.accountExists record := by
  refine ⟨.ofAttestation a, Posting.read?_postData hpayload, rfl,
    Posting.attestation_ofAttestation a, rfl, fun chain payer transaction hpost => ?_,
    fun transaction hredeeming => ?_⟩
  · exact writable_of_post hpost
  · obtain ⟨hlength, hhash, account, record, haccount, hrecord, hreads, hleaves⟩ :=
      hredeeming.exists_accounts
    exact ⟨hlength, hhash, account, record, haccount, hreads, hleaves, isRedeemed_eq hrecord⟩

/-- The message without content is posted in the account from which its delivery reads it, and the
record of its delivery is the one that is asked for. -/
theorem post_redeem_agree_emptyMessage : ∃ record account guardianSet foreign,
    emptyMessage.payload.length < 2 ^ 32 ∧
    IsPost openEndpoint emptyMessage (posting guardianSet account) ∧
    Redeeming emptyMessage openEndpoint.role (delivery record account foreign) ∧
    (∃ read, Posting.read? (CoreBridge.postData emptyMessage) = some (read, []) ∧
      read.attestation.body = emptyMessage.body) ∧
    (posting guardianSet account).accounts.filter (·.isWritable) =
      [.writable account, .signer openEndpoint.payer] ∧
    (delivery record account foreign).accounts[3]? = some (.readonly account) ∧
    openEndpoint.isRedeemed emptyMessage = Action.accountExists record := by
  obtain ⟨record, account, foreign, hnamed⟩ := exists_named
  obtain ⟨guardianSet, hpost⟩ := exists_isPost hnamed.posted
  have hpayload : emptyMessage.payload.length < 2 ^ 32 := by decide
  have hredeeming := Redeeming.of_isDelivery hnamed.redeemInstruction_eq
  obtain ⟨read, hread, -, -, hbody, hposts, hredeems⟩ :=
    post_redeem_agree openEndpoint emptyMessage hpayload
  obtain ⟨-, -, account', hposted, hwritable⟩ := hposts _ _ _ hpost
  obtain ⟨-, -, account'', record', hposted', hreads, hleaves, hasked⟩ := hredeems _ hredeeming
  -- what is posted to and what is read are one account, as they belong to one hash
  obtain rfl : account' = account'' := Except.ok.inj (hposted.symm.trans hposted')
  obtain rfl : account = account' := congrArg AccountUse.key (Option.some.inj hreads)
  obtain rfl : record = record' := congrArg AccountUse.key (Option.some.inj hleaves)
  exact ⟨record, account, guardianSet, foreign, hpayload, hpost, hredeeming,
    ⟨read, hread, hbody⟩, hwritable, hreads, hasked⟩

end Endpoint

end GuardianRelay.Svm
