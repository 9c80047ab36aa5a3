import GuardianRelay.Proofs.Attestation.RoundTrip
import GuardianRelay.Proofs.Derivation
import GuardianRelay.Proofs.Evm.Redemption
import GuardianRelay.Proofs.Svm.Redemption

/-!
# The Identity of a Message

The body of an attestation holds the message and nothing of who signed it. Its fields have fixed
lengths, up to the payload, which is all that is left. So the body determines the message, and what
is made of the body alone is the same for all attestations of a message: what guardians sign, the
question that contract-model chains are asked before a redemption, and the accounts of
account-model chains that hold the attestation and the records of its redemption.

If the hash has no collision among what is hashed for two attestations, then attestations of
different messages also have different digests, and their records on contract-model chains are asked
for with different questions.

## Main results

* `Attestation.body_eq_iff`: bodies are the same exactly if the messages are.
* `Attestation.SameMessage.digest_eq`, `Attestation.SameMessage.evm_isRedeemed_eq`,
  `Attestation.SameMessage.svm_isRedeemed_eq`: what is the same for all attestations of a message.
* `Attestation.digest_ne`: different messages have different digests.
* `Attestation.message_identity`: all of it together.
-/

namespace GuardianRelay

namespace Attestation

variable {a b : Attestation}

/-- Two attestations are of the same message, whoever signed them. -/
structure SameMessage (a b : Attestation) : Prop where
  timestamp : a.timestamp = b.timestamp
  nonce : a.nonce = b.nonce
  emitterChain : a.emitterChain = b.emitterChain
  emitter : a.emitter = b.emitter
  sequence : a.sequence = b.sequence
  consistencyLevel : a.consistencyLevel = b.consistencyLevel
  payload : a.payload = b.payload

/-! ### Bodies -/

/-- The same message under another header. -/
def resigned (a : Attestation) (version : UInt8) (guardianSetIndex : UInt32)
    (signatures : List GuardianSignature) : Attestation :=
  { a with version, guardianSetIndex, signatures }

/-- A header belongs to no message. -/
theorem sameMessage_resigned (a : Attestation) (version : UInt8) (guardianSetIndex : UInt32)
    (signatures : List GuardianSignature) :
    SameMessage a (a.resigned version guardianSetIndex signatures) :=
  ⟨rfl, rfl, rfl, rfl, rfl, rfl, rfl⟩

/-- The body determines an attestation that nobody signed. -/
theorem resigned_inj_of_body (h : a.body = b.body) : a.resigned 0 0 [] = b.resigned 0 0 [] := by
  have hdecode (c : Attestation) : decode (c.resigned 0 0 []).written = .ok (c.resigned 0 0 []) :=
    decode_eq_ok_iff_encode.mpr (encode_eq_ok_iff.mpr ⟨Nat.zero_le _, rfl⟩)
  have hwritten : (a.resigned 0 0 []).written = (b.resigned 0 0 []).written :=
    congrArg (fun body => (0 :: Bytes.bigEndian 4 0) ++ (0 :: body)) h
  exact Except.ok.inj ((hdecode a).symm.trans (hwritten ▸ hdecode b))

/-- The body holds the message and nothing else. -/
theorem body_eq_iff : a.body = b.body ↔ SameMessage a b := by
  constructor
  · intro h
    obtain ⟨-, -, -, htimestamp, hnonce, hemitterChain, hemitter, hsequence, hlevel, hpayload⟩ :=
      Attestation.mk.inj (resigned_inj_of_body h)
    exact ⟨htimestamp, hnonce, hemitterChain, hemitter, hsequence, hlevel, hpayload⟩
  · intro h
    rw [body, body, h.timestamp, h.nonce, h.emitterChain, h.emitter, h.sequence,
      h.consistencyLevel, h.payload]

/-! ### What is made of the body -/

namespace SameMessage

/-- A message has one hash. -/
theorem messageHash_eq (h : SameMessage a b) : a.messageHash = b.messageHash :=
  congrArg Keccak.hash (body_eq_iff.mpr h)

/-- A message has one digest. -/
theorem digest_eq (h : SameMessage a b) : a.digest = b.digest :=
  congrArg (fun hash => Keccak.hash (FixedBytes.toList hash)) h.messageHash_eq

/-- A contract is asked for one record. -/
theorem evm_isRedeemed_eq (h : SameMessage a b) (endpoint : Evm.Endpoint) :
    endpoint.isRedeemed a = endpoint.isRedeemed b := by
  rw [Evm.Endpoint.isRedeemed_eq, Evm.Endpoint.isRedeemed_eq, h.digest_eq]

/-- A message is posted to one account. -/
theorem posted_eq (h : SameMessage a b) (core : Svm.CoreBridge) :
    core.posted a = core.posted b := by
  rw [Svm.CoreBridge.posted, Svm.CoreBridge.posted, h.messageHash_eq]

/-- A messenger keeps one record of a message. -/
theorem received_eq (h : SameMessage a b) (messenger : Svm.Messenger) :
    messenger.received a = messenger.received b := by
  rw [Svm.Messenger.received, Svm.Messenger.received, h.emitterChain, h.sequence]

/-- A token bridge keeps one record of a transfer. -/
theorem claim_eq (h : SameMessage a b) (integration : Svm.TokenIntegration) :
    integration.claim a = integration.claim b := by
  rw [Svm.TokenIntegration.claim, Svm.TokenIntegration.claim, h.emitter, h.emitterChain,
    h.sequence]

/-- One account is looked for before a redemption. -/
theorem svm_isRedeemed_eq (h : SameMessage a b) (endpoint : Svm.Endpoint) :
    endpoint.isRedeemed a = endpoint.isRedeemed b := by
  have hrecord : endpoint.replayRecord a = endpoint.replayRecord b := by
    rw [Svm.Endpoint.replayRecord, Svm.Endpoint.replayRecord]
    cases endpoint.role with
    | messenger program => exact h.received_eq program
    | tokens program => exact h.claim_eq program
  rw [Svm.Endpoint.isRedeemed, Svm.Endpoint.isRedeemed, hrecord]

end SameMessage

/-! ### Different messages -/

/-- What is hashed for the digest of an attestation. -/
def hashed (a : Attestation) : List Bytes := [a.body, a.messageHash.toList]

/-- Different messages have different digests. -/
theorem digest_ne (hfree : CollisionFree Keccak.hash (a.hashed ++ b.hashed))
    (h : ¬ SameMessage a b) : a.digest ≠ b.digest := by
  intro hdigest
  have hhash : a.messageHash = b.messageHash := FixedBytes.ext
    (hfree _ (by simp [hashed]) _ (by simp [hashed]) hdigest)
  exact h (body_eq_iff.mp (hfree _ (by simp [hashed]) _ (by simp [hashed]) hhash))

/-- Attestations with different digests are asked for with different questions. -/
theorem requests_isRedeemed_ne (h : a.digest ≠ b.digest) {endpoint : Evm.Endpoint}
    {first second : List (Exchange Evm.surroundings)} {outcome outcome' : Outcome Bool}
    (hfirst : (endpoint.isRedeemed a).Runs first outcome)
    (hsecond : (endpoint.isRedeemed b).Runs second outcome') :
    first.map Exchange.request ≠ second.map Exchange.request := by
  obtain ⟨reply, rfl, -⟩ := Evm.Endpoint.runs_isRedeemed_iff.mp hfirst
  obtain ⟨reply', rfl, -⟩ := Evm.Endpoint.runs_isRedeemed_iff.mp hsecond
  intro hrequests
  have hdata : (endpoint.contract.recordCall a.digest).encode =
      (endpoint.contract.recordCall b.digest).encode := by
    simpa [Evm.Endpoint.probe] using hrequests
  exact h (endpoint.contract.encode_recordCall_inj hdata)

/-- **What identifies a message.** Two attestations have the same body exactly if they agree on
when, where, by whom and under which numbers a message was published, on its consistency level and
on what it says. Then they also have the same hashes, and wherever they are redeemed, the same is
asked to find out whether they were, and the same accounts hold the attestation and the records,
whatever version, guardian set and signatures they have. If they do not agree, and the hash has no
collision among what is hashed for them, they have different digests, and a contract is asked for
different records. -/
theorem message_identity (a b : Attestation) :
    (a.body = b.body ↔ SameMessage a b) ∧
    (SameMessage a b →
      a.messageHash = b.messageHash ∧ a.digest = b.digest ∧
      (∀ endpoint : Evm.Endpoint, endpoint.isRedeemed a = endpoint.isRedeemed b) ∧
      (∀ endpoint : Svm.Endpoint, endpoint.isRedeemed a = endpoint.isRedeemed b) ∧
      (∀ core : Svm.CoreBridge, core.posted a = core.posted b) ∧
      (∀ messenger : Svm.Messenger, messenger.received a = messenger.received b) ∧
      (∀ integration : Svm.TokenIntegration, integration.claim a = integration.claim b)) ∧
    (∀ version guardianSetIndex signatures,
      SameMessage a (a.resigned version guardianSetIndex signatures)) ∧
    (CollisionFree Keccak.hash (a.hashed ++ b.hashed) → ¬ SameMessage a b →
      a.digest ≠ b.digest ∧
      ∀ (endpoint : Evm.Endpoint) first second outcome outcome',
        (endpoint.isRedeemed a).Runs first outcome →
        (endpoint.isRedeemed b).Runs second outcome' →
        first.map Exchange.request ≠ second.map Exchange.request) := by
  refine ⟨body_eq_iff, fun h => ?_, a.sameMessage_resigned, fun hfree h => ?_⟩
  · exact ⟨h.messageHash_eq, h.digest_eq, h.evm_isRedeemed_eq, h.svm_isRedeemed_eq, h.posted_eq,
      h.received_eq, h.claim_eq⟩
  · have hdigest := digest_ne hfree h
    exact ⟨hdigest, fun _ _ _ _ _ => requests_isRedeemed_ne hdigest⟩

/-- The message that follows on the one of two signatures. -/
def following : Attestation := { signedTimes 2 with sequence := 43 }

/-- What is hashed for the two has four hashes. This computes them, one after the other. -/
theorem map_hash_following : ((signedTimes 2).hashed ++ following.hashed).map Keccak.hash =
    [FixedBytes.ofNat 0xc7130403a0cf96752957556fafa627fd8738c6628fde112c3d8e685d482d1ad9,
      FixedBytes.ofNat 0xb54240cad0d8d3fb5bd15fb70a16f77309ae168cc9e52d7adfbc7925d40b690e,
      FixedBytes.ofNat 0x89a37d5a5db2802f1d2b3579e081312c6059451096e724f55aae35d6a4724dcb,
      FixedBytes.ofNat 0x261554d647d6c0762e027afdbac2516b50eca019f6e34b55b67f6c9ddfe04130] := by
  have hfirst : (signedTimes 2).messageHash =
      FixedBytes.ofNat 0xc7130403a0cf96752957556fafa627fd8738c6628fde112c3d8e685d482d1ad9 := by
    decide +kernel
  have hfirstDigest : Keccak.hash (FixedBytes.ofNat
        0xc7130403a0cf96752957556fafa627fd8738c6628fde112c3d8e685d482d1ad9 : Hash256).toList =
      FixedBytes.ofNat 0xb54240cad0d8d3fb5bd15fb70a16f77309ae168cc9e52d7adfbc7925d40b690e := by
    decide +kernel
  have hsecond : following.messageHash =
      FixedBytes.ofNat 0x89a37d5a5db2802f1d2b3579e081312c6059451096e724f55aae35d6a4724dcb := by
    decide +kernel
  have hsecondDigest : Keccak.hash (FixedBytes.ofNat
        0x89a37d5a5db2802f1d2b3579e081312c6059451096e724f55aae35d6a4724dcb : Hash256).toList =
      FixedBytes.ofNat 0x261554d647d6c0762e027afdbac2516b50eca019f6e34b55b67f6c9ddfe04130 := by
    decide +kernel
  change [(signedTimes 2).messageHash, Keccak.hash (signedTimes 2).messageHash.toList,
    following.messageHash, Keccak.hash following.messageHash.toList] = _
  rw [hfirst, hfirstDigest, hsecond, hsecondDigest]

/-- Guardians of another set sign the same message again, and its digest stays. The message that
follows has another one. -/
theorem message_identity_following :
    SameMessage (signedTimes 2) ((signedTimes 2).resigned 1 4 []) ∧
    (signedTimes 2).digest = ((signedTimes 2).resigned 1 4 []).digest ∧
    CollisionFree Keccak.hash ((signedTimes 2).hashed ++ following.hashed) ∧
    ¬ SameMessage (signedTimes 2) following ∧
    (signedTimes 2).digest ≠ following.digest := by
  have hsame : SameMessage (signedTimes 2) ((signedTimes 2).resigned 1 4 []) :=
    (message_identity (signedTimes 2) following).2.2.1 1 4 []
  have hfree : CollisionFree Keccak.hash ((signedTimes 2).hashed ++ following.hashed) :=
    .of_nodup (by rw [map_hash_following]; decide +kernel)
  have hother : ¬ SameMessage (signedTimes 2) following :=
    fun h => absurd h.sequence (by decide)
  exact ⟨hsame, ((message_identity _ _).2.1 hsame).2.1, hfree, hother,
    ((message_identity _ _).2.2.2 hfree hother).1⟩

end Attestation

end GuardianRelay
