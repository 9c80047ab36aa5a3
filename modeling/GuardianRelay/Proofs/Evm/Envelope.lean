import GuardianRelay.Evm.Envelope
import GuardianRelay.Proofs.Bytes
import GuardianRelay.Proofs.Outcome
import Mathlib.Data.Nat.Notation

/-!
# Signed Calls

Signing wraps a transaction and leaves it as it is. A call of a contract has a narrow target and
a gas limit, so whether it is signed depends on the signer alone.

## Main results

* `Address.evm?_eq_some_iff`, `Address.evm?_eq_none_iff`: which addresses are narrow.
* `Evm.signLegacy_eq_ok_iff`: when a call is signed, and what comes of it.
* `Evm.transaction_eq_of_signLegacy`: what was signed is what was to be signed.
* `Evm.exists_signLegacy_call`: a signer whose signatures are recoverable signs every call.
-/

namespace GuardianRelay

/-- In the shared form twelve zeros stand in front of a contract-model address. -/
theorem Address.toList_ofEvm (a : EvmAddress) :
    (Address.ofEvm a).bytes.toList = Bytes.zeros 12 ++ a.toList := by
  rw [Address.ofEvm, Address.ofNative, FixedBytes.toList_leftPad (by simp), a.length_toList]

/-- The shared form of a contract-model address gives the address back. -/
@[simp] theorem Address.evm?_ofEvm (a : EvmAddress) : (Address.ofEvm a).evm? = some a := by
  have hzeros : Bytes.allZero (Bytes.zeros 12) = true := by decide
  rw [Address.evm?]
  simp only [Address.toList_ofEvm]
  rw [if_pos (by rw [List.take_left' (by simp [Bytes.zeros]), hzeros])]
  exact congrArg some (FixedBytes.ext (List.drop_left' (by simp [Bytes.zeros])))

/-- A contract-model address has no other shared form. -/
theorem Address.evm?_eq_some_iff {a : Address} {e : EvmAddress} :
    a.evm? = some e ↔ a = Address.ofEvm e := by
  constructor
  · intro h
    rw [Address.evm?] at h
    split at h
    next hzero =>
      obtain rfl := Option.some.inj h
      have hfront : a.bytes.toList.take 12 = Bytes.zeros 12 := by
        refine List.eq_replicate_iff.mpr ⟨by simp, fun x hx => ?_⟩
        exact beq_iff_eq.mp (List.all_eq_true.mp hzero x hx)
      refine Address.ext (FixedBytes.ext ?_)
      rw [Address.toList_ofEvm, ← hfront, List.take_append_drop]
    next => contradiction
  · rintro rfl
    exact Address.evm?_ofEvm e

/-- The shared form stands for the same number. -/
theorem Address.toNat_ofEvm (e : EvmAddress) : (Address.ofEvm e).bytes.toNat = e.toNat :=
  FixedBytes.toNat_leftPad (by simp)

/-- An address is one of a contract-model chain unless it is wider than 20 bytes. -/
theorem Address.evm?_eq_none_iff {a : Address} :
    a.evm? = none ↔ 256 ^ 20 ≤ a.bytes.toNat := by
  constructor
  · intro hnone
    by_contra hnarrow
    have hnumber : (FixedBytes.ofNat a.bytes.toNat : EvmAddress).toNat = a.bytes.toNat := by
      rw [FixedBytes.toNat_ofNat, Nat.mod_eq_of_lt (Nat.lt_of_not_le hnarrow)]
    have ha : a = Address.ofEvm (FixedBytes.ofNat a.bytes.toNat) := by
      refine Address.ext ?_
      rw [← FixedBytes.ofNat_toNat (Address.ofEvm _).bytes, Address.toNat_ofEvm, hnumber,
        FixedBytes.ofNat_toNat]
    rw [ha, Address.evm?_ofEvm] at hnone
    contradiction
  · intro hwide
    cases h : a.evm? with
    | none => rfl
    | some e =>
        rw [Address.evm?_eq_some_iff.mp h, Address.toNat_ofEvm] at hwide
        exact absurd e.toNat_lt (Nat.not_lt_of_le hwide)

/-- Every digest is answered with a signature from which the key can be recovered. -/
def Signer.Recoverable (signer : Signer) : Prop :=
  ∀ digest : Hash256, ∃ signature, signer.sign digest.toList = .ok signature ∧
    signature.length = 65 ∧ (signature.getLastD 0 = 27 ∨ signature.getLastD 0 = 28)

namespace Evm

variable {signer : Signer} {fields : Fields}

variable {transaction : UnsignedTransaction} {items : List Rlp.Item}

/-- A signature covers a call with a narrow target and a gas limit, and no other. -/
theorem envelopeItems_eq_ok_iff :
    envelopeItems transaction fields = .ok items ↔
      ∃ target gasLimit, transaction.target = Address.ofEvm target ∧
        transaction.gasLimit = some gasLimit ∧
        items = [Rlp.Item.ofNat fields.nonce.toNat, Rlp.Item.ofNat fields.gasPrice,
          Rlp.Item.ofNat gasLimit.toNat, .bytes target.toList, Rlp.Item.ofNat transaction.value,
          .bytes transaction.data] := by
  simp only [envelopeItems, ← Address.evm?_eq_some_iff]
  split
  next hwide => simp [hwide]
  next hnone => simp [hnone]
  next target gasLimit htarget hgas => simp [htarget, hgas, eq_comm]

/-- A call has no items if it has no gas limit, or its target is too wide. -/
theorem not_exists_envelopeItems_iff :
    (¬ ∃ items, envelopeItems transaction fields = .ok items) ↔
      transaction.gasLimit = none ∨ 256 ^ 20 ≤ transaction.target.bytes.toNat := by
  rw [← Address.evm?_eq_none_iff]
  simp only [envelopeItems]
  split
  next hwide => simp [hwide]
  next hnone => simp [hnone]
  next target gasLimit htarget hgas => simp [htarget, hgas]

/-- The recovery byte is the recovery identifier, counted from 27. -/
theorem recoveryIdentifier_eq_ok_iff {signature : Bytes} {identifier : ℕ} :
    recoveryIdentifier signature = .ok identifier ↔
      identifier ≤ 1 ∧ (signature.getLastD 0).toNat = 27 + identifier := by
  rw [recoveryIdentifier]
  split
  next h =>
    rw [h, Except.ok.injEq, show (27 : UInt8).toNat = 27 from rfl]
    omega
  next hne =>
    split
    next h =>
      rw [h, Except.ok.injEq, show (28 : UInt8).toNat = 28 from rfl]
      omega
    next hne' =>
      rw [← UInt8.toNat_inj, show (27 : UInt8).toNat = 27 from rfl] at hne
      rw [← UInt8.toNat_inj, show (28 : UInt8).toNat = 28 from rfl] at hne'
      exact iff_of_false nofun (by omega)

/-- Nothing of the recovery item is lost if 64 bits can hold the one of the greater identifier. -/
theorem recoveryItem_of_lt {networkId : UInt64} {identifier : ℕ} (hidentifier : identifier ≤ 1)
    (hnetwork : 2 * networkId.toNat + 36 < 2 ^ 64) :
    recoveryItem networkId identifier = networkId.toNat * 2 + 35 + identifier := by
  rw [recoveryItem]
  simp only [UInt64.toNat_add, UInt64.toNat_mul, UInt64.toNat_ofNat', UInt64.reduceToNat]
  omega

/-- The signed form of a call: its items, and the three of the signature. -/
def signedForm (signer : Signer) (transaction : UnsignedTransaction) (fields : Fields)
    (items : List Rlp.Item) (signature : Bytes) (identifier : ℕ) : SignedTransaction where
  transaction := transaction
  signer := signer.address
  signature := signature
  raw := (Rlp.Item.list (items ++ [Rlp.Item.ofNat (recoveryItem fields.networkId identifier),
    Rlp.Item.ofNat (Bytes.toNatBE (signature.take 32)),
    Rlp.Item.ofNat (Bytes.toNatBE ((signature.drop 32).take 32))])).encode

/-- A call is signed if it has items, and the signer answers their hash with a signature from which
the key can be recovered. -/
theorem signLegacy_eq_ok_iff {signed : SignedTransaction} :
    signLegacy signer transaction fields = .ok signed ↔
      ∃ items signature identifier, envelopeItems transaction fields = .ok items ∧
        signer.sign (Keccak.hash (signingPayload items fields.networkId)).toList =
          .ok signature ∧
        signature.length = 65 ∧ recoveryIdentifier signature = .ok identifier ∧
        signed = signedForm signer transaction fields items signature identifier := by
  constructor
  · intro h
    obtain ⟨items, hitems, h⟩ := Outcome.bind_eq_ok_iff.mp h
    obtain ⟨signature, hsign, h⟩ := Outcome.bind_eq_ok_iff.mp h
    split at h
    next => contradiction
    next hlength =>
      obtain ⟨identifier, hidentifier, h⟩ := Outcome.bind_eq_ok_iff.mp h
      obtain rfl := Except.ok.inj h
      exact ⟨items, signature, identifier, hitems, hsign, not_not.mp hlength, hidentifier, rfl⟩
  · rintro ⟨items, signature, identifier, hitems, hsign, hlength, hidentifier, rfl⟩
    refine Outcome.bind_eq_ok_iff.mpr ⟨items, hitems, ?_⟩
    refine Outcome.bind_eq_ok_iff.mpr ⟨signature, hsign, ?_⟩
    rw [if_neg (not_not.mpr hlength)]
    exact Outcome.bind_eq_ok_iff.mpr ⟨identifier, hidentifier, rfl⟩

/-- What is signed is the transaction that was to be signed. -/
theorem transaction_eq_of_signLegacy {signed : SignedTransaction}
    (h : signLegacy signer transaction fields = .ok signed) :
    signed.transaction = transaction := by
  obtain ⟨_, _, _, -, -, -, -, rfl⟩ := signLegacy_eq_ok_iff.mp h
  rfl

/-- The recovery byte of a recoverable signature names a recovery identifier. -/
theorem exists_recoveryIdentifier {signature : Bytes}
    (h : signature.getLastD 0 = 27 ∨ signature.getLastD 0 = 28) :
    ∃ identifier, recoveryIdentifier signature = .ok identifier := by
  obtain h | h := h
  · exact ⟨0, recoveryIdentifier_eq_ok_iff.mpr ⟨by decide, by rw [h]; rfl⟩⟩
  · exact ⟨1, recoveryIdentifier_eq_ok_iff.mpr ⟨by decide, by rw [h]; rfl⟩⟩

/-- A signer whose signatures are recoverable signs every call. -/
theorem exists_signLegacy_call (hsigner : signer.Recoverable) (chain : ChainId)
    (contract : EvmAddress) (data : Bytes) (value : ℕ) (gasLimit : UInt64) (fields : Fields) :
    ∃ signed, signLegacy signer (.call chain contract data value gasLimit) fields =
      .ok signed := by
  obtain ⟨items, hitems⟩ : ∃ items,
      envelopeItems (.call chain contract data value gasLimit) fields = .ok items :=
    ⟨_, envelopeItems_eq_ok_iff.mpr ⟨contract, gasLimit, rfl, rfl, rfl⟩⟩
  obtain ⟨signature, hsign, hlength, hlast⟩ :=
    hsigner (Keccak.hash (signingPayload items fields.networkId))
  obtain ⟨identifier, hidentifier⟩ := exists_recoveryIdentifier hlast
  exact ⟨_, signLegacy_eq_ok_iff.mpr
    ⟨items, signature, identifier, hitems, hsign, hlength, hidentifier, rfl⟩⟩

/-- An account that signs everything. -/
def openSigner : Signer where
  address := Address.ofEvm FixedBytes.zero
  sign _ := .ok (Bytes.zeros 64 ++ [27])

theorem recoverable_openSigner : openSigner.Recoverable :=
  fun _ => ⟨_, rfl, by decide, .inl (by decide)⟩

end Evm

end GuardianRelay
