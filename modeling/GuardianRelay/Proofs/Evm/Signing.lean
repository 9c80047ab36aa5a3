import GuardianRelay.Proofs.Evm.Envelope
import GuardianRelay.Proofs.Evm.Rlp

/-!
# What Is Signed, and What Is Executed

A node takes a signed call apart into nine items. The first six say what is to be done; the others
are the signature, and they name the network. What the signature covers are the first six with the
network and two zeros, again as nine items. A node that reads both finds the same six in them, and
they are those of the transaction: the signature covers what is executed, and nothing else has the
same payload.

## Main results

* `Envelope.read?_written`: a call is read where it is written, whatever its numbers are.
* `IsPayload.inj`: a payload determines the transaction and what the node added to it.
* `signLegacy_faithful`: what is signed and what is handed in are the call of the transaction, and
  a call is signed unless the transaction or the signer is not fit for it.
-/

namespace GuardianRelay.Evm

/-! ### The nine items -/

/-- The nine items of a call. The last three are a signature, or the network and two zeros. -/
structure Envelope where
  nonce : ℕ
  gasPrice : ℕ
  gasLimit : ℕ
  target : EvmAddress
  value : ℕ
  data : Bytes
  v : ℕ
  r : ℕ
  s : ℕ
deriving DecidableEq

/-- Reads a number of so many bits, which has no zeros in front. -/
def number? (bits : ℕ) : Rlp.Item → Option ℕ
  | .bytes b => if b.head? ≠ some 0 ∧ Bytes.toNatBE b < 2 ^ bits then some (Bytes.toNatBE b)
    else none
  | .list _ => none

/-- Reads octets. -/
def octets? : Rlp.Item → Option Bytes
  | .bytes b => some b
  | .list _ => none

namespace Envelope

/-- The items of a call. -/
def items (c : Envelope) : List Rlp.Item :=
  [.ofNat c.nonce, .ofNat c.gasPrice, .ofNat c.gasLimit, .bytes c.target.toList, .ofNat c.value,
    .bytes c.data, .ofNat c.v, .ofNat c.r, .ofNat c.s]

/-- The written form of a call. -/
def written (c : Envelope) : Bytes := (Rlp.Item.list c.items).encode

/-- The call of nine items. -/
def ofItems? : List Rlp.Item → Option Envelope
  | [nonce, gasPrice, gasLimit, target, value, data, v, r, s] => do
    return {
      nonce := ← number? 64 nonce
      gasPrice := ← number? 128 gasPrice
      gasLimit := ← number? 64 gasLimit
      target := ← (octets? target).bind FixedBytes.ofList?
      value := ← number? 128 value
      data := ← octets? data
      v := ← number? 64 v
      r := ← number? 256 r
      s := ← number? 256 s }
  | _ => none

/-- Reads octets that are one call, and nothing else. -/
def read? (b : Bytes) : Option Envelope :=
  match Rlp.Item.decode? b with
  | some (.list items) => ofItems? items
  | _ => none

/-- The numbers of a call have the widths in which they are read. -/
structure Fits (c : Envelope) : Prop where
  nonce : c.nonce < 2 ^ 64
  gasPrice : c.gasPrice < 2 ^ 128
  gasLimit : c.gasLimit < 2 ^ 64
  value : c.value < 2 ^ 128
  data : c.data.length < 2 ^ 63
  v : c.v < 2 ^ 64
  r : c.r < 2 ^ 256
  s : c.s < 2 ^ 256

end Envelope

/-- A number is read where it is written. -/
theorem number?_ofNat {bits n : ℕ} (h : n < 2 ^ bits) : number? bits (.ofNat n) = some n := by
  have hwritten : (Rlp.natural n).head? ≠ some 0 ∧ Bytes.toNatBE (Rlp.natural n) < 2 ^ bits :=
    ⟨Rlp.head?_natural_ne n, by rwa [Rlp.toNatBE_natural]⟩
  rw [Rlp.Item.ofNat, number?, if_pos hwritten, Rlp.toNatBE_natural]

/-- The written form of a number of at most 256 bits is short. -/
theorem length_encode_ofNat_le {n : ℕ} (h : n < 2 ^ 256) :
    (Rlp.Item.ofNat n).encode.length ≤ 41 := by
  have hoctets : (Rlp.natural n).length ≤ 32 := Rlp.length_natural_le (k := 32) (by simpa using h)
  have hprefix := Rlp.length_encodeBytes_le (b := Rlp.natural n) (by omega)
  rw [Rlp.Item.ofNat, Rlp.Item.encode]
  omega

namespace Envelope

variable {c : Envelope}

/-- The items of a call can be told apart. -/
theorem ofItems?_items (h : c.Fits) : ofItems? c.items = some c := by
  obtain ⟨hnonce, hgasPrice, hgasLimit, hvalue, -, hv, hr, hs⟩ := h
  simp only [ofItems?, items, number?_ofNat hnonce, number?_ofNat hgasPrice,
    number?_ofNat hgasLimit, number?_ofNat hvalue, number?_ofNat hv, number?_ofNat hr,
    number?_ofNat hs, octets?, Option.bind_some, FixedBytes.ofList?_toList, Option.bind_eq_bind,
    Option.pure_def]

/-- The written form of a call is not much longer than its data. -/
theorem length_written_lt (h : c.Fits) : c.written.length < 256 ^ 8 := by
  have hnonce := length_encode_ofNat_le (h.nonce.trans_le (by decide))
  have hgasPrice := length_encode_ofNat_le (h.gasPrice.trans_le (by decide))
  have hgasLimit := length_encode_ofNat_le (h.gasLimit.trans_le (by decide))
  have hvalue := length_encode_ofNat_le (h.value.trans_le (by decide))
  have hv := length_encode_ofNat_le (h.v.trans_le (by decide))
  have hr := length_encode_ofNat_le h.r
  have hs := length_encode_ofNat_le h.s
  have hdata := h.data
  have htarget := Rlp.length_encodeBytes_le (b := c.target.toList) (by simp)
  have hwrittenData := Rlp.length_encodeBytes_le (b := c.data) (by omega)
  rw [FixedBytes.length_toList] at htarget
  have hcontent : (Rlp.encodeItems c.items).length < 2 ^ 63 + 1000 := by
    simp only [items, Rlp.encodeItems, List.length_append, List.length_nil, Rlp.Item.encode]
    simp only [Rlp.Item.ofNat, Rlp.Item.encode] at hnonce hgasPrice hgasLimit hvalue hv hr hs ⊢
    omega
  have hprefix : (Rlp.lengthPrefix 192 (Rlp.encodeItems c.items).length).length ≤ 9 :=
    Rlp.length_lengthPrefix_le (by omega)
  rw [written, Rlp.Item.encode, List.length_append]
  omega

/-- A call is read where it is written. -/
theorem read?_written (h : c.Fits) : read? c.written = some c := by
  rw [read?, written, Rlp.Item.decode?_encode (length_written_lt h)]
  exact ofItems?_items h

end Envelope

/-! ### The envelopes of a transaction -/

variable {transaction : UnsignedTransaction} {fields : Fields}

/-- The envelope of a transaction with the nonce, the gas price and the network that the node names,
up to its last three items. -/
def envelopeOf (transaction : UnsignedTransaction) (fields : Fields) (target : EvmAddress)
    (gasLimit : UInt64) (v r s : ℕ) : Envelope where
  nonce := fields.nonce.toNat
  gasPrice := fields.gasPrice
  gasLimit := gasLimit.toNat
  target := target
  value := transaction.value
  data := transaction.data
  v := v
  r := r
  s := s

/-- The envelope that a signature covers, which ends in the network and two zeros. -/
def covered (transaction : UnsignedTransaction) (fields : Fields) (target : EvmAddress)
    (gasLimit : UInt64) : Envelope :=
  envelopeOf transaction fields target gasLimit fields.networkId.toNat 0 0

/-- The envelope that is handed in, which ends in the signature: the recovery byte with the network,
and two numbers of 32 octets. -/
def handedIn (transaction : UnsignedTransaction) (fields : Fields) (target : EvmAddress)
    (gasLimit : UInt64) (signature : Bytes) : Envelope :=
  envelopeOf transaction fields target gasLimit
    (fields.networkId.toNat * 2 + 35 + ((signature.getLastD 0).toNat - 27))
    (Bytes.toNatBE (signature.take 32)) (Bytes.toNatBE ((signature.drop 32).take 32))

/-- The numbers of a transaction and of what the node adds have the widths that they have in an
endpoint, and the number that names the network in a signature has 64 bits. -/
structure Representable (transaction : UnsignedTransaction) (fields : Fields) : Prop where
  value : transaction.value < 2 ^ 128
  data : transaction.data.length < 2 ^ 63
  gasPrice : fields.gasPrice < 2 ^ 128
  network : 2 * fields.networkId.toNat + 36 < 2 ^ 64

/-- The octets that a signature of a transaction covers. -/
def IsPayload (transaction : UnsignedTransaction) (fields : Fields) (payload : Bytes) : Prop :=
  ∃ items, envelopeItems transaction fields = .ok items ∧
    payload = signingPayload items fields.networkId

/-- The signature has the length and the last octet of one from which the key can be recovered. -/
def IsRecoverable (signature : Bytes) : Prop :=
  signature.length = 65 ∧ (signature.getLastD 0 = 27 ∨ signature.getLastD 0 = 28)

variable {target : EvmAddress} {gasLimit : UInt64} {payload signature : Bytes}

/-- What a signature covers can be read. -/
theorem read?_covered (h : Representable transaction fields) :
    Envelope.read? (covered transaction fields target gasLimit).written =
      some (covered transaction fields target gasLimit) :=
  Envelope.read?_written ⟨fields.nonce.toNat_lt, h.gasPrice, gasLimit.toNat_lt, h.value, h.data,
    fields.networkId.toNat_lt, Nat.two_pow_pos 256, Nat.two_pow_pos 256⟩

/-- What is handed in with a recovery byte of 27 or 28 has numbers of the widths that are read. -/
theorem fits_handedIn (h : Representable transaction fields)
    (hlast : (signature.getLastD 0).toNat ≤ 28) :
    (handedIn transaction fields target gasLimit signature).Fits := by
  have hnetwork := h.network
  have hwidth : ∀ b : Bytes, Bytes.toNatBE (b.take 32) < 2 ^ 256 := fun b =>
    (Bytes.toNatBE_lt _).trans_le (Nat.pow_le_pow_right (by decide) (List.length_take_le 32 b))
  refine ⟨fields.nonce.toNat_lt, h.gasPrice, gasLimit.toNat_lt, h.value, h.data, ?_, hwidth _,
    hwidth _⟩
  simp only [handedIn, envelopeOf]
  omega

/-- What is handed in with a recovery byte of 27 or 28 can be read. -/
theorem read?_handedIn (h : Representable transaction fields)
    (hlast : (signature.getLastD 0).toNat ≤ 28) :
    Envelope.read? (handedIn transaction fields target gasLimit signature).written =
      some (handedIn transaction fields target gasLimit signature) :=
  Envelope.read?_written (fits_handedIn h hlast)

/-! ### Payloads -/

/-- A signature covers a transaction with a narrow target and a gas limit, and of it the envelope
with the network and two zeros. -/
theorem isPayload_iff :
    IsPayload transaction fields payload ↔
      ∃ target gasLimit, transaction.target = Address.ofEvm target ∧
        transaction.gasLimit = some gasLimit ∧
        payload = (covered transaction fields target gasLimit).written := by
  simp only [IsPayload, envelopeItems_eq_ok_iff]
  constructor
  · rintro ⟨_, ⟨target, gasLimit, htarget, hgas, rfl⟩, rfl⟩
    exact ⟨target, gasLimit, htarget, hgas, rfl⟩
  · rintro ⟨target, gasLimit, htarget, hgas, rfl⟩
    exact ⟨_, ⟨target, gasLimit, htarget, hgas, rfl⟩, rfl⟩

/-- A signature covers the envelope with the network and two zeros. -/
theorem isPayload_covered (htarget : transaction.target = Address.ofEvm target)
    (hgas : transaction.gasLimit = some gasLimit) :
    IsPayload transaction fields (covered transaction fields target gasLimit).written :=
  isPayload_iff.mpr ⟨target, gasLimit, htarget, hgas, rfl⟩

/-- What a signature covers is hashed. -/
theorem IsPayload.signingHash_eq (h : IsPayload transaction fields payload) :
    signingHash transaction fields = .ok (Keccak.hash payload) := by
  obtain ⟨items, hitems, rfl⟩ := h
  exact Outcome.bind_eq_ok_iff.mpr ⟨items, hitems, rfl⟩

/-- A signature of a transaction covers one thing only. -/
theorem IsPayload.unique {payload' : Bytes} (h : IsPayload transaction fields payload)
    (h' : IsPayload transaction fields payload') : payload = payload' := by
  obtain ⟨items, hitems, rfl⟩ := h
  obtain ⟨items', hitems', rfl⟩ := h'
  rw [Except.ok.inj (hitems.symm.trans hitems')]

/-- What a signature covers determines the transaction, up to the accounts that it does not have,
and what the node added to it. -/
theorem IsPayload.inj {transaction' : UnsignedTransaction} {fields' : Fields}
    (h : IsPayload transaction fields payload) (h' : IsPayload transaction' fields' payload)
    (hwidths : Representable transaction fields) (hwidths' : Representable transaction' fields') :
    transaction.target = transaction'.target ∧ transaction.value = transaction'.value ∧
      transaction.data = transaction'.data ∧ transaction.gasLimit = transaction'.gasLimit ∧
      fields = fields' := by
  obtain ⟨target, gasLimit, htarget, hgas, rfl⟩ := isPayload_iff.mp h
  obtain ⟨target', gasLimit', htarget', hgas', heq⟩ := isPayload_iff.mp h'
  -- both envelopes are what is found in the payload
  have hread : Envelope.read? (covered transaction' fields' target' gasLimit').written = _ :=
    read?_covered hwidths'
  rw [← heq, read?_covered hwidths, Option.some.injEq] at hread
  simp only [covered, envelopeOf, Envelope.mk.injEq, UInt64.toNat_inj] at hread
  obtain ⟨hnonce, hgasPrice, rfl, rfl, hvalue, hdata, hnetwork, -, -⟩ := hread
  refine ⟨htarget.trans htarget'.symm, hvalue, hdata, hgas.trans hgas'.symm, ?_⟩
  obtain ⟨nonce, gasPrice, networkId⟩ := fields
  obtain ⟨nonce', gasPrice', networkId'⟩ := fields'
  obtain rfl : nonce = nonce' := hnonce
  obtain rfl : gasPrice = gasPrice' := hgasPrice
  obtain rfl : networkId = networkId' := hnetwork
  rfl

/-! ### Signing -/

variable {signer : Signer}

/-- The last octet of a recoverable signature names a recovery identifier, and no other does. -/
theorem isRecoverable_iff :
    IsRecoverable signature ↔
      signature.length = 65 ∧ ∃ identifier, recoveryIdentifier signature = .ok identifier := by
  refine and_congr_right fun _ => ⟨exists_recoveryIdentifier, ?_⟩
  rintro ⟨identifier, hidentifier⟩
  obtain ⟨hsmall, hlast⟩ := recoveryIdentifier_eq_ok_iff.mp hidentifier
  obtain rfl | rfl : identifier = 0 ∨ identifier = 1 := by omega
  · exact .inl (UInt8.toNat_inj.mp hlast)
  · exact .inr (UInt8.toNat_inj.mp hlast)

/-- The raw form that is made of a signature is the envelope with the signature. -/
theorem raw_signedForm (signer : Signer) {items : List Rlp.Item} {identifier : ℕ}
    (htarget : transaction.target = Address.ofEvm target)
    (hgas : transaction.gasLimit = some gasLimit)
    (hitems : envelopeItems transaction fields = .ok items)
    (hidentifier : recoveryIdentifier signature = .ok identifier)
    (hnetwork : 2 * fields.networkId.toNat + 36 < 2 ^ 64) :
    (signedForm signer transaction fields items signature identifier).raw =
      (handedIn transaction fields target gasLimit signature).written := by
  obtain rfl := Except.ok.inj
    (hitems.symm.trans (envelopeItems_eq_ok_iff.mpr ⟨target, gasLimit, htarget, hgas, rfl⟩))
  obtain ⟨hsmall, hlast⟩ := recoveryIdentifier_eq_ok_iff.mp hidentifier
  have hv : recoveryItem fields.networkId identifier =
      fields.networkId.toNat * 2 + 35 + ((signature.getLastD 0).toNat - 27) := by
    rw [recoveryItem_of_lt hsmall hnetwork]
    omega
  rw [signedForm, hv]
  rfl

/-- A call is signed exactly if the signer answers the hash of what is covered with a signature from
which the key can be recovered. What is handed in is the envelope with this signature, if the number
that names the network in it has 64 bits. -/
theorem signLegacy_eq_ok_iff_handedIn (htarget : transaction.target = Address.ofEvm target)
    (hgas : transaction.gasLimit = some gasLimit)
    (hnetwork : 2 * fields.networkId.toNat + 36 < 2 ^ 64) {signed : SignedTransaction} :
    signLegacy signer transaction fields = .ok signed ↔
      ∃ signature, IsRecoverable signature ∧
        signer.sign (Keccak.hash (covered transaction fields target gasLimit).written).toList =
          .ok signature ∧
        signed =
          { transaction := transaction
            signer := signer.address
            signature := signature
            raw := (handedIn transaction fields target gasLimit signature).written } := by
  have hpayload : IsPayload transaction fields
      (covered transaction fields target gasLimit).written := isPayload_covered htarget hgas
  rw [signLegacy_eq_ok_iff]
  constructor
  · rintro ⟨items, signature, identifier, hitems, hsign, hlength, hidentifier, rfl⟩
    rw [IsPayload.unique ⟨items, hitems, rfl⟩ hpayload] at hsign
    refine ⟨signature, isRecoverable_iff.mpr ⟨hlength, identifier, hidentifier⟩, hsign, ?_⟩
    rw [← raw_signedForm signer htarget hgas hitems hidentifier hnetwork]
    rfl
  · rintro ⟨signature, hrecoverable, hsign, rfl⟩
    obtain ⟨hlength, identifier, hidentifier⟩ := isRecoverable_iff.mp hrecoverable
    obtain ⟨items, hitems, heq⟩ := hpayload
    rw [heq] at hsign
    refine ⟨items, signature, identifier, hitems, hsign, hlength, hidentifier, ?_⟩
    rw [← raw_signedForm signer htarget hgas hitems hidentifier hnetwork]
    rfl

/-- What is handed in is not longer than 64 bits can count. -/
theorem length_raw_lt (h : Representable transaction fields)
    (htarget : transaction.target = Address.ofEvm target)
    (hgas : transaction.gasLimit = some gasLimit) {signed : SignedTransaction}
    (hsigned : signLegacy signer transaction fields = .ok signed) :
    signed.raw.length < 256 ^ 8 := by
  obtain ⟨signature, ⟨-, hlast⟩, -, rfl⟩ :=
    (signLegacy_eq_ok_iff_handedIn htarget hgas h.network).mp hsigned
  have hsmall : (signature.getLastD 0).toNat ≤ 28 := by
    obtain hlast | hlast := hlast <;>
      · rw [hlast]
        decide
  exact Envelope.length_written_lt (fits_handedIn h hsmall)

/-- A call is signed if a signature covers it, and the signer answers with one from which the key
can be recovered. -/
theorem exists_signLegacy_iff :
    (∃ signed, signLegacy signer transaction fields = .ok signed) ↔
      ∃ payload signature, IsPayload transaction fields payload ∧
        signer.sign (Keccak.hash payload).toList = .ok signature ∧ IsRecoverable signature := by
  simp only [signLegacy_eq_ok_iff, isRecoverable_iff]
  constructor
  · rintro ⟨_, items, signature, identifier, hitems, hsign, hlength, hidentifier, -⟩
    exact ⟨_, signature, ⟨items, hitems, rfl⟩, hsign, hlength, identifier, hidentifier⟩
  · rintro ⟨_, signature, ⟨items, hitems, rfl⟩, hsign, hlength, identifier, hidentifier⟩
    exact ⟨_, items, signature, identifier, hitems, hsign, hlength, hidentifier, rfl⟩

/-- A call is not signed if it has no gas limit, its target is too wide, or the signer fails or
answers with something else than a signature from which the key can be recovered. -/
theorem signLegacy_fails_iff :
    (∃ fault, signLegacy signer transaction fields = .error fault) ↔
      transaction.gasLimit = none ∨ 256 ^ 20 ≤ transaction.target.bytes.toNat ∨
      ∃ payload, IsPayload transaction fields payload ∧
        ((∃ fault, signer.sign (Keccak.hash payload).toList = .error fault) ∨
          ∃ signature, signer.sign (Keccak.hash payload).toList = .ok signature ∧
            ¬ IsRecoverable signature) := by
  have hunfit : (¬ ∃ items, envelopeItems transaction fields = .ok items) ↔
      transaction.gasLimit = none ∨ 256 ^ 20 ≤ transaction.target.bytes.toNat :=
    not_exists_envelopeItems_iff
  rw [Outcome.exists_eq_error_iff, exists_signLegacy_iff, ← or_assoc, ← hunfit]
  constructor
  · intro hunsigned
    refine or_iff_not_imp_left.mpr fun hitems => ?_
    obtain ⟨items, hitems⟩ := not_not.mp hitems
    have hpayload : IsPayload transaction fields (signingPayload items fields.networkId) :=
      ⟨items, hitems, rfl⟩
    refine ⟨_, hpayload, ?_⟩
    cases hsign : signer.sign (Keccak.hash (signingPayload items fields.networkId)).toList with
    | error fault => exact .inl ⟨fault, rfl⟩
    | ok signature =>
        exact .inr ⟨signature, rfl, fun h => hunsigned ⟨_, signature, hpayload, hsign, h⟩⟩
  · rintro hfails ⟨payload, signature, hpayload, hsign, hrecoverable⟩
    obtain hnone | ⟨payload', hpayload', hbad⟩ := hfails
    · obtain ⟨items, hitems, -⟩ := hpayload
      exact hnone ⟨items, hitems⟩
    · obtain rfl := hpayload.unique hpayload'
      rw [hsign] at hbad
      obtain ⟨fault, hfault⟩ | ⟨other, hother, hbad⟩ := hbad
      · contradiction
      · exact hbad (Except.ok.inj hother ▸ hrecoverable)

/-- **What is signed is what is executed.** A signature covers the six items of a transaction with
the network and two zeros, and what is handed in are the same six with the signature; a node reads
them out of both. What a signature covers determines the transaction and what the node added to it.
A call is signed unless its gas limit is missing, its target is too wide, or the signer is not fit
for it. -/
theorem signLegacy_faithful (h : Representable transaction fields) :
    (∀ target gasLimit, transaction.target = Address.ofEvm target →
      transaction.gasLimit = some gasLimit →
      ∃ payload, IsPayload transaction fields payload ∧
        signingHash transaction fields = .ok (Keccak.hash payload) ∧
        payload = (covered transaction fields target gasLimit).written ∧
        Envelope.read? payload = some (covered transaction fields target gasLimit) ∧
        ∀ signer signature, signer.sign (Keccak.hash payload).toList = .ok signature →
          IsRecoverable signature →
          ∃ signed, signLegacy signer transaction fields = .ok signed ∧
            signed.signature = signature ∧
            Envelope.read? signed.raw =
              some (handedIn transaction fields target gasLimit signature)) ∧
    (∀ transaction' fields' payload, Representable transaction' fields' →
      IsPayload transaction fields payload → IsPayload transaction' fields' payload →
      transaction.target = transaction'.target ∧ transaction.value = transaction'.value ∧
        transaction.data = transaction'.data ∧ transaction.gasLimit = transaction'.gasLimit ∧
        fields = fields') ∧
    ∀ signer, (∃ fault, signLegacy signer transaction fields = .error fault) ↔
      transaction.gasLimit = none ∨ 256 ^ 20 ≤ transaction.target.bytes.toNat ∨
      ∃ payload, IsPayload transaction fields payload ∧
        ((∃ fault, signer.sign (Keccak.hash payload).toList = .error fault) ∨
          ∃ signature, signer.sign (Keccak.hash payload).toList = .ok signature ∧
            ¬ IsRecoverable signature) := by
  refine ⟨fun target gasLimit htarget hgas => ?_,
    fun _ _ _ h' hpayload hpayload' => hpayload.inj hpayload' h h',
    fun signer => signLegacy_fails_iff⟩
  have hpayload : IsPayload transaction fields
      (covered transaction fields target gasLimit).written := isPayload_covered htarget hgas
  refine ⟨_, hpayload, hpayload.signingHash_eq, rfl, read?_covered h, ?_⟩
  intro signer signature hsign hrecoverable
  refine ⟨_, (signLegacy_eq_ok_iff_handedIn htarget hgas h.network).mpr
    ⟨signature, hrecoverable, hsign, rfl⟩, rfl, read?_handedIn h ?_⟩
  obtain ⟨-, hlast | hlast⟩ := hrecoverable
  · rw [hlast]
    decide
  · rw [hlast]
    decide

/-- A payment on the second chain. -/
def payment : UnsignedTransaction := .call 2 (FixedBytes.ofNat 2) [7] 1000 21000

/-- What a node adds to the payment. -/
def paymentFields : Fields := ⟨1, 10, 5⟩

/-- A signer that never signs. -/
def refusingSigner : Signer where
  address := openSigner.address
  sign _ := .error .wrongKey

theorem signLegacy_faithful_payment :
    Representable payment paymentFields ∧
    (∃ payload signed, IsPayload payment paymentFields payload ∧
      signingHash payment paymentFields = .ok (Keccak.hash payload) ∧
      Envelope.read? payload = some (covered payment paymentFields (FixedBytes.ofNat 2) 21000) ∧
      signLegacy openSigner payment paymentFields = .ok signed ∧
      Envelope.read? signed.raw = some
        (handedIn payment paymentFields (FixedBytes.ofNat 2) 21000 signed.signature) ∧
      -- another transaction with the same payload differs only in what is not signed
      IsPayload { payment with chain := 30 } paymentFields payload ∧
      payment.data = { payment with chain := 30 }.data) ∧
    ∃ fault, signLegacy refusingSigner payment paymentFields = .error fault := by
  have hpayment : Representable payment paymentFields :=
    ⟨by decide, by decide, by decide, by decide⟩
  obtain ⟨hsigned, hinj, hfails⟩ := signLegacy_faithful hpayment
  obtain ⟨payload, hpayload, hhash, -, hread, hsign⟩ := hsigned (FixedBytes.ofNat 2) 21000 rfl rfl
  obtain ⟨signed, hraw, hsignature, hreadRaw⟩ :=
    hsign openSigner _ rfl ⟨by decide, .inl (by decide)⟩
  rw [← hsignature] at hreadRaw
  have hother : IsPayload { payment with chain := 30 } paymentFields payload := hpayload
  obtain ⟨-, -, hdata, -⟩ := hinj _ paymentFields payload
    ⟨by decide, by decide, by decide, by decide⟩ hpayload hother
  exact ⟨hpayment, ⟨payload, signed, hpayload, hhash, hread, hraw, hreadRaw, hother, hdata⟩,
    (hfails refusingSigner).mpr (.inr (.inr ⟨payload, hpayload, .inl ⟨_, rfl⟩⟩))⟩

end GuardianRelay.Evm
