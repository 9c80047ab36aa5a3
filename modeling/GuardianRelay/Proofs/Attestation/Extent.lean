import GuardianRelay.Proofs.Attestation.RoundTrip
import GuardianRelay.Proofs.Decoder.Extent

/-!
# How Long Attestations Are

Whether bytes are an attestation depends on how many there are and on one of them, the number of
signatures. Once that has been read the decoder knows how much it needs. It checks for that, and
after the check it cannot fail. So an attestation that is cut off is noticed, unless it is cut off
in its payload, and of that nothing says how long it should be.

## Main results

* `Attestation.contents_enough`: nothing that is read after the check fails.
* `Attestation.exists_decode_iff`: how many bytes an attestation takes at least.
* `Attestation.decode_settled_by_length`: what becomes of any bytes, and of those that an
  attestation starts with.
-/

namespace GuardianRelay

/-- A signature takes 66 bytes. -/
theorem GuardianSignature.spans_decoder : decoder.Spans Attestation.signatureLength :=
  Decoder.field_uint8.spans.bind fun guardian =>
    ((Decoder.field_fixed 65).map (ofBytes guardian)).spans

namespace Attestation

variable {b : Bytes}

/-! ### After the count -/

/-- Reads what comes after the number of signatures, without checking for room. -/
def contents (version : UInt8) (guardianSetIndex : UInt32) (count : UInt8) :
    Decoder Attestation := do
  let signatures ← Decoder.times GuardianSignature.decoder count.toNat
  let timestamp ← Decoder.uint32
  let nonce ← Decoder.uint32
  let emitterChain ← Decoder.uint16
  let emitter ← Decoder.fixed 32
  let sequence ← Decoder.uint64
  let consistencyLevel ← Decoder.uint8
  let payload ← Decoder.rest
  return { version, guardianSetIndex, signatures, timestamp, nonce, emitterChain,
           emitter := ⟨emitter⟩, sequence, consistencyLevel, payload }

/-- With room for the signatures and the fixed part of the body, nothing fails. -/
theorem contents_enough (version : UInt8) (guardianSetIndex : UInt32) (count : UInt8) :
    (contents version guardianSetIndex count).Enough
      (count.toNat * signatureLength + bodyFixedLength) :=
  (GuardianSignature.spans_decoder.times _).bind_enough fun _ =>
    Decoder.field_uint32.spans.bind_enough fun _ =>
    Decoder.field_uint32.spans.bind_enough fun _ =>
    Decoder.field_uint16.spans.bind_enough fun _ =>
    (Decoder.field_fixed 32).spans.bind_enough fun _ =>
    Decoder.field_uint64.spans.bind_enough fun _ =>
    Decoder.field_uint8.spans.bind_enough fun _ =>
    Decoder.enough_rest_bind

/-! ### The header -/

/-- Reads the number of signatures, checks for room and reads on. -/
def counted (version : UInt8) (guardianSetIndex : UInt32) : Decoder Attestation := do
  let count ← Decoder.uint8
  Decoder.ensure (count.toNat * signatureLength + bodyFixedLength)
  contents version guardianSetIndex count

/-- What comes before the number of signatures are the version and the guardian set. -/
theorem decoder_eq : decoder = (do
    let version ← Decoder.uint8
    let guardianSetIndex ← Decoder.uint32
    counted version guardianSetIndex) := rfl

/-- No bytes are cut off before the version. -/
theorem decode_nil : decode [] = .error (.truncated 0 1 0) := rfl

/-- Up to four bytes are cut off in the guardian set. -/
theorem decode_of_length_le_four (hpos : 1 ≤ b.length) (hlength : b.length ≤ 4) :
    decode b = .error (.truncated 1 4 (b.length - 1)) := by
  rw [decode, Decoder.decode_eq_error_iff, decoder_eq]
  obtain ⟨version, -, hversion⟩ :=
    Decoder.field_uint8.spans.exists_run_bind (c := Cursor.start b) hpos
  rw [hversion, Decoder.field_uint32.run_bind_short (by simp; omega)]
  simp

/-- With five bytes the number of signatures is what is read next. -/
theorem exists_run_counted (h : 5 ≤ b.length) :
    ∃ version guardianSetIndex, decoder.run (Cursor.start b) =
      (counted version guardianSetIndex).run ((Cursor.start b).advance 5) := by
  rw [decoder_eq]
  obtain ⟨version, -, hversion⟩ :=
    Decoder.field_uint8.spans.exists_run_bind (c := Cursor.start b) (by simp; omega)
  obtain ⟨guardianSetIndex, -, hset⟩ :=
    Decoder.field_uint32.spans.exists_run_bind (f := counted version)
      (c := (Cursor.start b).advance 1) (by simp; omega)
  exact ⟨version, guardianSetIndex, by rw [hversion, hset, Cursor.advance_advance]⟩

/-- Five bytes are cut off before the number of signatures. -/
theorem decode_of_length_eq_five (hlength : b.length = 5) :
    decode b = .error (.truncated 5 1 0) := by
  obtain ⟨version, guardianSetIndex, hrun⟩ := exists_run_counted hlength.ge
  rw [decode, Decoder.decode_eq_error_iff, hrun, counted,
    Decoder.field_uint8.run_bind_short (by simp; omega)]
  simp [hlength]

/-- The number of signatures is the sixth byte. -/
theorem run_counted (h : 6 ≤ b.length) (version : UInt8) (guardianSetIndex : UInt32) :
    (counted version guardianSetIndex).run ((Cursor.start b).advance 5) =
      (Decoder.ensure (b[5].toNat * signatureLength + bodyFixedLength) >>= fun _ =>
        contents version guardianSetIndex b[5]).run ((Cursor.start b).advance 6) := by
  obtain ⟨count, hcount, hrun⟩ := Decoder.field_uint8.spans.exists_run_bind
    (c := (Cursor.start b).advance 5) (by simp; omega)
  have hread : b.drop 5 = count :: _ := ((Decoder.reads_uint8 _ _ _).mp hcount).2.1
  have hsixth : b[5] = count := (List.cons.inj ((List.drop_eq_getElem_cons h).symm.trans hread)).1
  rw [counted, hrun, Cursor.advance_advance, hsixth]

/-! ### Whole attestations -/

/-- Bytes that are fewer than their sixth byte says are cut off where the check for room stands. -/
theorem decode_of_length_lt (h : 6 ≤ b.length) (hlength : b.length < 57 + 66 * b[5].toNat) :
    decode b = .error (.truncated 6 (66 * b[5].toNat + 51) (b.length - 6)) := by
  obtain ⟨version, guardianSetIndex, hrun⟩ := exists_run_counted (Nat.le_of_succ_le h)
  have hneeded : b[5].toNat * signatureLength + bodyFixedLength = 66 * b[5].toNat + 51 := by
    rw [signatureLength, bodyFixedLength, Nat.mul_comm]
  have hshort : ((Cursor.start b).advance 6).rest.length < 66 * b[5].toNat + 51 := by
    rw [Cursor.length_rest_advance, Cursor.rest_start]
    omega
  rw [decode, Decoder.decode_eq_error_iff, hrun, run_counted h, hneeded,
    Decoder.run_bind_of_error (Decoder.run_ensure_of_lt hshort)]
  simp

/-- Bytes that are as many as their sixth byte says are an attestation. -/
theorem exists_decode_of_le (h : 6 ≤ b.length) (hlength : 57 + 66 * b[5].toNat ≤ b.length) :
    ∃ a, decode b = .ok a := by
  obtain ⟨version, guardianSetIndex, hrun⟩ := exists_run_counted (Nat.le_of_succ_le h)
  have hroom : b[5].toNat * signatureLength + bodyFixedLength ≤
      ((Cursor.start b).advance 6).rest.length := by
    rw [Cursor.length_rest_advance, Cursor.rest_start, signatureLength, bodyFixedLength]
    omega
  obtain ⟨a, c', ha⟩ := contents_enough version guardianSetIndex b[5] _ hroom
  refine ⟨a, Decoder.decode_eq_ok_iff.mpr ⟨c', ?_⟩⟩
  rw [hrun, run_counted h, Decoder.run_bind_of_ok (Decoder.run_ensure_of_le hroom), ha]

/-- There are six bytes at least, and as many as the sixth says. -/
def IsWhole (b : Bytes) : Prop := ∃ h : 6 ≤ b.length, 57 + 66 * b[5].toNat ≤ b.length

/-- Bytes that are too few for an attestation are cut off somewhere. -/
theorem exists_truncated (h : ¬ IsWhole b) :
    ∃ offset needed, decode b = .error (.truncated offset needed (b.length - offset)) := by
  rcases Nat.lt_or_ge b.length 6 with hheader | hheader
  · rcases Nat.eq_zero_or_pos b.length with hnil | hpos
    · obtain rfl := List.length_eq_zero_iff.mp hnil
      exact ⟨0, 1, decode_nil⟩
    rcases Nat.lt_or_ge b.length 5 with hset | hset
    · exact ⟨1, 4, decode_of_length_le_four hpos (Nat.le_of_lt_succ hset)⟩
    · have hfive : b.length = 5 := by omega
      refine ⟨5, 1, ?_⟩
      rw [decode_of_length_eq_five hfive, hfive]
  · exact ⟨6, _, decode_of_length_lt hheader (Nat.not_le.mp fun hlength => h ⟨hheader, hlength⟩)⟩

/-- Bytes are an attestation if they are as many as their sixth byte says. -/
theorem exists_decode_iff : (∃ a, decode b = .ok a) ↔ IsWhole b := by
  constructor
  · rintro ⟨a, ha⟩
    by_contra hshort
    obtain ⟨offset, needed, herror⟩ := exists_truncated hshort
    exact nomatch ha.symm.trans herror
  · rintro ⟨h, hlength⟩
    exact exists_decode_of_le h hlength

/-! ### Attestations that are cut off -/

variable {a : Attestation}

/-- What is written before the payload. -/
def front (a : Attestation) : Bytes :=
  [a.version] ++ (Bytes.bigEndian 4 a.guardianSetIndex.toNat
    ++ ([UInt8.ofNat a.signatures.length] ++ (a.signatures.flatMap GuardianSignature.encode
    ++ (Bytes.bigEndian 4 a.timestamp.toNat ++ (Bytes.bigEndian 4 a.nonce.toNat
    ++ (Bytes.bigEndian 2 a.emitterChain.toNat ++ (a.emitter.bytes.toList
    ++ (Bytes.bigEndian 8 a.sequence.toNat ++ [a.consistencyLevel]))))))))

/-- The payload comes last. -/
theorem written_eq_front (a : Attestation) : a.written = a.front ++ a.payload := by
  simp only [written, body_eq, front, List.append_assoc]

/-- What comes before the payload takes 57 bytes and 66 for each signature. -/
theorem length_front (a : Attestation) : a.front.length = 57 + 66 * a.signatures.length := by
  simp only [front, List.length_append, List.length_singleton, Bytes.length_bigEndian,
    length_signatures, FixedBytes.length_toList, signatureLength]
  omega

/-- The sixth byte that is written is the number of signatures. -/
theorem getElem_front (h : 5 < a.front.length) : a.front[5] = UInt8.ofNat a.signatures.length := by
  simp [front]

/-- An attestation that is cut off in its payload is the one with what is left of the payload. -/
theorem take_written {n : ℕ} (h : a.front.length ≤ n) :
    a.written.take n = written { a with payload := a.payload.take (n - a.front.length) } := by
  rw [written_eq_front, written_eq_front, List.take_append, List.take_of_length_le h]
  rfl

/-- An attestation that is cut off before its payload is too short for its number of signatures. -/
theorem not_isWhole_take_written (hcount : a.signatures.length ≤ maxSignatures) {n : ℕ}
    (hn : n < a.front.length) : ¬ IsWhole (a.written.take n) := by
  rintro ⟨hheader, hlength⟩
  have hsix : 6 ≤ n := hheader.trans (List.length_take_le _ _)
  have hsixth : (a.written.take n)[5] = UInt8.ofNat a.signatures.length := by
    simp only [List.getElem_take, written_eq_front, List.getElem_append_left (hsix.trans hn.le)]
    exact getElem_front _
  have hread : (UInt8.ofNat a.signatures.length).toNat = a.signatures.length :=
    UInt8.toNat_ofNat_of_lt (Nat.lt_succ_of_le hcount)
  rw [hsixth, hread, ← length_front] at hlength
  exact absurd (hlength.trans (List.length_take_le _ _)) (Nat.not_le.mpr hn)

/-- **How long attestations are.** Bytes are an attestation if there are six at least and as many
as the sixth says: 57, and 66 for each signature. Of fewer, the error says where they end: before
the version, in the guardian set, before the number of signatures, or else where the check for
room stands; nothing fails that is read after the check. So of an attestation that is cut off
before its payload it is said that it is, and one that is cut off in its payload is the same with
a shorter payload. -/
theorem decode_settled_by_length (b : Bytes) :
    ((∃ a, decode b = .ok a) ↔ ∃ h : 6 ≤ b.length, 57 + 66 * b[5].toNat ≤ b.length) ∧
    (b.length = 0 → decode b = .error (.truncated 0 1 b.length)) ∧
    (1 ≤ b.length → b.length ≤ 4 → decode b = .error (.truncated 1 4 (b.length - 1))) ∧
    (b.length = 5 → decode b = .error (.truncated 5 1 (b.length - 5))) ∧
    (∀ h : 6 ≤ b.length, b.length < 57 + 66 * b[5].toNat →
      decode b = .error (.truncated 6 (66 * b[5].toNat + 51) (b.length - 6))) ∧
    (∀ version guardianSetIndex count,
      (contents version guardianSetIndex count).Enough (66 * count.toNat + 51)) ∧
    ∀ a : Attestation, a.encode = .ok b → ∀ n,
      (n < 57 + 66 * a.signatures.length → ∃ offset needed,
        decode (b.take n) = .error (.truncated offset needed ((b.take n).length - offset))) ∧
      (57 + 66 * a.signatures.length ≤ n → decode (b.take n) =
        .ok { a with payload := a.payload.take (n - (57 + 66 * a.signatures.length)) }) := by
  refine ⟨exists_decode_iff, fun hnil => ?_, decode_of_length_le_four, fun hfive => ?_,
    decode_of_length_lt, fun version guardianSetIndex count => ?_, fun a hencode n => ?_⟩
  · obtain rfl := List.length_eq_zero_iff.mp hnil
    exact decode_nil
  · rw [decode_of_length_eq_five hfive, hfive]
  · have henough := contents_enough version guardianSetIndex count
    rwa [Nat.mul_comm] at henough
  · obtain ⟨hcount, rfl⟩ := encode_eq_ok_iff.mp hencode
    rw [← length_front]
    constructor
    · intro hn
      exact exists_truncated (not_isWhole_take_written hcount hn)
    · intro hn
      exact decode_eq_ok_iff_encode.mpr (encode_eq_ok_iff.mpr ⟨hcount, (take_written hn).symm⟩)

/-- With two signatures and two bytes of payload: nothing, the first five bytes, those without the
last of the fixed part, and those without the last of the payload. -/
theorem decode_settled_by_length_signedTimes :
    (signedTimes 2).encode = .ok (signedTimes 2).written ∧
    (signedTimes 2).written.length = 191 ∧
    decode [] = .error (.truncated 0 1 0) ∧
    decode ((signedTimes 2).written.take 5) = .error (.truncated 5 1 0) ∧
    decode ((signedTimes 2).written.take 188) = .error (.truncated 6 183 182) ∧
    decode ((signedTimes 2).written.take 190) = .ok { signedTimes 2 with payload := [0xde] } := by
  have hencode : (signedTimes 2).encode = .ok (signedTimes 2).written :=
    encode_eq_ok_iff.mpr ⟨by decide, rfl⟩
  have hlength : (signedTimes 2).written.length = 191 := length_written _
  refine ⟨hencode, hlength, (decode_settled_by_length []).2.1 rfl, ?_, ?_, ?_⟩
  · exact (decode_settled_by_length ((signedTimes 2).written.take 5)).2.2.2.1 (by simp [hlength])
  · have hsix : 6 ≤ ((signedTimes 2).written.take 188).length := by simp [hlength]
    have hsixth : ((signedTimes 2).written.take 188)[5] = 2 := rfl
    have hshort := (decode_settled_by_length ((signedTimes 2).written.take 188)).2.2.2.2.1 hsix
    simpa [hsixth, hlength] using hshort
  · exact ((decode_settled_by_length _).2.2.2.2.2.2 _ hencode 190).2 (by decide)

end Attestation
end GuardianRelay
