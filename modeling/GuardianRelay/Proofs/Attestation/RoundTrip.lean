import GuardianRelay.Attestation
import GuardianRelay.Proofs.Decoder
import Mathlib.Data.List.TakeDrop

/-!
# Written Attestations

The decoder of attestations accepts exactly what the encoder writes, so an attestation and its
written form determine each other. The only attestations without a written form are those with
more signatures than the count field holds; the decoder cannot produce one of those, because
it takes the number of signatures from that field.

## Main results

* `Attestation.run_decoder_eq_ok`: an attestation is read exactly where its written form
  stands, and takes all that is left.
* `Attestation.decode_eq_ok_iff_encode`: decoding and encoding are inverse relations.
* `Attestation.encode_decode_inverse`: when encoding succeeds, how long what it writes is, and
  both round trips.
-/

namespace GuardianRelay

namespace GuardianSignature

/-! ### Signatures -/

/-- The 65 bytes of a signature are `r`, `s` and the recovery byte, with nothing left over. -/
theorem toBytes_ofBytes (guardian : UInt8) (b : FixedBytes 65) :
    (ofBytes guardian b).toBytes = b := by
  obtain ⟨octets, hlength⟩ := b
  have hlast : octets.drop 64 = [octets.getLastD 0] := by
    have hne : octets ≠ [] := List.ne_nil_of_length_pos (by omega)
    have hsplit := List.drop_length_sub_one hne
    rw [hlength] at hsplit
    rw [hsplit, List.getLastD_eq_getLast?, List.getLast?_eq_some_getLast hne,
      Option.getD_some]
  apply FixedBytes.ext
  simp only [toBytes, ofBytes]
  rw [← hlast, ← List.drop_drop (i := 32) (j := 32), List.append_assoc,
    List.take_append_drop, List.take_append_drop]

/-- A signature is put together again from its guardian and its 65 bytes. -/
theorem ofBytes_toBytes (signature : GuardianSignature) :
    ofBytes signature.guardian signature.toBytes = signature := by
  obtain ⟨guardian, ⟨r, hr⟩, ⟨s, hs⟩, v⟩ := signature
  simp [ofBytes, toBytes, hr, hs]

/-- A written signature takes 66 bytes. -/
theorem length_encode (signature : GuardianSignature) :
    signature.encode.length = Attestation.signatureLength := by
  simp [encode, Attestation.signatureLength]

/-- A signature is read exactly where its written form stands. -/
theorem reads_decoder : decoder.Reads (fun _ => True) encode := by
  intro c signature c'
  rw [decoder, Decoder.reads_uint8.run_bind]
  simp only [(Decoder.reads_fixed 65).run_bind, Decoder.run_pure_eq_ok, true_and]
  constructor
  · rintro ⟨guardian, _, hrest, b, rest, rfl, rfl, rfl⟩
    have hencode : (ofBytes guardian b).encode = guardian :: b.toList := by
      rw [encode, toBytes_ofBytes]
      rfl
    rw [hrest, hencode]
    simp
  · rintro ⟨hrest, hoffset⟩
    refine ⟨signature.guardian, _, hrest, signature.toBytes, c'.rest, rfl,
      ofBytes_toBytes signature, ?_⟩
    rw [length_encode] at hoffset
    rw [FixedBytes.length_toList, List.length_singleton, Nat.add_assoc]
    exact congrArg (Cursor.mk · c'.rest) hoffset.symm

end GuardianSignature

namespace Attestation

/-! ### Written forms -/

/-- What is written for an attestation whose signatures can be counted. -/
def written (a : Attestation) : Bytes :=
  [a.version] ++ (Bytes.bigEndian 4 a.guardianSetIndex.toNat
    ++ ([UInt8.ofNat a.signatures.length]
    ++ (a.signatures.flatMap GuardianSignature.encode ++ a.body)))

/-- Encoding succeeds exactly on the attestations whose signatures can be counted. -/
theorem encode_eq_ok_iff {a : Attestation} {b : Bytes} :
    a.encode = .ok b ↔ a.signatures.length ≤ maxSignatures ∧ a.written = b := by
  rw [encode]
  split
  · simp; omega
  · have hcount : a.signatures.length ≤ maxSignatures := by omega
    simp [written, hcount]

/-- The body as its fields follow each other. -/
theorem body_eq (a : Attestation) :
    a.body = Bytes.bigEndian 4 a.timestamp.toNat ++ (Bytes.bigEndian 4 a.nonce.toNat
      ++ (Bytes.bigEndian 2 a.emitterChain.toNat ++ (a.emitter.bytes.toList
      ++ (Bytes.bigEndian 8 a.sequence.toNat ++ ([a.consistencyLevel] ++ a.payload))))) := by
  simp only [body, Address.toList, List.append_assoc]

/-- The body takes its fixed part and the payload. -/
theorem length_body (a : Attestation) :
    a.body.length = bodyFixedLength + a.payload.length := by
  simp only [body_eq, List.length_append, List.length_singleton, Bytes.length_bigEndian,
    FixedBytes.length_toList, bodyFixedLength]
  omega

/-- Written signatures take 66 bytes each. -/
theorem length_signatures (signatures : List GuardianSignature) :
    (signatures.flatMap GuardianSignature.encode).length =
      signatureLength * signatures.length := by
  induction signatures with
  | nil => rfl
  | cons signature rest ih =>
      rw [List.flatMap_cons, List.length_append, ih, GuardianSignature.length_encode,
        List.length_cons, Nat.mul_succ, Nat.add_comm]

/-- The written form is as long as it was said to be. -/
theorem length_written (a : Attestation) : a.written.length = a.encodedLength := by
  simp only [written, encodedLength, headerLength, List.length_append, List.length_singleton,
    Bytes.length_bigEndian, length_signatures, length_body]
  omega

/-! ### Decoding -/

/-- An attestation is read exactly where its written form stands, and the payload takes all
that is left. -/
theorem run_decoder_eq_ok {a : Attestation} {c c' : Cursor} :
    decoder.run c = .ok (a, c') ↔ a.signatures.length ≤ maxSignatures ∧
      c.rest = a.written ∧ c' = ⟨c.offset + c.rest.length, []⟩ := by
  rw [decoder, Decoder.reads_uint8.run_bind]
  simp only [Decoder.reads_uint32.run_bind, Decoder.reads_uint8.run_bind,
    Decoder.run_ensure_bind, (GuardianSignature.reads_decoder.times _).run_bind,
    Decoder.reads_uint16.run_bind, (Decoder.reads_fixed 32).run_bind,
    Decoder.reads_uint64.run_bind, Decoder.run_rest_bind, Decoder.run_pure_eq_ok, true_and]
  constructor
  · rintro ⟨version, _, hrest, set, _, rfl, count, _, rfl, hroom, signatures, _, ⟨hcount, -⟩,
      rfl, timestamp, _, rfl, nonce, _, rfl, chain, _, rfl, emitter, _, rfl, sequence, _, rfl,
      level, payload, rfl, rfl, rfl⟩
    refine ⟨?_, ?_, ?_⟩
    · rw [hcount]
      exact Nat.le_of_lt_succ count.toNat_lt
    · rw [hrest, written, body_eq, hcount, UInt8.ofNat_toNat]
    · simp only [hrest, List.length_append, Nat.add_assoc]
  · rintro ⟨hcount, hrest, rfl⟩
    have hread : (UInt8.ofNat a.signatures.length).toNat = a.signatures.length :=
      UInt8.toNat_ofNat_of_lt (Nat.lt_succ_of_le hcount)
    rw [written, body_eq] at hrest
    -- The fields of the attestation are what is read, each with the rest that follows it.
    refine ⟨a.version, _, hrest, a.guardianSetIndex, _, rfl,
      UInt8.ofNat a.signatures.length, _, rfl, ?_,
      a.signatures, _, ⟨hread.symm, fun _ _ => trivial⟩, rfl,
      a.timestamp, _, rfl, a.nonce, _, rfl, a.emitterChain, _, rfl,
      a.emitter.bytes, _, rfl, a.sequence, _, rfl, a.consistencyLevel, a.payload, rfl, rfl, ?_⟩
    · rw [hread, ← body_eq, List.length_append, length_signatures, length_body, Nat.mul_comm]
      omega
    · simp only [hrest, List.length_append, Nat.add_assoc]

/-- Bytes decode to an attestation exactly when they are what encoding it writes. -/
theorem decode_eq_ok_iff_encode {a : Attestation} {b : Bytes} :
    decode b = .ok a ↔ a.encode = .ok b := by
  rw [decode, Decoder.decode_eq_ok_iff, encode_eq_ok_iff]
  simp only [run_decoder_eq_ok, Cursor.start]
  constructor
  · rintro ⟨_, hcount, rfl, -⟩
    exact ⟨hcount, rfl⟩
  · rintro ⟨hcount, rfl⟩
    exact ⟨_, hcount, rfl, rfl⟩

/-- **Round trips of attestations.** With at most 255 signatures an attestation is written, in
as many bytes as announced, and read back; with more it is refused for their number. Bytes that
decode are the ones that encoding writes, so no two byte strings decode to the same
attestation. -/
theorem encode_decode_inverse (a : Attestation) :
    (a.signatures.length ≤ 255 → ∃ b, a.encode = .ok b ∧
      b.length = 6 + 66 * a.signatures.length + 51 + a.payload.length ∧
      b.length = a.encodedLength ∧ decode b = .ok a) ∧
    (255 < a.signatures.length →
      a.encode = .error (.tooManySignatures a.signatures.length)) ∧
    (∀ b, decode b = .ok a → a.encode = .ok b) ∧
    (∀ b b', decode b = .ok a → decode b' = .ok a → b = b') := by
  refine ⟨fun hcount => ?_, fun hcount => ?_, fun b hb => ?_, fun b b' hb hb' => ?_⟩
  · have hencode : a.encode = .ok a.written := encode_eq_ok_iff.mpr ⟨hcount, rfl⟩
    exact ⟨a.written, hencode, a.length_written, a.length_written,
      decode_eq_ok_iff_encode.mpr hencode⟩
  · rw [encode]
    exact if_pos hcount
  · exact decode_eq_ok_iff_encode.mp hb
  · rw [decode_eq_ok_iff_encode] at hb hb'
    exact Except.ok.inj (hb.symm.trans hb')

/-- An attestation of a short message with so many signatures. -/
def signedTimes (count : ℕ) : Attestation where
  version := 1
  guardianSetIndex := 3
  signatures := List.replicate count ⟨5, FixedBytes.ofNat 7, FixedBytes.ofNat 9, 27⟩
  timestamp := 1699276800
  nonce := 7
  emitterChain := 1
  emitter := ⟨FixedBytes.ofNat 116⟩
  sequence := 42
  consistencyLevel := 32
  payload := [0xde, 0xad]

/-- Two signatures are written and read back; 256 are one too many. -/
theorem encode_decode_inverse_signedTimes :
    (2 ≤ 255 ∧ ∃ b, (signedTimes 2).encode = .ok b ∧ b.length = 6 + 66 * 2 + 51 + 2 ∧
      b.length = (signedTimes 2).encodedLength ∧ decode b = .ok (signedTimes 2)) ∧
    (255 < 256 ∧ (signedTimes 256).encode = .error (.tooManySignatures 256)) := by
  have hcount : (signedTimes 256).signatures.length = 256 := List.length_replicate
  refine ⟨⟨by decide, (encode_decode_inverse (signedTimes 2)).1 (by decide)⟩, by decide, ?_⟩
  rw [(encode_decode_inverse (signedTimes 256)).2.1 (by omega), hcount]

end Attestation

end GuardianRelay
