import GuardianRelay.Payload.TokenTransfer
import GuardianRelay.Proofs.Decoder.Extent

/-!
# Written Token Transfers

A transfer is written as its type, five fields that all transfers have, and what distinguishes the
types: a fee, behind which nothing may follow, or a sender with a payload that takes all that is
left. The decoder accepts exactly what the encoder writes. What it does not accept it refuses for
one of three reasons, and how many bytes there are and which comes first decides for which.

## Main results

* `TokenTransfer.decode_eq_ok_iff`: decoding and encoding are inverse relations.
* `TokenTransfer.short_contents`, `TokenTransfer.enough_contents`,
  `TokenTransfer.exists_run_contents`: how many bytes the two types take.
* `TokenTransfer.decode_settled`: what becomes of any bytes.
-/

namespace GuardianRelay

/-! ### Written forms -/

namespace TransferKind

/-- The type byte of a kind. -/
def type : TransferKind → UInt8
  | withFee _ => TokenTransfer.feeType
  | withPayload .. => TokenTransfer.payloadType

/-- The written form of what distinguishes the kinds. -/
def written : TransferKind → Bytes
  | withFee fee => fee.bytes.toList
  | withPayload sender payload => sender.bytes.toList ++ payload

end TransferKind

namespace TokenTransfer

/-- What is written behind the type byte. -/
def fields (t : TokenTransfer) : Bytes :=
  t.amount.bytes.toList ++ (t.token.bytes.toList ++ (Bytes.bigEndian 2 t.tokenChain.toNat
    ++ (t.recipient.bytes.toList ++ (Bytes.bigEndian 2 t.recipientChain.toNat
    ++ t.kind.written))))

/-- The type byte comes first. -/
theorem encode_eq (t : TokenTransfer) : t.encode = t.kind.type :: t.fields := by
  rw [encode, typeByte, fields]
  cases t.kind <;>
    simp only [TransferKind.type, TransferKind.written, Address.toList, List.append_assoc,
      List.cons_append]

/-- A transfer takes 101 bytes and what distinguishes the types. -/
theorem length_encode (t : TokenTransfer) : t.encode.length = 101 + t.kind.written.length := by
  simp only [encode_eq, fields, List.length_cons, List.length_append, FixedBytes.length_toList,
    Bytes.length_bigEndian]
  omega

/-! ### Decoding -/

/-- The types of which there are transfers. -/
def Known (type : UInt8) : Prop := type = feeType ∨ type = payloadType

instance : DecidablePred Known := fun _ => inferInstanceAs (Decidable (_ ∨ _))

/-- Reads the fields that all transfers have. -/
def shared : Decoder (TransferKind → TokenTransfer) := do
  let amount ← Decoder.fixed 32
  let token ← Decoder.fixed 32
  let tokenChain ← Decoder.uint16
  let recipient ← Decoder.fixed 32
  let recipientChain ← Decoder.uint16
  return fun kind =>
    { amount := ⟨amount⟩, token := ⟨token⟩, tokenChain, recipient := ⟨recipient⟩, recipientChain,
      kind }

/-- Reads what comes after a type byte. -/
def contents (type : UInt8) : Decoder TokenTransfer := do
  let transfer ← shared
  let kind ← kindDecoder type
  return transfer kind

/-- What is read depends on the type. -/
theorem decoder_eq : decoder = Decoder.uint8 >>= fun type =>
    if Known type then contents type else throw (.unknownPayloadType type) := by
  rw [decoder]
  congr 1
  funext type
  by_cases h : Known type
  · have hnot : ¬ (type ≠ feeType ∧ type ≠ payloadType) := by
      rw [not_and_or, not_not, not_not]
      exact h
    rw [if_pos h, if_neg hnot, contents, shared]
    simp only [bind_assoc, pure_bind]
  · rw [if_neg h, if_pos (not_or.mp h)]
    rfl

/-- Ends with a value, behind which nothing may follow. -/
def close (kind : TransferKind) : Decoder TransferKind := do
  let surplus ← Decoder.remaining
  if surplus ≠ 0 then throw (.trailingBytes surplus)
  return kind

/-- Nothing may follow. -/
theorem run_close_of_nil {kind : TransferKind} {c : Cursor} (h : c.rest = []) :
    (close kind).run c = .ok (kind, c) := by
  rw [close, Decoder.run_bind_of_ok (show Decoder.remaining.run c = .ok (_, c) from rfl), h]
  rfl

/-- What follows is too much. -/
theorem run_close_of_ne {kind : TransferKind} {c : Cursor} (h : c.rest ≠ []) :
    (close kind).run c = .error (.trailingBytes c.rest.length) := by
  rw [close, Decoder.run_bind_of_ok (show Decoder.remaining.run c = .ok (_, c) from rfl),
    if_pos (mt List.length_eq_zero_iff.mp h)]
  rfl

/-- A value is ended with where nothing follows. -/
theorem run_close_eq_ok {kind kind' : TransferKind} {c c' : Cursor} :
    (close kind).run c = .ok (kind', c') ↔ c.rest = [] ∧ kind = kind' ∧ c = c' := by
  by_cases h : c.rest = []
  · rw [run_close_of_nil h, Except.ok.injEq, Prod.mk.injEq]
    exact (and_iff_right h).symm
  · rw [run_close_of_ne h]
    exact iff_of_false nofun fun hend => h hend.1

/-- A transfer of type 1 ends with the fee. -/
theorem kindDecoder_feeType :
    kindDecoder feeType = Decoder.fixed 32 >>= fun fee => close (.withFee ⟨fee⟩) := rfl

/-- A transfer of type 3 ends with the sender and all that is left. -/
theorem kindDecoder_payloadType :
    kindDecoder payloadType = Decoder.fixed 32 >>= fun sender =>
      Decoder.rest >>= fun payload => pure (.withPayload ⟨sender⟩ payload) := rfl

/-- What distinguishes the kinds is read exactly where its written form stands, and takes all that
is left. -/
theorem run_kindDecoder_eq_ok {type : UInt8} (htype : Known type) {kind : TransferKind}
    {c c' : Cursor} :
    (kindDecoder type).run c = .ok (kind, c') ↔ kind.type = type ∧ c.rest = kind.written ∧
      c' = ⟨c.offset + c.rest.length, []⟩ := by
  obtain rfl | rfl := htype
  · rw [kindDecoder_feeType, (Decoder.reads_fixed 32).run_bind]
    simp only [run_close_eq_ok, true_and]
    constructor
    · rintro ⟨fee, _, hrest, rfl, rfl, rfl⟩
      rw [List.append_nil] at hrest
      exact ⟨rfl, hrest, by rw [hrest]⟩
    · rintro ⟨htype, hrest, rfl⟩
      cases kind with
      | withFee fee =>
          refine ⟨fee.bytes, [], ?_, rfl, rfl, ?_⟩
          · rw [hrest, List.append_nil, TransferKind.written]
          · rw [hrest, TransferKind.written]
      | withPayload => exact absurd htype (show payloadType ≠ feeType by decide)
  · rw [kindDecoder_payloadType, (Decoder.reads_fixed 32).run_bind]
    simp only [Decoder.run_rest_bind, Decoder.run_pure_eq_ok, true_and]
    constructor
    · rintro ⟨sender, payload, hrest, rfl, rfl⟩
      refine ⟨rfl, hrest, ?_⟩
      rw [hrest, List.length_append, Nat.add_assoc]
    · rintro ⟨htype, hrest, rfl⟩
      cases kind with
      | withFee => exact absurd htype (show feeType ≠ payloadType by decide)
      | withPayload sender payload =>
          refine ⟨sender.bytes, payload, hrest, rfl, ?_⟩
          rw [hrest, TransferKind.written, List.length_append, Nat.add_assoc]

/-- The fields of a transfer are read exactly where they stand, and take all that is left. -/
theorem run_contents_eq_ok {type : UInt8} (htype : Known type) {t : TokenTransfer}
    {c c' : Cursor} :
    (contents type).run c = .ok (t, c') ↔ t.kind.type = type ∧ c.rest = t.fields ∧
      c' = ⟨c.offset + c.rest.length, []⟩ := by
  rw [contents, shared]
  simp only [bind_assoc, pure_bind, (Decoder.reads_fixed 32).run_bind,
    Decoder.reads_uint16.run_bind, Decoder.run_bind_eq_ok, run_kindDecoder_eq_ok htype,
    Decoder.run_pure_eq_ok, true_and]
  constructor
  · rintro ⟨amount, _, hrest, token, _, rfl, tokenChain, _, rfl, recipient, _, rfl, recipientChain,
      _, rfl, kind, _, ⟨rfl, rfl, rfl⟩, rfl, rfl⟩
    refine ⟨rfl, hrest, ?_⟩
    simp only [hrest, List.length_append, Nat.add_assoc]
  · rintro ⟨htype, hrest, rfl⟩
    -- The fields of the transfer are what is read, each with the rest that follows it.
    refine ⟨t.amount.bytes, _, hrest, t.token.bytes, _, rfl, t.tokenChain, _, rfl,
      t.recipient.bytes, _, rfl, t.recipientChain, _, rfl, t.kind, _, ⟨htype, rfl, rfl⟩, rfl, ?_⟩
    simp only [hrest, fields, List.length_append, Nat.add_assoc]

/-- Bytes decode to a transfer exactly when they are what is written for it. -/
theorem decode_eq_ok_iff {t : TokenTransfer} {b : Bytes} : decode b = .ok t ↔ t.encode = b := by
  rw [decode, Decoder.decode_eq_ok_iff, decoder_eq, encode_eq]
  simp only [Decoder.reads_uint8.run_bind, true_and]
  constructor
  · rintro ⟨c', type, rest, hrest, hrun⟩
    split at hrun
    next htype =>
      obtain ⟨rfl, rfl, -⟩ := (run_contents_eq_ok htype).mp hrun
      exact hrest.symm
    next => contradiction
  · rintro rfl
    have htype : Known t.kind.type := by
      cases t.kind with
      | withFee => exact .inl rfl
      | withPayload => exact .inr rfl
    have hrun := (run_contents_eq_ok (t := t) (c := ⟨1, t.fields⟩) htype).mpr ⟨rfl, rfl, rfl⟩
    exact ⟨_, t.kind.type, t.fields, rfl, by rw [if_pos htype]; exact hrun⟩

/-! ### Lengths -/

/-- The fields that all transfers have take 100 bytes. -/
theorem spans_shared : shared.Spans 100 :=
  (Decoder.field_fixed 32).spans.bind fun _ => (Decoder.field_fixed 32).spans.bind fun _ =>
    Decoder.field_uint16.spans.bind fun _ => (Decoder.field_fixed 32).spans.bind fun _ =>
    Decoder.field_uint16.spans.bind fun _ => Decoder.spans_pure _

/-- Of fewer than 132 bytes behind the type byte it is said where they end. -/
theorem short_contents {type : UInt8} (htype : Known type) : (contents type).Short 132 := by
  have hkind : (kindDecoder type).Short 32 := by
    obtain rfl | rfl := htype <;> exact (Decoder.field_fixed 32).spans.short.bind
  exact spans_shared.bind_short fun _ => hkind.bind

/-- With 132 bytes behind the type byte or more, there is a transfer of type 3. -/
theorem enough_contents : (contents payloadType).Enough 132 := by
  have hkind : (kindDecoder payloadType).Enough 32 :=
    (Decoder.field_fixed 32).spans.bind_enough fun _ => Decoder.enough_rest_bind
  exact spans_shared.bind_enough fun build => hkind.map build

/-- Behind the fee a transfer of type 1 ends. -/
theorem exists_run_contents {c : Cursor} (hroom : 132 ≤ c.rest.length) :
    ∃ (transfer : TransferKind → TokenTransfer) (fee : Amount), (contents feeType).run c =
      (close (.withFee fee) >>= fun kind => pure (transfer kind)).run (c.advance 132) := by
  obtain ⟨transfer, -, hshared⟩ := spans_shared.exists_run_bind (c := c)
    (f := fun transfer => kindDecoder feeType >>= fun kind => pure (transfer kind)) (by omega)
  obtain ⟨fee, -, hfee⟩ := (Decoder.field_fixed 32).spans.exists_run_bind (c := c.advance 100)
    (f := fun fee => close (.withFee ⟨fee⟩) >>= fun kind => pure (transfer kind))
    (by rw [Cursor.length_rest_advance]; omega)
  refine ⟨transfer, ⟨fee⟩, ?_⟩
  rw [contents, hshared, kindDecoder_feeType, bind_assoc, hfee, Cursor.advance_advance]

/-- With 132 bytes behind the type byte, a transfer of type 1 is as long as it has to be. -/
theorem exists_run_contents_eq_ok {c : Cursor} (hlength : c.rest.length = 132) :
    ∃ t c', (contents feeType).run c = .ok (t, c') := by
  obtain ⟨transfer, fee, hrun⟩ := exists_run_contents hlength.ge
  have hend : (c.advance 132).rest = [] :=
    List.length_eq_zero_iff.mp (by rw [Cursor.length_rest_advance, hlength])
  exact ⟨_, _, hrun.trans (Decoder.run_bind_of_ok (run_close_of_nil hend))⟩

/-- What comes after 132 bytes is too much for a transfer of type 1. -/
theorem run_contents_of_lt {c : Cursor} (hlength : 132 < c.rest.length) :
    (contents feeType).run c = .error (.trailingBytes (c.rest.length - 132)) := by
  obtain ⟨transfer, fee, hrun⟩ := exists_run_contents hlength.le
  have hend : (c.advance 132).rest ≠ [] :=
    List.ne_nil_of_length_pos (by rw [Cursor.length_rest_advance]; omega)
  rw [hrun, Decoder.run_bind_of_error (run_close_of_ne hend), Cursor.length_rest_advance]

/-! ### Whole byte strings -/

/-- The first byte is the type, and it decides how the others are read. -/
theorem run_decoder_cons (type : UInt8) (rest : Bytes) :
    decoder.run (Cursor.start (type :: rest)) =
      (if Known type then contents type else throw (.unknownPayloadType type)).run
        ⟨1, rest⟩ := by
  have htype : Decoder.uint8.run (Cursor.start (type :: rest)) = .ok (type, ⟨1, rest⟩) :=
    (Decoder.reads_uint8 _ _ _).mpr ⟨trivial, rfl, rfl⟩
  rw [decoder_eq, Decoder.run_bind_of_ok htype]

/-- Of an unknown type, nothing but the type is looked at. -/
theorem decode_of_not_known {type : UInt8} (htype : ¬ Known type) (rest : Bytes) :
    decode (type :: rest) = .error (.unknownPayloadType type) := by
  rw [decode, Decoder.decode_eq_error_iff, run_decoder_cons, if_neg htype]
  rfl

/-- Of a known type, the fields are read. -/
theorem exists_decode_of_contents {type : UInt8} (htype : Known type) {rest : Bytes}
    (h : ∃ t c', (contents type).run ⟨1, rest⟩ = .ok (t, c')) :
    ∃ t, decode (type :: rest) = .ok t := by
  obtain ⟨t, c', hrun⟩ := h
  refine ⟨t, Decoder.decode_eq_ok_iff.mpr ⟨c', ?_⟩⟩
  rw [run_decoder_cons, if_pos htype, hrun]

/-- Behind 133 bytes of type 1, the others are too many. -/
theorem decode_of_surplus {rest : Bytes} (hlength : 132 < rest.length) :
    decode (feeType :: rest) = .error (.trailingBytes (rest.length - 132)) := by
  rw [decode, Decoder.decode_eq_error_iff, run_decoder_cons, if_pos (.inl rfl),
    run_contents_of_lt hlength]

/-- Without a first byte, that is missing. -/
theorem decode_nil : decode [] = .error (.truncated 0 1 0) := rfl

/-- Fewer than 133 bytes of a known type are cut off. -/
theorem exists_truncated {type : UInt8} (htype : Known type) {rest : Bytes}
    (hlength : rest.length < 132) :
    ∃ error, decode (type :: rest) = .error error ∧ (Cursor.start (type :: rest)).Ends error := by
  obtain ⟨error, herror, hends⟩ := short_contents htype ⟨1, rest⟩ hlength
  refine ⟨error, ?_, Cursor.Ends.of_advance (n := 1) (by simp) hends⟩
  rw [decode, Decoder.decode_eq_error_iff, run_decoder_cons, if_pos htype, herror]

/-- There are transfers of two lengths: one for type 1, and any from that on for type 3. -/
theorem exists_decode_iff {b : Bytes} :
    (∃ t, decode b = .ok t) ↔
      b.head? = some 1 ∧ b.length = 133 ∨ b.head? = some 3 ∧ 133 ≤ b.length := by
  constructor
  · rintro ⟨t, ht⟩
    obtain rfl := decode_eq_ok_iff.mp ht
    rw [length_encode, encode_eq]
    cases t.kind with
    | withFee fee => exact .inl ⟨rfl, by simp [TransferKind.written]⟩
    | withPayload sender payload => exact .inr ⟨rfl, by simp [TransferKind.written]; omega⟩
  · cases b with
    | nil => simp
    | cons type rest =>
        rw [List.head?_cons, List.length_cons]
        rintro (⟨⟨⟩, hlength⟩ | ⟨⟨⟩, hlength⟩)
        · exact exists_decode_of_contents (.inl rfl)
            (exists_run_contents_eq_ok (Nat.succ.inj hlength))
        · exact exists_decode_of_contents (.inr rfl)
            (enough_contents _ (Nat.le_of_succ_le_succ hlength))

/-- **Round trips of token transfers.** A transfer is read back from what is written for it, and
bytes that are read as a transfer are what is written for it; the amount stands behind the type
byte as it is. Bytes are a transfer if the first is 1 and there are 133, or if the first is 3 and
there are 133 or more. Another first byte is an unknown type, however many bytes there are. Behind
133 bytes of type 1, the others are too many. All else is cut off, and the error says where. -/
theorem decode_settled (b : Bytes) :
    (∀ t : TokenTransfer, decode t.encode = .ok t) ∧
    (∀ t, decode b = .ok t → t.encode = b ∧ t.amount.bytes.toList = (b.drop 1).take 32) ∧
    ((∃ t, decode b = .ok t) ↔
      b.head? = some 1 ∧ b.length = 133 ∨ b.head? = some 3 ∧ 133 ≤ b.length) ∧
    (∀ type, b.head? = some type → type ≠ 1 → type ≠ 3 →
      decode b = .error (.unknownPayloadType type)) ∧
    (b.head? = some 1 → 133 < b.length → decode b = .error (.trailingBytes (b.length - 133))) ∧
    (b = [] ∨ (b.head? = some 1 ∨ b.head? = some 3) ∧ b.length < 133 →
      ∃ offset needed, offset ≤ b.length ∧ b.length < offset + needed ∧
        decode b = .error (.truncated offset needed (b.length - offset))) := by
  refine ⟨fun t => decode_eq_ok_iff.mpr rfl, fun t ht => ?_, exists_decode_iff, ?_, ?_, ?_⟩
  · obtain rfl := decode_eq_ok_iff.mp ht
    refine ⟨rfl, ?_⟩
    rw [encode_eq, List.drop_succ_cons, List.drop_zero, fields, List.take_left' (by simp)]
  · intro type hhead hfee hpayload
    obtain ⟨rest, rfl⟩ := List.head?_eq_some_iff.mp hhead
    exact decode_of_not_known (not_or.mpr ⟨hfee, hpayload⟩) rest
  · intro hhead hlength
    obtain ⟨rest, rfl⟩ := List.head?_eq_some_iff.mp hhead
    exact decode_of_surplus (Nat.lt_of_succ_lt_succ hlength)
  · rintro (rfl | ⟨hhead, hlength⟩)
    · exact ⟨0, 1, Nat.le_refl 0, Nat.zero_lt_one, decode_nil⟩
    · obtain ⟨type, htype, hhead⟩ : ∃ type, Known type ∧ b.head? = some type :=
        hhead.elim (fun h => ⟨1, .inl rfl, h⟩) fun h => ⟨3, .inr rfl, h⟩
      obtain ⟨rest, rfl⟩ := List.head?_eq_some_iff.mp hhead
      obtain ⟨error, herror, hends⟩ := exists_truncated htype (Nat.lt_of_succ_lt_succ hlength)
      obtain ⟨offset, needed, hoffset, hneeded, rfl⟩ := Cursor.ends_start_iff.mp hends
      exact ⟨offset, needed, hoffset, hneeded, herror⟩

/-- A transfer of 1000 from the first chain to the second. -/
def thousand (kind : TransferKind) : TokenTransfer where
  amount := ⟨FixedBytes.ofNat 1000⟩
  token := ⟨FixedBytes.ofNat 5⟩
  tokenChain := 1
  recipient := ⟨FixedBytes.ofNat 7⟩
  recipientChain := 2
  kind := kind

/-- The transfer with a fee. -/
def withFee : TokenTransfer := thousand (.withFee ⟨FixedBytes.ofNat 3⟩)

/-- The transfer with a payload. -/
def withPayload : TokenTransfer := thousand (.withPayload ⟨FixedBytes.ofNat 3⟩ [8, 9])

/-- Both transfers are read back. With a byte more the first is too long, and with a byte less it is
cut off. With another type it is none. -/
theorem decode_settled_thousand :
    decode withFee.encode = .ok withFee ∧ decode withPayload.encode = .ok withPayload ∧
    decode (withFee.encode ++ [0]) = .error (.trailingBytes 1) ∧
    (∃ offset needed, decode (withFee.encode.take 132) =
      .error (.truncated offset needed (132 - offset))) ∧
    decode (2 :: withFee.fields) = .error (.unknownPayloadType 2) := by
  have hlength : withFee.encode.length = 133 := length_encode _
  refine ⟨(decode_settled []).1 _, (decode_settled []).1 _, ?_, ?_, ?_⟩
  · have hsurplus := (decode_settled (withFee.encode ++ [0])).2.2.2.2.1 rfl (by simp [hlength])
    simpa [hlength] using hsurplus
  · obtain ⟨offset, needed, -, -, herror⟩ :=
      (decode_settled (withFee.encode.take 132)).2.2.2.2.2 (.inr ⟨.inl rfl, by simp [hlength]⟩)
    exact ⟨offset, needed, herror⟩
  · exact (decode_settled (2 :: withFee.fields)).2.2.2.1 2 rfl (by decide) (by decide)

end TokenTransfer
end GuardianRelay
