import GuardianRelay.Payload.Message
import GuardianRelay.Proofs.Decoder

/-!
# Messages End by Themselves

A message says by its type byte, and where it carries data by their length, how many bytes it takes.
The length has two bytes, and the bound on it is the same for the writer and for the reader. So a
message is read exactly from the bytes that start with its written form, whatever follows, and a
message that is too long to be written is never read. The same holds of greetings, all of which have
one length.

## Main results

* `MessengerMessage.encode_eq_ok_iff`: which messages have a written form.
* `MessengerMessage.reads_decoder`, `Greeting.reads_decoder`: messages are read where they stand.
* `message_decode_iff_prefix`: both laws, and what the bytes of a message say of its length.
-/

namespace GuardianRelay

namespace MessengerMessage

/-! ### Written forms -/

/-- The data of a message are not too long to be carried. -/
def IsCarried : MessengerMessage → Prop
  | alive _ => True
  | data payload => payload.length ≤ maxLength

/-- The type byte of a message. -/
def type : MessengerMessage → UInt8
  | alive _ => 0
  | data _ => 1

/-- What is written behind the type byte of a message that is carried. -/
def contents : MessengerMessage → Bytes
  | alive program => program.toList
  | data payload => Bytes.bigEndian 2 payload.length ++ payload

/-- Encoding succeeds exactly on the messages that are carried. -/
theorem encode_eq_ok_iff {m : MessengerMessage} {b : Bytes} :
    m.encode = .ok b ↔ m.IsCarried ∧ m.type :: m.contents = b := by
  cases m with
  | alive program => simp [encode, IsCarried, type, contents]
  | data payload =>
      by_cases hlong : maxLength < payload.length
      · simp [encode, IsCarried, hlong]
      · simp [encode, IsCarried, type, contents, hlong, Nat.not_lt.mp hlong]

/-- The length of data that are carried fits its two bytes. -/
theorem length_lt_of_le {payload : Bytes} (h : payload.length ≤ maxLength) :
    payload.length < 256 ^ 2 :=
  Nat.lt_of_le_of_lt h (by decide)

/-! ### Reading -/

/-- Reads data behind their length, unless they are too long. -/
def countedData : Decoder Bytes := do
  let length := (← Decoder.uint16).toNat
  if maxLength < length then throw (.payloadTooLarge length) else Decoder.take length

/-- Data are read exactly where they stand behind their length. -/
theorem reads_countedData : countedData.Reads (fun b => b.length ≤ maxLength)
    (fun b => Bytes.bigEndian 2 b.length ++ b) := by
  intro c b c'
  rw [countedData, Decoder.reads_uint16.run_bind]
  dsimp only
  constructor
  · rintro ⟨length, rest, -, hrest, hrun⟩
    split at hrun
    · contradiction
    · obtain ⟨hlength, hb, hoffset⟩ := (Decoder.reads_take _ _ _ _).mp hrun
      dsimp only [id] at hlength hb hoffset
      refine ⟨by omega, ?_, ?_⟩
      · rw [hrest, hb, hlength, List.append_assoc]
      · rw [hoffset, hlength, List.length_append, hlength, Nat.add_assoc]
  · rintro ⟨hlength, hrest, hoffset⟩
    have hfits : (UInt16.ofNat b.length).toNat = b.length :=
      UInt16.toNat_ofNat_of_lt (length_lt_of_le hlength)
    refine ⟨UInt16.ofNat b.length, b ++ c'.rest, trivial, ?_, ?_⟩
    · rw [hfits, hrest, List.append_assoc]
    · rw [hfits, if_neg (by omega)]
      refine (Decoder.reads_take _ _ _ _).mpr ⟨rfl, rfl, ?_⟩
      rw [hoffset, List.length_append, Nat.add_assoc]
      rfl

/-- The type byte decides what is read behind it. -/
theorem decoder_eq : decoder = Decoder.uint8 >>= fun type =>
    if type = 0 then Decoder.fixed 32 >>= fun program => pure (alive ⟨program⟩)
    else if type = 1 then countedData >>= fun payload => pure (data payload)
    else throw (.unknownPayloadType type) := by
  rw [decoder]
  congr! 4 with type
  simp only [countedData, bind_assoc]
  congr! 2 with length
  split <;> rfl

/-- A message is read exactly where its written form stands, and only one that is carried. -/
theorem reads_decoder : decoder.Reads IsCarried (fun m => m.type :: m.contents) := by
  rw [decoder_eq]
  refine Decoder.reads_tagged fun type => ?_
  split
  next htype =>
    refine (Decoder.reads_fixed 32).map (fun m => ?_) fun _ => rfl
    cases m with
    | alive program => simp [IsCarried, MessengerMessage.type, htype, Address.ext_iff]
    | data payload => simp [MessengerMessage.type, htype]
  next hother =>
    split
    next htype =>
      refine reads_countedData.map (fun m => ?_) fun _ => rfl
      cases m with
      | alive program => simp [MessengerMessage.type, htype]
      | data payload => simp [IsCarried, MessengerMessage.type, htype]
    next hnone =>
      refine Decoder.reads_throw fun m hm => ?_
      cases m with
      | alive program => exact hother hm.2.symm
      | data payload => exact hnone hm.2.symm

end MessengerMessage

namespace Greeting

/-- A greeting is read exactly where its written form stands. -/
theorem reads_decoder : decoder.Reads (fun _ => True) encode := by
  change decoder.Reads (fun _ => True) fun g => typeByte :: g.recipient.toList
  refine Decoder.reads_tagged fun type => ?_
  split
  next htype =>
    refine (Decoder.reads_fixed 32).map (f := fun bytes => Greeting.mk ⟨bytes⟩) (fun g => ?_)
      fun _ => rfl
    exact ⟨fun _ => ⟨g.recipient.bytes, trivial, rfl⟩, fun _ => ⟨trivial, htype.symm⟩⟩
  next hother => exact Decoder.reads_throw fun g hg => hother hg.2.symm

end Greeting

/-! ### Whole byte strings -/

/-- **Messages end by themselves.** A message is decoded from some bytes exactly when it has a
written form and the bytes start with it; a greeting is decoded exactly when the bytes start with
what is written for it. So both are read back from what is written for them, whatever follows. A
message with more than 1024 bytes of data has no written form, and is never decoded. In what is
written for any other data, the two bytes behind the type byte stand for their length, and the data
follow. -/
theorem message_decode_iff_prefix (b : Bytes) :
    (∀ m : MessengerMessage,
      MessengerMessage.decode b = .ok m ↔ ∃ written, m.encode = .ok written ∧ written <+: b) ∧
    (∀ g : Greeting, Greeting.decode b = .ok g ↔ g.encode <+: b) ∧
    (∀ (m : MessengerMessage) (written : Bytes), m.encode = .ok written →
      MessengerMessage.decode (written ++ b) = .ok m) ∧
    (∀ g : Greeting, Greeting.decode (g.encode ++ b) = .ok g) ∧
    (∀ payload : Bytes, 1024 < payload.length →
      (MessengerMessage.data payload).encode = .error (.payloadTooLarge payload.length) ∧
      MessengerMessage.decode b ≠ .ok (.data payload)) ∧
    ∀ payload written : Bytes, (MessengerMessage.data payload).encode = .ok written →
      Bytes.toNatBE ((written.drop 1).take 2) = payload.length ∧ written.drop 3 = payload := by
  have hmessage (b : Bytes) (m : MessengerMessage) :
      MessengerMessage.decode b = .ok m ↔ ∃ written, m.encode = .ok written ∧ written <+: b := by
    rw [MessengerMessage.decode, MessengerMessage.reads_decoder.decode_eq_ok_iff_prefix]
    simp only [MessengerMessage.encode_eq_ok_iff, and_assoc, exists_and_left, exists_eq_left']
  have hgreeting (b : Bytes) (g : Greeting) : Greeting.decode b = .ok g ↔ g.encode <+: b := by
    rw [Greeting.decode, Greeting.reads_decoder.decode_eq_ok_iff_prefix, true_and]
  refine ⟨hmessage b, hgreeting b, ?_, ?_, ?_, ?_⟩
  · intro m written hwritten
    exact (hmessage _ _).mpr ⟨written, hwritten, List.prefix_append _ _⟩
  · intro g
    exact (hgreeting _ _).mpr (List.prefix_append _ _)
  · intro payload hlong
    have hrefused : (MessengerMessage.data payload).encode =
        .error (.payloadTooLarge payload.length) := if_pos hlong
    refine ⟨hrefused, fun hdecode => ?_⟩
    obtain ⟨written, hwritten, -⟩ := (hmessage _ _).mp hdecode
    rw [hrefused] at hwritten
    contradiction
  · intro payload written hwritten
    obtain ⟨hcarried, rfl⟩ := MessengerMessage.encode_eq_ok_iff.mp hwritten
    have hlength : (Bytes.bigEndian 2 payload.length).length = 2 := Bytes.length_bigEndian _ _
    have hvalue : Bytes.toNatBE (Bytes.bigEndian 2 payload.length) = payload.length := by
      rw [Bytes.toNatBE_bigEndian,
        Nat.mod_eq_of_lt (MessengerMessage.length_lt_of_le hcarried)]
    constructor
    · rw [List.drop_succ_cons, List.drop_zero, MessengerMessage.contents,
        List.take_left' hlength, hvalue]
    · rw [List.drop_succ_cons, MessengerMessage.contents, List.drop_left' hlength]

/-- What would be written for a byte of data more than there may be. -/
def overlong : Bytes := [1, 4, 1] ++ Bytes.zeros 1025

/-- Two bytes of data are read back, although something follows them that looks like a message. That
is none itself. -/
theorem message_decode_iff_prefix_followed :
    (MessengerMessage.data [104, 105]).encode = .ok [1, 0, 2, 104, 105] ∧
    MessengerMessage.decode ([1, 0, 2, 104, 105] ++ overlong) = .ok (.data [104, 105]) ∧
    Bytes.toNatBE [0, 2] = [104, 105].length ∧
    1024 < (Bytes.zeros 1025).length ∧
    MessengerMessage.decode overlong ≠ .ok (.data (Bytes.zeros 1025)) := by
  obtain ⟨-, -, hfollowed, -, hrefused, hlength⟩ := message_decode_iff_prefix overlong
  have hwritten : (MessengerMessage.data [104, 105]).encode = .ok [1, 0, 2, 104, 105] := by decide
  have hlong : 1024 < (Bytes.zeros 1025).length := by
    rw [Bytes.zeros, List.length_replicate]
    decide
  exact ⟨hwritten, hfollowed _ _ hwritten, (hlength _ _ hwritten).1, hlong, (hrefused _ hlong).2⟩

end GuardianRelay
