import GuardianRelay.Proofs.Text
import GuardianRelay.Text.Percent

/-!
# Texts as Octets

Readers of escapes, of hexadecimal text and of base 64 work on the octets of a text, and writers on
its characters. A character of ASCII is one octet with its number, so for a text of such characters
the two views are the same. This module goes from one to the other.

The characters of which lookups are made are fewer: letters, digits and the underscore
(`Text.IsPlain`). They have no meaning in addresses and paths and are never escaped.

## Main results

* `Bytes.toText?_ofText`: the octets of a text are read as the text.
* `Bytes.ofText_ascii`, `Bytes.ascii_of_ofText`: the octets of a text of ASCII.
* `Text.Percent.decode?_plain`: plain characters stand for themselves.
-/

namespace GuardianRelay

namespace Bytes

/-- The loop that lists octets goes on from where it stands. -/
theorem toList_loop (b : ByteArray) (i : ℕ) (read : Bytes) :
    ByteArray.toList.loop b i read = read.reverse ++ b.data.toList.drop i := by
  have hsize : b.data.toList.length = b.size := rfl
  unfold ByteArray.toList.loop
  split
  next hlt =>
    have hget : b.get! i = b.data.toList[i] := by
      change b.data[i]! = _
      rw [getElem!_pos b.data i hlt]
      rfl
    rw [toList_loop b (i + 1) (b.get! i :: read), List.reverse_cons, List.append_assoc, hget,
      List.singleton_append, List.getElem_cons_drop]
  next hge => rw [List.drop_of_length_le (by omega), List.append_nil]
termination_by b.size - i

/-- The octets of a text are listed in their order. -/
theorem ofText_eq (s : String) : ofText s = s.toByteArray.data.toList := by
  rw [ofText, String.toUTF8_eq_toByteArray, ByteArray.toList, toList_loop]
  rfl

/-- **The octets of a text are read as the text.** -/
@[simp] theorem toText?_ofText (s : String) : toText? (ofText s) = some s := by
  have hbytes : ByteArray.mk (ofText s).toArray = s.toByteArray := by
    rw [ofText_eq, Array.toArray_toList]
  rw [toText?, hbytes, String.fromUTF8?, dif_pos s.isValidUTF8]
  rfl

/-- The octets of a text are those of its characters. -/
theorem ofText_ofList (cs : List Char) :
    ofText (String.ofList cs) = cs.flatMap String.utf8EncodeChar := by
  rw [ofText_eq, ← String.utf8Encode_toList, String.toList_ofList, List.utf8Encode,
    List.toList_data_toByteArray]

/-- The octet of a character of ASCII. -/
def octetOf (c : Char) : UInt8 := UInt8.ofNat c.toNat

/-- The octet has the number of the character. -/
theorem toNat_octetOf {c : Char} (h : c.toNat < 128) : (octetOf c).toNat = c.toNat :=
  UInt8.toNat_ofNat_of_lt (Nat.lt_trans h (by decide))

/-- A character of ASCII is its octet. -/
theorem utf8EncodeChar_ascii {c : Char} (h : c.toNat < 128) :
    String.utf8EncodeChar c = [octetOf c] := by
  have hval : c.val.toNat ≤ 127 := Nat.le_of_lt_succ h
  exact String.utf8EncodeChar_eq_singleton (Char.utf8Size_eq_one_iff.mpr hval)

/-- **The octets of a text of ASCII** are those of its characters. -/
theorem ofText_ascii {cs : List Char} (h : ∀ c ∈ cs, c.toNat < 128) :
    ofText (String.ofList cs) = cs.map octetOf := by
  rw [ofText_ofList]
  induction cs with
  | nil => rfl
  | cons c cs ih =>
      obtain ⟨hc, hcs⟩ := List.forall_mem_cons.mp h
      rw [List.flatMap_cons, utf8EncodeChar_ascii hc, ih hcs]
      rfl

/-- A character that is not of ASCII has an octet that is none of ASCII. -/
theorem exists_mem_utf8EncodeChar {c : Char} (h : 128 ≤ c.toNat) :
    ∃ x ∈ String.utf8EncodeChar c, 128 ≤ x.toNat := by
  -- the last octet of every longer form
  have hlast : (UInt8.ofNat (c.toNat % 64 + 128)).toNat = c.toNat % 64 + 128 :=
    UInt8.toNat_ofNat_of_lt (by change _ < 256; omega)
  refine ⟨UInt8.ofNat (c.toNat % 64 + 128), ?_, by omega⟩
  have hlong : ¬ c.val.toNat ≤ 127 := Nat.not_le.mpr h
  rw [String.utf8EncodeChar, if_neg hlong]
  split_ifs <;> simp

/-- A text of which every octet is of ASCII is a text of ASCII. -/
theorem ascii_of_ofText {s : String} (h : ∀ x ∈ ofText s, x.toNat < 128) :
    ∀ c ∈ s.toList, c.toNat < 128 := by
  intro c hc
  by_contra hlarge
  obtain ⟨x, hx, hoctet⟩ := exists_mem_utf8EncodeChar (Nat.le_of_not_lt hlarge)
  have hmem : x ∈ ofText s := by
    rw [← String.ofList_toList (s := s), ofText_ofList]
    exact List.mem_flatMap.mpr ⟨c, hc, hx⟩
  exact absurd (h x hmem) (Nat.not_lt.mpr hoctet)

end Bytes

namespace Text

/-! ### Characters that are shown -/

/-- The numbers of the characters of ASCII that are shown. -/
theorem Percent.isGraphic_iff {c : Char} :
    Percent.isGraphic c = true ↔ 33 ≤ c.toNat ∧ c.toNat ≤ 126 := by
  rw [Percent.isGraphic, Bool.and_eq_true, decide_eq_true_eq, decide_eq_true_eq]

/-- The octets of a text that is shown. -/
theorem ofText_graphic {cs : List Char} (h : ∀ c ∈ cs, Percent.isGraphic c = true) :
    Bytes.ofText (String.ofList cs) = cs.map Bytes.octetOf := by
  refine Bytes.ofText_ascii fun c hc => ?_
  have hbounds := Percent.isGraphic_iff.mp (h c hc)
  omega

/-- Characters that are shown are not blank. -/
theorem isBlank_of_isGraphic {c : Char} (h : Percent.isGraphic c = true) : isBlank c = false := by
  have hbounds := Percent.isGraphic_iff.mp h
  simp only [isBlank, Bool.or_eq_false_iff, Bool.and_eq_false_iff, decide_eq_false_iff_not,
    beq_eq_false_iff_ne]
  omega

/-- A text that is shown has no blanks at its ends. -/
theorem trim_graphic {cs : List Char} (h : ∀ c ∈ cs, Percent.isGraphic c = true) :
    trim (String.ofList cs) = String.ofList cs := by
  have hblank : ∀ c ∈ cs, isBlank c = false := fun c hc => isBlank_of_isGraphic (h c hc)
  rw [trim, String.toList_ofList, trimStartChars, trimEndChars,
    dropWhile_eq_self fun c hc => hblank c (List.mem_of_mem_head? hc),
    dropWhile_eq_self fun c hc => hblank c (List.mem_reverse.mp (List.mem_of_mem_head? hc)),
    List.reverse_reverse]

/-! ### Plain characters -/

/-- A letter of ASCII, a digit or an underscore. -/
def IsPlain (c : Char) : Prop := c.isAlphanum = true ∨ c = '_'

instance : DecidablePred IsPlain := fun _ => inferInstanceAs (Decidable (_ ∨ _))

/-- The numbers of plain characters. -/
theorem isPlain_iff {c : Char} :
    IsPlain c ↔ (48 ≤ c.toNat ∧ c.toNat ≤ 57) ∨ (65 ≤ c.toNat ∧ c.toNat ≤ 90) ∨
      c.toNat = 95 ∨ (97 ≤ c.toNat ∧ c.toNat ≤ 122) := by
  have hunderscore : c = '_' ↔ c.toNat = 95 := by
    constructor
    · rintro rfl
      rfl
    · exact fun h => Char.toNat_inj.mp h
  have hval : c.val.toNat = c.toNat := rfl
  rw [IsPlain, hunderscore]
  change ((decide (65 ≤ c.val ∧ c.val ≤ 90) || (decide (97 ≤ c.val) && decide (c.val ≤ 122))) ||
    (decide (48 ≤ c.val) && decide (c.val ≤ 57))) = true ∨ c.toNat = 95 ↔ _
  simp only [Bool.or_eq_true, Bool.and_eq_true, decide_eq_true_eq, UInt32.le_iff_toNat_le, hval]
  change (((65 ≤ c.toNat ∧ c.toNat ≤ 90) ∨ (97 ≤ c.toNat ∧ c.toNat ≤ 122)) ∨
    (48 ≤ c.toNat ∧ c.toNat ≤ 57)) ∨ c.toNat = 95 ↔ _
  omega

/-- Decimal digits are plain. -/
theorem isPlain_of_mem_toDigits (n : ℕ) : ∀ c ∈ Nat.toDigits 10 n, IsPlain c := fun _ hc =>
  .inl (Bool.or_eq_true_iff.mpr (.inr (Nat.isDigit_of_mem_toDigits (by decide) (by decide) hc)))

/-- Whether the characters of a list are plain can be decided. -/
theorem forall_isPlain {cs : List Char} (h : (cs.all fun c => IsPlain c) = true) :
    ∀ c ∈ cs, IsPlain c := fun c hc => of_decide_eq_true (List.all_eq_true.mp h c hc)

namespace IsPlain

variable {c d : Char}

/-- A plain character is none that is not. -/
theorem ne (h : IsPlain c) (hd : ¬ IsPlain d) : c ≠ d := fun heq => hd (heq ▸ h)

/-- A plain character is shown. -/
theorem isGraphic (h : IsPlain c) : Percent.isGraphic c = true := by
  have hrange := isPlain_iff.mp h
  rw [Percent.isGraphic_iff]
  omega

/-- A plain character stays plain in lowercase. -/
theorem toLower (h : IsPlain c) : IsPlain c.toLower := by
  have hrange := isPlain_iff.mp h
  have hval : c.val.toNat = c.toNat := rfl
  unfold Char.toLower
  split
  next hupper =>
    have hlow : 65 ≤ c.toNat := hupper.1
    have hhigh : c.toNat ≤ 90 := hupper.2
    have hnumber : (c.val + ('a'.val - 'A'.val)).toNat = c.toNat + 32 := by
      rw [UInt32.toNat_add, hval]
      change (c.toNat + 32) % 4294967296 = _
      omega
    rw [isPlain_iff]
    change (48 ≤ (c.val + ('a'.val - 'A'.val)).toNat ∧ _) ∨ _
    simp only [Char.toNat, hnumber]
    omega
  next => exact h

/-- Plain characters stand for themselves wherever a plain character is not what is escaped. -/
theorem keepsAllBut (h : IsPlain c) {others : String}
    (hothers : (others.toList.all fun d => ¬ IsPlain d) = true) :
    Percent.keepsAllBut others c = true := by
  have hother : others.toList.contains c = false := by
    rw [Bool.eq_false_iff, Ne, List.contains_iff_mem]
    exact fun hmem => of_decide_eq_true (List.all_eq_true.mp hothers c hmem) h
  rw [Percent.keepsAllBut, h.isGraphic, hother]
  rfl

end IsPlain

namespace Percent

/-- Octets without a percent sign stand for themselves. -/
theorem decodeOctets_of_not_mem {b : Bytes} (h : 37 ∉ b) : decodeOctets b = b := by
  fun_induction decodeOctets b with
  | case1 | case2 => simp at h
  | case3 x rest _ ih => rw [ih (List.not_mem_of_not_mem_cons h)]
  | case4 => rfl

/-- **Plain characters stand for themselves.** -/
theorem decode?_plain {cs : List Char} (h : ∀ c ∈ cs, IsPlain c) :
    decode? (String.ofList cs) = some (String.ofList cs) := by
  have hoctets : Bytes.ofText (String.ofList cs) = cs.map Bytes.octetOf :=
    ofText_graphic fun c hc => (h c hc).isGraphic
  have hpercent : 37 ∉ Bytes.ofText (String.ofList cs) := by
    rw [hoctets, List.mem_map]
    rintro ⟨c, hc, hoctet⟩
    have hbounds := Percent.isGraphic_iff.mp (h c hc).isGraphic
    have hnumber : c.toNat = 37 := by
      rw [← Bytes.toNat_octetOf (by omega : c.toNat < 128), hoctet]
      rfl
    exact (h c hc).ne (by decide) (Char.toNat_inj.mp hnumber : c = '%')
  rw [decode?, decodeOctets_of_not_mem hpercent, Bytes.toText?_ofText]

/-- Characters that stand for themselves are not escaped. -/
theorem encode_of_keeps {keeps : Char → Bool} {cs : List Char} (h : ∀ c ∈ cs, keeps c = true) :
    encode keeps cs = String.ofList cs := by
  have hchars : cs.flatMap (escapeChar keeps) = cs := by
    induction cs with
    | nil => rfl
    | cons c cs ih =>
        obtain ⟨hc, hcs⟩ := List.forall_mem_cons.mp h
        rw [List.flatMap_cons, escapeChar, if_pos hc, ih hcs]
        rfl
  rw [encode, hchars]

end Percent

end Text

end GuardianRelay
