import GuardianRelay.Address
import GuardianRelay.Proofs.Octets
import GuardianRelay.Text.Integer
import Mathlib.Tactic.SplitIfs

/-!
# Hexadecimal Texts

Two digits write an octet, the high one first, and either case of a letter counts. What is written
is read back, with marks in front or without them. The texts that write something are given by
`Hex.Writes`, digit by digit, so that a text of a given length of digits is known to be read,
whatever the digits are.

## Main results

* `Hex.Writes.decode_eq`: digits are read as what they write.
* `Hex.writes_encodeChars`: what is written for a byte string writes it.
* `Hex.exists_writes`: any digits, an even number of them, write a byte string.
* `Hex.decode_eq_ok_iff`: nothing else is read.
-/

namespace GuardianRelay.Hex

open Text (IsPlain)

/-! ### Digits -/

/-- The digits, and what they are worth. -/
theorem digit?_sixteen_eq_some_iff {c : Char} {v : ℕ} :
    Integer.digit? 16 c = some v ↔
      (48 ≤ c.toNat ∧ c.toNat ≤ 57 ∧ v = c.toNat - 48) ∨
      (97 ≤ c.toNat ∧ c.toNat ≤ 102 ∧ v = c.toNat - 87) ∨
      (65 ≤ c.toNat ∧ c.toNat ≤ 70 ∧ v = c.toNat - 55) := by
  have hle (d e : Char) : d ≤ e ↔ d.toNat ≤ e.toNat := Iff.rfl
  have hkept {n : ℕ} (hn : n < 16) : (some n).filter (· < 16) = some v ↔ v = n := by
    rw [Option.filter_some, if_pos (decide_eq_true hn), Option.some.injEq, eq_comm]
  rw [Integer.digit?]
  simp only [hle, Char.reduceToNat]
  split_ifs with hdigit hlower hupper
  · rw [hkept (by omega)]
    omega
  · rw [hkept (by omega)]
    omega
  · rw [hkept (by omega)]
    omega
  · exact iff_of_false (Option.some_ne_none v).symm (by omega)

/-- The octets that are digits, and what they are worth. -/
theorem value?_eq_some_iff {x : UInt8} {v : ℕ} :
    value? x = some v ↔
      (48 ≤ x.toNat ∧ x.toNat ≤ 57 ∧ v = x.toNat - 48) ∨
      (97 ≤ x.toNat ∧ x.toNat ≤ 102 ∧ v = x.toNat - 87) ∨
      (65 ≤ x.toNat ∧ x.toNat ≤ 70 ∧ v = x.toNat - 55) := by
  rw [value?]
  simp only [UInt8.le_iff_toNat_le, UInt8.reduceToNat]
  split_ifs with hdigit hlower hupper
  · rw [Option.some.injEq]
    omega
  · rw [Option.some.injEq]
    omega
  · rw [Option.some.injEq]
    omega
  · exact iff_of_false nofun (by omega)

/-- A digit is plain. -/
theorem isPlain_of_digit? {c : Char} {v : ℕ} (h : Integer.digit? 16 c = some v) : IsPlain c := by
  rw [digit?_sixteen_eq_some_iff] at h
  rw [Text.isPlain_iff]
  omega

/-- A character of ASCII is worth what its octet is worth. -/
theorem value?_octetOf {c : Char} (hc : c.toNat < 128) :
    value? (Bytes.octetOf c) = Integer.digit? 16 c := by
  ext v
  rw [value?_eq_some_iff, digit?_sixteen_eq_some_iff, Bytes.toNat_octetOf hc]

/-- A digit is a character of ASCII. -/
theorem ascii_of_digit? {c : Char} {v : ℕ} (h : Integer.digit? 16 c = some v) : c.toNat < 128 := by
  rw [digit?_sixteen_eq_some_iff] at h
  omega

/-- The digit that is written for a value is worth the value. -/
theorem digit?_digit {v : ℕ} (h : v < 16) : Integer.digit? 16 (digit v) = some v := by
  revert v
  decide

/-! ### Pairs of digits -/

/-- The digits write the octets: two digits for each of them. -/
inductive Writes : List Char → Bytes → Prop
  | nil : Writes [] []
  | cons {high low : Char} {h l : ℕ} {digits : List Char} {b : Bytes} :
      Integer.digit? 16 high = some h →
      Integer.digit? 16 low = some l →
      Writes digits b →
      Writes (high :: low :: digits) (UInt8.ofNat (16 * h + l) :: b)

namespace Writes

variable {digits : List Char} {b : Bytes}

/-- Digits are plain. -/
theorem isPlain (h : Writes digits b) : ∀ c ∈ digits, IsPlain c := by
  induction h with
  | nil => nofun
  | cons hhigh hlow _ ih =>
      exact List.forall_mem_cons.mpr ⟨isPlain_of_digit? hhigh,
        List.forall_mem_cons.mpr ⟨isPlain_of_digit? hlow, ih⟩⟩

/-- There are two digits for each octet. -/
theorem length_eq (h : Writes digits b) : digits.length = 2 * b.length := by
  induction h with
  | nil => rfl
  | cons _ _ _ ih =>
      simp only [List.length_cons, ih]
      omega

/-- Digits are read after what was read before. -/
theorem decodePairs_eq (h : Writes digits b) (index : ℕ) (read : Bytes) :
    decodePairs index read (digits.map Bytes.octetOf) = .ok (read.reverse ++ b) := by
  induction h generalizing index read with
  | nil => rw [List.append_nil]; rfl
  | cons hhigh hlow _ ih =>
      rw [List.map_cons, List.map_cons, decodePairs, value?_octetOf (ascii_of_digit? hhigh),
        value?_octetOf (ascii_of_digit? hlow), hhigh, hlow]
      dsimp only
      rw [ih, List.reverse_cons, List.append_assoc, List.singleton_append]

/-- **Digits are read as what they write.** -/
theorem decode_eq (h : Writes digits b) : decode (String.ofList digits) = .ok b := by
  have hoctets : Bytes.ofText (String.ofList digits) = digits.map Bytes.octetOf :=
    Text.ofText_graphic fun c hc => (h.isPlain c hc).isGraphic
  have heven : ¬ (digits.map Bytes.octetOf).length % 2 = 1 := by
    rw [List.length_map, h.length_eq]
    omega
  rw [decode, hoctets]
  exact (if_neg heven).trans (h.decodePairs_eq 0 [])

/-- There is no mark among digits. -/
theorem dropMarksChars_eq (h : Writes digits b) : dropMarksChars digits = digits := by
  cases h with
  | nil => rfl
  | @cons high low _ _ _ _ _ hlow _ =>
      rw [dropMarksChars]
      rintro rest hmark
      obtain rfl := (List.cons.inj (List.cons.inj hmark).2).1
      exact absurd hlow (by decide +revert)

/-- Digits are read behind a mark as they are read without it. -/
theorem decode_dropMarks_eq (h : Writes digits b) {mark : String}
    (hmark : mark = "" ∨ mark = "0x") :
    decode (dropMarks (mark ++ String.ofList digits)) = .ok b := by
  have hdropped : dropMarksChars (mark ++ String.ofList digits).toList = digits := by
    rw [String.toList_append, String.toList_ofList]
    obtain rfl | rfl := hmark
    · exact h.dropMarksChars_eq
    · exact h.dropMarksChars_eq
  rw [dropMarks, hdropped, h.decode_eq]

end Writes

/-- **What is written for a byte string writes it.** -/
theorem writes_encodeChars (b : Bytes) : Writes (encodeChars b) b := by
  induction b with
  | nil => exact .nil
  | cons x b ih =>
      have hbound := x.toNat_lt
      have hcons := Writes.cons (digit?_digit (v := x.toNat / 16) (by omega))
        (digit?_digit (v := x.toNat % 16) (by omega)) ih
      rw [Nat.div_add_mod, UInt8.ofNat_toNat] at hcons
      exact hcons

/-- Two byte strings are not written alike. -/
theorem encodeChars_injective : Function.Injective encodeChars := by
  intro b b' h
  have hread := (writes_encodeChars b).decode_eq
  rw [h, (writes_encodeChars b').decode_eq] at hread
  exact (Except.ok.inj hread).symm

/-- **Any digits write something**, if their number is even. -/
theorem exists_writes {n : ℕ} {digits : List Char} (hlength : digits.length = 2 * n)
    (hdigits : ∀ c ∈ digits, (Integer.digit? 16 c).isSome = true) :
    ∃ b, b.length = n ∧ Writes digits b := by
  induction n generalizing digits with
  | zero =>
      obtain rfl := List.length_eq_zero_iff.mp hlength
      exact ⟨[], rfl, .nil⟩
  | succ n ih =>
      obtain ⟨high, digits, rfl⟩ := List.exists_cons_of_length_eq_add_one hlength
      obtain ⟨low, digits, rfl⟩ := List.exists_cons_of_length_eq_add_one (Nat.succ.inj hlength)
      obtain ⟨hhigh, hrest⟩ := List.forall_mem_cons.mp hdigits
      obtain ⟨hlow, hdigits⟩ := List.forall_mem_cons.mp hrest
      obtain ⟨h, hhigh⟩ := Option.isSome_iff_exists.mp hhigh
      obtain ⟨l, hlow⟩ := Option.isSome_iff_exists.mp hlow
      obtain ⟨b, hb, hwrites⟩ := ih (Nat.succ.inj (Nat.succ.inj hlength)) hdigits
      exact ⟨UInt8.ofNat (16 * h + l) :: b, congrArg (· + 1) hb, .cons hhigh hlow hwrites⟩

/-- Octets are read only if all of them are digits. -/
theorem isSome_of_decodePairs {index : ℕ} {read octets b : Bytes}
    (h : decodePairs index read octets = .ok b) : ∀ x ∈ octets, (value? x).isSome = true := by
  fun_induction decodePairs index read octets with
  | case1 => nofun
  | case2 | case3 | case4 => contradiction
  | case5 index read high low rest _ _ hlow hhigh ih =>
      refine List.forall_mem_cons.mpr ⟨?_, List.forall_mem_cons.mpr ⟨?_, ih h⟩⟩
      · rw [hhigh, Option.isSome_some]
      · rw [hlow, Option.isSome_some]

/-- **Which texts are read.** Nothing is read that is not written with digits, two for each
octet. -/
theorem decode_eq_ok_iff {s : String} {b : Bytes} : decode s = .ok b ↔ Writes s.toList b := by
  have hread {b : Bytes} (h : Writes s.toList b) : decode s = .ok b := by
    rw [← h.decode_eq, String.ofList_toList]
  refine ⟨fun hdecode => ?_, hread⟩
  have h := hdecode
  rw [decode] at h
  split at h
  next => contradiction
  next heven =>
    have hvalues := isSome_of_decodePairs h
    have hascii : ∀ c ∈ s.toList, c.toNat < 128 := by
      refine Bytes.ascii_of_ofText fun x hx => ?_
      obtain ⟨v, hv⟩ := Option.isSome_iff_exists.mp (hvalues x hx)
      rw [value?_eq_some_iff] at hv
      omega
    have hoctets : Bytes.ofText s = s.toList.map Bytes.octetOf := by
      rw [← Bytes.ofText_ascii hascii, String.ofList_toList]
    have hdigits : ∀ c ∈ s.toList, (Integer.digit? 16 c).isSome = true := by
      intro c hc
      rw [← value?_octetOf (hascii c hc)]
      exact hvalues _ (hoctets ▸ List.mem_map_of_mem hc)
    rw [hoctets, List.length_map] at heven
    obtain ⟨b', -, hwrites⟩ := exists_writes (n := s.toList.length / 2) (by omega) hdigits
    -- the digits write what was read
    obtain rfl := Except.ok.inj (hdecode.symm.trans (hread hwrites))
    exact hwrites

end GuardianRelay.Hex
