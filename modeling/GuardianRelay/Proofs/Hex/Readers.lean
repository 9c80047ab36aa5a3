import GuardianRelay.Evm.Quantity
import GuardianRelay.Proofs.Bytes
import GuardianRelay.Proofs.Hex
import GuardianRelay.Proofs.Outcome
import Mathlib.Algebra.Group.Even
import Mathlib.Data.List.Forall2
import Mathlib.Data.Nat.Digits.Defs
import Mathlib.Tactic.FinCases

/-!
# Readers of Hexadecimal Texts

Addresses, data and quantities are read from digits behind marks, and what is read is the number
that the digits make. Addresses and data need two digits for each octet; a quantity needs none, and
its digits are read like those of any number. This module gives exactly the texts that are read.

Two of their forms are wider than what is written anywhere: a mark may come again and again, and
there may be a plus sign in front of the digits of a quantity. So some texts are read that are
neither digits nor digits behind one mark (`Hex.readers_beyond`).

## Main results

* `Hex.writes_iff`: digits write the octets of the number that they make.
* `Hex.decode_dropMarks_eq_ok_iff`: which texts are read as octets.
* `Hex.readers_accept`: which texts are read as addresses, data and quantities.
-/

namespace GuardianRelay.Hex

variable {c : Char} {v n acc : ℕ} {digits cs : List Char} {b : Bytes} {s : String}

/-! ### The number of some digits -/

/-- A character is a digit that is worth a value. -/
def IsDigit (c : Char) (v : ℕ) : Prop :=
  ('0' ≤ c ∧ c ≤ '9' ∧ v = c.toNat - '0'.toNat) ∨
  ('a' ≤ c ∧ c ≤ 'f' ∧ v = c.toNat - 'a'.toNat + 10) ∨
  ('A' ≤ c ∧ c ≤ 'F' ∧ v = c.toNat - 'A'.toNat + 10)

/-- The digits make a number, the first of them counting most. -/
def Spells (digits : List Char) (n : ℕ) : Prop :=
  ∃ values, List.Forall₂ IsDigit digits values ∧ Nat.ofDigits 16 values.reverse = n

/-- A digit is read as what it is worth. -/
theorem digit?_eq_some_iff_isDigit : Integer.digit? 16 c = some v ↔ IsDigit c v := by
  have hle (d e : Char) : d ≤ e ↔ d.toNat ≤ e.toNat := Iff.rfl
  rw [digit?_sixteen_eq_some_iff, IsDigit]
  simp only [hle, Char.reduceToNat]
  omega

/-- A digit is worth less than the radix. -/
theorem lt_of_digit? (h : Integer.digit? 16 c = some v) : v < 16 := by
  rw [digit?_sixteen_eq_some_iff] at h
  omega

/-- Digits behind others make the number that is read. -/
theorem number?_eq_some_iff_values :
    Integer.number? 16 acc digits = some n ↔
      ∃ values, List.Forall₂ IsDigit digits values ∧
        values.foldl (fun m v => m * 16 + v) acc = n := by
  induction digits generalizing acc with
  | nil => simp [Integer.number?]
  | cons c digits ih =>
      simp only [Integer.number?, Option.bind_eq_some_iff, digit?_eq_some_iff_isDigit, ih]
      constructor
      · rintro ⟨v, hc, values, hvalues, hn⟩
        exact ⟨v :: values, .cons hc hvalues, hn⟩
      · rintro ⟨_, _ | ⟨hc, hvalues⟩, hn⟩
        exact ⟨_, hc, _, hvalues, hn⟩

/-- The number that is read is the one that the digits make. -/
theorem number?_eq_some_iff_spells : Integer.number? 16 0 digits = some n ↔ Spells digits n := by
  rw [number?_eq_some_iff_values, Spells]
  refine exists_congr fun values => and_congr_right fun _ => ?_
  rw [Nat.ofDigits_eq_foldr, List.foldr_reverse]
  simp only [Nat.cast_id, Nat.add_comm, Nat.mul_comm]

/-- Digits make one number. -/
theorem Spells.unique {n' : ℕ} (h : Spells digits n) (h' : Spells digits n') : n = n' := by
  rw [← number?_eq_some_iff_spells] at h h'
  exact Option.some.inj (h.symm.trans h')

/-- Characters make a number only if they are digits. -/
theorem Spells.isSome (h : Spells digits n) :
    ∀ c ∈ digits, (Integer.digit? 16 c).isSome = true := by
  obtain ⟨values, hvalues, -⟩ := h
  induction hvalues with
  | nil => nofun
  | cons hdigit _ ih =>
      refine List.forall_mem_cons.mpr ⟨?_, ih⟩
      rw [digit?_eq_some_iff_isDigit.mpr hdigit, Option.isSome_some]

/-- Digits that write octets make, behind others, the number of the octets behind theirs. -/
theorem Writes.number?_eq (h : Writes digits b) (acc : ℕ) :
    Integer.number? 16 acc digits = some (acc * 256 ^ b.length + Bytes.toNatBE b) := by
  induction h generalizing acc with
  | nil => simp [Integer.number?, Bytes.toNatBE]
  | @cons high low hv lv digits b hhigh hlow _ ih =>
      have hoctet : Bytes.toNatBE [UInt8.ofNat (16 * hv + lv)] = 16 * hv + lv := by
        have hhv := lt_of_digit? hhigh
        have hlv := lt_of_digit? hlow
        rw [Bytes.toNatBE, List.foldl_cons, List.foldl_nil, Nat.zero_mul, Nat.zero_add,
          UInt8.toNat_ofNat', Nat.mod_eq_of_lt (by omega)]
      rw [Integer.number?, hhigh, Option.bind_some, Integer.number?, hlow, Option.bind_some, ih,
        ← List.singleton_append, Bytes.toNatBE_append, hoctet, List.length_append,
        List.length_singleton, pow_add, pow_one, Option.some.injEq]
      ring

/-- Digits that write octets make their number. -/
theorem Writes.spells (h : Writes digits b) : Spells digits (Bytes.toNatBE b) := by
  rw [← number?_eq_some_iff_spells, h.number?_eq, Nat.zero_mul, Nat.zero_add]

/-- **Digits write the octets of the number that they make**, if there are two for each octet. -/
theorem writes_iff :
    Writes digits b ↔ digits.length = 2 * b.length ∧ Spells digits (Bytes.toNatBE b) := by
  refine ⟨fun h => ⟨h.length_eq, h.spells⟩, fun ⟨hlength, hspells⟩ => ?_⟩
  obtain ⟨b', hb', hwrites⟩ := exists_writes hlength hspells.isSome
  obtain rfl := (Bytes.toNatBE_inj hb').mp (hwrites.spells.unique hspells)
  exact hwrites

/-! ### Marks -/

/-- Marks, one behind the other. -/
def marks (n : ℕ) : List Char := (List.replicate n ['0', 'x']).flatten

/-- Any number of marks is dropped. -/
theorem dropMarksChars_marks (n : ℕ) (cs : List Char) :
    dropMarksChars (marks n ++ cs) = dropMarksChars cs := by
  induction n with
  | zero => rfl
  | succ n ih => exact ih

/-- What is dropped is marks. -/
theorem exists_marks (cs : List Char) : ∃ n, cs = marks n ++ dropMarksChars cs := by
  fun_induction dropMarksChars cs with
  | case1 rest ih =>
      obtain ⟨n, hn⟩ := ih
      exact ⟨n + 1, congrArg ('0' :: 'x' :: ·) hn⟩
  | case2 => exact ⟨0, rfl⟩

/-- There is no mark in front of digits. -/
theorem Spells.dropMarksChars_eq (h : Spells digits n) : dropMarksChars digits = digits := by
  rw [dropMarksChars]
  rintro rest rfl
  have hx := h.isSome 'x' (by simp)
  contradiction

/-- Characters are what is left of a text if they stand behind marks and there is none in front of
them. -/
theorem dropMarksChars_eq_iff (h : dropMarksChars cs = cs) :
    dropMarksChars s.toList = cs ↔ ∃ n, s.toList = marks n ++ cs := by
  constructor
  · rintro rfl
    exact exists_marks s.toList
  · rintro ⟨n, hn⟩
    rw [hn, dropMarksChars_marks, h]

/-! ### What is read -/

/-- **Which texts are read as octets**: two digits for each of them, behind marks. -/
theorem decode_dropMarks_eq_ok_iff :
    decode (dropMarks s) = .ok b ↔
      ∃ n digits, s.toList = marks n ++ digits ∧ digits.length = 2 * b.length ∧
        Spells digits (Bytes.toNatBE b) := by
  rw [decode_eq_ok_iff, dropMarks, String.toList_ofList, writes_iff]
  constructor
  · intro h
    obtain ⟨n, hn⟩ := exists_marks s.toList
    exact ⟨n, _, hn, h⟩
  · rintro ⟨n, digits, hn, hlength, hspells⟩
    rw [(dropMarksChars_eq_iff hspells.dropMarksChars_eq).mpr ⟨n, hn⟩]
    exact ⟨hlength, hspells⟩

/-- Digits that are even in number make the number of some octets. -/
theorem Spells.exists_octets {k : ℕ} (h : Spells digits n) (hlength : digits.length = 2 * k) :
    ∃ b : Bytes, b.length = k ∧ Bytes.toNatBE b = n := by
  obtain ⟨b, hb, hwrites⟩ := exists_writes hlength h.isSome
  exact ⟨b, hb, hwrites.spells.unique h⟩

/-- An address is the number that is made by an even number of digits, 64 at most. -/
theorem address_ofHex_eq_ok_iff {a : Address} :
    Address.ofHex s = .ok a ↔
      ∃ n digits, s.toList = marks n ++ digits ∧ Even digits.length ∧ digits.length ≤ 64 ∧
        Spells digits a.bytes.toNat := by
  have hread : Address.ofHex s = .ok a ↔
      ∃ b, decode (dropMarks s) = .ok b ∧ b.length ≤ 32 ∧ Address.ofNative b = a := by
    rw [Address.ofHex]
    cases decode (dropMarks s) with
    | error fault => exact iff_of_false nofun nofun
    | ok b =>
        dsimp only
        split
        next hwide => simp [hwide]
        next hnarrow => simp [Nat.le_of_not_lt hnarrow]
  have hnumber {b : Bytes} (hb : b.length ≤ 32) :
      Address.ofNative b = a ↔ Bytes.toNatBE b = a.bytes.toNat := by
    rw [← FixedBytes.toNat_leftPad hb, FixedBytes.toNat_inj, Address.ofNative, Address.ext_iff]
  rw [hread]
  constructor
  · rintro ⟨b, hdecode, hb, ha⟩
    obtain ⟨n, digits, hs, hlength, hspells⟩ := decode_dropMarks_eq_ok_iff.mp hdecode
    rw [(hnumber hb).mp ha] at hspells
    exact ⟨n, digits, hs, ⟨b.length, by omega⟩, by omega, hspells⟩
  · rintro ⟨n, digits, hs, ⟨k, hk⟩, hwidth, hspells⟩
    obtain ⟨b, hb, ha⟩ := hspells.exists_octets (k := k) (by omega)
    have hnarrow : b.length ≤ 32 := by omega
    refine ⟨b, decode_dropMarks_eq_ok_iff.mpr ⟨n, digits, hs, by omega, ?_⟩, hnarrow,
      (hnumber hnarrow).mpr ha⟩
    rwa [ha]

/-- A contract-model address is the number that is made by 40 digits. -/
theorem evmAddress_ofHex_eq_ok_iff {a : EvmAddress} :
    EvmAddress.ofHex s = .ok a ↔
      ∃ n digits, s.toList = marks n ++ digits ∧ digits.length = 40 ∧ Spells digits a.toNat := by
  have hread : EvmAddress.ofHex s = .ok a ↔ decode (dropMarks s) = .ok a.toList := by
    rw [EvmAddress.ofHex]
    cases decode (dropMarks s) with
    | error fault => exact iff_of_false nofun nofun
    | ok b =>
        rw [Except.ok.injEq, ← FixedBytes.ofList?_eq_some_iff]
        cases hb : (FixedBytes.ofList? b : Option EvmAddress) <;> simp [hb]
  rw [hread, decode_dropMarks_eq_ok_iff, a.length_toList]
  rfl

/-- Data is the octets of the number that is made by two digits for each of them. -/
theorem parseData_eq_ok_iff :
    Evm.parseData s = .ok b ↔
      ∃ n digits, s.toList = marks n ++ digits ∧ digits.length = 2 * b.length ∧
        Spells digits (Bytes.toNatBE b) := by
  rw [Evm.parseData, Outcome.mapError_eq_ok_iff, decode_dropMarks_eq_ok_iff]

/-- A quantity is the number that is made by digits, if it fits; there may be a plus sign in front
of them. -/
theorem parseQuantity_eq_ok_iff :
    Evm.parseQuantity s = .ok v ↔
      ∃ n digits,
        (s.toList = marks n ++ digits ∨ digits ≠ [] ∧ s.toList = marks n ++ '+' :: digits) ∧
        Spells digits v ∧ v < 2 ^ 128 := by
  have hread : Evm.parseQuantity s = .ok v ↔
      ∃ digits, (dropMarksChars s.toList = digits ∨
          digits ≠ [] ∧ dropMarksChars s.toList = '+' :: digits) ∧
        Spells digits v ∧ v < 2 ^ 128 := by
    rw [Evm.parseQuantity]
    split
    next hnone =>
      rw [hnone, Except.ok.injEq]
      constructor
      · rintro rfl
        exact ⟨[], .inl rfl, number?_eq_some_iff_spells.mp rfl, by decide⟩
      · rintro ⟨_, rfl | h, hspells, -⟩
        · exact (number?_eq_some_iff_spells.mp rfl).unique hspells
        · exact absurd h.2 nofun
    next hsome =>
      rw [Outcome.mapError_eq_ok_iff, Integer.parseChars_eq_ok_iff (by decide)]
      simp only [number?_eq_some_iff_spells]
      refine exists_congr fun digits => ?_
      constructor
      · rintro ⟨h | h, hne, hspells⟩
        · exact ⟨.inl h, hspells⟩
        · exact ⟨.inr ⟨hne, h⟩, hspells⟩
      · rintro ⟨h | ⟨hne, h⟩, hspells⟩
        · exact ⟨.inl h, h ▸ hsome, hspells⟩
        · exact ⟨.inr h, hne, hspells⟩
  rw [hread]
  constructor
  · rintro ⟨digits, h | ⟨hne, h⟩, hspells, hfits⟩
    · obtain ⟨n, hn⟩ := (dropMarksChars_eq_iff hspells.dropMarksChars_eq).mp h
      exact ⟨n, digits, .inl hn, hspells, hfits⟩
    · obtain ⟨n, hn⟩ := (dropMarksChars_eq_iff rfl).mp h
      exact ⟨n, digits, .inr ⟨hne, hn⟩, hspells, hfits⟩
  · rintro ⟨n, digits, hn | ⟨hne, hn⟩, hspells, hfits⟩
    · exact ⟨digits, .inl ((dropMarksChars_eq_iff hspells.dropMarksChars_eq).mpr ⟨n, hn⟩),
        hspells, hfits⟩
    · exact ⟨digits, .inr ⟨hne, (dropMarksChars_eq_iff rfl).mpr ⟨n, hn⟩⟩, hspells, hfits⟩

/-- **Which texts are read.** Behind any number of marks stand digits: an even number of them, 64 at
most, for an address; 40 for a contract-model address; an even number for data; and any number for a
quantity that fits, none of them for zero, where there may be a plus sign in front of them. What is
read is the number that the digits make. -/
theorem readers_accept (s : String) :
    (∀ a : Address, Address.ofHex s = .ok a ↔
      ∃ n digits, s.toList = marks n ++ digits ∧ Even digits.length ∧ digits.length ≤ 64 ∧
        Spells digits a.bytes.toNat) ∧
    (∀ a : EvmAddress, EvmAddress.ofHex s = .ok a ↔
      ∃ n digits, s.toList = marks n ++ digits ∧ digits.length = 40 ∧ Spells digits a.toNat) ∧
    (∀ b, Evm.parseData s = .ok b ↔
      ∃ n digits, s.toList = marks n ++ digits ∧ digits.length = 2 * b.length ∧
        Spells digits (Bytes.toNatBE b)) ∧
    ∀ v, Evm.parseQuantity s = .ok v ↔
      ∃ n digits,
        (s.toList = marks n ++ digits ∨ digits ≠ [] ∧ s.toList = marks n ++ '+' :: digits) ∧
        Spells digits v ∧ v < 2 ^ 128 :=
  ⟨fun _ => address_ofHex_eq_ok_iff, fun _ => evmAddress_ofHex_eq_ok_iff,
    fun _ => parseData_eq_ok_iff, fun _ => parseQuantity_eq_ok_iff⟩

/-- Marks are two characters each. -/
theorem length_marks (n : ℕ) : (marks n).length = 2 * n := by
  simp [marks, Nat.mul_comm]

/-- Texts are read that are neither digits nor digits behind one mark. -/
theorem readers_beyond :
    Address.ofHex "0x0x12" = .ok (Address.ofNative [0x12]) ∧
    EvmAddress.ofHex "0x0x1111111111111111111111111111111111111111" =
      .ok ⟨List.replicate 20 0x11, rfl⟩ ∧
    Evm.parseData "0x0xAB" = .ok [0xab] ∧
    Evm.parseQuantity "0x0x1" = .ok 1 ∧
    Evm.parseQuantity "0x+1" = .ok 1 ∧
    ∀ s ∈ ["0x0x12", "0x0x1111111111111111111111111111111111111111", "0x0xAB", "0x0x1", "0x+1"],
      ¬ ∃ n ≤ 1, ∃ digits v, s.toList = marks n ++ digits ∧ Spells digits v := by
  refine ⟨?_, ?_, ?_, ?_, ?_, ?_⟩
  · exact address_ofHex_eq_ok_iff.mpr ⟨2, ['1', '2'], rfl, by decide, by decide,
      number?_eq_some_iff_spells.mp (by decide +kernel)⟩
  · exact evmAddress_ofHex_eq_ok_iff.mpr ⟨2, List.replicate 40 '1', rfl, rfl,
      number?_eq_some_iff_spells.mp (by decide +kernel)⟩
  · exact parseData_eq_ok_iff.mpr ⟨2, ['A', 'B'], rfl, rfl,
      number?_eq_some_iff_spells.mp (by decide +kernel)⟩
  · decide +kernel
  · decide +kernel
  · rintro s hs ⟨n, hn, digits, v, hdigits, hspells⟩
    have hrest : s.toList.drop (2 * n) = digits := by
      rw [hdigits, ← length_marks, List.drop_left]
    -- a character that is no digit is left when one mark is taken away, or none
    have hother : (s.toList.drop (2 * n)).all (fun c => (Integer.digit? 16 c).isSome) = false := by
      obtain rfl | rfl := Nat.le_one_iff_eq_zero_or_eq_one.mp hn
      · fin_cases hs <;> rfl
      · fin_cases hs <;> rfl
    rw [hrest, List.all_eq_true.mpr hspells.isSome] at hother
    exact Bool.false_ne_true hother.symm

end GuardianRelay.Hex
