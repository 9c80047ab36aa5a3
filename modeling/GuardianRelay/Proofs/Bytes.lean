import GuardianRelay.Bytes
import Mathlib.Data.List.Induction
import Mathlib.Tactic.Ring

/-!
# Byte Orders

A number below `256 ^ n` and its `n` octets determine each other, in both byte orders, and so
do a fixed string of `n` octets and the number that it stands for. Every number field of a
written form rests on these laws.

## Main results

* `Bytes.toNatLE_littleEndian`, `Bytes.littleEndian_toNatLE`: the two directions, least
  significant octet first.
* `Bytes.toNatBE_bigEndian`, `Bytes.bigEndian_toNatBE`: the two directions, most significant
  octet first.
* `FixedBytes.toNat_ofNat`, `FixedBytes.ofNat_toNat`: the two directions for fixed strings.
* `FixedBytes.toNat_leftPad`: the number of a string that is padded.
-/

namespace GuardianRelay

namespace Bytes

/-! ### Least significant octet first -/

/-- Reading the written octets gives the number back, up to what `n` octets can hold. -/
theorem toNatLE_littleEndian (n v : ℕ) : toNatLE (littleEndian n v) = v % 256 ^ n := by
  induction n generalizing v with
  | zero => simp [littleEndian, toNatLE, Nat.mod_one]
  | succ n ih =>
      have hsplit : v % 256 ^ (n + 1) = v % 256 + 256 * (v / 256 % 256 ^ n) := by
        rw [pow_succ', Nat.mod_mul]
      rw [littleEndian, toNatLE, ih, hsplit, UInt8.toNat_ofNat']

/-- Writing the number that octets stand for gives the octets back. -/
theorem littleEndian_toNatLE (b : Bytes) : littleEndian b.length (toNatLE b) = b := by
  induction b with
  | nil => rfl
  | cons x rest ih =>
      have hx : x.toNat < 256 := x.toNat_lt
      have hlow : UInt8.ofNat (x.toNat + 256 * toNatLE rest) = x := by
        apply UInt8.toNat_inj.mp
        rw [UInt8.toNat_ofNat']
        omega
      have hhigh : (x.toNat + 256 * toNatLE rest) / 256 = toNatLE rest := by omega
      rw [List.length_cons, toNatLE, littleEndian, hlow, hhigh, ih]

/-- The number that octets stand for needs no more room than they take. -/
theorem toNatLE_lt (b : Bytes) : toNatLE b < 256 ^ b.length := by
  induction b with
  | nil => simp [toNatLE]
  | cons x rest ih =>
      have hx : x.toNat < 256 := x.toNat_lt
      rw [toNatLE, List.length_cons, pow_succ]
      omega

/-! ### Most significant octet first -/

/-- The two byte orders read each other's octets backwards. -/
theorem toNatBE_eq_toNatLE_reverse (b : Bytes) : toNatBE b = toNatLE b.reverse := by
  induction b using List.reverseRecOn with
  | nil => rfl
  | append_singleton rest x ih =>
      rw [List.reverse_append, List.reverse_singleton, List.singleton_append, toNatLE, ← ih]
      simp only [toNatBE, List.foldl_append, List.foldl_cons, List.foldl_nil]
      ring

/-- Reading the written octets gives the number back, up to what `n` octets can hold. -/
theorem toNatBE_bigEndian (n v : ℕ) : toNatBE (bigEndian n v) = v % 256 ^ n := by
  rw [toNatBE_eq_toNatLE_reverse, bigEndian, List.reverse_reverse, toNatLE_littleEndian]

/-- Writing the number that octets stand for gives the octets back. -/
theorem bigEndian_toNatBE (b : Bytes) : bigEndian b.length (toNatBE b) = b := by
  have h := littleEndian_toNatLE b.reverse
  rw [List.length_reverse] at h
  rw [toNatBE_eq_toNatLE_reverse, bigEndian, h, List.reverse_reverse]

/-- The number that octets stand for needs no more room than they take. -/
theorem toNatBE_lt (b : Bytes) : toNatBE b < 256 ^ b.length := by
  rw [toNatBE_eq_toNatLE_reverse, ← List.length_reverse]
  exact toNatLE_lt b.reverse

/-- Octets of one number are the same if they are as many. -/
theorem toNatBE_inj {b b' : Bytes} (hlength : b.length = b'.length) :
    toNatBE b = toNatBE b' ↔ b = b' := by
  constructor
  · intro h
    rw [← bigEndian_toNatBE b, hlength, h, bigEndian_toNatBE]
  · rintro rfl
    rfl

/-- The octets of a number may be read in two parts. -/
theorem toNatBE_append (b b' : Bytes) :
    toNatBE (b ++ b') = toNatBE b * 256 ^ b'.length + toNatBE b' := by
  have hfrom (start : ℕ) :
      b'.foldl (fun acc x => acc * 256 + x.toNat) start =
        start * 256 ^ b'.length + toNatBE b' := by
    induction b' generalizing start with
    | nil => simp [toNatBE]
    | cons x rest ih =>
        rw [toNatBE, List.foldl_cons, List.foldl_cons, ih, ih (0 * 256 + x.toNat),
          List.length_cons]
        ring
  rw [toNatBE, List.foldl_append]
  exact hfrom _

/-- Only zeros stand for zero. -/
theorem toNatBE_eq_zero_iff {b : Bytes} : toNatBE b = 0 ↔ allZero b := by
  induction b with
  | nil => simp [toNatBE, allZero]
  | cons x rest ih =>
      rw [← List.singleton_append, toNatBE_append, Nat.add_eq_zero_iff, ih]
      simp [toNatBE, allZero, ← UInt8.toNat_inj]

end Bytes

namespace FixedBytes

variable {n : ℕ}

/-- A fixed string gives its number back, up to what its width can hold. -/
theorem toNat_ofNat (v : ℕ) : (ofNat v : FixedBytes n).toNat = v % 256 ^ n :=
  Bytes.toNatBE_bigEndian n v

/-- The number of a fixed string gives the string back. -/
@[simp] theorem ofNat_toNat (b : FixedBytes n) : ofNat b.toNat = b := by
  obtain ⟨octets, rfl⟩ := b
  exact FixedBytes.ext (Bytes.bigEndian_toNatBE octets)

/-- The number of a fixed string needs no more room than its width. -/
theorem toNat_lt (b : FixedBytes n) : b.toNat < 256 ^ n := by
  obtain ⟨octets, rfl⟩ := b
  exact Bytes.toNatBE_lt octets

/-- A fixed string is made of its octets and of no others. -/
theorem ofList?_eq_some_iff {octets : Bytes} {b : FixedBytes n} :
    ofList? octets = some b ↔ octets = b.toList := by
  constructor
  · intro h
    rw [ofList?] at h
    split at h
    next => exact congrArg toList (Option.some.inj h)
    next => contradiction
  · rintro rfl
    exact ofList?_toList b

/-- A narrow string is padded with zeros in front. -/
theorem toList_leftPad {b : Bytes} (h : b.length ≤ n) :
    (leftPad b : FixedBytes n).toList = Bytes.zeros (n - b.length) ++ b :=
  congrArg (Bytes.zeros (n - b.length) ++ ·) (List.take_of_length_le h)

/-- A string of the right length is padded with nothing. -/
theorem leftPad_toList (b : FixedBytes n) : leftPad b.toList = b := by
  rw [FixedBytes.ext_iff, toList_leftPad b.length_toList.le, b.length_toList, Nat.sub_self]
  rfl

/-- Zeros in front of a narrow string do not change its number. -/
theorem toNat_leftPad {b : Bytes} (h : b.length ≤ n) :
    (leftPad b : FixedBytes n).toNat = Bytes.toNatBE b := by
  have hzeros : Bytes.toNatBE (Bytes.zeros (n - b.length)) = 0 :=
    Bytes.toNatBE_eq_zero_iff.mpr (by simp [Bytes.allZero, Bytes.zeros])
  rw [toNat, toList_leftPad h, Bytes.toNatBE_append, hzeros, Nat.zero_mul, Nat.zero_add]

/-- Fixed strings of one number are the same. -/
theorem toNat_inj {b b' : FixedBytes n} : b.toNat = b'.toNat ↔ b = b' := by
  rw [toNat, toNat, Bytes.toNatBE_inj (b.length_toList.trans b'.length_toList.symm),
    FixedBytes.ext_iff]

/-- Only the string of zeros is made of zeros. -/
theorem isZero_iff {b : FixedBytes n} : b.isZero = true ↔ b = zero := by
  obtain ⟨octets, rfl⟩ := b
  rw [FixedBytes.ext_iff]
  simp [isZero, Bytes.allZero, zero, Bytes.zeros, List.eq_replicate_iff]

end FixedBytes

end GuardianRelay
