/-!
# Byte strings

Byte strings are lists of octets. This module fixes the two byte orders in which numbers are written, the
blocks in which a string is consumed, and `FixedBytes n`, the strings of exactly `n` octets that addresses,
hashes and signatures are made of.

## Main results

* `Bytes.length_littleEndian`, `Bytes.length_bigEndian`: a number written in `n` octets takes `n` octets.
* `FixedBytes.length_toList`: a fixed string carries its length.
-/

namespace GuardianRelay

/-- A string of octets. -/
abbrev Bytes := List UInt8

namespace Bytes

/-- The UTF-8 encoding of a text. -/
def ofText (s : String) : Bytes := s.toUTF8.toList

/-- The text that a byte string encodes in UTF-8, if it encodes one. -/
def toText? (b : Bytes) : Option String := String.fromUTF8? (ByteArray.mk b.toArray)

/-- `n` zero octets. -/
def zeros (n : Nat) : Bytes := List.replicate n 0

/-- The lowest `n` octets of `v`, least significant first. -/
def littleEndian : Nat → Nat → Bytes
  | 0, _ => []
  | n + 1, v => UInt8.ofNat v :: littleEndian n (v / 256)

/-- The lowest `n` octets of `v`, most significant first. -/
def bigEndian (n v : Nat) : Bytes := (littleEndian n v).reverse

/-- The number whose octets, least significant first, are `b`. -/
def toNatLE : Bytes → Nat
  | [] => 0
  | x :: rest => x.toNat + 256 * toNatLE rest

/-- The number whose octets, most significant first, are `b`. -/
def toNatBE (b : Bytes) : Nat := b.foldl (fun acc x => acc * 256 + x.toNat) 0

@[simp] theorem length_littleEndian (n v : Nat) : (littleEndian n v).length = n := by
  induction n generalizing v with
  | zero => rfl
  | succ n ih => simp [littleEndian, ih]

@[simp] theorem length_bigEndian (n v : Nat) : (bigEndian n v).length = n := by
  simp [bigEndian]

/-- `b` cut into blocks of `n` octets; the last one may be shorter. A block length of zero cuts nothing off,
so the string stays whole. -/
def blocks (n : Nat) (b : Bytes) : List Bytes :=
  if _h : n = 0 ∨ b.length ≤ n then (if b.isEmpty then [] else [b])
  else b.take n :: blocks n (b.drop n)
termination_by b.length
decreasing_by simp only [List.length_drop]; omega

/-- Whether every octet is zero. -/
def allZero (b : Bytes) : Bool := b.all (· == 0)

end Bytes

/-- A string of exactly `n` octets. -/
@[ext]
structure FixedBytes (n : Nat) where
  /-- The octets. -/
  toList : Bytes
  /-- There are `n` of them. -/
  length_toList : toList.length = n
deriving DecidableEq

namespace FixedBytes

attribute [simp] length_toList

variable {n : Nat}

/-- The octets of `b`, if there are exactly `n`. -/
def ofList? (b : Bytes) : Option (FixedBytes n) :=
  if h : b.length = n then some ⟨b, h⟩ else none

/-- `n` zero octets. -/
def zero : FixedBytes n := ⟨Bytes.zeros n, by simp [Bytes.zeros]⟩

instance : Inhabited (FixedBytes n) := ⟨zero⟩

/-- The first `n` octets of `b`, with zeros in front where `b` has fewer: a narrow value keeps its numeric
meaning, a wide one loses its tail. -/
def leftPad (b : Bytes) : FixedBytes n :=
  ⟨Bytes.zeros (n - b.length) ++ b.take n, by simp [Bytes.zeros]⟩

/-- The lowest `n` octets of a number, most significant first. -/
def ofNat (v : Nat) : FixedBytes n := ⟨Bytes.bigEndian n v, by simp⟩

/-- The number that the octets stand for, most significant first. -/
def toNat (b : FixedBytes n) : Nat := Bytes.toNatBE b.toList

/-- Whether every octet is zero. -/
def isZero (b : FixedBytes n) : Bool := Bytes.allZero b.toList

@[simp] theorem ofList?_toList (b : FixedBytes n) : ofList? b.toList = some b := by
  simp [ofList?]

end FixedBytes

/-- A hash value of 256 bits. -/
abbrev Hash256 := FixedBytes 32

end GuardianRelay
