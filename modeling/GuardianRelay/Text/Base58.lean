import GuardianRelay.Bytes
import GuardianRelay.Text.Quoted

/-!
# Base 58 text

A byte string is read as a number and written in base 58, in an alphabet without the digits and letters that
look alike; each leading zero octet is written as a leading `1`.
-/

namespace GuardianRelay.Base58

/-- The digits in the order of their values. -/
def alphabet : List Char := "123456789ABCDEFGHJKLMNPQRSTUVWXYZabcdefghijkmnopqrstuvwxyz".toList

/-- Why a text is not written in base 58. -/
inductive Fault where
  /-- The octet at an index is ASCII and no digit. -/
  | invalidCharacter (octet : UInt8) (index : Nat)
  /-- A character that starts at an index is not ASCII. -/
  | nonAscii (index : Nat)
deriving DecidableEq, Repr

/-- The wording of a fault. -/
def Fault.message : Fault → String
  | .invalidCharacter octet index =>
    s!"provided string contained invalid character {Text.quoteChar (Char.ofNat octet.toNat)} at byte {index}"
  | .nonAscii index => s!"provided string contained non-ascii character starting at byte {index}"

/-- The value of an ASCII octet as a digit. -/
def value? (x : UInt8) : Option Nat := alphabet.findIdx? (·.toNat = x.toNat)

/-- The values of the digits, the first of them at `index`. -/
def digitValues (index : Nat) : Bytes → Except Fault (List Nat)
  | [] => .ok []
  | x :: rest =>
    if 127 < x then .error (.nonAscii index)
    else match value? x with
      | none => .error (.invalidCharacter x index)
      | some v => do
        let values ← digitValues (index + 1) rest
        return v :: values

/-- The digits of a number in a base, most significant first; zero has none. A base below two has no
digits. -/
def digitsOf (base n : Nat) : List Nat := go n []
where
  /-- Puts the digits of a number in front of those already found. -/
  go (n : Nat) (found : List Nat) : List Nat :=
    if _h : n = 0 ∨ base < 2 then found else go (n / base) (n % base :: found)
  termination_by n
  decreasing_by exact Nat.div_lt_self (by omega) (by omega)

/-- Reads a text in base 58. -/
def decode (s : String) : Except Fault Bytes := do
  let values ← digitValues 0 (Bytes.ofText s)
  let number := values.foldl (fun acc v => acc * 58 + v) 0
  return Bytes.zeros (values.takeWhile (· == 0)).length ++ (digitsOf 256 number).map UInt8.ofNat

/-- Writes a byte string in base 58. -/
def encode (b : Bytes) : String :=
  let zeros := (b.takeWhile (· == 0)).map fun _ => '1'
  let digits := (digitsOf 58 (Bytes.toNatBE b)).map fun v => alphabet.getD v '1'
  String.ofList (zeros ++ digits)

end GuardianRelay.Base58
