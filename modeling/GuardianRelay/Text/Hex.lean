import GuardianRelay.Bytes
import GuardianRelay.Text.Quoted

/-!
# Hexadecimal text

Two digits per octet. Written digits are lowercase; both cases are read. Addresses, quantities and data are
often written after `0x`, and a reader that allows the mark allows any number of them.
-/

namespace GuardianRelay.Hex

/-- The digit of a value below sixteen. -/
def digit (n : Nat) : Char :=
  if n < 10 then Char.ofNat (48 + n) else Char.ofNat (87 + n)

/-- The two digits of each octet. -/
def encodeChars (b : Bytes) : List Char :=
  b.flatMap fun x => [digit (x.toNat / 16), digit (x.toNat % 16)]

/-- The hexadecimal text of a byte string. -/
def encode (b : Bytes) : String := String.ofList (encodeChars b)

/-- The hexadecimal text of a byte string after the mark `0x`. -/
def encodeMarked (b : Bytes) : String := String.ofList ('0' :: 'x' :: encodeChars b)

/-- The value of an ASCII octet as a digit. -/
def value? (x : UInt8) : Option Nat :=
  if 48 ≤ x ∧ x ≤ 57 then some (x.toNat - 48)
  else if 97 ≤ x ∧ x ≤ 102 then some (x.toNat - 87)
  else if 65 ≤ x ∧ x ≤ 70 then some (x.toNat - 55)
  else none

/-- Why a text is not hexadecimal. -/
inductive Fault where
  /-- The text has an odd number of octets. -/
  | oddLength
  /-- The octet at an index is no digit. -/
  | invalidDigit (octet : UInt8) (index : Nat)
deriving DecidableEq, Repr

/-- The wording of a fault. An octet is shown as the character with its code. -/
def Fault.message : Fault → String
  | .oddLength => "Odd number of digits"
  | .invalidDigit octet index =>
    s!"Invalid character {Text.quoteChar (Char.ofNat octet.toNat)} at position {index}"

/-- Reads pairs of digits after octets that were read already, which are held last first; the next digit stands at
`index`. -/
def decodePairs (index : Nat) (read : Bytes) : Bytes → Except Fault Bytes
  | [] => .ok read.reverse
  | [_] => .error .oddLength
  | high :: low :: rest =>
    match value? high, value? low with
    | none, _ => .error (.invalidDigit high index)
    | some _, none => .error (.invalidDigit low (index + 1))
    | some h, some l => decodePairs (index + 2) (UInt8.ofNat (16 * h + l) :: read) rest

/-- Reads a text of hexadecimal digits. That the number of octets is odd is noticed before any bad digit. -/
def decode (s : String) : Except Fault Bytes :=
  let octets := Bytes.ofText s
  if octets.length % 2 = 1 then .error .oddLength else decodePairs 0 [] octets

/-- Drops every leading `0x`. -/
def dropMarksChars : List Char → List Char
  | '0' :: 'x' :: rest => dropMarksChars rest
  | cs => cs

/-- The text after every leading `0x`. -/
def dropMarks (s : String) : String := String.ofList (dropMarksChars s.toList)

end GuardianRelay.Hex
