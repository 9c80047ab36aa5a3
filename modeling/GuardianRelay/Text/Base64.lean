import GuardianRelay.Bytes

/-!
# Base 64 text

Three octets are written as four symbols of six bits each. A final group of one or two octets is completed
with the pad symbol `=`, which a reader insists on, and the bits that the group leaves unused are zero, which
a reader insists on too. So each byte string has one written form.
-/

namespace GuardianRelay.Base64

/-- The symbols in the order of their values. -/
def alphabet : List Char :=
  "ABCDEFGHIJKLMNOPQRSTUVWXYZabcdefghijklmnopqrstuvwxyz0123456789+/".toList

/-- The octet of the pad symbol. -/
def pad : UInt8 := 61

/-- Why a text is not written in base 64. -/
inductive Fault where
  /-- The octet at an offset is no symbol, or a pad where none may stand. -/
  | invalidSymbol (octet : UInt8) (offset : Nat)
  /-- The last group has a single symbol. -/
  | invalidLength (length : Nat)
  /-- The last group is not completed. -/
  | invalidPadding
  /-- The last symbol sets bits that belong to no octet. -/
  | invalidLastSymbol (octet : UInt8) (offset : Nat)
deriving DecidableEq, Repr

/-- The wording of a fault. -/
def Fault.message : Fault → String
  | .invalidSymbol octet offset => s!"Invalid symbol {octet.toNat}, offset {offset}."
  | .invalidLength length => s!"Invalid input length: {length}"
  | .invalidPadding => "Invalid padding"
  | .invalidLastSymbol octet offset => s!"Invalid last symbol {octet.toNat}, offset {offset}."

/-- The symbol of a value below 64. -/
def symbol (v : Nat) : Char := alphabet.getD v 'A'

/-- The value of an ASCII octet as a symbol. -/
def value? (x : UInt8) : Option Nat :=
  if 65 ≤ x ∧ x ≤ 90 then some (x.toNat - 65)
  else if 97 ≤ x ∧ x ≤ 122 then some (x.toNat - 71)
  else if 48 ≤ x ∧ x ≤ 57 then some (x.toNat + 4)
  else if x = 43 then some 62
  else if x = 47 then some 63
  else none

/-- The symbols of a byte string, group by group. -/
def encodeChars : Bytes → List Char
  | [] => []
  | [a] => [symbol (a.toNat / 4), symbol (a.toNat % 4 * 16), '=', '=']
  | [a, b] =>
    [symbol (a.toNat / 4), symbol (a.toNat % 4 * 16 + b.toNat / 16), symbol (b.toNat % 16 * 4), '=']
  | a :: b :: c :: rest =>
    symbol (a.toNat / 4) :: symbol (a.toNat % 4 * 16 + b.toNat / 16)
      :: symbol (b.toNat % 16 * 4 + c.toNat / 64) :: symbol (c.toNat % 64) :: encodeChars rest

/-- The text of a byte string in base 64. -/
def encode (b : Bytes) : String := String.ofList (encodeChars b)

/-- The values of octets that all have to be symbols, the first of them at `offset`. -/
def values (offset : Nat) : Bytes → Except Fault (List Nat)
  | [] => .ok []
  | x :: rest =>
    match value? x with
    | none => .error (.invalidSymbol x offset)
    | some v => do
      let tail ← values (offset + 1) rest
      return v :: tail

/-- The octets of complete groups of four values. -/
def join : List Nat → Bytes
  | a :: b :: c :: d :: rest =>
    UInt8.ofNat (a * 4 + b / 16) :: UInt8.ofNat (b * 16 + c / 4) :: UInt8.ofNat (c * 64 + d) :: join rest
  | _ => []

/-- The values in the last group, which starts at `offset`. Pads may stand only at its end and only after two
symbols; a symbol after a pad is reported at the first pad. -/
def lastValues (offset : Nat) (group : Bytes) : Except Fault (List Nat) :=
  let symbols := group.takeWhile (· != pad)
  let rest := group.drop symbols.length
  match values offset symbols with
  | .error fault => .error fault
  | .ok found =>
    if rest.isEmpty then .ok found
    else if symbols.length < 2 ∨ rest.any (· != pad) then .error (.invalidSymbol pad (offset + symbols.length))
    else .ok found

/-- The octets of the last group, from its values and the octets it was read from. -/
def lastOctets (offset : Nat) (group : Bytes) (found : List Nat) : Except Fault Bytes :=
  if found.length < 2 then .error (.invalidLength (offset + found.length))
  else if group.length ≠ 4 then .error .invalidPadding
  else
    let number := (found ++ List.replicate (4 - found.length) 0).foldl (fun acc v => acc * 64 + v) 0
    let count := found.length * 6 / 8
    if number % Nat.pow 256 (3 - count) ≠ 0 then
      .error (.invalidLastSymbol (group.getD (found.length - 1) 0) (offset + found.length - 1))
    else .ok ((Bytes.bigEndian 3 number).take count)

/-- Reads octets that write a byte string in base 64. -/
def decodeOctets (b : Bytes) : Except Fault Bytes := do
  let last := b.getLastD 0
  if b.length % 4 = 1 ∧ last ≠ pad ∧ (value? last).isNone then
    throw (.invalidSymbol last (b.length - 1))
  let start := (b.length - 1) / 4 * 4
  let front ← values 0 (b.take start)
  let group := b.drop start
  if group.isEmpty then return []
  let found ← lastValues start group
  let tail ← lastOctets start group found
  return join front ++ tail

/-- Reads a text in base 64. -/
def decode (s : String) : Except Fault Bytes := decodeOctets (Bytes.ofText s)

end GuardianRelay.Base64
