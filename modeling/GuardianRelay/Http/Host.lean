import GuardianRelay.Text.Integer
import GuardianRelay.Text.Percent
import GuardianRelay.Text.Search

/-!
# Hosts

How the host of an address is written. A name may hold escapes and wide forms of letters, and case does not count. A
name that ends in a number is an address of four octets, of which the last part may cover several, and each part may
be written in base 8, 10 or 16.
-/

namespace GuardianRelay.Http

/-- Why a text is no host. -/
inductive HostFault where
  | empty
  /-- A name holds a character that no name holds. -/
  | name
  | fourOctets
  | eightGroups
deriving DecidableEq, Repr

/-- The wording of a host fault. -/
def HostFault.message : HostFault → String
  | .empty => "empty host"
  | .name => "invalid international domain name"
  | .fourOctets => "invalid IPv4 address"
  | .eightGroups => "invalid IPv6 address"

namespace Host

/-! ### Names -/

/-- A character of a name as it counts: nothing, if it does not. -/
def fold? (c : Char) : Option Char :=
  let n := c.toNat
  if n = 0xad then none
  else if n = 0x3002 ∨ n = 0xff61 then some '.'
  else if 0xff01 ≤ n ∧ n ≤ 0xff5e then some (Text.lowerAscii (Char.ofNat (n - 0xfee0)))
  else some (Text.lowerAscii c)

/-- Whether a character can stand in a name. -/
def isNameChar (c : Char) : Bool :=
  0x80 ≤ c.toNat || Text.Percent.keepsAllBut "#%/:<>?@[\\]^|" c

/-! ### Addresses of four octets -/

/-- The parts of a name, between its dots. A dot at the end ends the last part and begins none. -/
def parts (name : List Char) : List (List Char) :=
  let all := ((String.ofList name).splitOn ".").map String.toList
  if all.getLast? = some [] ∧ 1 < all.length then all.dropLast else all

/-- The number that a part writes. A part with nothing behind the mark of its base is zero. -/
def part? : List Char → Option Nat
  | [] => none
  | '0' :: 'x' :: digits => number? 16 digits
  | '0' :: 'X' :: digits => number? 16 digits
  | '0' :: digits => number? 8 digits
  | digits => number? 10 digits
where
  /-- The number that digits of a base write. -/
  number? (radix : Nat) (digits : List Char) : Option Nat :=
    digits.foldl (fun acc c => return (← acc) * radix + (← Integer.digit? radix c)) (some 0)

/-- Whether a name ends in a number. -/
def endsInNumber (name : List Char) : Bool :=
  match (parts name).getLast? with
  | none | some [] => false
  | some part => part.all Char.isDigit || ((part.take 2 = ['0', 'x']) && (part? part).isSome)

/-- The address of four octets that numbers make up: all but the last are octets, and the last covers the rest. -/
def join? : List Nat → Nat → Option Nat
  | [], _ => none
  | [last], covers => if last < Nat.pow 256 covers then some last else none
  | octet :: rest, covers =>
    if octet < 256 then (join? rest (covers - 1)).map (octet * Nat.pow 256 (covers - 1) + ·) else none

/-- Reads a name that ends in a number. -/
def fourOctets? (name : List Char) : Option String := do
  let numbers ← (parts name).mapM part?
  if 4 < numbers.length then none
  let address ← join? numbers 4
  return Text.joinWith "." ((Bytes.bigEndian 4 address).map fun x => toString x)

/-! ### Reading -/

/-- Reads a name. -/
def readName (cs : List Char) : Except HostFault String := do
  let some decoded := Text.Percent.decode? (String.ofList cs) | throw .name
  let name := decoded.toList.filterMap fold?
  if name.isEmpty then throw .empty
  if ! name.all isNameChar then throw .name
  if ! endsInNumber name then return String.ofList name
  match fourOctets? name with
  | some address => return address
  | none => throw .fourOctets

/-- Whether a character can stand in an address of eight groups. -/
def isGroupChar (c : Char) : Bool := (Integer.digit? 16 c).isSome || c == ':' || c == '.'

/-- Reads a host: a name, or an address of eight groups in brackets. -/
def read (cs : List Char) : Except HostFault String :=
  match cs with
  | [] => .error .empty
  | '[' :: rest =>
    match rest.span isGroupChar with
    | (group :: groups, [']']) => .ok (String.ofList ('[' :: (group :: groups).map Text.lowerAscii ++ [']']))
    | _ => .error .eightGroups
  | _ => readName cs

end Host

end GuardianRelay.Http
