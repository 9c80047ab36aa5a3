/-!
# Unsigned integers as text

A number is one or more digits of a radix, after at most one plus sign. It has to fit a given number of bits;
the digits are judged from the left, so of a bad digit and an overflow the one met first is reported.
-/

namespace GuardianRelay.Integer

/-- Why a text is not an integer of the wanted width. -/
inductive Fault where
  /-- There is nothing to read. -/
  | empty
  /-- A character is no digit of the radix. -/
  | invalidDigit
  /-- The number does not fit. -/
  | tooLarge
deriving DecidableEq, Repr

/-- The wording of a fault. -/
def Fault.message : Fault → String
  | .empty => "cannot parse integer from empty string"
  | .invalidDigit => "invalid digit found in string"
  | .tooLarge => "number too large to fit in target type"

/-- The value of a character as a digit of a radix of at most sixteen. -/
def digit? (radix : Nat) (c : Char) : Option Nat :=
  let v? :=
    if '0' ≤ c ∧ c ≤ '9' then some (c.toNat - 48)
    else if 'a' ≤ c ∧ c ≤ 'f' then some (c.toNat - 87)
    else if 'A' ≤ c ∧ c ≤ 'F' then some (c.toNat - 55)
    else none
  v?.filter (· < radix)

/-- Reads digits after those that made `acc`; every number has to stay below `bound`. -/
def digits (radix bound acc : Nat) : List Char → Except Fault Nat
  | [] => .ok acc
  | c :: rest =>
    match digit? radix c with
    | none => .error .invalidDigit
    | some v => if bound ≤ acc * radix + v then .error .tooLarge else digits radix bound (acc * radix + v) rest

/-- Reads an unsigned number of at most `bits` bits. -/
def parseChars (radix bits : Nat) : List Char → Except Fault Nat
  | [] => .error .empty
  | ['+'] => .error .invalidDigit
  | '+' :: rest => digits radix (Nat.pow 2 bits) 0 rest
  | cs => digits radix (Nat.pow 2 bits) 0 cs

/-- Reads an unsigned decimal number of at most `bits` bits. -/
def parse (bits : Nat) (s : String) : Except Fault Nat := parseChars 10 bits s.toList

end GuardianRelay.Integer
