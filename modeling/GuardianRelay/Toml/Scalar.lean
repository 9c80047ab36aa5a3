/-!
# Numbers and times in configuration texts

A token that is neither a text nor a list is a truth value, a whole number of 64 bits, a number with a fraction or an
exponent, or a time. Underscores may stand between digits. Of fractions and times nothing is kept but that they are
well formed, because no setting is one.
-/

namespace GuardianRelay.Toml

/-- A value that is written as one token. -/
inductive Scalar where
  | boolean (value : Bool)
  | integer (value : Int)
  /-- A number with a fraction or an exponent, or one that is no number. -/
  | float
  /-- A date, a time of day, or both. -/
  | time
deriving DecidableEq, Repr

/-! ### Digits -/

/-- Whether a character is a digit of a radix of at most sixteen. -/
def isDigit (radix : Nat) (c : Char) : Bool :=
  if '0' ≤ c ∧ c ≤ '9' then c.toNat - 48 < radix
  else radix = 16 && (('a' ≤ c && c ≤ 'f') || ('A' ≤ c && c ≤ 'F'))

/-- The value of a digit. -/
def digitValue (c : Char) : Nat :=
  if c ≤ '9' then c.toNat - 48 else if c ≤ 'F' then c.toNat - 55 else c.toNat - 87

/-- The digits of a token of digits in which single underscores may stand between two of them. -/
def underscored? (radix : Nat) : List Char → Option (List Char)
  | [] => none
  | [c] => if isDigit radix c then some [c] else none
  | c :: '_' :: rest => if isDigit radix c then (underscored? radix rest).map (c :: ·) else none
  | c :: rest => if isDigit radix c then (underscored? radix rest).map (c :: ·) else none

/-- The number that digits write. -/
def valueOf (radix : Nat) (digits : List Char) : Nat := digits.foldl (fun acc c => acc * radix + digitValue c) 0

/-- The digits of a whole number in decimals, which has no leading zero unless it is zero. -/
def plain? (cs : List Char) : Option (List Char) :=
  match underscored? 10 cs with
  | some ('0' :: _ :: _) => none
  | digits => digits

/-- A sign at the start, and what follows it. -/
def sign : List Char → Bool × List Char
  | '-' :: rest => (true, rest)
  | '+' :: rest => (false, rest)
  | cs => (false, cs)

/-! ### Numbers -/

/-- A whole number, if it has 64 bits. -/
def ofInt? (n : Int) : Option Scalar := 
  if Int64.minValue.toInt ≤ n ∧ n ≤ Int64.maxValue.toInt then some (.integer n) else none

/-- Reads a whole number: in decimals after a sign, or without a sign in another radix after its mark. -/
def integer? : List Char → Option Scalar
  | '0' :: 'x' :: rest => (underscored? 16 rest).bind fun digits => ofInt? (valueOf 16 digits)
  | '0' :: 'o' :: rest => (underscored? 8 rest).bind fun digits => ofInt? (valueOf 8 digits)
  | '0' :: 'b' :: rest => (underscored? 2 rest).bind fun digits => ofInt? (valueOf 2 digits)
  | cs =>
    let (negative, rest) := sign cs
    (plain? rest).bind fun digits => ofInt? (if negative then -(valueOf 10 digits : Int) else valueOf 10 digits)

/-- What follows an exponent's mark: a sign and digits. -/
def exponent? (cs : List Char) : Option Int :=
  let (negative, rest) := sign cs
  (underscored? 10 rest).map fun digits => if negative then -(valueOf 10 digits : Int) else valueOf 10 digits

/-- The least number that is rounded to infinity. -/
def overflow : Nat := Nat.pow 2 1024 - Nat.pow 2 970

/-- Whether `digits`, with a point before the last `places` of them, times ten to `exponent` overflows. Numbers that
are far from the limit are told by how many digits they have. -/
def overflows (digits : List Char) (places : Nat) (exponent : Int) : Bool :=
  let significant := digits.dropWhile (· == '0')
  let power := exponent - places
  let magnitude : Int := significant.length + power
  if significant.isEmpty ∨ magnitude < 300 then false
  else if 320 < magnitude then true
  else if 0 ≤ power then overflow ≤ valueOf 10 significant * Nat.pow 10 power.toNat
  else overflow * Nat.pow 10 (-power).toNat ≤ valueOf 10 significant

/-- Reads a number with a fraction or an exponent. A positive one has to be finite. -/
def float? (cs : List Char) : Option Scalar := do
  let (negative, rest) := sign cs
  if rest = ['i', 'n', 'f'] ∨ rest = ['n', 'a', 'n'] then return .float
  let (mantissa, tail) := rest.span fun c => c != 'e' && c != 'E'
  let (whole, fraction) := mantissa.span (· != '.')
  let wholeDigits ← plain? whole
  let fractionDigits ← match fraction with
    | [] => some []
    | _ :: digits => underscored? 10 digits
  let exponent ← match tail with
    | [] => some 0
    | _ :: written => exponent? written
  if fraction.isEmpty ∧ tail.isEmpty then none
  if ! negative && overflows (wholeDigits ++ fractionDigits) fractionDigits.length exponent then none
  return .float

/-! ### Times -/

/-- A number of exactly `width` digits at the start, and what follows it. -/
def fixed? (width : Nat) (cs : List Char) : Option (Nat × List Char) :=
  let digits := cs.take width
  if digits.length = width ∧ digits.all (isDigit 10) then some (valueOf 10 digits, cs.drop width) else none

/-- What follows a character at the start. -/
def after? (c : Char) : List Char → Option (List Char)
  | d :: rest => if c = d then some rest else none
  | [] => none

/-- How many days a month has. -/
def monthDays (year month : Nat) : Nat :=
  if month = 2 then (if year % 4 = 0 ∧ (year % 100 ≠ 0 ∨ year % 400 = 0) then 29 else 28)
  else if month = 4 ∨ month = 6 ∨ month = 9 ∨ month = 11 then 30
  else 31

/-- What follows a date. -/
def afterDate? (cs : List Char) : Option (List Char) := do
  let (year, rest) ← fixed? 4 cs
  let (month, rest) ← fixed? 2 (← after? '-' rest)
  let (day, rest) ← fixed? 2 (← after? '-' rest)
  if month = 0 ∨ 12 < month ∨ day = 0 ∨ monthDays year month < day then none
  return rest

/-- What follows hours and minutes. -/
def afterMinutes? (cs : List Char) : Option (List Char) := do
  let (hour, rest) ← fixed? 2 cs
  let (minute, rest) ← fixed? 2 (← after? ':' rest)
  if 23 < hour ∨ 59 < minute then none
  return rest

/-- What follows a time of day, whose seconds may have a fraction. -/
def afterClock? (cs : List Char) : Option (List Char) := do
  let (second, rest) ← fixed? 2 (← after? ':' (← afterMinutes? cs))
  if 60 < second then none
  match rest with
  | '.' :: rest =>
    let (digits, rest) := rest.span (isDigit 10)
    if digits.isEmpty then none
    return rest
  | rest => return rest

/-- Whether what follows a date and a time of day is nothing or a distance from the prime meridian's time. -/
def isOffset : List Char → Bool
  | [] => true
  | ['Z'] => true
  | ['z'] => true
  | '+' :: rest => afterMinutes? rest == some []
  | '-' :: rest => afterMinutes? rest == some []
  | _ => false

/-- Reads a date, a time of day, or both with `T` or a space between them. -/
def time? (cs : List Char) : Option Scalar :=
  match afterDate? cs with
  | some [] => some .time
  | some (c :: rest) =>
    if c = 'T' ∨ c = 't' ∨ c = ' ' then
      match afterClock? rest with
      | some offset => if isOffset offset then some .time else none
      | none => none
    else none
  | none => if afterClock? cs == some [] then some .time else none

/-! ### Tokens -/

/-- The value of a token. -/
def scalar? (cs : List Char) : Option Scalar :=
  if cs = ['t', 'r', 'u', 'e'] then some (.boolean true)
  else if cs = ['f', 'a', 'l', 's', 'e'] then some (.boolean false)
  else ((integer? cs).orElse fun _ => time? cs).orElse fun _ => float? cs

/-- Whether a character can be part of a token. -/
def isTokenChar (c : Char) : Bool :=
  c.isAlphanum || c == '_' || c == '+' || c == '-' || c == '.' || c == ':'

/-- The token at the start, and what follows it. A space belongs to a token where it stands between a date and a time
of day. -/
def token (cs : List Char) : List Char × List Char :=
  let (first, rest) := cs.span isTokenChar
  match afterDate? first, rest with
  | some [], ' ' :: d :: more =>
    if isDigit 10 d then
      let (second, rest) := (d :: more).span isTokenChar
      (first ++ ' ' :: second, rest)
    else (first, rest)
  | _, _ => (first, rest)

end GuardianRelay.Toml
