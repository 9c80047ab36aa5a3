import GuardianRelay.Json.Basic
import GuardianRelay.Text.Integer

/-!
# Reading JSON text

A text is read as one document with blanks around it and nothing else. Documents may be nested 127 deep. That a text
is no document is all that a caller learns.
-/

namespace GuardianRelay.Json

/-- Without the blanks at the start. -/
def skipBlanks (cs : List Char) : List Char :=
  cs.dropWhile fun c => c == ' ' || c == '\t' || c == '\n' || c == '\r'

/-- The value of four hexadecimal digits, and what follows them. -/
def codeUnit? : List Char → Option (Nat × List Char)
  | a :: b :: c :: d :: rest => do
    let digit := Integer.digit? 16
    return ((((← digit a) * 16 + (← digit b)) * 16 + (← digit c)) * 16 + (← digit d), rest)
  | _ => none

/-- The character that an escape stands for, from what follows the backslash, and what follows the escape. A high
surrogate has to be followed by a low one, and a low one by itself is nothing. -/
def escaped? : List Char → Option (Char × List Char)
  | '"' :: rest => some ('"', rest)
  | '\\' :: rest => some ('\\', rest)
  | '/' :: rest => some ('/', rest)
  | 'b' :: rest => some ('\x08', rest)
  | 'f' :: rest => some ('\x0c', rest)
  | 'n' :: rest => some ('\n', rest)
  | 'r' :: rest => some ('\r', rest)
  | 't' :: rest => some ('\t', rest)
  | 'u' :: rest => do
    let (unit, rest) ← codeUnit? rest
    if unit < 0xd800 ∨ 0xe000 ≤ unit then return (Char.ofNat unit, rest)
    if 0xdc00 ≤ unit then none
    match rest with
    | '\\' :: 'u' :: rest =>
      let (low, rest) ← codeUnit? rest
      if low < 0xdc00 ∨ 0xe000 ≤ low then none
      return (Char.ofNat (0x10000 + (unit - 0xd800) * 0x400 + (low - 0xdc00)), rest)
    | _ => none
  | _ => none

/-- Reads a text after its opening quote. The characters read already are held last first. -/
def text? (fuel : Nat) (read : List Char) (cs : List Char) : Option (String × List Char) :=
  match fuel, cs with
  | _ + 1, '"' :: rest => some (String.ofList read.reverse, rest)
  | fuel + 1, '\\' :: rest =>
    match escaped? rest with
    | some (c, rest) => text? fuel (c :: read) rest
    | none => none
  | fuel + 1, c :: rest => if c.toNat < 32 then none else text? fuel (c :: read) rest
  | _, _ => none

/-- The digits at the start, and what follows them. -/
def digits (cs : List Char) : List Char × List Char := cs.span Char.isDigit

/-- Reads a number. -/
def number? (cs : List Char) : Option (Json × List Char) := do
  let (negative, rest) := match cs with
    | '-' :: rest => (true, rest)
    | _ => (false, cs)
  let (whole, rest) := digits rest
  if whole.isEmpty ∨ (whole.head? = some '0' ∧ 1 < whole.length) then none
  let (fraction, rest) ← match rest with
    | '.' :: rest =>
      let (found, rest) := digits rest
      if found.isEmpty then none else some ('.' :: found, rest)
    | _ => some ([], rest)
  let (exponent, rest) ← match rest with
    | e :: rest =>
      if e = 'e' ∨ e = 'E' then
        let (sign, rest) := match rest with
          | '+' :: rest => (['+'], rest)
          | '-' :: rest => (['-'], rest)
          | _ => ([], rest)
        let (found, rest) := digits rest
        if found.isEmpty then none else some (e :: sign ++ found, rest)
      else some ([], e :: rest)
    | [] => some ([], [])
  let magnitude : Nat := whole.foldl (fun acc c => acc * 10 + (c.toNat - 48)) 0
  if fraction.isEmpty ∧ exponent.isEmpty ∧ ¬ (negative ∧ magnitude = 0) then
    return (integer (if negative then -(magnitude : Int) else magnitude), rest)
  let sign := if negative then ['-'] else []
  return (decimal (String.ofList (sign ++ whole ++ fraction ++ exponent)), rest)

/-- How deep documents may be nested. -/
def maxDepth : Nat := 127

mutual

/-- Reads a document after blanks; `depth` more arrays and objects may be opened. -/
def value? (fuel depth : Nat) (cs : List Char) : Option (Json × List Char) :=
  match fuel with
  | 0 => none
  | fuel + 1 =>
    match skipBlanks cs with
    | 'n' :: 'u' :: 'l' :: 'l' :: rest => some (null, rest)
    | 't' :: 'r' :: 'u' :: 'e' :: rest => some (bool true, rest)
    | 'f' :: 'a' :: 'l' :: 's' :: 'e' :: rest => some (bool false, rest)
    | '"' :: rest => (text? (rest.length + 1) [] rest).map fun (s, rest) => (string s, rest)
    | '[' :: rest =>
      match depth, skipBlanks rest with
      | 0, _ => none
      | _ + 1, ']' :: rest => some (array [], rest)
      | depth + 1, rest => items? fuel depth [] rest
    | '\x7b' :: rest =>
      match depth, skipBlanks rest with
      | 0, _ => none
      | _ + 1, '\x7d' :: rest => some (object [], rest)
      | depth + 1, rest => members? fuel depth [] rest
    | rest => number? rest

/-- Reads the next item of an array and all that follow; those before are held last first. -/
def items? (fuel depth : Nat) (read : List Json) (cs : List Char) : Option (Json × List Char) :=
  match fuel with
  | 0 => none
  | fuel + 1 =>
    match value? fuel depth cs with
    | none => none
    | some (item, rest) =>
      match skipBlanks rest with
      | ',' :: rest => items? fuel depth (item :: read) rest
      | ']' :: rest => some (array (item :: read).reverse, rest)
      | _ => none

/-- Reads the next member of an object and all that follow; those before are held last first. -/
def members? (fuel depth : Nat) (read : List (String × Json)) (cs : List Char) : Option (Json × List Char) :=
  match fuel with
  | 0 => none
  | fuel + 1 =>
    match skipBlanks cs with
    | '"' :: rest =>
      match text? (rest.length + 1) [] rest with
      | none => none
      | some (name, rest) =>
        match skipBlanks rest with
        | ':' :: rest =>
          match value? fuel depth rest with
          | none => none
          | some (value, rest) =>
            match skipBlanks rest with
            | ',' :: rest => members? fuel depth ((name, value) :: read) rest
            | '\x7d' :: rest => some (ofMembers ((name, value) :: read).reverse, rest)
            | _ => none
        | _ => none
    | _ => none

end

/-- The document that a text writes, if it writes one. Each step of the reader consumes a character or is the only
one between two that do, so twice the length of the text is enough fuel. -/
def parse? (s : String) : Option Json :=
  let cs := s.toList
  match value? (2 * cs.length + 2) maxDepth cs with
  | some (document, rest) => if (skipBlanks rest).isEmpty then some document else none
  | none => none

end GuardianRelay.Json
