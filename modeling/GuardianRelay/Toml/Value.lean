import GuardianRelay.Toml.Scalar

/-!
# Values in configuration texts

Texts, keys, lists and inline tables, and how they are read. A text stands between double quotes, with escapes, or
between single ones, as it is; tripled quotes let it span lines. An inline table may give its keys in parts, with
points between them; a table that arises so may be given more keys, another may not.
-/

namespace GuardianRelay.Toml

/-- A value. -/
inductive Value where
  | string (value : String)
  | scalar (value : Scalar)
  | list (items : List Value)
  | table (entries : List (String × Value))
deriving Inhabited

namespace Value

/-- The entry of a table with a key. -/
def get? (key : String) : Value → Option Value
  | table entries => entries.lookup key
  | _ => none

end Value

/-! ### Characters -/

/-- A space or a tab. -/
def isBlank (c : Char) : Bool := c == ' ' || c == '\t'

/-- What follows the blanks at the start. -/
def skipBlanks (cs : List Char) : List Char := cs.dropWhile isBlank

/-- What follows the end of a line at the start. -/
def afterNewline? : List Char → Option (List Char)
  | '\n' :: rest => some rest
  | '\r' :: '\n' :: rest => some rest
  | _ => none

/-- Whether a character may stand in a comment, or as it is in a text: tabs may, other controls may not. -/
def isPrintable (c : Char) : Bool := c == '\t' || (32 ≤ c.toNat && c.toNat != 127)

/-- What follows a comment at the start, if there is one, with the end of its line still to come. -/
def skipComment : List Char → List Char
  | '#' :: rest => rest.dropWhile isPrintable
  | cs => cs

/-- What follows blanks, comments and ends of lines at the start. Each step takes a line. -/
def skipLines : Nat → List Char → List Char
  | 0, cs => cs
  | fuel + 1, cs =>
    match afterNewline? (skipComment (skipBlanks cs)) with
    | some rest => skipLines fuel rest
    | none => skipBlanks cs

/-! ### Texts -/

/-- The character whose code is written in hexadecimal digits, if it is one. -/
def charOf? (digits : List Char) : Option Char :=
  if digits.all (isDigit 16) then
    let code := valueOf 16 digits
    if code.isValidChar then some (Char.ofNat code) else none
  else none

/-- The character that an escape stands for, from what follows the backslash, and what follows the escape. -/
def escaped? : List Char → Option (Char × List Char)
  | 'b' :: rest => some ('\x08', rest)
  | 't' :: rest => some ('\t', rest)
  | 'n' :: rest => some ('\n', rest)
  | 'f' :: rest => some ('\x0c', rest)
  | 'r' :: rest => some ('\r', rest)
  | '"' :: rest => some ('"', rest)
  | '\\' :: rest => some ('\\', rest)
  | 'u' :: rest => if rest.length < 4 then none else (charOf? (rest.take 4)).map fun c => (c, rest.drop 4)
  | 'U' :: rest => if rest.length < 8 then none else (charOf? (rest.take 8)).map fun c => (c, rest.drop 8)
  | _ => none

/-- Reads the rest of a text of one line after its opening double quote. The characters read already are held last
first. -/
def line? (fuel : Nat) (read : List Char) (cs : List Char) : Option (String × List Char) :=
  match fuel, cs with
  | _ + 1, '"' :: rest => some (String.ofList read.reverse, rest)
  | fuel + 1, '\\' :: rest =>
    match escaped? rest with
    | some (c, rest) => line? fuel (c :: read) rest
    | none => none
  | fuel + 1, c :: rest => if isPrintable c then line? fuel (c :: read) rest else none
  | _, _ => none

/-- Reads the rest of a text of one line after its opening single quote. -/
def literal? (cs : List Char) : Option (String × List Char) :=
  match cs.span fun c => c != '\x27' with
  | (text, _ :: rest) => if text.all isPrintable then some (String.ofList text, rest) else none
  | _ => none

/-- Quotes at the start: how many of them belong to a text that may span lines, and what follows the end of the text,
if it ends there. It ends at three quotes, before which two more may stand. -/
def closing (quote : Char) (cs : List Char) : Nat × Option (List Char) :=
  let count := (cs.takeWhile (· == quote)).length
  if count < 3 then (count, none)
  else
    let inside := min (count - 3) 2
    (inside, some (cs.drop (inside + 3)))

/-- What follows a backslash at the end of a line: the text goes on at the next character that is not blank. -/
def afterFold? (cs : List Char) : Option (List Char) :=
  (afterNewline? (skipBlanks cs)).map fun rest =>
    rest.dropWhile fun c => isBlank c || c == '\n' || c == '\r'

/-- Whether carriage returns stand only before ends of lines. -/
def returnsPaired : List Char → Bool
  | '\r' :: '\n' :: rest => returnsPaired rest
  | '\r' :: _ => false
  | _ :: rest => returnsPaired rest
  | [] => true

/-- Reads the rest of a text that may span lines, between tripled double quotes. -/
def lines? (fuel : Nat) (read : List Char) (cs : List Char) : Option (String × List Char) :=
  match fuel with
  | 0 => none
  | fuel + 1 =>
    match cs with
    | '"' :: _ =>
      match closing '"' cs with
      | (inside, some rest) => some (String.ofList (read.reverse ++ List.replicate inside '"'), rest)
      | (count, none) => lines? fuel (List.replicate count '"' ++ read) (cs.drop count)
    | '\\' :: rest =>
      match afterFold? rest with
      | some after =>
        if returnsPaired (rest.take (rest.length - after.length)) then lines? fuel read after else none
      | none =>
        match escaped? rest with
        | some (c, rest) => lines? fuel (c :: read) rest
        | none => none
    | c :: rest =>
      match afterNewline? cs with
      | some rest => lines? fuel ('\n' :: read) rest
      | none => if isPrintable c then lines? fuel (c :: read) rest else none
    | [] => none

/-- Reads the rest of a text that may span lines, between tripled single quotes. -/
def literalLines? (fuel : Nat) (read : List Char) (cs : List Char) : Option (String × List Char) :=
  match fuel with
  | 0 => none
  | fuel + 1 =>
    match cs with
    | '\x27' :: _ =>
      match closing '\x27' cs with
      | (inside, some rest) => some (String.ofList (read.reverse ++ List.replicate inside '\x27'), rest)
      | (count, none) => literalLines? fuel (List.replicate count '\x27' ++ read) (cs.drop count)
    | c :: rest =>
      match afterNewline? cs with
      | some rest => literalLines? fuel ('\n' :: read) rest
      | none => if isPrintable c then literalLines? fuel (c :: read) rest else none
    | [] => none

/-- The end of a line right after tripled quotes does not belong to the text. -/
def dropFirstNewline (cs : List Char) : List Char := (afterNewline? cs).getD cs

/-- Reads a text that starts with a quote. -/
def text? (cs : List Char) : Option (String × List Char) :=
  match cs with
  | '"' :: '"' :: '"' :: rest => lines? (rest.length + 1) [] (dropFirstNewline rest)
  | '"' :: rest => line? (rest.length + 1) [] rest
  | '\x27' :: '\x27' :: '\x27' :: rest => literalLines? (rest.length + 1) [] (dropFirstNewline rest)
  | '\x27' :: rest => literal? rest
  | _ => none

/-! ### Keys -/

/-- Whether a character may stand in a key without quotes. -/
def isKeyChar (c : Char) : Bool := c.isAlphanum || c == '_' || c == '-'

/-- Reads a part of a key. -/
def keyPart? (cs : List Char) : Option (String × List Char) :=
  match cs with
  | '"' :: rest => line? (rest.length + 1) [] rest
  | '\x27' :: rest => literal? rest
  | cs =>
    match cs.span isKeyChar with
    | ([], _) => none
    | (part, rest) => some (String.ofList part, rest)

/-- How deep keys, lists and tables may be nested. -/
def maxDepth : Nat := 79

/-- Reads a key of at most so many parts, with points between them and blanks around each; the first part and the
rest of them are held apart. -/
def key? : Nat → List Char → Option ((String × List String) × List Char)
  | 0, _ => none
  | parts + 1, cs => do
    let (part, rest) ← keyPart? (skipBlanks cs)
    match skipBlanks rest with
    | '.' :: rest =>
      let ((second, more), rest) ← key? parts rest
      return ((part, second :: more), rest)
    | rest => return ((part, []), rest)

/-! ### Inline tables -/

/-- An inline table while it is read: a value, or a table that arose from the parts of a key. -/
inductive Inline where
  | value (value : Value)
  | table (entries : List (String × Inline))

mutual

/-- The value of a part of an inline table. -/
def Inline.toValue : Inline → Value
  | .value v => v
  | .table entries => .table (Inline.toEntries entries)

/-- The entries of a part of an inline table. -/
def Inline.toEntries : List (String × Inline) → List (String × Value)
  | [] => []
  | (key, entry) :: rest => (key, entry.toValue) :: Inline.toEntries rest

end

/-- Puts an entry in the place of the one with its key, or at the end. -/
def putEntry {α : Type} (key : String) (value : α) : List (String × α) → List (String × α)
  | [] => [(key, value)]
  | (other, old) :: rest => if key = other then (key, value) :: rest else (other, old) :: putEntry key value rest

/-- Adds a value to an inline table, at a key that has none yet. -/
def Inline.add? (value : Value) : String → List String → List (String × Inline) → Option (List (String × Inline))
  | key, [], entries =>
    match entries.lookup key with
    | none => some (entries ++ [(key, .value value)])
    | some _ => none
  | key, second :: more, entries =>
    match entries.lookup key with
    | none => (Inline.add? value second more []).map fun sub => entries ++ [(key, .table sub)]
    | some (.table sub) => (Inline.add? value second more sub).map fun sub => putEntry key (.table sub) entries
    | some (.value _) => none

/-! ### Values -/

mutual

/-- Reads a value; `depth` more lists and tables may be opened. -/
def value? (fuel depth : Nat) (cs : List Char) : Option (Value × List Char) :=
  match fuel with
  | 0 => none
  | fuel + 1 =>
    match cs with
    | '"' :: _ => (text? cs).map fun (s, rest) => (.string s, rest)
    | '\x27' :: _ => (text? cs).map fun (s, rest) => (.string s, rest)
    | '[' :: rest =>
      match depth with
      | 0 => none
      | depth + 1 => items? fuel depth [] rest
    | '\x7b' :: rest =>
      match depth, skipBlanks rest with
      | 0, _ => none
      | _ + 1, '\x7d' :: rest => some (.table [], rest)
      | depth + 1, rest => entries? fuel depth [] rest
    | cs =>
      let (found, rest) := token cs
      (scalar? found).map fun s => (.scalar s, rest)

/-- Reads the next item of a list, or its end, and all that follows; the items before are held last first. -/
def items? (fuel depth : Nat) (read : List Value) (cs : List Char) : Option (Value × List Char) :=
  match fuel with
  | 0 => none
  | fuel + 1 =>
    match skipLines cs.length cs with
    | ']' :: rest => some (.list read.reverse, rest)
    | cs =>
      match value? fuel depth cs with
      | none => none
      | some (item, rest) =>
        match skipLines rest.length rest with
        | ',' :: rest => items? fuel depth (item :: read) rest
        | ']' :: rest => some (.list (item :: read).reverse, rest)
        | _ => none

/-- Reads the next entry of an inline table and all that follow. -/
def entries? (fuel depth : Nat) (read : List (String × Inline)) (cs : List Char) : Option (Value × List Char) :=
  match fuel with
  | 0 => none
  | fuel + 1 =>
    match key? maxDepth cs with
    | some ((first, more), '=' :: rest) =>
      match value? fuel depth (skipBlanks rest) with
      | none => none
      | some (value, rest) =>
        match Inline.add? value first more read, skipBlanks rest with
        | some read, ',' :: rest => entries? fuel depth read rest
        | some read, '\x7d' :: rest => some (.table (Inline.toEntries read), rest)
        | _, _ => none
    | _ => none

end

end GuardianRelay.Toml
