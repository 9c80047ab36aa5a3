/-!
# Searching and trimming texts

What a text starts with, what it contains, where it is split, and the blanks at its ends. Blanks are the
characters that Unicode calls white space.
-/

namespace GuardianRelay.Text

/-- What follows `mark` in a list of characters that starts with it. -/
def afterChars? : List Char → List Char → Option (List Char)
  | [], cs => some cs
  | _ :: _, [] => none
  | m :: mark, c :: cs => if m = c then afterChars? mark cs else none

/-- What follows `mark` in a text that starts with it. -/
def after? (mark s : String) : Option String := (afterChars? mark.toList s.toList).map String.ofList

/-- Whether `part` occurs in a list of characters. -/
def containsChars (part : List Char) : List Char → Bool
  | [] => part.isEmpty
  | c :: cs => (afterChars? part (c :: cs)).isSome || containsChars part cs

/-- Whether `part` occurs in a text. -/
def contains (part s : String) : Bool := containsChars part.toList s.toList

/-- The pieces of a text between the occurrences of a comma and a space. -/
def splitCommaChars : List Char → List (List Char)
  | [] => [[]]
  | ',' :: ' ' :: cs => [] :: splitCommaChars cs
  | c :: cs =>
    match splitCommaChars cs with
    | piece :: pieces => (c :: piece) :: pieces
    | [] => [[c]]

/-- The pieces of a text between the occurrences of `", "`. -/
def splitComma (s : String) : List String := (splitCommaChars s.toList).map String.ofList

/-- Whether a character is white space. -/
def isBlank (c : Char) : Bool :=
  let n := c.toNat
  (9 ≤ n && n ≤ 13) || n == 0x20 || n == 0x85 || n == 0xa0 || n == 0x1680 || (0x2000 ≤ n && n ≤ 0x200a)
    || n == 0x2028 || n == 0x2029 || n == 0x202f || n == 0x205f || n == 0x3000

/-- A list of characters without the blanks at its start. -/
def trimStartChars (cs : List Char) : List Char := cs.dropWhile isBlank

/-- A list of characters without the blanks at its end. -/
def trimEndChars (cs : List Char) : List Char := (cs.reverse.dropWhile isBlank).reverse

/-- A text without the blanks at its end. -/
def trimEnd (s : String) : String := String.ofList (trimEndChars s.toList)

/-- A text without the blanks at its ends. -/
def trim (s : String) : String := String.ofList (trimEndChars (trimStartChars s.toList))

/-- A text without the slashes at its end. -/
def dropEndSlashes (s : String) : String :=
  String.ofList ((s.toList.reverse.dropWhile (· == '/')).reverse)

/-- An ASCII letter in lowercase; every other character as it is. -/
def lowerAscii (c : Char) : Char := if 'A' ≤ c ∧ c ≤ 'Z' then Char.ofNat (c.toNat + 32) else c

/-- Whether two texts differ at most in the case of ASCII letters. -/
def eqIgnoringCase (s t : String) : Bool := s.toList.map lowerAscii == t.toList.map lowerAscii

/-- Every element, each pair of neighbours with `separator` between them. -/
def joinWith (separator : String) (parts : List String) : String := String.intercalate separator parts

end GuardianRelay.Text
