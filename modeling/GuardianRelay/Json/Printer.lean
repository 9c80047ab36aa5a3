import GuardianRelay.Json.Basic

/-!
# Compact JSON text

Documents are written without blanks, with the shortest escapes: only the quote, the backslash and control characters
are escaped.
-/

namespace GuardianRelay.Json

/-- The two hexadecimal digits of a control character. -/
def controlDigits (c : Char) : List Char :=
  [Nat.digitChar (c.toNat / 16), Nat.digitChar (c.toNat % 16)]

/-- A character of a text as it stands between quotes. -/
def escapeChar (c : Char) : List Char :=
  if c = '"' then ['\\', '"']
  else if c = '\\' then ['\\', '\\']
  else if c = '\x08' then ['\\', 'b']
  else if c = '\x0c' then ['\\', 'f']
  else if c = '\n' then ['\\', 'n']
  else if c = '\r' then ['\\', 'r']
  else if c = '\t' then ['\\', 't']
  else if c.toNat < 32 then ['\\', 'u', '0', '0'] ++ controlDigits c
  else [c]

/-- A text between quotes. -/
def quote (s : String) : String := String.ofList ('"' :: s.toList.flatMap escapeChar ++ ['"'])

mutual

/-- The compact text of a document. -/
def compress : Json → String
  | null => "null"
  | bool value => if value then "true" else "false"
  | integer value => toString value
  | decimal text => text
  | string value => quote value
  | array items => "[" ++ String.intercalate "," (compressItems items) ++ "]"
  | object members => "\x7b" ++ String.intercalate "," (compressMembers members) ++ "\x7d"

/-- The texts of the items of an array. -/
def compressItems : List Json → List String
  | [] => []
  | item :: rest => compress item :: compressItems rest

/-- The texts of the members of an object. -/
def compressMembers : List (String × Json) → List String
  | [] => []
  | (name, value) :: rest => (quote name ++ ":" ++ compress value) :: compressMembers rest

end

end GuardianRelay.Json
