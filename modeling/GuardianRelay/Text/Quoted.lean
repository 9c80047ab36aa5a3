/-!
# Quoted characters and texts

How a message shows a character or a text that it quotes: between quotes, with escapes for what a terminal
would not show. A quoted character escapes the single quote, a quoted text the double one.
-/

namespace GuardianRelay.Text

/-- Ranges of characters that a terminal does not show by themselves: controls, separators other than the
space, formatting marks, combining marks, surrogates and private codes. -/
def hiddenRanges : List (Nat × Nat) :=
  [(0x0, 0x1f), (0x7f, 0xa0), (0xad, 0xad), (0x300, 0x36f), (0x600, 0x605), (0x61c, 0x61c), (0x6dd, 0x6dd),
   (0x70f, 0x70f), (0x1680, 0x1680), (0x180b, 0x180f), (0x2000, 0x200f), (0x2028, 0x202f), (0x205f, 0x206f),
   (0x20d0, 0x20f0), (0x3000, 0x3000), (0xd800, 0xf8ff), (0xfe00, 0xfe0f), (0xfeff, 0xfeff), (0xfff0, 0xfffb),
   (0xe0000, 0x10ffff)]

/-- Whether a character is shown as it is. -/
def isShown (c : Char) : Bool :=
  hiddenRanges.all fun (low, high) => c.toNat < low || high < c.toNat

/-- The lowercase hexadecimal digits of a number, without leading zeros. -/
def hexDigits (n : Nat) : String := String.ofList (Nat.toDigits 16 n)

/-- A character as it stands between quotes that are written `quote`. -/
def escape (quote c : Char) : String :=
  if c = quote ∨ c = '\\' then String.ofList ['\\', c]
  else if c = '\t' then "\\t"
  else if c = '\r' then "\\r"
  else if c = '\n' then "\\n"
  else if c.toNat = 0 then "\\0"
  else if isShown c then String.singleton c
  else "\\u\x7b" ++ hexDigits c.toNat ++ "\x7d"

/-- A character between single quotes. -/
def quoteChar (c : Char) : String := "\x27" ++ escape '\x27' c ++ "\x27"

/-- A text between double quotes. -/
def quoteText (s : String) : String :=
  "\"" ++ String.join (s.toList.map (escape '\x22')) ++ "\""

end GuardianRelay.Text
