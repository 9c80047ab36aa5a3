import GuardianRelay.Text.Hex

/-!
# Percent escapes

In a path an octet may be written as a percent sign and two hexadecimal digits. A percent sign that no two digits
follow stands for itself. Characters outside ASCII are always written that way, octet by octet.
-/

namespace GuardianRelay.Text.Percent

/-- The octets that an escaped string stands for. -/
def decodeOctets : Bytes → Bytes
  | 37 :: high :: low :: rest =>
    match Hex.value? high, Hex.value? low with
    | some h, some l => UInt8.ofNat (16 * h + l) :: decodeOctets rest
    | _, _ => 37 :: decodeOctets (high :: low :: rest)
  | x :: rest => x :: decodeOctets rest
  | [] => []

/-- The text that an escaped text stands for, if what it stands for is text. -/
def decode? (s : String) : Option String := Bytes.toText? (decodeOctets (Bytes.ofText s))

/-- A character as it stands in an escaped text: as it is, or as the escapes of its octets. -/
def escapeChar (keeps : Char → Bool) (c : Char) : List Char :=
  if keeps c then [c]
  else (Bytes.ofText (String.singleton c)).flatMap fun x =>
    '%' :: ([x.toNat / 16, x.toNat % 16].map fun n => (Hex.digit n).toUpper)

/-- An escaped text in which some characters stand for themselves. -/
def encode (keeps : Char → Bool) (cs : List Char) : String := String.ofList (cs.flatMap (escapeChar keeps))

/-- Whether a character is one of ASCII that is shown. -/
def isGraphic (c : Char) : Bool := 0x21 ≤ c.toNat && c.toNat ≤ 0x7e

/-- Whether a character stands for itself where none of some others does. -/
def keepsAllBut (others : String) (c : Char) : Bool := isGraphic c && ! others.toList.contains c

end GuardianRelay.Text.Percent
