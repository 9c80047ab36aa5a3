/-!
# Malformed bytes

The ways in which the bytes of an attestation or of a payload can be malformed. None of them is ever retried.
-/

namespace GuardianRelay

/-- Why bytes are not an attestation or a payload, or why a value has no encoding. -/
inductive ParseError where
  /-- A field of `needed` bytes starts at `offset`, where only `available` bytes are left. -/
  | truncated (offset needed available : Nat)
  /-- The signature count does not fit its one-byte field. -/
  | tooManySignatures (count : Nat)
  /-- No payload has this type byte. -/
  | unknownPayloadType (type : UInt8)
  /-- A payload of fixed width is followed by more bytes. -/
  | trailingBytes (count : Nat)
  /-- A message is longer than the messenger carries. -/
  | payloadTooLarge (length : Nat)
deriving DecidableEq, Repr

/-- The name of a kind of parse error. -/
def ParseError.kind : ParseError → String
  | .truncated .. => "Truncated"
  | .tooManySignatures _ => "TooManySignatures"
  | .unknownPayloadType _ => "UnknownPayloadType"
  | .trailingBytes _ => "TrailingBytes"
  | .payloadTooLarge _ => "PayloadTooLarge"

/-- The wording of a parse error. -/
def ParseError.message : ParseError → String
  | .truncated offset needed available =>
    s!"truncated: need {needed} bytes at offset {offset}, have {available}"
  | .tooManySignatures count => s!"too many signatures: {count} (max 255)"
  | .unknownPayloadType type => s!"unknown payload type {type.toNat}"
  | .trailingBytes count => s!"{count} trailing bytes after fixed-width payload"
  | .payloadTooLarge length => s!"message payload is {length} bytes (max 1024)"

end GuardianRelay
