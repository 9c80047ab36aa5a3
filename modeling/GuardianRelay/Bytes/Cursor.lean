import GuardianRelay.Bytes
import GuardianRelay.ParseError

/-!
# Reading fields from a byte string

A `Cursor` stands at an offset of a byte string and sees what is left of it. A `Decoder` reads fields one after
the other; each read first checks that enough bytes are left, so a read either consumes exactly its field or
reports where the input ends and leaves nothing half read. Numbers are read most significant byte first.
-/

namespace GuardianRelay

/-- A position in a byte string. -/
structure Cursor where
  /-- How many bytes have been read. -/
  offset : Nat
  /-- The bytes that have not been read. -/
  rest : Bytes
deriving DecidableEq, Repr

/-- The start of a byte string. -/
def Cursor.start (b : Bytes) : Cursor := ⟨0, b⟩

/-- A reader of fields. -/
abbrev Decoder := StateT Cursor (Except ParseError)

namespace Decoder

/-- How many bytes are left. -/
def remaining : Decoder Nat := fun c => .ok (c.rest.length, c)

/-- Checks that `n` bytes are left, and reads none. -/
def ensure (n : Nat) : Decoder Unit := fun c =>
  if c.rest.length < n then .error (.truncated c.offset n c.rest.length) else .ok ((), c)

/-- Reads a field of `n` bytes. -/
def fixed (n : Nat) : Decoder (FixedBytes n) := fun c =>
  if h : c.rest.length < n then .error (.truncated c.offset n c.rest.length)
  else .ok (⟨c.rest.take n, by simp; omega⟩, ⟨c.offset + n, c.rest.drop n⟩)

/-- Reads `n` bytes. -/
def take (n : Nat) : Decoder Bytes := do return (← fixed n).toList

/-- Reads one byte. -/
def uint8 : Decoder UInt8 := do return UInt8.ofNat (← fixed 1).toNat

/-- Reads a 16-bit number. -/
def uint16 : Decoder UInt16 := do return UInt16.ofNat (← fixed 2).toNat

/-- Reads a 32-bit number. -/
def uint32 : Decoder UInt32 := do return UInt32.ofNat (← fixed 4).toNat

/-- Reads a 64-bit number. -/
def uint64 : Decoder UInt64 := do return UInt64.ofNat (← fixed 8).toNat

/-- Reads all that is left. -/
def rest : Decoder Bytes := fun c => .ok (c.rest, ⟨c.offset + c.rest.length, []⟩)

/-- Reads a value `n` times. -/
def times {α : Type} (d : Decoder α) : Nat → Decoder (List α)
  | 0 => return []
  | n + 1 => do
    let first ← d
    return first :: (← times d n)

/-- Runs a decoder from the start of a byte string and forgets what it left unread. -/
def decode {α : Type} (d : Decoder α) (b : Bytes) : Except ParseError α :=
  (d.run (Cursor.start b)).map Prod.fst

end Decoder

end GuardianRelay
