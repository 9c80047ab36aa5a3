import GuardianRelay.Attestation
import GuardianRelay.Lookup

/-!
# Stores of attestations

A store keeps signed attestations by the messages that they are of; what is stored last for a message counts. Bytes
may also be stored as they are, without being an attestation.
-/

namespace GuardianRelay

/-- Attestations by their messages. -/
structure Store where
  /-- What is stored, each message once. -/
  entries : List (MessageKey × Bytes)
deriving DecidableEq

namespace Store

/-- A store that holds nothing. -/
def empty : Store := ⟨[]⟩

/-- What is stored for a message. -/
def get? (store : Store) (key : MessageKey) : Option Bytes := store.entries.lookup key

/-- Stores bytes for a message, in the place of any that were stored for it before. -/
def insert (store : Store) (key : MessageKey) (b : Bytes) : Store :=
  ⟨(key, b) :: store.entries.filter fun entry => entry.1 ≠ key⟩

/-- How many messages something is stored for. -/
def size (store : Store) : Nat := store.entries.length

/-- Whether nothing is stored. -/
def isEmpty (store : Store) : Bool := store.entries.isEmpty

/-- What identifies the message of an attestation. -/
def keyOf (a : Attestation) : MessageKey := ⟨a.emitterChain, a.emitter, a.sequence⟩

/-- Stores an attestation in its written form, if it has one. -/
def insertAttestation (store : Store) (a : Attestation) : Except ParseError Store := do
  return store.insert (keyOf a) (← a.encode)

/-- Looks an attestation up. -/
def lookup (store : Store) (key : MessageKey) : LookupAnswer :=
  match store.get? key with
  | some b => .found b
  | none => .notFound

end Store

end GuardianRelay
