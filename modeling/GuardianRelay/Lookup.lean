import GuardianRelay.Error
import GuardianRelay.Text.Search

/-!
# Looking attestations up

An attestation is looked up by the chain, the emitter and the sequence of its message. Services answer lookups at a
path under their base address, with the attestation in base 64 or with a refusal.
-/

namespace GuardianRelay

/-- What identifies a message in the guardian network. -/
structure MessageKey where
  chain : ChainId
  emitter : Address
  sequence : UInt64
deriving DecidableEq

/-- What a lookup gives, if it does not fail. -/
inductive LookupAnswer where
  /-- The bytes of the attestation, which may still be malformed. -/
  | found (b : Bytes)
  /-- There is no attestation yet. -/
  | notFound
deriving DecidableEq

namespace Lookup

/-- The path of a lookup. -/
def path (key : MessageKey) : String :=
  s!"/v1/signed_vaa/{key.chain}/{key.emitter.toHex}/{key.sequence}"

/-- The address of a lookup at a service; slashes at the end of the base address do not count. -/
def url (base : String) (key : MessageKey) : String := Text.dropEndSlashes base ++ path key

end Lookup

end GuardianRelay
