import GuardianRelay.Json.Parser
import GuardianRelay.Signer

/-!
# Keypair files

A keypair of an account-model chain is kept in a file as a JSON array of its bytes.
-/

namespace GuardianRelay.Ed25519Key

/-- Reads a keypair from the text of its file. -/
def ofText (text : String) : Except SigningFault Ed25519Key :=
  match (Json.parse? text).bind Json.array? |>.bind (·.mapM (Json.natural? 8)) with
  | none => .error .keypairText
  | some octets => ofKeypair (octets.map UInt8.ofNat)

end GuardianRelay.Ed25519Key
