import GuardianRelay.Attestation
import GuardianRelay.Guardian

/-!
# Verifying an attestation

An attestation stands if it names the guardian set, if a quorum of the set signed, if its guardians ascend strictly,
so that none is counted twice, and if each signature is that of its guardian's key. The set and the quorum are
judged first; after them the first signature that breaks a rule decides.
-/

namespace GuardianRelay.Attestation

/-- Checks signatures that have to come from guardians after `last`. -/
def checkSignatures (recover : Recovery) (keys : List EvmAddress) (digest : Hash256) :
    Option UInt8 → List GuardianSignature → Except SigningFault Unit
  | _, [] => .ok ()
  | last, signature :: rest =>
    if last.any (signature.guardian ≤ ·) then .error .unordered
    else match keys[signature.guardian.toNat]? with
      | none => .error (.unknownGuardian signature.guardian)
      | some key =>
        match recover digest signature.toBytes with
        | .error fault => .error fault
        | .ok signer =>
          if signer = key then checkSignatures recover keys digest (some signature.guardian) rest
          else .error (.wrongGuardian signature.guardian)

/-- Checks the signatures of an attestation, with a way to find signers. -/
def verifyWith (recover : Recovery) (a : Attestation) (set : GuardianSet) : Except SigningFault Unit :=
  if a.guardianSetIndex ≠ set.index then .error (.guardianSet set.index a.guardianSetIndex)
  else if a.signatures.length < set.quorum then .error (.quorum a.signatures.length set.quorum)
  else checkSignatures recover set.keys a.digest none a.signatures

/-- Checks the signatures of an attestation. -/
def verify (a : Attestation) (set : GuardianSet) : Except SigningFault Unit :=
  a.verifyWith Recovery.secp256k1 set

end GuardianRelay.Attestation
