import GuardianRelay.Attestation
import GuardianRelay.Derivation.Account
import GuardianRelay.Svm.Account
import GuardianRelay.Transaction

/-!
# The core bridge

The program that publishes messages and that holds attestations which were posted to it. Posting writes the body of
an attestation into an account that is derived from the hash of that body.
-/

namespace GuardianRelay.Svm

/-- The core bridge's accounts. -/
structure CoreBridge where
  program : Address
  account : Address
  feeCollector : Address
deriving DecidableEq

/-- A byte string behind its length in four bytes, least significant first. -/
def counted (b : Bytes) : Bytes := Bytes.littleEndian 4 b.length ++ b

namespace CoreBridge

/-- The accounts of a core bridge. -/
def derive (program : Address) : Except DeriveError CoreBridge := do
  return { program, account := ← ProgramAccount.coreBridge.address program,
           feeCollector := ← ProgramAccount.feeCollector.address program }

/-- Where an attestation is posted. -/
def posted (core : CoreBridge) (a : Attestation) : Except DeriveError Address :=
  (ProgramAccount.postedAttestation a.messageHash).address core.program

/-- What posting an attestation says: the number of the instruction, and the fields of the attestation without its
signatures, numbers least significant byte first. -/
def postData (a : Attestation) : Bytes :=
  [2, a.version] ++ Bytes.littleEndian 4 a.guardianSetIndex.toNat ++ Bytes.littleEndian 4 a.timestamp.toNat
    ++ Bytes.littleEndian 4 a.nonce.toNat ++ Bytes.littleEndian 2 a.emitterChain.toNat ++ a.emitter.toList
    ++ Bytes.littleEndian 8 a.sequence.toNat ++ [a.consistencyLevel] ++ counted a.payload

/-- Posts an attestation. -/
def post (core : CoreBridge) (chain : ChainId) (payer : Address) (a : Attestation) :
    Except DeriveError UnsignedTransaction := do
  let guardianSet ← (ProgramAccount.guardianSet a.guardianSetIndex).address core.program
  return .instruction chain core.program (postData a)
    [.readonly guardianSet, .readonly core.account, .writable (← core.posted a), .signer payer,
      .readonly clockAccount, .readonly rentAccount, .readonly systemProgram]

end CoreBridge

end GuardianRelay.Svm
