import GuardianRelay.Error
import GuardianRelay.Text.Search

/-!
# Numbers and data in a node's answers

Contract-model nodes write numbers and data in hexadecimal after a mark. What they say of a failure is free text, in
which a few phrases are known.
-/

namespace GuardianRelay.Evm

/-- Reads a number of at most 128 bits; no digits at all are zero. -/
def parseQuantity (s : String) : Except RpcFault Nat :=
  match Hex.dropMarksChars s.toList with
  | [] => .ok 0
  | digits => (Integer.parseChars 16 128 digits).mapError (RpcFault.quantity s)

/-- Reads data. -/
def parseData (s : String) : Except RpcFault Bytes :=
  (Hex.decode (Hex.dropMarks s)).mapError RpcFault.data

/-- Whether a node says that a call would revert. -/
def saysReverted (text : String) : Bool := Text.contains "execution reverted" text

/-- What contracts say when an attestation was delivered before. -/
def duplicateRedeemPhrases : List String := ["already consumed", "already completed", "already redeemed"]

/-- Whether a contract says that an attestation was delivered before. -/
def saysDuplicateRedeem (text : String) : Bool :=
  duplicateRedeemPhrases.any fun phrase => Text.contains phrase text

/-- Whether a contract says that an endpoint was registered before. -/
def saysDuplicateRegistration (text : String) : Bool := Text.contains "already registered" text

end GuardianRelay.Evm
