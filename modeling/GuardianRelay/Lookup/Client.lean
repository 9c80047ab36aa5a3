import GuardianRelay.Client
import GuardianRelay.Lookup

/-!
# Asking lookup services

A service answers a lookup with the attestation in base 64. Every refusal counts as an attestation that is not there
yet.
-/

namespace GuardianRelay.Lookup

/-- The text of an attestation in a service's answer, from an object or from the array of its only field. -/
def attestationText? : Json → Option String
  | .object members => (members.lookup "vaaBytes").bind Json.string?
  | .array [.string text] => some text
  | _ => none

/-- What a service's answer says. -/
def answerOf (response : Http.Response) : Except RpcFault LookupAnswer :=
  if ¬ response.isSuccess then .ok .notFound
  else
    match response.document?.bind attestationText? with
    | none => .error .undecodable
    | some text => ((Base64.decode (Text.trim text)).map .found).mapError RpcFault.attestationText

/-- Looks an attestation up at a service. -/
def fetch (base : String) (key : MessageKey) : Client.Action LookupAnswer := do
  let response ← Client.exchange (url base key) .get
  Program.ofOutcome (Outcome.ofRpc (answerOf response))

end GuardianRelay.Lookup
