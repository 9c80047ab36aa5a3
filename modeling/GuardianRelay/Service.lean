import GuardianRelay.Json.Basic
import GuardianRelay.Store
import GuardianRelay.Text.Integer
import GuardianRelay.Text.Percent

/-!
# The lookup service

The service answers lookups from a store: at the path of a lookup with the attestation, in base 64 and, if the stored
bytes are an attestation, field by field; at `/health` with the number of attestations. Emitters are named by 64
hexadecimal digits, or by the 40 of a contract-model address, with or without a mark.
-/

namespace GuardianRelay.Service

/-- What the service answers. -/
structure Response where
  status : Nat
  /-- The document, if the answer has one. -/
  body : Option Json

/-! ### Documents -/

/-- A signature of an attestation as a document. -/
def signatureJson (signature : GuardianSignature) : Json :=
  Json.ofMembers [("index", Json.ofNat signature.guardian.toNat),
    ("signature", .string (Hex.encodeMarked signature.toBytes.toList))]

/-- An attestation as a document. -/
def attestationJson (a : Attestation) : Json :=
  Json.ofMembers
    [("version", Json.ofNat a.version.toNat), ("guardianSetIndex", Json.ofNat a.guardianSetIndex.toNat),
      ("signatures", .array (a.signatures.map signatureJson)), ("timestamp", Json.ofNat a.timestamp.toNat),
      ("nonce", Json.ofNat a.nonce.toNat), ("emitterChain", Json.ofNat a.emitterChain.toNat),
      ("emitterAddress", .string (Hex.encodeMarked a.emitter.toList)), ("sequence", Json.ofNat a.sequence.toNat),
      ("consistencyLevel", Json.ofNat a.consistencyLevel.toNat), ("payload", .string (Hex.encodeMarked a.payload))]

/-- The answer with an attestation. -/
def found (b : Bytes) : Response where
  status := 200
  body := some (Json.ofMembers
    [("vaaBytes", .string (Base64.encode b)),
      ("vaa", match Attestation.decode b with
        | .ok a => attestationJson a
        | .error _ => .null)])

/-- An answer that gives a reason. -/
def refusal (status : Nat) (code message : String) : Response where
  status := status
  body := some (Json.ofMembers
    [("error", Json.ofMembers [("code", .string code), ("message", .string message)])])

/-- An answer without a document. -/
def bare (status : Nat) : Response := ⟨status, none⟩

/-! ### Requests -/

/-- The emitter that a request names, by all 32 octets or by the 20 of a contract-model address. -/
def emitter? (s : String) : Option Address :=
  match Hex.decode (Hex.dropMarks s) with
  | .ok b => if b.length = 32 ∨ b.length = 20 then some (Address.ofNative b) else none
  | .error _ => none

/-- A number in a request. -/
def number? (bits : Nat) (s : String) : Option Nat := (Integer.parse bits s).toOption

/-- Answers a lookup, from the parts of its path as they stand there. -/
def respondLookup (store : Store) (chain emitter sequence : String) : Response :=
  let parts? : Option (ChainId × String × UInt64) := do
    let chain ← Text.Percent.decode? chain
    let emitter ← Text.Percent.decode? emitter
    let sequence ← Text.Percent.decode? sequence
    return (UInt16.ofNat (← number? 16 chain), emitter, UInt64.ofNat (← number? 64 sequence))
  match parts? with
  | none => bare 400
  | some (chain, text, sequence) =>
    match emitter? text with
    | none => refusal 400 "INVALID_ADDRESS" "Invalid emitter address format"
    | some emitter =>
      match store.lookup ⟨chain, emitter, sequence⟩ with
      | .found b => found b
      | .notFound => refusal 404 "VAA_NOT_FOUND"
        s!"No message found for chain={chain}, emitter={emitter.toHex}, sequence={sequence}"

/-- Answers how the service is. -/
def respondHealth (store : Store) : Response where
  status := 200
  body := some (Json.ofMembers [("status", .string "ok"), ("attestations", Json.ofNat store.size)])

/-- The segments of a path: what stands between its slashes. -/
def segments : List Char → List (List Char)
  | [] => [[]]
  | '/' :: rest => [] :: segments rest
  | c :: rest =>
    match segments rest with
    | segment :: more => (c :: segment) :: more
    | [] => [[c]]

/-- Whether a character may stand in the scheme of an address. -/
def isSchemeChar (c : Char) : Bool := c.isAlphanum || c == '+' || c == '-' || c == '.'

/-- What follows the server in a target that is a whole address. A target that is only a path names no server. -/
def withoutServer (target : List Char) : List Char :=
  match target.span (· != ':') with
  | (scheme, ':' :: '/' :: '/' :: rest) =>
    if scheme.all isSchemeChar then rest.dropWhile fun c => c != '/' && c != '?' && c != '#' else target
  | _ => target

/-- What of a request's target is its path: all before a query or a fragment. -/
def pathOf (target : List Char) : List Char := (withoutServer target).takeWhile fun c => c != '?' && c != '#'

/-- Answers a request. A lookup has three parts, none of them empty. -/
def respond (store : Store) (target : String) : Response :=
  match (segments (pathOf target.toList)).map String.ofList with
  | ["", "health"] => respondHealth store
  | ["", "v1", "signed_vaa", chain, emitter, sequence] =>
    if chain.isEmpty ∨ emitter.isEmpty ∨ sequence.isEmpty then bare 404
    else respondLookup store chain emitter sequence
  | _ => bare 404

end GuardianRelay.Service
