import GuardianRelay.Http.Url
import GuardianRelay.Json.Parser

/-!
# Exchanges with servers

Nodes and lookup services are asked over HTTP: with a document that is posted, or by a path alone. What an exchange
needs of HTTP is here; how it travels is left to the surroundings, where it can also get lost.
-/

namespace GuardianRelay.Http

/-- What a server is asked. -/
inductive Request where
  /-- Posts a document. -/
  | post (url : Url) (document : Json)
  /-- Fetches what is there. -/
  | get (url : Url)

/-- The address of a request. -/
def Request.url : Request → Url
  | post url _ => url
  | get url => url

/-- What a server answers. -/
structure Response where
  status : Nat
  body : String
deriving DecidableEq, Repr

namespace Response

/-- Whether the server did what it was asked. -/
def isSuccess (response : Response) : Bool := 200 ≤ response.status && response.status < 300

/-- The document in an answer, if it has one. -/
def document? (response : Response) : Option Json := Json.parse? response.body

end Response

end GuardianRelay.Http
