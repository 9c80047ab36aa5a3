import GuardianRelay.Bytes
import GuardianRelay.Http
import GuardianRelay.Json.Printer
import GuardianRelay.Text.Base64

/-!
# Exchanges as octets

How requests and responses stand on a connection that carries one of each. A message is a head, which ends with an
empty line, and a body. The body of a response has the length that the head tells, or comes in chunks, or goes on to
the end of the connection.
-/

namespace GuardianRelay.Http

/-- The end of a line. -/
def lineEnd : String := "\r\n"

/-- A head from its lines. -/
def headOf (lines : List String) : Bytes :=
  Bytes.ofText (String.join (lines.map (· ++ lineEnd)) ++ lineEnd)

/-- The head and the body of a message, if its head has an end. -/
def splitHead? : Bytes → Option (Bytes × Bytes)
  | 13 :: 10 :: 13 :: 10 :: body => some ([], body)
  | x :: rest => (splitHead? rest).map fun (head, body) => (x :: head, body)
  | [] => none

/-- The lines of a head. -/
def lines (head : Bytes) : List String :=
  ((Bytes.toText? head).getD "").splitOn lineEnd

/-- The value of a field of a head; names of fields do not depend on case. -/
def field? (fields : List String) (name : String) : Option String :=
  fields.findSome? fun line =>
    match line.toList.span (· != ':') with
    | (found, ':' :: value) =>
      if Text.eqIgnoringCase (String.ofList found) name then some (Text.trim (String.ofList value)) else none
    | _ => none

namespace Request

/-- The line that tells a server who asks, if an address tells it. -/
def credentials (url : Url) : List String :=
  if url.user.isEmpty then []
  else
    let user := if url.user.toList.contains ':' then url.user else url.user ++ ":"
    ["authorization: Basic " ++ Base64.encode (Text.Percent.decodeOctets (Bytes.ofText user))]

/-- The octets of a request. -/
def encode (request : Request) : Bytes :=
  let server := request.url.host.getD "" ++ request.url.tcpPort.elim "" fun n => s!":{n}"
  let common := [s!"host: {server}", "accept: */*", "connection: close"] ++ credentials request.url
  match request with
  | get url => headOf (s!"GET {url.target} HTTP/1.1" :: common)
  | post url document =>
    let body := Bytes.ofText document.compress
    headOf (s!"POST {url.target} HTTP/1.1" :: common
      ++ ["content-type: application/json", s!"content-length: {body.length}"]) ++ body

/-- The method and the target in the first line of a request. -/
def startLine? (head : Bytes) : Option (String × String) :=
  match (lines head).head?.map fun line => line.splitOn " " with
  | some [method, target, _] => some (method, target)
  | _ => none

end Request

namespace Response

/-- The body that chunks make up. A chunk is the line of its length, its octets and an empty line; the last chunk has no
octets. What is missing at the end of the connection is left out. -/
def joinChunks (fuel : Nat) (b : Bytes) : Bytes :=
  match fuel with
  | 0 => []
  | fuel + 1 =>
    let (size, rest) := b.span (· != 13)
    let digits := ((Bytes.toText? size).getD "").toList.takeWhile fun c => c != ';' && c != ' '
    match (Integer.parseChars 16 32 digits).toOption with
    | none | some 0 => []
    | some n =>
      let chunk := rest.drop 2
      chunk.take n ++ joinChunks fuel (chunk.drop (n + 2))

/-- The octets of a body, from the fields of its head and all that follows them. -/
def bodyOf (fields : List String) (rest : Bytes) : Bytes :=
  if ((field? fields "transfer-encoding").map (Text.contains "chunked")).getD false then joinChunks rest.length rest
  else
    match (field? fields "content-length").bind fun n => (Integer.parse 32 n).toOption with
    | some n => rest.take n
    | none => rest

/-- Reads the octets of a response, up to the end of its connection. A body that is no text is read as an empty one,
which is no document either. -/
def decode? (b : Bytes) : Option Response := do
  let (head, rest) ← splitHead? b
  match lines head with
  | [] => none
  | start :: fields =>
    match start.splitOn " " with
    | _ :: status :: _ =>
      let status ← (Integer.parse 16 status).toOption
      return { status, body := (Bytes.toText? (bodyOf fields rest)).getD "" }
    | _ => none

/-- The words for a status. -/
def reason : Nat → String
  | 200 => "OK"
  | 400 => "Bad Request"
  | 404 => "Not Found"
  | 405 => "Method Not Allowed"
  | _ => "Status"

/-- The octets of a response with a document, or with none. -/
def encode (status : Nat) (document : Option Json) : Bytes :=
  let body := (document.map fun document => Bytes.ofText document.compress).getD []
  let kind := if document.isSome then ["content-type: application/json"] else []
  headOf ([s!"HTTP/1.1 {status} {reason status}"] ++ kind ++ [s!"content-length: {body.length}", "connection: close"])
    ++ body

end Response

end GuardianRelay.Http
