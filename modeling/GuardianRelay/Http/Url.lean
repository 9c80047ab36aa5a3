import GuardianRelay.Http.Host

/-!
# Addresses

Where a server is and what is asked of it, from a text that is read as browsers read it: blanks at its ends and line
ends do not count, steps up and down in a path are taken, and what cannot stand in a part is escaped there. In the
schemes of servers backslashes count as slashes, any number of slashes stands before the server, and there has to be
one.
-/

namespace GuardianRelay.Http

/-- An address in its parts. -/
structure Url where
  scheme : String
  /-- Who asks, with a password after a colon; empty, if the address does not say it. -/
  user : String
  host : Option String
  /-- Where the host listens, unless it is where servers of the scheme do. -/
  tcpPort : Option UInt16
  path : String
  query : Option String
  fragment : Option String
deriving DecidableEq, Repr

/-- Why a text is no address that a server can be asked at. -/
inductive UrlFault where
  /-- The text has no scheme. -/
  | relative
  | host (fault : HostFault)
  | number
  /-- The scheme of the address is none that is asked here. -/
  | scheme (address : String)
deriving DecidableEq, Repr

namespace Url

/-- The schemes of servers, and where those listen. -/
def serverSchemes : List (String × UInt16) := [("http", 80), ("https", 443), ("ws", 80), ("wss", 443), ("ftp", 21)]

/-- The text of an address. -/
def text (url : Url) : String :=
  let server := match url.host with
    | none => ""
    | some host =>
      "//" ++ (if url.user.isEmpty then "" else url.user ++ "@") ++ host
        ++ (url.tcpPort.elim "" fun n => s!":{n}")
  s!"{url.scheme}:{server}{url.path}" ++ (url.query.elim "" ("?" ++ ·)) ++ (url.fragment.elim "" ("#" ++ ·))

/-- What is asked of a server: a path, and a query if there is one. -/
def target (url : Url) : String := url.path ++ url.query.elim "" ("?" ++ ·)

/-- Where the host of an address listens. -/
def listensAt (url : Url) : UInt16 := url.tcpPort.getD ((serverSchemes.lookup url.scheme).getD 0)

/-! ### What stands for itself -/

/-- Whether a character stands for itself in a fragment. -/
def keepsInFragment : Char → Bool := Text.Percent.keepsAllBut "\"<>\x60"

/-- Whether a character stands for itself in a path. -/
def keepsInPath : Char → Bool := Text.Percent.keepsAllBut "\"<>\x60#?\x7b\x7d^"

/-- Whether a character stands for itself in a query. -/
def keepsInQuery (ofServer : Bool) (c : Char) : Bool :=
  Text.Percent.keepsAllBut "\"#<>" c && ! (ofServer && c == '\x27')

/-- Whether a character stands for itself in a name or in a password. -/
def keepsInUser : Char → Bool := Text.Percent.keepsAllBut "\"<>\x60#?\x7b\x7d^/:;=@[\\]|"

/-- Whether a character stands for itself in a path without slashes. -/
def keepsInOpaque (c : Char) : Bool := c == ' ' || Text.Percent.isGraphic c

/-! ### Parts -/

/-- Whether a character can stand in a scheme. -/
def isSchemeChar (c : Char) : Bool := c.isAlphanum || c == '+' || c == '-' || c == '.'

/-- The scheme of an address, and what follows its colon. -/
def splitScheme? (cs : List Char) : Option (String × List Char) :=
  match cs.span isSchemeChar with
  | (first :: more, ':' :: rest) =>
    if first.isAlpha then some (String.ofList ((first :: more).map Text.lowerAscii), rest) else none
  | _ => none

/-- Whether a character separates the parts of a path. -/
def isSlash (ofServer : Bool) (c : Char) : Bool := c == '/' || (ofServer && c == '\\')

/-- The segments of a path, between its slashes. -/
def segments (ofServer : Bool) : List Char → List (List Char)
  | [] => [[]]
  | c :: rest =>
    match isSlash ofServer c, segments ofServer rest with
    | true, all => [] :: all
    | false, segment :: more => (c :: segment) :: more
    | false, [] => [[c]]

/-- Characters with dots for their escapes. -/
def withDots : List Char → List Char
  | '%' :: '2' :: 'e' :: rest => '.' :: withDots rest
  | c :: rest => c :: withDots rest
  | [] => []

/-- A segment as it counts as a step: in lowercase, and with dots for their escapes. -/
def stepOf (segment : List Char) : String := String.ofList (withDots (segment.map Char.toLower))

/-- Takes the steps of a path; the segments that were reached are held last first. -/
def walk (reached : List (List Char)) : List (List Char) → List (List Char)
  | [] => reached.reverse
  | segment :: rest =>
    let ending := if rest.isEmpty then [[]] else []
    match stepOf segment with
    | "." => walk (ending ++ reached) rest
    | ".." => walk (ending ++ reached.tail) rest
    | _ => walk (segment :: reached) rest

/-- A path after its first slash. -/
def pathOf (ofServer : Bool) (cs : List Char) : String :=
  Text.joinWith "" ((walk [] (segments ofServer cs)).map fun segment => "/" ++ Text.Percent.encode keepsInPath segment)

/-- A path as it stands behind a server, where it may be missing. -/
def pathBehindServer (ofServer : Bool) : List Char → String
  | [] => if ofServer then "/" else ""
  | c :: rest => pathOf ofServer (if isSlash ofServer c then rest else c :: rest)

/-- The parts of a list of characters at the last at sign: what is before it, and what is behind it. -/
def splitLastAt (cs : List Char) : Option (List Char) × List Char :=
  match cs.reverse.span (· != '@') with
  | (behind, _ :: before) => (some before.reverse, behind.reverse)
  | (_, []) => (none, cs)

/-- Who asks, from what stands before the at sign of a server. -/
def userOf (cs : List Char) : String :=
  let (name, rest) := cs.span (· != ':')
  let password := Text.Percent.encode keepsInUser (rest.drop 1)
  Text.Percent.encode keepsInUser name ++ (if password.isEmpty then "" else ":" ++ password)

/-- The host of a server, and what follows it: its colon with a number, or nothing. -/
def splitHost (cs : List Char) : List Char × List Char :=
  match cs with
  | '[' :: _ =>
    let (inside, rest) := cs.span (· != ']')
    let (behind, rest) := rest.span (· != ':')
    (inside ++ behind, rest)
  | _ => cs.span (· != ':')

/-- Where a server listens, from what follows its host. -/
def readNumber (scheme : String) (cs : List Char) : Except UrlFault (Option UInt16) :=
  match cs.drop 1 with
  | [] => .ok none
  | digits =>
    if ! digits.all Char.isDigit then .error .number
    else
      match Integer.parseChars 10 16 digits with
      | .error _ => .error .number
      | .ok n =>
        let n := UInt16.ofNat n
        .ok (if serverSchemes.lookup scheme = some n then none else some n)

/-- A host of a scheme that is none of servers. -/
def otherHost (cs : List Char) : Except UrlFault String :=
  if cs.all Host.isNameChar then .ok (String.ofList cs) else .error (.host .name)

/-! ### Reading -/

/-- The server and the path of an address, from what follows its slashes. -/
def readServer (scheme : String) (ofServer : Bool) (cs : List Char) : Except UrlFault Url := do
  let (server, path) := cs.span fun c => ! isSlash ofServer c
  let (user, rest) := splitLastAt server
  let (hostText, number) := splitHost rest
  let host ← if ofServer then (Host.read hostText).mapError .host else otherHost hostText
  let tcpPort ← readNumber scheme number
  return { scheme, user := user.elim "" userOf, host := some host, tcpPort, path := pathBehindServer ofServer path,
           query := none, fragment := none }

/-- The address of a file, from what follows its scheme. -/
def readFile (cs : List Char) : Except UrlFault Url := do
  let (host, path) ← match cs with
    | a :: b :: rest =>
      if isSlash true a && isSlash true b then
        let (host, path) := rest.span fun c => ! isSlash true c
        let name ← if host.isEmpty then .ok "" else (Host.read host).mapError .host
        pure (if name = "localhost" then "" else name, path)
      else pure ("", cs)
    | _ => pure ("", cs)
  return { scheme := "file", user := "", host := some host, tcpPort := none, path := pathBehindServer true path,
           query := none, fragment := none }

/-- The address without query and fragment, from its scheme and what follows the colon. -/
def readHierarchy (scheme : String) (cs : List Char) : Except UrlFault Url :=
  if scheme = "file" then readFile cs
  else if (serverSchemes.lookup scheme).isSome then readServer scheme true (cs.dropWhile (isSlash true))
  else
    let bare (path : String) : Url :=
      { scheme, user := "", host := none, tcpPort := none, path, query := none, fragment := none }
    match cs with
    | '/' :: '/' :: rest => readServer scheme false rest
    | '/' :: rest => .ok (bare (pathOf false rest))
    | _ => .ok (bare (Text.Percent.encode keepsInOpaque cs))

/-- Whether a character counts between the ends of an address. -/
def counts (c : Char) : Bool := c != '\t' && c != '\n' && c != '\r'

/-- The characters of an address that count. -/
def significant (s : String) : List Char :=
  let isBlank (c : Char) : Bool := c.toNat ≤ 0x20
  (((s.toList.dropWhile isBlank).reverse.dropWhile isBlank).reverse).filter counts

/-- Reads an address. -/
def parse (s : String) : Except UrlFault Url := do
  let some (scheme, cs) := splitScheme? (significant s) | throw .relative
  let (cs, fragment) := cs.span (· != '#')
  let (cs, query) := cs.span (· != '?')
  let ofServer := (serverSchemes.lookup scheme).isSome || scheme = "file"
  let part (keeps : Char → Bool) : List Char → Option String
    | [] => none
    | _ :: behind => some (Text.Percent.encode keeps behind)
  return { ← readHierarchy scheme cs with
           query := part (keepsInQuery ofServer) query, fragment := part keepsInFragment fragment }

/-- Reads the address of something that is asked over HTTP. -/
def parseWeb (s : String) : Except UrlFault Url := do
  let url ← parse s
  if url.scheme = "http" ∨ url.scheme = "https" then return url else throw (.scheme url.text)

end Url

/-- The wording of an address fault. -/
def UrlFault.message : UrlFault → String
  | .relative => ": relative URL without a base"
  | .host fault => s!": {fault.message}"
  | .number => ": invalid port number"
  | .scheme address => s!" for url ({address}): URL scheme is not allowed"

end GuardianRelay.Http
