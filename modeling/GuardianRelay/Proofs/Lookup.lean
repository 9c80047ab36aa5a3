import GuardianRelay.Lookup.Client
import GuardianRelay.Proofs.Base64
import GuardianRelay.Proofs.Program
import GuardianRelay.Proofs.Service

/-!
# Lookups at a Service and in its Store

Who asks the service that answers from a store finds what the store holds. A lookup is one exchange:
the client puts the path of the message behind the address of the service, the service takes the
path apart, and what it answers is read from its status and from the text in base 64. No two
messages share a path, and the slashes at the end of a service's address do not count.

How an answer travels is left open. An answer arrives as it was given if its status and its document
do (`Lookup.Delivers`).

## Main results

* `Lookup.runs_fetch_iff`: a lookup is one exchange.
* `Lookup.url_injective`: no two messages share an address.
* `Lookup.parseWeb_url`: where a lookup is made, if the address of the service is one of a server.
* `Lookup.fetch_eq_lookup`: a lookup at the service is a lookup in its store.
-/

namespace GuardianRelay.Lookup

variable {store : Store} {base : String} {key : MessageKey}

/-! ### Addresses -/

/-- The parts of the path of a message. -/
def pieces (key : MessageKey) : List (List Char) :=
  Service.requestPieces key.chain (Hex.encodeChars key.emitter.toList) key.sequence

/-- The path of a message is made of its parts. -/
theorem path_eq (key : MessageKey) :
    path key = String.ofList (Http.Url.pathChars (pieces key)) :=
  Service.requestPath_eq key.chain (Hex.encodeChars key.emitter.toList) key.sequence

/-- The parts of the path of a message are plain. -/
theorem arePlain_pieces (key : MessageKey) : Http.Url.ArePlain (pieces key) :=
  Service.arePlain_requestPieces (Hex.writes_encodeChars key.emitter.toList).isPlain

/-- **No two messages share an address** at a service. -/
theorem url_injective (base : String) : Function.Injective (url base) := by
  intro key key' h
  have hpath : path key = path key' := (String.append_right_inj _).mp h
  rw [path_eq, path_eq, String.ofList_inj] at hpath
  have hpieces := Http.Url.pathChars_inj (arePlain_pieces key) (arePlain_pieces key') hpath
  obtain ⟨hchain, hemitter, hsequence⟩ := Service.requestPieces_inj hpieces
  obtain ⟨chain, ⟨⟨octets, _⟩⟩, sequence⟩ := key
  obtain ⟨chain', ⟨⟨octets', _⟩⟩, sequence'⟩ := key'
  obtain rfl : chain = chain' := hchain
  obtain rfl : octets = octets' := Hex.encodeChars_injective hemitter
  obtain rfl : sequence = sequence' := hsequence
  rfl

/-- **Where a lookup is made**, if the address of the service is one of a server, with any number of
slashes behind it: at the server, under the path of the message. -/
theorem parseWeb_url {address : String} {server : Http.Url} (h : Http.Url.IsServer address server)
    (n : ℕ) (key : MessageKey) :
    Http.Url.parseWeb (url (address ++ String.ofList (List.replicate n '/')) key) =
      .ok { server with path := path key } := by
  rw [url, Text.dropEndSlashes_append h.getLast?_ne, path_eq]
  exact h.parseWeb_append (arePlain_pieces key)

/-! ### Answers -/

/-- An answer arrives as it was given, in its status and its document. -/
structure Delivers (response : Http.Response) (given : Service.Response) : Prop where
  status_eq : response.status = given.status
  document?_eq : response.document? = given.body

/-- **What the answer of a service says** is what its store holds. -/
theorem answerOf_eq_lookup {response : Http.Response}
    (h : Delivers response (Service.answer store key)) :
    answerOf response = .ok (store.lookup key) := by
  obtain ⟨hstatus, hdocument⟩ := h
  rw [Service.answer] at hstatus hdocument
  cases hlookup : store.lookup key with
  | found b =>
      rw [hlookup] at hstatus hdocument
      have hsuccess : response.isSuccess = true := by
        rw [Http.Response.isSuccess, hstatus]
        rfl
      have htext : response.document?.bind attestationText? = some (Base64.encode b) := by
        rw [hdocument]
        rfl
      have htrim : Text.trim (Base64.encode b) = Base64.encode b :=
        Text.trim_graphic Base64.isGraphic_of_mem_encodeChars
      rw [answerOf, if_neg (not_not.mpr hsuccess), htext]
      dsimp only
      rw [htrim, Base64.decode_encode]
      rfl
  | notFound =>
      rw [hlookup] at hstatus
      have hcode : response.status = 404 := hstatus
      have hrefused : ¬ response.isSuccess = true := by
        rw [Http.Response.isSuccess, hcode]
        decide
      rw [answerOf, if_pos hrefused]

/-! ### Exchanges -/

/-- **A lookup is one exchange**, after which the answer is read, if there is one. -/
theorem runs_fetch_iff {address : Http.Url}
    (haddress : Http.Url.parseWeb (url base key) = .ok address)
    {exchanges : List (Exchange Client.surroundings)} {outcome : Outcome LookupAnswer} :
    (fetch base key).Runs exchanges outcome ↔
      ∃ reply : Option Http.Response, exchanges = [⟨.exchange (.get address), reply⟩] ∧
        outcome = match reply with
          | some response => Outcome.ofRpc (answerOf response)
          | none => .error (.rpc .undelivered) := by
  have hfetch : fetch base key =
      Program.request (I := Client.surroundings) (.exchange (.get address)) >>= fun reply =>
        match reply with
        | some response => Program.ofOutcome (Outcome.ofRpc (answerOf response))
        | none => .fail (.rpc .undelivered) := by
    rw [fetch, Client.exchange, haddress]
    refine congrArg (Program.ask _) (funext fun reply => ?_)
    cases reply with
    | none | some response => rfl
  rw [hfetch, Program.runs_request_bind_iff]
  constructor
  · rintro ⟨reply, later, rfl, h⟩
    refine ⟨reply, ?_⟩
    cases reply with
    | some response =>
        obtain ⟨rfl, rfl⟩ := Program.runs_ofOutcome_iff.mp h
        exact ⟨rfl, rfl⟩
    | none =>
        obtain ⟨rfl, rfl⟩ := Program.runs_fail_iff.mp h
        exact ⟨rfl, rfl⟩
  · rintro ⟨reply, rfl, rfl⟩
    refine ⟨reply, [], rfl, ?_⟩
    cases reply with
    | some response => exact Program.runs_ofOutcome_iff.mpr ⟨rfl, rfl⟩
    | none => exact .fail _

/-! ### The service and its store -/

/-- **A lookup at the service is a lookup in its store.** If the service is asked for the path of a
message and its answer arrives as it was given, the client has what the store holds. The path of the
message is what a server is asked for, however many slashes stand behind its address; no two
messages share an address; and a request that names its emitter by the 40 digits of a contract-model
address, with a mark or without it, is answered as the one for this address with zeros in front. -/
theorem fetch_eq_lookup :
    (∀ (store : Store) (key : MessageKey) (base : String) (address : Http.Url)
      (response : Http.Response), Http.Url.parseWeb (url base key) = .ok address →
      Delivers response (Service.respond store (path key)) → ∀ outcome,
      (fetch base key).Runs [⟨.exchange (.get address), some response⟩] outcome ↔
        outcome = .ok (store.lookup key)) ∧
    (∀ (address : String) (server : Http.Url), Http.Url.IsServer address server →
      ∀ (n : ℕ) (key : MessageKey),
        Http.Url.parseWeb (url (address ++ String.ofList (List.replicate n '/')) key) =
            .ok { server with path := path key } ∧
          ({ server with path := path key } : Http.Url).target = path key) ∧
    (∀ base : String, Function.Injective (url base)) ∧
    ∀ (store : Store) (chain : ChainId) (sequence : UInt64) (mark : String) (digits : List Char),
      mark = "" ∨ mark = "0x" → digits.length = 40 →
      (∀ c ∈ digits, (Integer.digit? 16 c).isSome = true) →
      ∃ e : EvmAddress, Hex.decode (String.ofList digits) = .ok e.toList ∧
        Service.respond store (Service.requestPath chain (mark ++ String.ofList digits) sequence) =
          Service.respond store (path ⟨chain, Address.ofEvm e, sequence⟩) := by
  refine ⟨?_, fun address server h n key => ⟨parseWeb_url h n key, h.target_eq (path key)⟩,
    url_injective, ?_⟩
  · intro store key base address response haddress hdelivers outcome
    rw [Service.respond_path] at hdelivers
    rw [runs_fetch_iff haddress]
    constructor
    · rintro ⟨_, ⟨⟩, rfl⟩
      dsimp only
      rw [answerOf_eq_lookup hdelivers]
      rfl
    · rintro rfl
      refine ⟨some response, rfl, ?_⟩
      dsimp only
      rw [answerOf_eq_lookup hdelivers]
      rfl
  · intro store chain sequence mark digits hmark hlength hdigits
    obtain ⟨b, hb, hwrites⟩ := Hex.exists_writes (n := 20) hlength hdigits
    refine ⟨⟨b, hb⟩, hwrites.decode_eq, ?_⟩
    rw [Service.respond_evm (e := ⟨b, hb⟩) hwrites hmark, Service.respond_path]

/-- The digits of a contract-model address, in both cases. -/
def someDigits : List Char := "00112233445566778899aaBBccDDeeFF01234567".toList

/-- The address of the digits. -/
def someEmitter : EvmAddress where
  toList := [0x00, 0x11, 0x22, 0x33, 0x44, 0x55, 0x66, 0x77, 0x88, 0x99, 0xaa, 0xbb, 0xcc, 0xdd,
    0xee, 0xff, 0x01, 0x23, 0x45, 0x67]
  length_toList := rfl

/-- A message of the address. -/
def someKey : MessageKey := ⟨2, Address.ofEvm someEmitter, 7⟩

/-- A store that holds three bytes for the message, which are no attestation. -/
def someStore : Store := ⟨[(someKey, [1, 2, 3])]⟩

/-- A server on this machine. -/
def someServer : Http.Url where
  scheme := "http"
  user := ""
  host := some "[::1]"
  tcpPort := some 7071
  path := "/"
  query := none
  fragment := none

/-- What arrives of the answer with the three bytes. -/
def someResponse : Http.Response where
  status := 200
  body := "\x7b\"vaa\":null,\"vaaBytes\":\"AQID\"\x7d"

theorem fetch_eq_lookup_malformed :
    Http.Url.IsServer "http://[::1]:7071" someServer ∧
    Delivers someResponse (Service.respond someStore (path someKey)) ∧
    (fetch "http://[::1]:7071//" someKey).Runs
      [⟨.exchange (.get { someServer with path := path someKey }), some someResponse⟩]
      (.ok (.found [1, 2, 3])) ∧
    url "http://[::1]:7071" someKey ≠ url "http://[::1]:7071" { someKey with sequence := 8 } ∧
    Service.respond someStore (Service.requestPath 2 ("0x" ++ String.ofList someDigits) 7) =
      Service.respond someStore (path someKey) := by
  have hserver : Http.Url.IsServer "http://[::1]:7071" someServer := by
    refine ⟨by decide +kernel, "http".toList, "[::1]:7071".toList, by decide +kernel, ?_, ?_⟩
    · exact List.all_eq_true.mp (by decide +kernel)
    · simp
  have hdelivers : Delivers someResponse (Service.respond someStore (path someKey)) := by
    have hanswer : Service.answer someStore someKey = Service.found [1, 2, 3] := rfl
    have hbody : (Service.found [1, 2, 3]).body =
        some (.object [("vaa", .null), ("vaaBytes", .string "AQID")]) := rfl
    rw [Service.respond_path, hanswer]
    refine ⟨rfl, ?_⟩
    rw [hbody, Http.Response.document?, someResponse]
    cbv
  obtain ⟨hfetch, hservers, hinjective, hevm⟩ := fetch_eq_lookup
  refine ⟨hserver, hdelivers, ?_, ?_, ?_⟩
  · exact (hfetch someStore someKey _ _ someResponse (hservers _ _ hserver 2 someKey).1
      hdelivers _).mpr rfl
  · exact fun h => absurd (hinjective _ h) (by decide)
  · obtain ⟨e, he, hsame⟩ := hevm someStore 2 7 "0x" someDigits (.inr rfl) (by decide +kernel)
      (List.all_eq_true.mp (by decide +kernel))
    have hread : Hex.decode (String.ofList someDigits) = .ok someEmitter.toList := by
      decide +kernel
    obtain rfl : e = someEmitter := FixedBytes.ext (Except.ok.inj (he.symm.trans hread))
    exact hsame

end GuardianRelay.Lookup
