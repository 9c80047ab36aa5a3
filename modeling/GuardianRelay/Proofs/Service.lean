import GuardianRelay.Proofs.Bytes
import GuardianRelay.Proofs.Hex
import GuardianRelay.Proofs.Http.Url
import GuardianRelay.Service
import Mathlib.Data.List.TakeWhile

/-!
# Requests to the Lookup Service

A lookup request is a path of plain characters, so that the service finds its parts as they were put
there: the numbers of the chain and of the sequence, and what names the emitter. Whatever names it,
the answer is the one for the message of that emitter. The digits of all 32 octets name an address,
and the digits of 20 octets the address with these at its end, with a mark or without it.

## Main results

* `Service.respond_requestPath`: the answer to a lookup request.
* `Service.respond_path`: the answer at the path of a message.
* `Service.respond_evm`: the answer if 20 octets name the emitter.
-/

namespace GuardianRelay.Service

open Http.Url (ArePlain pathChars)
open Text (IsPlain)

variable {store : Store} {chain : ChainId} {sequence : UInt64}

/-! ### Paths -/

/-- The service takes paths apart as addresses are, except that only slashes count as slashes. -/
theorem segments_eq (cs : List Char) : segments cs = Http.Url.segments false cs := by
  induction cs with
  | nil => rfl
  | cons c cs ih =>
      by_cases hslash : c = '/'
      · subst hslash
        rw [segments, ih]
        rfl
      · have hno : Http.Url.isSlash false c = false := by
          rw [Http.Url.isSlash, beq_false_of_ne hslash]
          rfl
        rw [segments, Http.Url.segments, hno, ih]
        · cases Http.Url.segments false cs <;> rfl
        · exact hslash

/-- A plain path is all path. -/
theorem pathOf_pathChars {pieces : List (List Char)} (h : ArePlain pieces) :
    pathOf (pathChars pieces) = pathChars pieces := by
  have hne {d : Char} (hslash : '/' ≠ d) (hd : ¬ IsPlain d) : ∀ c ∈ pathChars pieces, c ≠ d := by
    intro c hc
    obtain rfl | hc := Http.Url.of_mem_pathChars h c hc
    · exact hslash
    · exact hc.ne hd
  have hserver : withoutServer (pathChars pieces) = pathChars pieces := by
    rw [withoutServer, Text.span_eq_self fun c hc =>
      bne_iff_ne.mpr (hne (by decide) (by decide) c hc)]
  rw [pathOf, hserver, List.takeWhile_eq_self_iff]
  intro c hc
  rw [Bool.and_eq_true, bne_iff_ne, bne_iff_ne]
  exact ⟨hne (by decide) (by decide) c hc, hne (by decide) (by decide) c hc⟩

/-- The path of a lookup whose emitter is named by some text. -/
def requestPath (chain : ChainId) (emitter : String) (sequence : UInt64) : String :=
  "/v1/signed_vaa/" ++ Nat.repr chain.toNat ++ "/" ++ emitter ++ "/" ++ Nat.repr sequence.toNat

/-- The parts of the path of a lookup. -/
def requestPieces (chain : ChainId) (emitter : List Char) (sequence : UInt64) : List (List Char) :=
  [['v', '1'], ['s', 'i', 'g', 'n', 'e', 'd', '_', 'v', 'a', 'a'], Nat.toDigits 10 chain.toNat,
    emitter, Nat.toDigits 10 sequence.toNat]

/-- The path of a lookup is made of its parts. -/
theorem requestPath_eq (chain : ChainId) (emitter : List Char) (sequence : UInt64) :
    requestPath chain (String.ofList emitter) sequence =
      String.ofList (pathChars (requestPieces chain emitter sequence)) := by
  have hstart : "/v1/signed_vaa/".toList =
      ['/', 'v', '1', '/', 's', 'i', 'g', 'n', 'e', 'd', '_', 'v', 'a', 'a', '/'] :=
    String.toList_ofList
  have hslash : "/".toList = ['/'] := String.toList_ofList
  apply String.toList_inj.mp
  unfold requestPath
  simp only [String.toList_append, Nat.toList_repr, hstart, hslash]
  rw [String.toList_ofList, String.toList_ofList]
  simp only [requestPieces, pathChars, List.flatMap_cons, List.flatMap_nil, List.append_nil,
    List.append_assoc, List.cons_append, List.nil_append]

/-- The parts of the path of a lookup are plain, if the text for the emitter is. -/
theorem arePlain_requestPieces {emitter : List Char} (h : ∀ c ∈ emitter, IsPlain c) :
    ArePlain (requestPieces chain emitter sequence) := by
  intro piece hpiece
  simp only [requestPieces, List.mem_cons, List.not_mem_nil, or_false] at hpiece
  obtain rfl | rfl | rfl | rfl | rfl := hpiece
  · exact Text.forall_isPlain (by decide)
  · exact Text.forall_isPlain (by decide)
  · exact Text.isPlain_of_mem_toDigits _
  · exact h
  · exact Text.isPlain_of_mem_toDigits _

/-- The parts of a path determine what is looked up. -/
theorem requestPieces_inj {chain' : ChainId} {emitter emitter' : List Char} {sequence' : UInt64}
    (h : requestPieces chain emitter sequence = requestPieces chain' emitter' sequence') :
    chain = chain' ∧ emitter = emitter' ∧ sequence = sequence' := by
  have hdigits {m n : ℕ} (h : Nat.toDigits 10 m = Nat.toDigits 10 n) : m = n := by
    rw [← @Nat.ofDigitChars_ten_toDigits m, h, Nat.ofDigitChars_ten_toDigits]
  simp only [requestPieces, List.cons.injEq, true_and, and_true] at h
  obtain ⟨hchain, hemitter, hsequence⟩ := h
  exact ⟨UInt16.toNat_inj.mp (hdigits hchain), hemitter, UInt64.toNat_inj.mp (hdigits hsequence)⟩

/-! ### Emitters -/

/-- An empty text names no emitter. -/
theorem emitter?_empty : emitter? (String.ofList []) = none := by
  decide +kernel

/-- **The emitters that digits name**: those of 32 octets, and those of 20, with a mark or without
it. -/
theorem emitter?_of_writes {digits : List Char} {b : Bytes} (h : Hex.Writes digits b)
    (hlength : b.length = 32 ∨ b.length = 20) {mark : String} (hmark : mark = "" ∨ mark = "0x") :
    emitter? (mark ++ String.ofList digits) = some (Address.ofNative b) := by
  rw [emitter?, h.decode_dropMarks_eq hmark]
  exact if_pos hlength

/-! ### Answers -/

/-- What the service answers when it is asked for a message. -/
def answer (store : Store) (key : MessageKey) : Response :=
  match store.lookup key with
  | .found b => found b
  | .notFound => refusal 404 "VAA_NOT_FOUND"
    s!"No message found for chain={key.chain}, emitter={key.emitter.toHex}, sequence={key.sequence}"

/-- A number in a request is read from its digits. -/
theorem number?_toDigits {bits n : ℕ} (h : n < 2 ^ bits) :
    number? bits (String.ofList (Nat.toDigits 10 n)) = some n := by
  rw [number?, Integer.parse_toDigits h]
  rfl

/-- The parts of a lookup are read as they stand there. -/
theorem respondLookup_eq {text : List Char} {emitter : Address} (hplain : ∀ c ∈ text, IsPlain c)
    (hemitter : emitter? (String.ofList text) = some emitter) :
    respondLookup store (String.ofList (Nat.toDigits 10 chain.toNat)) (String.ofList text)
        (String.ofList (Nat.toDigits 10 sequence.toNat)) =
      answer store ⟨chain, emitter, sequence⟩ := by
  have hchain := Text.Percent.decode?_plain (Text.isPlain_of_mem_toDigits chain.toNat)
  have hsequence := Text.Percent.decode?_plain (Text.isPlain_of_mem_toDigits sequence.toNat)
  simp only [respondLookup, hchain, Text.Percent.decode?_plain hplain, hsequence,
    number?_toDigits chain.toNat_lt, number?_toDigits sequence.toNat_lt, Option.bind_eq_bind,
    Option.bind_some, Option.pure_def, UInt16.ofNat_toNat, UInt64.ofNat_toNat, hemitter]
  rfl

/-- **The answer to a lookup request** is the one for the message of the emitter that it names. -/
theorem respond_requestPath {text : List Char} {emitter : Address} (hplain : ∀ c ∈ text, IsPlain c)
    (hemitter : emitter? (String.ofList text) = some emitter) :
    respond store (requestPath chain (String.ofList text) sequence) =
      answer store ⟨chain, emitter, sequence⟩ := by
  have hpieces : ArePlain (requestPieces chain text sequence) :=
    arePlain_requestPieces hplain
  have hsegments : segments (pathOf (requestPath chain (String.ofList text) sequence).toList) =
      [] :: requestPieces chain text sequence := by
    rw [requestPath_eq, String.toList_ofList, pathOf_pathChars hpieces, segments_eq]
    exact Http.Url.segments_pathChars (List.forall_mem_nil _) hpieces
  have hlist : ([] :: requestPieces chain text sequence).map String.ofList =
      ["", "v1", "signed_vaa", String.ofList (Nat.toDigits 10 chain.toNat), String.ofList text,
        String.ofList (Nat.toDigits 10 sequence.toNat)] := rfl
  have hsome {cs : List Char} (hcs : cs ≠ []) : ¬ (String.ofList cs).isEmpty = true := by
    rw [String.isEmpty_iff, String.ofList_eq_empty_iff]
    exact hcs
  have htext : text ≠ [] := by
    rintro rfl
    rw [emitter?_empty] at hemitter
    cases hemitter
  rw [respond, hsegments, hlist]
  change (if _ ∨ _ ∨ _ then _ else _) = _
  rw [if_neg (not_or.mpr ⟨hsome Nat.toDigits_ne_nil,
    not_or.mpr ⟨hsome htext, hsome Nat.toDigits_ne_nil⟩⟩), respondLookup_eq hplain hemitter]

/-- The answer at the path under which a client looks a message up is the one for the message. -/
theorem respond_path (key : MessageKey) : respond store (Lookup.path key) = answer store key := by
  have hwrites := Hex.writes_encodeChars key.emitter.toList
  have hemitter : emitter? (String.ofList (Hex.encodeChars key.emitter.toList)) =
      some key.emitter := by
    have hread := emitter?_of_writes hwrites (.inl key.emitter.length_toList) (.inl rfl)
    rw [String.empty_append] at hread
    rw [hread, Address.ofNative, Address.toList, FixedBytes.leftPad_toList]
  -- The path of a message names its emitter by these digits.
  change respond store (requestPath key.chain (String.ofList _) key.sequence) = _
  exact respond_requestPath hwrites.isPlain hemitter

/-- The answer to a request that names its emitter by the 20 octets of a contract-model address,
with a mark or without it, is the one for the address with zeros in front. -/
theorem respond_evm {digits : List Char} {e : EvmAddress} (h : Hex.Writes digits e.toList)
    {mark : String} (hmark : mark = "" ∨ mark = "0x") :
    respond store (requestPath chain (mark ++ String.ofList digits) sequence) =
      answer store ⟨chain, Address.ofEvm e, sequence⟩ := by
  have hemitter := emitter?_of_writes h (.inr e.length_toList) hmark
  have hplain : ∀ c ∈ mark.toList ++ digits, IsPlain c := by
    rw [List.forall_mem_append]
    refine ⟨?_, h.isPlain⟩
    obtain rfl | rfl := hmark
    · exact Text.forall_isPlain (by decide)
    · exact Text.forall_isPlain (by decide)
  have htext : mark ++ String.ofList digits = String.ofList (mark.toList ++ digits) := by
    rw [String.ofList_append, String.ofList_toList]
  rw [htext] at hemitter ⊢
  exact respond_requestPath hplain hemitter

end GuardianRelay.Service
