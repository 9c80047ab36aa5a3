import GuardianRelay.Http.Url
import GuardianRelay.Proofs.Octets
import GuardianRelay.Proofs.Outcome
import Mathlib.Data.List.Basic

/-!
# Paths Behind Servers

The address of a server is followed by a path. Such an address is read as the server's, with the
path: nothing of the path counts as a part of the server, and as long as the path is made of plain
characters, nothing of it is escaped and no step is taken in it. So what is asked of the server is
the path as it was put behind the address.

What the server's own part may look like is not said here. The reader takes it off at the first
slash, and whatever it makes of it, it makes of it with a path and without one
(`Url.readServer_append`).

## Main results

* `Url.pathOf_pathChars`: a plain path is what it is made of.
* `Url.IsServer.parseWeb_path`: the address of a server with a path behind it.
* `Url.IsServer.parseWeb_append`: the address of a server with a plain path behind it.
-/

namespace GuardianRelay.Http.Url

open Text (IsPlain)

/-! ### Plain paths -/

/-- The path of some segments, each behind a slash. -/
def pathChars (pieces : List (List Char)) : List Char := pieces.flatMap fun piece => '/' :: piece

/-- All characters of some segments are plain. -/
def ArePlain (pieces : List (List Char)) : Prop := ∀ piece ∈ pieces, ∀ c ∈ piece, IsPlain c

/-- Plain characters are no slashes. -/
theorem isSlash_of_isPlain {c : Char} (h : IsPlain c) (ofServer : Bool) :
    isSlash ofServer c = false := by
  have hslash : c ≠ '/' := h.ne (by decide)
  have hbackslash : c ≠ '\\' := h.ne (by decide)
  rw [isSlash, beq_false_of_ne hslash, beq_false_of_ne hbackslash, Bool.and_false]
  rfl

/-- Plain characters belong to the first segment. -/
theorem segments_append {ofServer : Bool} {piece rest first : List Char} {more : List (List Char)}
    (hpiece : ∀ c ∈ piece, IsPlain c) (hrest : segments ofServer rest = first :: more) :
    segments ofServer (piece ++ rest) = (piece ++ first) :: more := by
  induction piece with
  | nil => exact hrest
  | cons c piece ih =>
      obtain ⟨hc, hpiece⟩ := List.forall_mem_cons.mp hpiece
      rw [List.cons_append, segments, isSlash_of_isPlain hc, ih hpiece]
      rfl

/-- The segments of a plain path are what it is made of. -/
theorem segments_pathChars {ofServer : Bool} {piece : List Char} {pieces : List (List Char)}
    (hpiece : ∀ c ∈ piece, IsPlain c) (hpieces : ArePlain pieces) :
    segments ofServer (piece ++ pathChars pieces) = piece :: pieces := by
  induction pieces generalizing piece with
  | nil => rw [segments_append hpiece (show segments ofServer (pathChars []) = [[]] from rfl),
      List.append_nil]
  | cons next pieces ih =>
      obtain ⟨hnext, hpieces⟩ := List.forall_mem_cons.mp hpieces
      have hslash : segments ofServer (pathChars (next :: pieces)) =
          [] :: segments ofServer (next ++ pathChars pieces) := rfl
      have hrest : segments ofServer (pathChars (next :: pieces)) = [] :: next :: pieces := by
        rw [hslash, ih hnext hpieces]
      rw [segments_append hpiece hrest, List.append_nil]

/-- Plain paths are the same only if they are made of the same. -/
theorem pathChars_inj {pieces others : List (List Char)}
    (hpieces : ArePlain pieces) (hothers : ArePlain others) (h : pathChars pieces = pathChars others) :
    pieces = others := by
  have hsegments {pieces : List (List Char)} (hpieces : ArePlain pieces) :
      segments false (pathChars pieces) = [] :: pieces :=
    segments_pathChars (List.forall_mem_nil _) hpieces
  have hsame : [] :: pieces = [] :: others := by rw [← hsegments hpieces, h, hsegments hothers]
  exact (List.cons.inj hsame).2

/-- A plain segment takes no step. -/
theorem stepOf_ne {segment : List Char} (h : ∀ c ∈ segment, IsPlain c) :
    stepOf segment ≠ "." ∧ stepOf segment ≠ ".." := by
  have hlower : ∀ c ∈ segment.map Char.toLower, IsPlain c := by
    intro d hd
    obtain ⟨c, hc, rfl⟩ := List.mem_map.mp hd
    exact (h c hc).toLower
  have hdots {cs : List Char} (hcs : ∀ c ∈ cs, IsPlain c) : withDots cs = cs := by
    induction cs with
    | nil => rfl
    | cons c cs ih =>
        obtain ⟨hc, hcs⟩ := List.forall_mem_cons.mp hcs
        rw [withDots, ih hcs]
        rintro rest rfl -
        exact absurd hc (by decide)
  have hno (dots : String) (hdot : '.' ∈ dots.toList) : stepOf segment ≠ dots := by
    rintro rfl
    rw [stepOf, hdots hlower, String.toList_ofList] at hdot
    exact (hlower '.' hdot).ne (by decide) rfl
  exact ⟨hno "." (by decide), hno ".." (by decide)⟩

/-- In a plain path no steps are taken. -/
theorem walk_eq {reached pieces : List (List Char)}
    (h : ArePlain pieces) : walk reached pieces = reached.reverse ++ pieces := by
  induction pieces generalizing reached with
  | nil => rw [walk, List.append_nil]
  | cons piece pieces ih =>
      obtain ⟨hpiece, hpieces⟩ := List.forall_mem_cons.mp h
      obtain ⟨hdot, hdots⟩ := stepOf_ne hpiece
      rw [walk]
      split
      next heq => exact absurd heq hdot
      next heq => exact absurd heq hdots
      next => rw [ih hpieces, List.reverse_cons, List.append_assoc]; rfl

/-- With nothing between them, texts that are joined follow each other. -/
theorem toList_joinWith_empty (parts : List String) :
    (Text.joinWith "" parts).toList = parts.flatMap String.toList := by
  rw [Text.joinWith, String.toList_intercalate]
  induction parts with
  | nil => rfl
  | cons part parts ih =>
      cases parts with
      | nil => rw [List.map_singleton, List.intercalate_singleton, List.flatMap_singleton]
      | cons next parts =>
          rw [List.map_cons, List.map_cons, List.intercalate_cons_cons, ← List.map_cons, ih,
            String.toList_empty, List.append_nil]
          rfl

/-- **A plain path is what it is made of.** -/
theorem pathOf_pathChars {ofServer : Bool} {piece : List Char} {pieces : List (List Char)}
    (hpiece : ∀ c ∈ piece, IsPlain c) (hpieces : ArePlain pieces) :
    pathOf ofServer (piece ++ pathChars pieces) = String.ofList (pathChars (piece :: pieces)) := by
  have hall : ArePlain (piece :: pieces) :=
    List.forall_mem_cons.mpr ⟨hpiece, hpieces⟩
  have hkeeps {c : Char} (hc : IsPlain c) : keepsInPath c = true := hc.keepsAllBut (by decide)
  have hparts : (piece :: pieces).flatMap (fun segment =>
        ("/" ++ Text.Percent.encode keepsInPath segment).toList) =
      pathChars (piece :: pieces) := by
    refine List.flatMap_congr fun segment hsegment => ?_
    rw [Text.Percent.encode_of_keeps fun c hc => hkeeps (hall segment hsegment c hc),
      String.toList_append, show "/".toList = ['/'] from rfl, String.toList_ofList,
      List.singleton_append]
  rw [pathOf, segments_pathChars hpiece hpieces, walk_eq hall, List.reverse_nil, List.nil_append,
    ← String.toList_inj, toList_joinWith_empty, List.flatMap_map, hparts, String.toList_ofList]

/-- Behind a server too. -/
theorem pathBehindServer_pathChars {ofServer : Bool} {piece : List Char}
    {pieces : List (List Char)} (h : ArePlain (piece :: pieces)) :
    pathBehindServer ofServer (pathChars (piece :: pieces)) =
      String.ofList (pathChars (piece :: pieces)) := by
  obtain ⟨hpiece, hpieces⟩ := List.forall_mem_cons.mp h
  exact pathOf_pathChars hpiece hpieces

/-- There are slashes and plain characters in a plain path. -/
theorem of_mem_pathChars {pieces : List (List Char)}
    (h : ArePlain pieces) : ∀ c ∈ pathChars pieces, c = '/' ∨ IsPlain c := by
  simp only [pathChars, List.mem_flatMap, List.mem_cons]
  rintro c ⟨piece, hpiece, rfl | hc⟩
  · exact .inl rfl
  · exact .inr (h piece hpiece c hc)

/-! ### Addresses -/

/-- Nothing is left out of an address without blanks. -/
theorem significant_eq {s : String} (h : ∀ c ∈ s.toList, 32 < c.toNat) :
    significant s = s.toList := by
  have hshown : ∀ c ∈ s.toList, decide (c.toNat ≤ 0x20) = false := fun c hc =>
    decide_eq_false (Nat.not_le.mpr (h c hc))
  have hcounts : ∀ c ∈ s.toList, counts c = true := by
    intro c hc
    have hne {d : Char} (hd : d.toNat ≤ 32) : (c != d) = true :=
      bne_iff_ne.mpr fun heq => absurd (h c hc) (Nat.not_lt.mpr (heq ▸ hd))
    rw [counts, hne (by decide), hne (by decide), hne (by decide)]
    rfl
  rw [significant, Text.dropWhile_eq_self fun c hc => hshown c (List.mem_of_mem_head? hc),
    Text.dropWhile_eq_self fun c hc => hshown c (List.mem_reverse.mp (List.mem_of_mem_head? hc)),
    List.reverse_reverse, List.filter_eq_self.mpr hcounts]

/-- What is behind the scheme of an address has no influence on the scheme. -/
theorem splitScheme?_append {scheme : List Char} (h : ∀ c ∈ scheme, isSchemeChar c = true)
    (rest : List Char) :
    splitScheme? (scheme ++ ':' :: rest) =
      ((splitScheme? (scheme ++ [':'])).map fun read => (read.1, rest)) := by
  have hcolon (rest : List Char) :
      (scheme ++ ':' :: rest).span isSchemeChar = (scheme, ':' :: rest) :=
    Text.span_append h (by rintro _ ⟨⟩; decide)
  rw [splitScheme?, splitScheme?, hcolon, hcolon]
  cases scheme with
  | nil => rfl
  | cons first more =>
      change (if _ then some _ else none) = Option.map _ (if _ then some _ else none)
      split <;> rfl

/-- A server is read with the scheme of its address, and with its path. -/
theorem readServer_append {scheme : String} {authority path : List Char}
    (hauthority : ∀ c ∈ authority, isSlash true c = false)
    (hpath : ∀ c ∈ path.head?, isSlash true c = true) :
    readServer scheme true (authority ++ path) =
      (readServer scheme true authority).map
        fun server => { server with path := pathBehindServer true path } := by
  have hspan : (authority ++ path).span (fun c => ! isSlash true c) = (authority, path) :=
    Text.span_append (fun c hc => by rw [hauthority c hc]; rfl) fun c hc => by rw [hpath c hc]; rfl
  have hbare : authority.span (fun c => ! isSlash true c) = (authority, []) :=
    Text.span_eq_self fun c hc => by rw [hauthority c hc]; rfl
  simp only [readServer, hspan, hbare, bind, Except.bind, if_true]
  split
  next => rfl
  next => split <;> rfl

/-- A server is read with the scheme of its address. -/
theorem readServer_scheme {scheme : String} {ofServer : Bool} {cs : List Char} {url : Url}
    (h : readServer scheme ofServer cs = .ok url) : url.scheme = scheme := by
  simp only [readServer] at h
  split at h
  all_goals
    obtain ⟨host, -, h⟩ := Outcome.bind_eq_ok_iff.mp h
    obtain ⟨tcpPort, -, h⟩ := Outcome.bind_eq_ok_iff.mp h
    obtain rfl := Except.ok.inj h
    rfl

/-- A file is read with the scheme of files. -/
theorem readFile_scheme {cs : List Char} {url : Url} (h : readFile cs = .ok url) :
    url.scheme = "file" := by
  simp only [readFile, pure_bind] at h
  split at h
  · split_ifs at h
    · obtain ⟨host, -, h⟩ := Outcome.bind_eq_ok_iff.mp h
      obtain rfl := Except.ok.inj h
      rfl
    · obtain ⟨host, -, h⟩ := Outcome.bind_eq_ok_iff.mp h
      obtain rfl := Except.ok.inj h
      rfl
    · obtain rfl := Except.ok.inj h
      rfl
  · obtain rfl := Except.ok.inj h
    rfl

/-- An address is read with its scheme. -/
theorem readHierarchy_scheme {scheme : String} {cs : List Char} {url : Url}
    (h : readHierarchy scheme cs = .ok url) : url.scheme = scheme := by
  rw [readHierarchy] at h
  split_ifs at h with hfile hserver
  · exact (readFile_scheme h).trans hfile.symm
  · exact readServer_scheme h
  · split at h
    · exact readServer_scheme h
    · obtain rfl := Except.ok.inj h
      rfl
    · obtain rfl := Except.ok.inj h
      rfl

/-- Characters of schemes are no blanks. -/
theorem lt_of_isSchemeChar {c : Char} (h : isSchemeChar c = true) : 32 < c.toNat := by
  have hplain (hc : IsPlain c) : 32 < c.toNat := by
    have hrange := Text.isPlain_iff.mp hc
    omega
  simp only [isSchemeChar, Bool.or_eq_true, beq_iff_eq] at h
  obtain ((h | rfl) | rfl) | rfl := h
  · exact hplain (.inl h)
  all_goals decide

/-- An address without a query and a fragment is read by its scheme and what follows the colon. -/
theorem parse_eq {scheme rest : List Char} (hscheme : ∀ c ∈ scheme, isSchemeChar c = true)
    (hrest : ∀ c ∈ rest, 32 < c.toNat ∧ c ≠ '?' ∧ c ≠ '#') :
    parse (String.ofList (scheme ++ ':' :: rest)) =
      match splitScheme? (scheme ++ [':']) with
      | none => .error .relative
      | some (name, _) => (readHierarchy name rest).map
          fun url => { url with query := none, fragment := none } := by
  have hspan {d : Char} (hne : ∀ c ∈ rest, c ≠ d) : rest.span (· != d) = (rest, []) :=
    Text.span_eq_self fun c hc => bne_iff_ne.mpr (hne c hc)
  have hall : ∀ c ∈ (String.ofList (scheme ++ ':' :: rest)).toList, 32 < c.toNat := by
    rw [String.toList_ofList, List.forall_mem_append, List.forall_mem_cons]
    exact ⟨fun c hc => lt_of_isSchemeChar (hscheme c hc), by decide, fun c hc => (hrest c hc).1⟩
  rw [parse, significant_eq hall, String.toList_ofList, splitScheme?_append hscheme]
  cases splitScheme? (scheme ++ [':']) with
  | none => rfl
  | some read =>
      dsimp only [Option.map]
      rw [hspan fun c hc => (hrest c hc).2.2]
      dsimp only
      rw [hspan fun c hc => (hrest c hc).2.1]
      cases readHierarchy read.1 rest <;> rfl

/-! ### Servers -/

/-- The address of a server: a scheme, and behind two slashes the server, without a path. -/
structure IsServer (address : String) (server : Url) : Prop where
  parseWeb_eq : parseWeb address = .ok server
  exists_parts : ∃ scheme authority : List Char,
    address = String.ofList (scheme ++ ':' :: '/' :: '/' :: authority) ∧
      (∀ c ∈ scheme, isSchemeChar c = true) ∧
      ∀ c ∈ authority, 32 < c.toNat ∧ c ≠ '/' ∧ c ≠ '\\' ∧ c ≠ '?' ∧ c ≠ '#'

/-- What is read as the address of something that is asked over HTTP. -/
theorem parseWeb_eq_ok_iff {s : String} {url : Url} :
    parseWeb s = .ok url ↔ parse s = .ok url ∧ (url.scheme = "http" ∨ url.scheme = "https") := by
  rw [parseWeb, Outcome.bind_eq_ok_iff]
  constructor
  · rintro ⟨read, hread, h⟩
    split_ifs at h with hscheme
    obtain rfl := Except.ok.inj h
    exact ⟨hread, hscheme⟩
  · rintro ⟨hread, hscheme⟩
    exact ⟨url, hread, if_pos hscheme⟩

/-- Behind the scheme of what is asked over HTTP stands a server. -/
theorem ne_nil_of_readHierarchy {scheme : String} (hweb : scheme = "http" ∨ scheme = "https")
    {authority : List Char} {server : Url}
    (h : readHierarchy scheme ('/' :: '/' :: authority) = .ok server) : authority ≠ [] := by
  rintro rfl
  obtain rfl | rfl := hweb
  · cases h
  · cases h

/-- Behind the scheme of what is asked over HTTP stands a server, and its path behind it. -/
theorem readHierarchy_append {scheme : String} (hweb : scheme = "http" ∨ scheme = "https")
    {authority path : List Char} {server : Url}
    (hauthority : ∀ c ∈ authority, isSlash true c = false)
    (hpath : ∀ c ∈ path.head?, isSlash true c = true)
    (h : readHierarchy scheme ('/' :: '/' :: authority) = .ok server) :
    readHierarchy scheme ('/' :: '/' :: (authority ++ path)) =
      .ok { server with path := pathBehindServer true path } := by
  have hserver (cs : List Char) :
      readHierarchy scheme ('/' :: '/' :: cs) =
        readServer scheme true (cs.dropWhile (isSlash true)) := by
    obtain rfl | rfl := hweb
    · rfl
    · rfl
  cases authority with
  | nil => exact absurd rfl (ne_nil_of_readHierarchy hweb h)
  | cons c authority =>
      have hc : ¬ isSlash true c = true := Bool.eq_false_iff.mp (hauthority c List.mem_cons_self)
      rw [hserver, List.dropWhile_cons_of_neg hc] at h
      rw [hserver, List.cons_append, List.dropWhile_cons_of_neg hc, ← List.cons_append,
        readServer_append hauthority hpath, h]
      rfl

namespace IsServer

variable {address : String} {server : Url}

/-- The parts of a server's address, and what is read from them. -/
theorem exists_hierarchy (h : IsServer address server) : ∃ scheme authority : List Char,
    address = String.ofList (scheme ++ ':' :: '/' :: '/' :: authority) ∧
      (∀ c ∈ scheme, isSchemeChar c = true) ∧
      (∀ c ∈ authority, isSlash true c = false ∧ 32 < c.toNat ∧ c ≠ '?' ∧ c ≠ '#') ∧
      ∃ name url, splitScheme? (scheme ++ [':']) = some name ∧
        readHierarchy name.1 ('/' :: '/' :: authority) = .ok url ∧
        { url with query := none, fragment := none } = server := by
  obtain ⟨scheme, authority, rfl, hscheme, hauthority⟩ := h.exists_parts
  have hserver : ∀ c ∈ authority, isSlash true c = false ∧ 32 < c.toNat ∧ c ≠ '?' ∧ c ≠ '#' := by
    intro c hc
    obtain ⟨hshown, hslash, hbackslash, hmarks⟩ := hauthority c hc
    rw [isSlash, beq_false_of_ne hslash, beq_false_of_ne hbackslash]
    exact ⟨rfl, hshown, hmarks⟩
  have hbehind : ∀ c ∈ '/' :: '/' :: authority, 32 < c.toNat ∧ c ≠ '?' ∧ c ≠ '#' := by
    simp only [List.forall_mem_cons]
    exact ⟨by decide, by decide, fun c hc => (hserver c hc).2⟩
  have hread := (parseWeb_eq_ok_iff.mp h.parseWeb_eq).1
  rw [parse_eq hscheme hbehind] at hread
  refine ⟨scheme, authority, rfl, hscheme, hserver, ?_⟩
  generalize splitScheme? (scheme ++ [':']) = name? at hread ⊢
  cases name? with
  | none => cases hread
  | some name =>
      obtain ⟨url, hurl, hserver⟩ := Outcome.map_eq_ok_iff.mp hread
      exact ⟨name, url, rfl, hurl, hserver⟩

/-- The address of a server does not end in a slash. -/
theorem getLast?_ne (h : IsServer address server) : ∀ c ∈ address.toList.getLast?, c ≠ '/' := by
  have hweb := (parseWeb_eq_ok_iff.mp h.parseWeb_eq).2
  obtain ⟨scheme, authority, rfl, -, hauthority, name, url, -, hurl, rfl⟩ := h.exists_hierarchy
  dsimp only at hweb
  rw [readHierarchy_scheme hurl] at hweb
  have hne := ne_nil_of_readHierarchy hweb hurl
  intro c hc
  rw [String.toList_ofList, List.append_cons, List.append_cons, List.append_cons,
    List.getLast?_append_of_ne_nil _ hne] at hc
  rintro rfl
  exact absurd (hauthority '/' (List.mem_of_getLast? hc)).1 (by decide)

/-- What a server is asked, at a path, is the path. -/
theorem target_eq (h : IsServer address server) (path : String) :
    ({ server with path := path } : Url).target = path := by
  obtain ⟨_, _, -, -, -, _, _, -, -, rfl⟩ := h.exists_hierarchy
  exact String.append_empty

/-- The address of a server with a path is read as the server's, with the path. -/
theorem parseWeb_path (h : IsServer address server) {path : List Char}
    (hpath : ∀ c ∈ path, 32 < c.toNat ∧ c ≠ '?' ∧ c ≠ '#')
    (hslash : ∀ c ∈ path.head?, isSlash true c = true) :
    parseWeb (address ++ String.ofList path) =
      .ok { server with path := pathBehindServer true path } := by
  have hweb := (parseWeb_eq_ok_iff.mp h.parseWeb_eq).2
  obtain ⟨scheme, authority, rfl, hscheme, hauthority, name, url, hname, hurl, rfl⟩ :=
    h.exists_hierarchy
  have hbehind : ∀ c ∈ '/' :: '/' :: (authority ++ path), 32 < c.toNat ∧ c ≠ '?' ∧ c ≠ '#' := by
    simp only [List.forall_mem_cons, List.forall_mem_append]
    exact ⟨by decide, by decide, fun c hc => (hauthority c hc).2, hpath⟩
  rw [parseWeb_eq_ok_iff, ← String.ofList_append, List.append_assoc, List.cons_append,
    List.cons_append, List.cons_append, parse_eq hscheme hbehind, hname]
  dsimp only at hweb ⊢
  refine ⟨?_, hweb⟩
  rw [readHierarchy_scheme hurl] at hweb
  rw [readHierarchy_append hweb (fun c hc => (hauthority c hc).1) hslash hurl]
  rfl

/-- **The address of a server with a plain path behind it** is read as the server's, with the path
as it is. -/
theorem parseWeb_append (h : IsServer address server) {piece : List Char}
    {pieces : List (List Char)} (hplain : ArePlain (piece :: pieces)) :
    parseWeb (address ++ String.ofList (pathChars (piece :: pieces))) =
      .ok { server with path := String.ofList (pathChars (piece :: pieces)) } := by
  have hpath : ∀ c ∈ pathChars (piece :: pieces), 32 < c.toNat ∧ c ≠ '?' ∧ c ≠ '#' := by
    intro c hc
    obtain rfl | hc := of_mem_pathChars hplain c hc
    · decide
    · have hrange := Text.isPlain_iff.mp hc
      exact ⟨by omega, hc.ne (by decide), hc.ne (by decide)⟩
  have hslash : ∀ c ∈ (pathChars (piece :: pieces)).head?, isSlash true c = true := by
    rintro _ ⟨⟩
    rfl
  rw [h.parseWeb_path hpath hslash, pathBehindServer_pathChars hplain]

end IsServer

end GuardianRelay.Http.Url
