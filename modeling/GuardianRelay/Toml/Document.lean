import GuardianRelay.Toml.Value

/-!
# Configuration texts

A text is a sequence of lines: entries, and headers that say to which table the entries after them belong. No table is
given twice: a header may name a table once, unless the table exists only because it holds others; and the parts of a
key may extend a table that arose from keys, but not one that a header named.
-/

namespace GuardianRelay.Toml

/-- How a table came about. -/
inductive Origin where
  /-- A header named it. -/
  | header
  /-- A header named a table in it. -/
  | implied
  /-- It arose from the parts of a key. -/
  | keys
deriving DecidableEq, Repr

/-- A part of a document. -/
inductive Node where
  | value (value : Value)
  | table (origin : Origin) (entries : List (String × Node))
  /-- Tables under one name, each with a header of its own, in order. -/
  | tables (items : List (List (String × Node)))

mutual

/-- The value of a part. -/
def Node.toValue : Node → Value
  | .value v => v
  | .table _ entries => .table (Node.toEntries entries)
  | .tables items => .list (Node.toTables items)

/-- The values of entries. -/
def Node.toEntries : List (String × Node) → List (String × Value)
  | [] => []
  | (key, node) :: rest => (key, node.toValue) :: Node.toEntries rest

/-- The values of tables under one name. -/
def Node.toTables : List (List (String × Node)) → List Value
  | [] => []
  | entries :: rest => .table (Node.toEntries entries) :: Node.toTables rest

end

/-- The entries of a table. -/
abbrev Entries := List (String × Node)

/-- Changes the table at the end of a path; tables on the way that do not exist arise, of tables under one name the
last is meant. The way of a key may not lead through a table that a header named. -/
def descend? (byKey : Bool) (change : Origin → Entries → Option Entries) :
    List String → Origin → Entries → Option Entries
  | [], origin, entries => change origin entries
  | key :: path, _, entries =>
    match entries.lookup key with
    | none =>
      let origin := if byKey then .keys else .implied
      (descend? byKey change path origin []).map fun sub => entries ++ [(key, .table origin sub)]
    | some (.value _) => none
    | some (.tables items) =>
      match items.getLast? with
      | none => none
      | some last =>
        (descend? byKey change path .header last).map fun sub =>
          putEntry key (.tables (items.dropLast ++ [sub])) entries
    | some (.table origin sub) =>
      if byKey ∧ origin = .header then none
      else (descend? byKey change path origin sub).map fun sub => putEntry key (.table origin sub) entries

/-- Adds an entry to a table at a key that has none yet. Where the key had parts, its table has to be one that arose
from keys, and else one that did not. -/
def addItem? (parts : Bool) (key : String) (value : Value) (origin : Origin) (entries : Entries) : Option Entries :=
  if (origin = .keys) = parts then
    match entries.lookup key with
    | none => some (entries ++ [(key, .value value)])
    | some _ => none
  else none

/-- Opens a table that a header names. -/
def openTable? (key : String) (_ : Origin) (entries : Entries) : Option Entries :=
  match entries.lookup key with
  | none => some (entries ++ [(key, .table .header [])])
  | some (.table .implied sub) => some (putEntry key (.table .header sub) entries)
  | some _ => none

/-- Opens the next of the tables under one name. -/
def openNext? (key : String) (_ : Origin) (entries : Entries) : Option Entries :=
  match entries.lookup key with
  | none => some (entries ++ [(key, .tables [[]])])
  | some (.tables items) => some (putEntry key (.tables (items ++ [[]])) entries)
  | some _ => none

/-- A document while it is read. -/
structure Draft where
  root : Entries
  /-- The table to which entries are added. -/
  path : List String

namespace Draft

/-- A key of several parts as the path to its table and its last part. -/
def splitLast : String → List String → List String × String
  | key, [] => ([], key)
  | first, second :: more =>
    let (path, key) := splitLast second more
    (first :: path, key)

/-- Adds an entry to the table of the last header. -/
def entry? (draft : Draft) (first : String) (more : List String) (value : Value) : Option Draft :=
  let (path, key) := splitLast first more
  let add (origin : Origin) (entries : Entries) : Option Entries :=
    descend? true (addItem? (! path.isEmpty) key value) path origin entries
  (descend? false add draft.path .header draft.root).map fun root => { draft with root }

/-- Goes on with the table that a header names. -/
def header? (draft : Draft) (open? : String → Origin → Entries → Option Entries) (first : String)
    (more : List String) : Option Draft :=
  let (path, key) := splitLast first more
  (descend? false (open? key) path .header draft.root).map fun root => ⟨root, first :: more⟩

end Draft

/-- What follows the end of a line, before which blanks and a comment may stand. The end of the text ends a line. -/
def afterLine? (cs : List Char) : Option (List Char) :=
  match skipComment (skipBlanks cs) with
  | [] => some []
  | rest => afterNewline? rest

/-- Reads the first line, if it holds something, and adds it to a document. -/
def line (draft : Draft) (cs : List Char) : Option (Draft × List Char) :=
  match cs with
  | '[' :: '[' :: rest =>
    match key? maxDepth rest with
    | some ((first, more), ']' :: ']' :: rest) => do
      return (← draft.header? openNext? first more, ← afterLine? rest)
    | _ => none
  | '[' :: rest =>
    match key? maxDepth rest with
    | some ((first, more), ']' :: rest) => do return (← draft.header? openTable? first more, ← afterLine? rest)
    | _ => none
  | cs =>
    match key? maxDepth cs with
    | some ((first, more), '=' :: rest) => do
      let (value, rest) ← value? (2 * rest.length + 2) maxDepth (skipBlanks rest)
      return (← draft.entry? first more value, ← afterLine? rest)
    | _ => none

/-- Reads lines. Each step takes a line. -/
def document? : Nat → Draft → List Char → Option Draft
  | 0, _, _ => none
  | fuel + 1, draft, cs =>
    match skipComment (skipBlanks cs) with
    | [] => some draft
    | c :: rest =>
      match afterNewline? (c :: rest) with
      | some rest => document? fuel draft rest
      | none =>
        match line draft (skipBlanks cs) with
        | some (draft, rest) => document? fuel draft rest
        | none => none

/-- The table that a text writes, if it is well formed. A mark of the byte order may stand in front. -/
def parse? (s : String) : Option Value :=
  let cs := match s.toList with
    | '\ufeff' :: rest => rest
    | cs => cs
  (document? (cs.length + 1) ⟨[], []⟩ cs).map fun draft => .table (Node.toEntries draft.root)

end GuardianRelay.Toml
