/-!
# Trees of files

Files as a machine keeps them, in folders under one root, and how the path of a file is followed: from the root if it
starts with a slash, from the working folder otherwise, one name after the other. With a tree in the place of its files
a command is carried out, and reasoned about, without a machine.
-/

namespace GuardianRelay.CommandLine

/-- Why a file cannot be read. -/
inductive FileFault where
  /-- There is nothing at the path. -/
  | missing
  /-- The path goes on behind a file. -/
  | notFolder
  /-- The path ends at a folder. -/
  | folder
  /-- The path, or a name in it, is longer than machines take. -/
  | tooLong
  /-- The path holds the octet that ends paths. -/
  | zeroOctet
  /-- What the file holds is no text. -/
  | notText
deriving DecidableEq, Repr

/-- What a machine says of a file that cannot be read. -/
def FileFault.message : FileFault → String
  | .missing => "No such file or directory (os error 2)"
  | .notFolder => "Not a directory (os error 20)"
  | .folder => "Is a directory (os error 21)"
  | .tooLong => "File name too long (os error 36)"
  | .zeroOctet => "file name contained an unexpected NUL byte"
  | .notText => "stream did not contain valid UTF-8"

/-- The place of a file or of a folder: the names of the folders that lead to it from the root, and its own. -/
abbrev Place := List String

/-- Files under one root. -/
structure FileTree where
  /-- The files and what they hold. -/
  files : List (Place × String)
  /-- The folder at which paths start that do not start at the root. -/
  working : Place

namespace FileTree

/-- What stands at a place. -/
inductive Entry where
  | folder
  | file (text : String)
deriving DecidableEq, Repr

/-- The entry at a place. Every place on the way to a file or to the working folder is a folder. -/
def entry? (tree : FileTree) (place : Place) : Option Entry :=
  match tree.files.lookup place with
  | some text => some (.file text)
  | none =>
    if place.isPrefixOf tree.working || tree.files.any fun (other, _) => place.isPrefixOf other then some .folder
    else none

/-- How long a name may be, in octets. -/
def maxName : Nat := 255

/-- How long a path may be, in octets. -/
def maxPath : Nat := 4095

/-- The place that a name in a path leads to from a folder. -/
def step (tree : FileTree) (place : Place) (name : String) : Except FileFault Place :=
  if name.isEmpty ∨ name = "." then .ok place
  else if name = ".." then .ok place.dropLast
  else if maxName < name.utf8ByteSize then .error .tooLong
  else if (tree.entry? (place ++ [name])).isNone then .error .missing
  else .ok (place ++ [name])

/-- Follows the names of a path. -/
def follow (tree : FileTree) (place : Place) : List String → Except FileFault Place
  | [] => .ok place
  | name :: rest => do
    if let some (.file _) := tree.entry? place then throw .notFolder
    follow tree (← tree.step place name) rest

/-- The place at which a path starts. -/
def start (tree : FileTree) (path : String) : Place := if path.startsWith "/" then [] else tree.working

/-- The text of the file at a path. -/
def read (tree : FileTree) (path : String) : Except FileFault String := do
  if path.toList.contains '\x00' then throw .zeroOctet
  if maxPath < path.utf8ByteSize then throw .tooLong
  if path.isEmpty then throw .missing
  match tree.entry? (← tree.follow (tree.start path) (path.splitOn "/")) with
  | some (.file text) => return text
  | some .folder => throw .folder
  | none => throw .missing

/-- The tree of some files, which are named by their paths. -/
def ofFiles (working : Place) (files : List (String × String)) : FileTree where
  files := files.map fun (path, text) =>
    let names := (path.splitOn "/").filter fun name => ! name.isEmpty
    (if path.startsWith "/" then names else working ++ names, text)
  working := working

end FileTree

end GuardianRelay.CommandLine
