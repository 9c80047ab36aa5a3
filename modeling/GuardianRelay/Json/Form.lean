import GuardianRelay.Json.Basic
import GuardianRelay.Text.Quoted

/-!
# Documents of a wanted form

A reader takes a document apart that has the form it wants, and otherwise tells the first thing that is wrong with
it. A text that stands where something else is wanted is quoted in what is told, so a reason that a node gives in the
place of an answer is passed on.

A structure is read from an object or from the array of its fields. The members of an object are read in the order of
their names before one of them is missed, and members that the structure does not have do not count.
-/

namespace GuardianRelay.Json

/-- Why a document has not the wanted form. -/
inductive Misfit where
  /-- Something else was found. -/
  | kind (found wanted : String)
  /-- A number is none of those that are wanted. -/
  | number
  /-- An array has too few or too many items. -/
  | length (found : Nat) (wanted : String)
  /-- An object misses a member. -/
  | missing (name : String)
deriving DecidableEq, Repr

/-- The wording of a misfit. -/
def Misfit.message : Misfit → String
  | .kind found wanted => s!"invalid type: {found}, expected {wanted}"
  | .number => "invalid number"
  | .length found wanted => s!"invalid length {found}, expected {wanted}"
  | .missing name => s!"missing field {name}"

/-- What a document is, in the words of a misfit. -/
def description : Json → String
  | null => "null"
  | bool true => "boolean true"
  | bool false => "boolean false"
  | integer _ | decimal _ => "number"
  | string value => "string " ++ Text.quoteText value
  | array _ => "sequence"
  | object _ => "map"

/-- A reader of documents. -/
abbrev Reader (α : Type) := Json → Except Misfit α

namespace Reader

variable {α : Type}

/-- Tells that something else is wanted than what a document is. -/
def refuse (wanted : String) : Reader α := fun document => .error (.kind document.description wanted)

/-- Reads a text. -/
def text : Reader String
  | .string value => .ok value
  | document => refuse "a string" document

/-- Reads a whole number of at most `bits` bits that is not negative. -/
def natural (bits : Nat) : Reader Nat
  | .integer value => if 0 ≤ value ∧ value < Nat.pow 2 bits then .ok value.toNat else .error .number
  | .decimal _ => .error .number
  | document => refuse s!"a number of {bits} bits" document

/-- Reads something that may be null instead. -/
def optional (read : Reader α) : Reader (Option α)
  | .null => .ok none
  | document => (read document).map some

/-- Reads the items of an array. -/
def list (read : Reader α) : Reader (List α)
  | .array items => items.mapM read
  | document => refuse "a sequence" document

end Reader

/-! ### Fields of structures -/

variable {α : Type}

/-- Reads the member with a name, if there is one. -/
def member (members : List (String × Json)) (name : String) (read : Reader α) : Except Misfit (Option α) :=
  match members.lookup name with
  | none => .ok none
  | some document => (read document).map some

/-- What was read of a member that has to be there. -/
def required (name : String) : Option α → Except Misfit α
  | none => .error (.missing name)
  | some value => .ok value

/-- Reads the item at a place of an array that gives the fields of a structure. -/
def item (items : List Json) (place : Nat) (wanted : String) (read : Reader α) : Except Misfit α :=
  match items[place]? with
  | none => .error (.length place wanted)
  | some document => read document

/-- Reads the item at a place, which may be left out. -/
def itemOr (default : α) (items : List Json) (place : Nat) (read : Reader α) : Except Misfit α :=
  match items[place]? with
  | none => .ok default
  | some document => read document

/-- Checks that an array has no more items than a structure has fields. -/
def atMost (fields : Nat) (items : List Json) : Except Misfit Unit :=
  if items.length ≤ fields then .ok () else .error (.length items.length "fewer elements in array")

end GuardianRelay.Json
