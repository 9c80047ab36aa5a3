/-!
# JSON values

Documents that nodes, lookups and callers exchange. Integers are exact; other numbers are kept as they are written,
because nothing here computes with them. The members of an object stand in the order of their names, and a name
stands once: of several members with one name the last counts.
-/

namespace GuardianRelay

/-- A JSON document. -/
inductive Json where
  | null
  | bool (value : Bool)
  | integer (value : Int)
  /-- A number that is written with a fraction or an exponent, or as minus zero. -/
  | decimal (text : String)
  | string (value : String)
  | array (items : List Json)
  | object (members : List (String × Json))
deriving Inhabited

namespace Json

/-- Puts a member among others, in the order of names and in the place of one with its name. -/
def insertMember (name : String) (value : Json) : List (String × Json) → List (String × Json)
  | [] => [(name, value)]
  | (other, old) :: rest =>
    if name = other then (name, value) :: rest
    else if name < other then (name, value) :: (other, old) :: rest
    else (other, old) :: insertMember name value rest

/-- The object with these members. -/
def ofMembers (members : List (String × Json)) : Json :=
  object (members.foldl (fun all (name, value) => insertMember name value all) [])

/-- The member of an object with a name. -/
def get? (name : String) : Json → Option Json
  | object members => members.lookup name
  | _ => none

/-- The text, if the document is one. -/
def string? : Json → Option String
  | string value => some value
  | _ => none

/-- The items, if the document is an array. -/
def array? : Json → Option (List Json)
  | array items => some items
  | _ => none

/-- Whether the document is `null`. -/
def isNull : Json → Bool
  | null => true
  | _ => false

/-- The integer, if the document is one that is not negative and has at most `bits` bits. -/
def natural? (bits : Nat) : Json → Option Nat
  | integer value => if 0 ≤ value ∧ value < Nat.pow 2 bits then some value.toNat else none
  | _ => none

/-- A whole number as a document. -/
def ofNat (n : Nat) : Json := integer n

end Json

end GuardianRelay
