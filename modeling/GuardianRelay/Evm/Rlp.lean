import GuardianRelay.Bytes

/-!
# Recursive length prefix

Contract-model chains write nested lists of byte strings with a prefix for the kind and the length of each item. A
single octet below 128 is its own item; numbers are written without leading zeros.
-/

namespace GuardianRelay.Rlp

/-- What can be written. -/
inductive Item where
  | bytes (b : Bytes)
  | list (items : List Item)

/-- The octets of a number, most significant first and without leading zeros. -/
def natural (n : Nat) : Bytes :=
  (go n).reverse
where
  /-- The octets, least significant first. -/
  go (n : Nat) : Bytes := if _h : n = 0 then [] else UInt8.ofNat n :: go (n / 256)
  termination_by n
  decreasing_by omega

/-- The item of a number. -/
def Item.ofNat (n : Nat) : Item := .bytes (natural n)

/-- The prefix of a content of some length; `base` tells byte strings from lists. -/
def lengthPrefix (base length : Nat) : Bytes :=
  if length ≤ 55 then [UInt8.ofNat (base + length)]
  else
    let octets := natural length
    UInt8.ofNat (base + 55 + octets.length) :: octets

/-- A byte string with its prefix. -/
def encodeBytes (b : Bytes) : Bytes :=
  match b with
  | [x] => if x < 128 then [x] else lengthPrefix 128 1 ++ [x]
  | _ => lengthPrefix 128 b.length ++ b

mutual

/-- The written form of an item. -/
def Item.encode : Item → Bytes
  | .bytes b => encodeBytes b
  | .list items =>
    let content := encodeItems items
    lengthPrefix 192 content.length ++ content

/-- The written forms of items, one after the other. -/
def encodeItems : List Item → Bytes
  | [] => []
  | item :: rest => item.encode ++ encodeItems rest

end

end GuardianRelay.Rlp
