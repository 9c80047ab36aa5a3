import GuardianRelay.Evm.Rlp
import GuardianRelay.Proofs.Bytes

/-!
# Reading Nested Lists

A reader takes a written item apart without knowing what was written: the first octet tells the
kind of an item and either its length or the length of its length. There is one written form of an
item, so the reader refuses a prefix that is not needed, a length that is written too long, and
zeros in front of a length. This module gives the reader and shows that it reads what is written,
as long as no content is longer than a length of eight octets can say.

## Main results

* `toNatBE_natural`, `length_natural_le`, `head?_natural_ne`: numbers are written in as few octets
  as they need.
* `next?_encode_append`: the first of several items is found where it is written.
* `decodeItems?_encodeItems`, `Item.decode?_encode`: items are read where they are written.
-/

namespace GuardianRelay.Rlp

/-! ### Numbers -/

/-- Zero has no octets. -/
theorem go_zero : natural.go 0 = [] := by
  rw [natural.go, dif_pos rfl]

/-- A number that is not zero has its lowest octet, and those of what is above it. -/
theorem go_of_ne_zero {n : ℕ} (h : n ≠ 0) :
    natural.go n = UInt8.ofNat n :: natural.go (n / 256) := by
  rw [natural.go, dif_neg h]

/-- The octets of a number stand for it, least significant first. -/
theorem toNatLE_go (n : ℕ) : Bytes.toNatLE (natural.go n) = n := by
  induction n using natural.go.induct with
  | case1 =>
      rw [go_zero]
      rfl
  | case2 n hn ih =>
      rw [go_of_ne_zero hn, Bytes.toNatLE, ih, UInt8.toNat_ofNat']
      omega

/-- The written octets stand for the number. -/
@[simp] theorem toNatBE_natural (n : ℕ) : Bytes.toNatBE (natural n) = n := by
  rw [natural, Bytes.toNatBE_eq_toNatLE_reverse, List.reverse_reverse, toNatLE_go]

/-- Only zero is written without octets. -/
theorem natural_eq_nil_iff {n : ℕ} : natural n = [] ↔ n = 0 := by
  constructor
  · intro h
    rw [← toNatBE_natural n, h]
    rfl
  · rintro rfl
    rw [natural, go_zero]
    rfl

/-- A number that some octets can hold is written in no more of them. -/
theorem length_natural_le {n k : ℕ} (h : n < 256 ^ k) : (natural n).length ≤ k := by
  rw [natural, List.length_reverse]
  induction k generalizing n with
  | zero =>
      obtain rfl : n = 0 := Nat.lt_one_iff.mp h
      rw [go_zero]
      exact Nat.le_refl 0
  | succ k ih =>
      obtain rfl | hn := eq_or_ne n 0
      · rw [go_zero]
        exact Nat.zero_le _
      · rw [pow_succ] at h
        rw [go_of_ne_zero hn]
        exact Nat.succ_le_succ (ih (by omega))

/-- The first octet of a number is not zero. -/
theorem head?_natural_ne (n : ℕ) : (natural n).head? ≠ some 0 := by
  rw [natural, List.head?_reverse]
  induction n using natural.go.induct with
  | case1 =>
      rw [go_zero]
      nofun
  | case2 n hn ih =>
      rw [go_of_ne_zero hn]
      obtain hhigh | hhigh := eq_or_ne (n / 256) 0
      · -- the octet is the whole number
        rw [hhigh, go_zero, List.getLast?_singleton, Ne, Option.some.injEq]
        intro hzero
        have hoctet : (UInt8.ofNat n).toNat = 0 := congrArg UInt8.toNat hzero
        rw [UInt8.toNat_ofNat'] at hoctet
        omega
      · rwa [List.getLast?_cons_of_ne_nil]
        rw [go_of_ne_zero hhigh]
        nofun

/-! ### Reading -/

/-- Takes so many octets off the front. -/
def split? (n : ℕ) (b : Bytes) : Option (Bytes × Bytes) :=
  if n ≤ b.length then some (b.take n, b.drop n) else none

/-- The content that the number behind a kind announces, and what follows it: up to 55 is a length,
and more tells how many octets a longer length takes. -/
def content? (announced : ℕ) (b : Bytes) : Option (Bytes × Bytes) :=
  if announced ≤ 55 then split? announced b
  else do
    let (octets, b) ← split? (announced - 55) b
    guard (octets.head? ≠ some 0 ∧ 55 < Bytes.toNatBE octets)
    split? (Bytes.toNatBE octets) b

/-- What the first item is made of. -/
inductive Shape where
  | bytes (content : Bytes)
  | list (content : Bytes)

/-- Takes the first item off the front. A prefix before a single octet below 128 is not needed. -/
def next? : Bytes → Option (Shape × Bytes)
  | [] => none
  | x :: b =>
    if x.toNat < 128 then some (.bytes [x], b)
    else if x.toNat < 192 then do
      let (content, b) ← content? (x.toNat - 128) b
      guard (content.length = 1 → 128 ≤ (content.headD 0).toNat)
      return (.bytes content, b)
    else do
      let (content, b) ← content? (x.toNat - 192) b
      return (.list content, b)

/-- Reads items to the end, with lists in them. An item and what follows it are shorter than the
whole, so no more than `fuel` octets are read. -/
def decodeItems? : ℕ → Bytes → Option (List Item)
  | _, [] => some []
  | 0, _ => none
  | fuel + 1, b => do
    let (shape, b) ← next? b
    let first ← match shape with
      | .bytes content => some (.bytes content)
      | .list content => (decodeItems? fuel content).map .list
    let later ← decodeItems? fuel b
    return first :: later

/-- Reads octets that are one item, and nothing else. -/
def Item.decode? (b : Bytes) : Option Item :=
  match decodeItems? b.length b with
  | some [item] => some item
  | _ => none

/-! ### Reading what is written -/

/-- Octets are taken where they stand. -/
theorem split?_append (b rest : Bytes) : split? b.length (b ++ rest) = some (b, rest) := by
  rw [split?, if_pos (by simp), List.take_left, List.drop_left]

/-- A prefix announces the content that follows it. -/
theorem exists_lengthPrefix_append {base : ℕ} (hbase : base + 64 ≤ 256) {content : Bytes}
    (hlength : content.length < 256 ^ 8) (rest : Bytes) :
    ∃ x more, lengthPrefix base content.length ++ (content ++ rest) = x :: more ∧
      base ≤ x.toNat ∧ x.toNat < base + 64 ∧
      content? (x.toNat - base) more = some (content, rest) := by
  rw [lengthPrefix]
  split
  next hshort =>
    have hx : (UInt8.ofNat (base + content.length)).toNat = base + content.length :=
      UInt8.toNat_ofNat_of_lt (show _ < 256 by omega)
    refine ⟨_, _, List.singleton_append, by omega, by omega, ?_⟩
    rw [hx, Nat.add_sub_cancel_left, content?, if_pos hshort, split?_append]
  next hlong =>
    have hoctets : (natural content.length).length ≤ 8 := length_natural_le hlength
    have hsome : 0 < (natural content.length).length := by
      rw [List.length_pos_iff, Ne, natural_eq_nil_iff]
      omega
    have hx : (UInt8.ofNat (base + 55 + (natural content.length).length)).toNat =
        base + 55 + (natural content.length).length :=
      UInt8.toNat_ofNat_of_lt (show _ < 256 by omega)
    refine ⟨_, _, List.cons_append, by omega, by omega, ?_⟩
    have hannounced : base + 55 + (natural content.length).length - base - 55 =
        (natural content.length).length := by omega
    have hcanonical : (natural content.length).head? ≠ some 0 ∧
        55 < Bytes.toNatBE (natural content.length) :=
      ⟨head?_natural_ne _, by rw [toNatBE_natural]; omega⟩
    rw [hx, content?, if_neg (by omega), hannounced, split?_append]
    simp only [Option.bind_eq_bind, Option.bind_some, guard, if_pos hcanonical]
    rw [toNatBE_natural]
    exact split?_append content rest

/-- A byte string with a prefix is found where it is written, if it needs the prefix. -/
theorem next?_bytes_append {content : Bytes} (hlength : content.length < 256 ^ 8)
    (hneeded : content.length = 1 → 128 ≤ (content.headD 0).toNat) (rest : Bytes) :
    next? (lengthPrefix 128 content.length ++ (content ++ rest)) =
      some (.bytes content, rest) := by
  obtain ⟨x, more, heq, hlow, hhigh, hcontent⟩ :=
    exists_lengthPrefix_append (show 128 + 64 ≤ 256 by decide) hlength rest
  rw [heq, next?, if_neg (by omega), if_pos (by omega), hcontent]
  simp only [Option.bind_eq_bind, Option.bind_some, guard, if_pos hneeded]
  rfl

/-- A list is found where it is written. -/
theorem next?_list_append {content : Bytes} (hlength : content.length < 256 ^ 8)
    (rest : Bytes) :
    next? (lengthPrefix 192 content.length ++ (content ++ rest)) =
      some (.list content, rest) := by
  obtain ⟨x, more, heq, hlow, hhigh, hcontent⟩ :=
    exists_lengthPrefix_append (show 192 + 64 ≤ 256 by decide) hlength rest
  rw [heq, next?, if_neg (by omega), if_neg (by omega), hcontent]
  rfl

/-- A byte string is found where it is written. -/
theorem next?_encodeBytes_append {b : Bytes} (hlength : b.length < 256 ^ 8) (rest : Bytes) :
    next? (encodeBytes b ++ rest) = some (.bytes b, rest) := by
  unfold encodeBytes
  split
  next x =>
    split
    next hsmall => exact if_pos (UInt8.lt_iff_toNat_lt.mp hsmall)
    next hlarge =>
      have hneeded : 128 ≤ x.toNat := Nat.le_of_not_lt fun h => hlarge (UInt8.lt_iff_toNat_lt.mpr h)
      rw [List.append_assoc]
      exact next?_bytes_append hlength (fun _ => hneeded) rest
  next hsingle =>
    rw [List.append_assoc]
    refine next?_bytes_append hlength (fun hone => ?_) rest
    obtain ⟨y, rfl⟩ := List.length_eq_one_iff.mp hone
    exact absurd rfl (hsingle y)

/-- A prefix is not empty. -/
theorem length_lengthPrefix_pos {base length : ℕ} : 0 < (lengthPrefix base length).length := by
  rw [lengthPrefix]
  split <;> exact Nat.succ_pos _

/-- A written byte string is not empty. -/
theorem length_encodeBytes_pos (b : Bytes) : 0 < (encodeBytes b).length := by
  have hprefix : 0 < (lengthPrefix 128 b.length).length := length_lengthPrefix_pos
  unfold encodeBytes
  split
  · split
    · exact Nat.one_pos
    · exact Nat.succ_pos _
  · rw [List.length_append]
    omega

/-- A written item is not empty. -/
theorem length_encode_pos (item : Item) : 0 < item.encode.length := by
  cases item with
  | bytes b => exact length_encodeBytes_pos b
  | list items =>
      rw [Item.encode, List.length_append]
      exact Nat.add_pos_left length_lengthPrefix_pos _

/-- A byte string is no longer than its written form. -/
theorem length_le_length_encodeBytes (b : Bytes) : b.length ≤ (encodeBytes b).length := by
  unfold encodeBytes
  split
  · split
    · exact Nat.le_refl _
    · exact Nat.le_add_left _ _
  · rw [List.length_append]
    exact Nat.le_add_left _ _

/-- A prefix is short. -/
theorem length_lengthPrefix_le {base length : ℕ} (h : length < 256 ^ 8) :
    (lengthPrefix base length).length ≤ 9 := by
  have hoctets : (natural length).length ≤ 8 := length_natural_le h
  rw [lengthPrefix]
  split
  · exact Nat.le_add_left 1 8
  · exact Nat.succ_le_succ hoctets

/-- A written byte string is not much longer than the string. -/
theorem length_encodeBytes_le {b : Bytes} (h : b.length < 256 ^ 8) :
    (encodeBytes b).length ≤ b.length + 9 := by
  have hprefix : (lengthPrefix 128 b.length).length ≤ 9 := length_lengthPrefix_le h
  unfold encodeBytes
  split
  · split
    · simp
    · simp only [List.length_append, List.length_singleton] at hprefix ⊢
      omega
  · rw [List.length_append]
    omega

variable {b content rest : Bytes} {inner later : List Item} {fuel : ℕ}

/-- A byte string is read before what follows it. -/
theorem decodeItems?_of_bytes (h : next? b = some (.bytes content, rest))
    (hlater : decodeItems? fuel rest = some later) :
    decodeItems? (fuel + 1) b = some (.bytes content :: later) := by
  cases b with
  | nil => contradiction
  | cons x b => simp [decodeItems?, h, hlater]

/-- A list is read, with what is in it, before what follows it. -/
theorem decodeItems?_of_list (h : next? b = some (.list content, rest))
    (hinner : decodeItems? fuel content = some inner)
    (hlater : decodeItems? fuel rest = some later) :
    decodeItems? (fuel + 1) b = some (.list inner :: later) := by
  cases b with
  | nil => contradiction
  | cons x b => simp [decodeItems?, h, hinner, hlater]

/-- Items are read where they are written, also the lists in them. -/
theorem decodeItems?_encodeItems {items : List Item}
    (hlength : (encodeItems items).length < 256 ^ 8)
    (hfuel : (encodeItems items).length ≤ fuel) :
    decodeItems? fuel (encodeItems items) = some items := by
  -- what is inside a list and what follows an item are both shorter than the whole
  induction fuel generalizing items with
  | zero =>
      cases items with
      | nil => rfl
      | cons item later =>
          have hpos := length_encode_pos item
          rw [encodeItems, List.length_append] at hfuel
          omega
  | succ fuel ih =>
      cases items with
      | nil => rfl
      | cons item later =>
          have hpos := length_encode_pos item
          rw [encodeItems, List.length_append] at hlength hfuel
          rw [encodeItems]
          have hlater : decodeItems? fuel (encodeItems later) = some later :=
            ih (by omega) (by omega)
          cases item with
          | bytes b =>
              rw [Item.encode] at hlength ⊢
              have hcontent := length_le_length_encodeBytes b
              exact decodeItems?_of_bytes (next?_encodeBytes_append (by omega) _) hlater
          | list inner =>
              rw [Item.encode, List.length_append] at hlength hfuel
              rw [Item.encode, List.append_assoc]
              have hprefix : 0 < (lengthPrefix 192 (encodeItems inner).length).length :=
                length_lengthPrefix_pos
              exact decodeItems?_of_list (next?_list_append (by omega) _)
                (ih (by omega) (by omega)) hlater

/-- An item is read where it is written. -/
theorem Item.decode?_encode {item : Item} (hlength : item.encode.length < 256 ^ 8) :
    decode? item.encode = some item := by
  have hone : encodeItems [item] = item.encode := by
    rw [encodeItems, encodeItems, List.append_nil]
  have hitems : decodeItems? item.encode.length (encodeItems [item]) = some [item] :=
    decodeItems?_encodeItems (by rwa [hone]) (by rw [hone])
  rw [hone] at hitems
  rw [decode?, hitems]

end GuardianRelay.Rlp
