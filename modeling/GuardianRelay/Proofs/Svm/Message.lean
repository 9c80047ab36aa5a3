import GuardianRelay.Proofs.Outcome
import GuardianRelay.Svm.Message
import Mathlib.Data.List.Nodup
import Mathlib.Data.Nat.Notation

/-!
# Tables of Accounts, and When There Is a Message

A message names the accounts of its transaction by their positions in a table. The table is made
by adding one use after the other, and is then sorted. It holds each account once, the payer in
front. So the accounts of a transaction have positions, and unless there are too many of them or
somebody else has to sign, there is a message.

## Main results

* `mem_keys_accountTable`, `nodup_keys_accountTable`: the table holds the payer, the accounts of
  the transaction and its target, each once.
* `ne_payer_of_mem_tail`: behind the first entry there is no second one of the payer.
* `grants_accountTable`: what an account may do in the table, it may do in one of its uses.
* `writes_accountTable`, `isReadonly_getElem_iff`: which accounts may be written, and that those
  which are only read stand last.
* `alone_accountTable_iff`: when nobody but the payer has to sign.
* `exists_compile`, `exists_signTransaction`: transactions that have a message, and signers that
  sign it.
* `signTransaction_eq_ok_iff`: what a signer signs, and what is handed in.
-/

namespace GuardianRelay.Svm

variable {table uses : List AccountUse} {use : AccountUse} {key : Address}

/-! ### Adding uses -/

/-- The accounts of a table. -/
def keys (table : List AccountUse) : List Address := table.map (·.key)

/-- An account that is new to a table comes behind the others; one that is not stays where it is. -/
theorem keys_addUse :
    keys (addUse table use) =
      if use.key ∈ keys table then keys table else keys table ++ [use.key] := by
  have hany : table.any (·.key == use.key) = true ↔ use.key ∈ keys table := by
    simp [keys]
  rw [addUse]
  by_cases hmem : use.key ∈ keys table
  · rw [if_pos (hany.mpr hmem), if_pos hmem, keys, List.map_map]
    refine List.map_congr_left fun entry _ => ?_
    simp only [Function.comp_apply]
    split <;> rfl
  · rw [if_neg (hany.not.mpr hmem), if_neg hmem, keys, List.map_append]
    rfl

/-- A table has the account of a use that was added to it. -/
theorem mem_keys_addUse : key ∈ keys (addUse table use) ↔ key ∈ keys table ∨ key = use.key := by
  rw [keys_addUse]
  split
  next hmem => exact ⟨.inl, fun h => h.elim id (· ▸ hmem)⟩
  next => simp

/-- A table has the accounts of the uses that were added to it. -/
theorem mem_keys_foldl_addUse :
    key ∈ keys (uses.foldl addUse table) ↔ key ∈ keys table ∨ key ∈ keys uses := by
  induction uses generalizing table with
  | nil => simp [keys]
  | cons use uses ih =>
      rw [List.foldl_cons, ih, mem_keys_addUse, or_assoc]
      simp [keys]

/-- An account that is added again gets no second entry. -/
theorem nodup_keys_foldl_addUse (h : (keys table).Nodup) :
    (keys (uses.foldl addUse table)).Nodup := by
  induction uses generalizing table with
  | nil => exact h
  | cons use uses ih =>
      refine ih ?_
      rw [keys_addUse]
      split
      next => exact h
      next hmem => exact List.nodup_append_comm.mp (List.nodup_cons.mpr ⟨hmem, h⟩)

/-- Each use adds one entry at most. -/
theorem length_foldl_addUse_le :
    (uses.foldl addUse table).length ≤ table.length + uses.length := by
  induction uses generalizing table with
  | nil => exact Nat.le_refl _
  | cons use uses ih =>
      have hone : (addUse table use).length ≤ table.length + 1 := by
        rw [addUse]
        split <;> simp
      have hrest : (uses.foldl addUse (addUse table use)).length ≤
          (addUse table use).length + uses.length := ih
      rw [List.foldl_cons, List.length_cons]
      omega

/-- What an account may do with several uses is what it may do with one of them. -/
def Merges (right : AccountUse → Bool) : Prop :=
  ∀ (key : Address) (signs signs' writes writes' : Bool),
    right ⟨key, signs || signs', writes || writes'⟩ =
      (right ⟨key, signs, writes⟩ || right ⟨key, signs', writes'⟩)

/-- A table gives an account a right. -/
def Grants (right : AccountUse → Bool) (table : List AccountUse) (key : Address) : Prop :=
  ∃ use ∈ table, use.key = key ∧ right use

variable {right : AccountUse → Bool}

/-- A use that is added gives its account the rights that it gives by itself. -/
theorem grants_addUse (hright : Merges right) :
    Grants right (addUse table use) key ↔
      Grants right table key ∨ (use.key = key ∧ right use) := by
  obtain ⟨added, signs, writes⟩ := use
  rw [addUse]
  split
  next hany =>
    obtain ⟨old, hold, hkey⟩ := List.any_eq_true.mp hany
    rw [beq_iff_eq] at hkey
    constructor
    · rintro ⟨_, hmem, rfl, hgiven⟩
      obtain ⟨entry, hentry, rfl⟩ := List.mem_map.mp hmem
      split at hgiven
      next heq =>
        rw [if_pos heq]
        rw [hright, heq] at hgiven
        obtain hgiven | hgiven := Bool.or_eq_true_iff.mp hgiven
        · exact .inl ⟨entry, hentry, rfl, by rwa [← heq] at hgiven⟩
        · exact .inr ⟨heq.symm, hgiven⟩
      next hne =>
        rw [if_neg hne]
        exact .inl ⟨entry, hentry, rfl, hgiven⟩
    · rintro (⟨entry, hentry, rfl, hgiven⟩ | ⟨rfl, hgiven⟩)
      · refine ⟨_, List.mem_map_of_mem hentry, ?_⟩
        split
        next => exact ⟨rfl, by rw [hright, hgiven, Bool.true_or]⟩
        next => exact ⟨rfl, hgiven⟩
      · refine ⟨_, List.mem_map_of_mem hold, ?_⟩
        rw [if_pos hkey]
        exact ⟨hkey, by rw [hright, hkey, hgiven, Bool.or_true]⟩
  next =>
    constructor
    · rintro ⟨entry, hentry, rfl, hgiven⟩
      obtain hold | rfl := List.mem_append.mp hentry |>.imp_right List.mem_singleton.mp
      · exact .inl ⟨entry, hold, rfl, hgiven⟩
      · exact .inr ⟨rfl, hgiven⟩
    · rintro (⟨entry, hentry, rfl, hgiven⟩ | ⟨rfl, hgiven⟩)
      · exact ⟨entry, List.mem_append_left _ hentry, rfl, hgiven⟩
      · exact ⟨_, List.mem_append_right _ List.mem_cons_self, rfl, hgiven⟩

/-- A table gives an account a right if it did so before, or if one of the uses does that were added
to it. -/
theorem grants_foldl_addUse (hright : Merges right) :
    Grants right (uses.foldl addUse table) key ↔
      Grants right table key ∨ Grants right uses key := by
  induction uses generalizing table with
  | nil => simp [Grants]
  | cons use uses ih =>
      rw [List.foldl_cons, ih, grants_addUse hright, or_assoc]
      simp [Grants]

/-- Who has to sign for one use has to sign for all. -/
theorem merges_isSigner : Merges (·.isSigner) := fun _ _ _ _ _ => rfl

/-- What is written by one use is written. -/
theorem merges_isWritable : Merges (·.isWritable) := fun _ _ _ _ _ => rfl

/-- A table lets an account be written. -/
def Writes (table : List AccountUse) (key : Address) : Prop :=
  ∃ use ∈ table, use.key = key ∧ use.isWritable

/-! ### The sorted table -/

variable {transaction : UnsignedTransaction} {payer : Address}

/-- The uses from which the table is made. -/
def usesOf (transaction : UnsignedTransaction) : List AccountUse :=
  transaction.accounts ++ [.readonly transaction.target]

/-- Sorting leaves the entries. -/
theorem accountTable_perm :
    (accountTable transaction payer).Perm ((usesOf transaction).foldl addUse [.signer payer]) :=
  List.mergeSort_perm ..

/-- The table holds the payer, the accounts of the transaction, and its target. -/
theorem mem_keys_accountTable :
    key ∈ keys (accountTable transaction payer) ↔
      key = payer ∨ key ∈ keys transaction.accounts ∨ key = transaction.target := by
  rw [keys, (accountTable_perm.map _).mem_iff, ← keys, mem_keys_foldl_addUse]
  simp [keys, usesOf, AccountUse.signer, AccountUse.readonly, eq_comm]

/-- The table holds each account once. -/
theorem nodup_keys_accountTable : (keys (accountTable transaction payer)).Nodup :=
  (accountTable_perm.map _).nodup_iff.mpr (nodup_keys_foldl_addUse (List.nodup_singleton _))

/-- The table is no longer than it is without repetitions. -/
theorem length_accountTable_le :
    (accountTable transaction payer).length ≤ transaction.accounts.length + 2 := by
  have h : ((usesOf transaction).foldl addUse [.signer payer]).length ≤
      [AccountUse.signer payer].length + (usesOf transaction).length := length_foldl_addUse_le
  rw [accountTable_perm.length_eq]
  simp only [usesOf, List.length_append, List.length_singleton] at h ⊢
  omega

/-- Nobody but the payer stands at the first rank. -/
theorem rank_eq_zero_iff : rank payer use = 0 ↔ use.key = payer := by
  rw [rank]
  split
  next heq => exact iff_of_true rfl heq
  next hne =>
    refine iff_of_false ?_ hne
    split <;> decide

/-- The table is sorted. -/
theorem pairwise_accountTable :
    (accountTable transaction payer).Pairwise fun a b => rank payer a ≤ rank payer b := by
  have h := @List.pairwise_mergeSort AccountUse
    (fun a b => decide (rank payer a ≤ rank payer b))
    (fun a b c hab hbc => decide_eq_true
      (Nat.le_trans (of_decide_eq_true hab) (of_decide_eq_true hbc)))
    (fun a b => by simpa using Nat.le_total (rank payer a) (rank payer b))
    ((usesOf transaction).foldl addUse [.signer payer])
  exact h.imp of_decide_eq_true

/-- The payer stands in front, and nowhere else. -/
theorem ne_payer_of_mem_tail (h : use ∈ (accountTable transaction payer).drop 1) :
    use.key ≠ payer := by
  have hpayer : payer ∈ keys (accountTable transaction payer) :=
    mem_keys_accountTable.mpr (.inl rfl)
  have hsorted : (accountTable transaction payer).Pairwise fun a b =>
      rank payer a ≤ rank payer b := pairwise_accountTable
  have hnodup : (keys (accountTable transaction payer)).Nodup := nodup_keys_accountTable
  generalize accountTable transaction payer = table at h hpayer hsorted hnodup
  cases table with
  | nil => contradiction
  | cons first rest =>
      obtain ⟨hnew, -⟩ := List.nodup_cons.mp hnodup
      have huse : use.key ∈ keys rest := List.mem_map_of_mem h
      intro heq
      -- the use would be of the lowest rank, and what stands before it as well
      have hfirst : rank payer first ≤ rank payer use := List.rel_of_pairwise_cons hsorted h
      rw [rank_eq_zero_iff.mpr heq, Nat.le_zero, rank_eq_zero_iff] at hfirst
      exact hnew (show first.key ∈ keys rest by rw [hfirst, ← heq]; exact huse)

/-- The payer is the first account of the table. -/
theorem head?_keys_accountTable : (keys (accountTable transaction payer)).head? = some payer := by
  have hpayer : payer ∈ keys (accountTable transaction payer) :=
    mem_keys_accountTable.mpr (.inl rfl)
  have htail : ∀ use ∈ (accountTable transaction payer).drop 1, use.key ≠ payer :=
    fun use => ne_payer_of_mem_tail
  generalize accountTable transaction payer = table at hpayer htail
  cases table with
  | nil => contradiction
  | cons first rest =>
      obtain heq | hrest := List.mem_cons.mp hpayer
      · exact congrArg some heq.symm
      · obtain ⟨use, huse, heq⟩ := List.mem_map.mp hrest
        exact absurd heq (htail use huse)

/-- The table gives the payer all rights, and other accounts those that the transaction gives
them. -/
theorem grants_accountTable (hright : Merges right) :
    Grants right (accountTable transaction payer) key ↔
      Grants right [.signer payer] key ∨ Grants right (usesOf transaction) key := by
  rw [← grants_foldl_addUse hright]
  exact exists_congr fun use => and_congr_left fun _ => accountTable_perm.mem_iff

/-- The table lets the payer be written, and the accounts that the transaction wants to write. -/
theorem writes_accountTable :
    Writes (accountTable transaction payer) key ↔
      key = payer ∨ Writes transaction.accounts key := by
  have htable : Writes (accountTable transaction payer) key ↔
      Grants (·.isWritable) [.signer payer] key ∨
        Grants (·.isWritable) (usesOf transaction) key := grants_accountTable merges_isWritable
  have hpayer : Grants (·.isWritable) [.signer payer] key ↔ key = payer := by
    simp [Grants, AccountUse.signer, @eq_comm _ payer]
  have huses : Grants (·.isWritable) (usesOf transaction) key ↔
      Writes transaction.accounts key := by
    simp [Writes, Grants, usesOf, or_and_right, exists_or, AccountUse.readonly]
  rw [htable, hpayer, huses]

/-- The table lets the payer sign, and the accounts that the transaction wants to sign. -/
theorem signs_accountTable :
    Grants (·.isSigner) (accountTable transaction payer) key ↔
      key = payer ∨ Grants (·.isSigner) transaction.accounts key := by
  have hpayer : Grants (·.isSigner) [.signer payer] key ↔ key = payer := by
    simp [Grants, AccountUse.signer, @eq_comm _ payer]
  have huses : Grants (·.isSigner) (usesOf transaction) key ↔
      Grants (·.isSigner) transaction.accounts key := by
    simp [Grants, usesOf, or_and_right, exists_or, AccountUse.readonly]
  rw [grants_accountTable merges_isSigner, hpayer, huses]

/-- Behind the payer nobody has to sign exactly when the transaction wants nobody else to. -/
theorem alone_accountTable_iff :
    (∀ use ∈ (accountTable transaction payer).drop 1, use.isSigner = false) ↔
      ∀ use ∈ transaction.accounts, use.isSigner → use.key = payer := by
  constructor
  · intro halone use huse hsigner
    have htable : Grants (·.isSigner) (accountTable transaction payer) use.key :=
      signs_accountTable.mpr (.inr ⟨use, huse, rfl, hsigner⟩)
    obtain ⟨entry, hentry, hkey, hsigns⟩ := htable
    rw [← hkey]
    have hfirst : (keys (accountTable transaction payer)).head? = some payer :=
      head?_keys_accountTable
    generalize accountTable transaction payer = table at hentry halone hfirst
    cases table with
    | nil => contradiction
    | cons first rest =>
        obtain rfl | hrest := List.mem_cons.mp hentry
        · exact Option.some.inj hfirst
        · exact absurd hsigns (Bool.eq_false_iff.mp (halone entry hrest))
  · intro hsigners entry hentry
    rw [Bool.eq_false_iff]
    intro hsigns
    have hne : entry.key ≠ payer := ne_payer_of_mem_tail hentry
    obtain heq | ⟨use, huse, hkey, hsigner⟩ := signs_accountTable.mp
      ⟨entry, List.mem_of_mem_drop hentry, rfl, hsigns⟩
    · exact hne heq
    · exact hne (hkey ▸ hsigners use huse hsigner)

/-- What an entry lets be done is what the table lets be done with its account. -/
theorem isWritable_iff_writes (h : use ∈ accountTable transaction payer) :
    use.isWritable ↔ Writes (accountTable transaction payer) use.key := by
  constructor
  · exact fun hwritable => ⟨use, h, rfl, hwritable⟩
  · rintro ⟨other, hother, hkey, hwritable⟩
    obtain rfl : other = use :=
      List.inj_on_of_nodup_map nodup_keys_accountTable hother h hkey
    exact hwritable

/-- Whether the account of an entry neither signs nor is written. -/
def isReadonly (use : AccountUse) : Bool := !use.isSigner && !use.isWritable

/-- The last rank is the one of readonly accounts, the payer's apart. -/
theorem rank_eq_four_iff : rank payer use = 4 ↔ use.key ≠ payer ∧ isReadonly use := by
  obtain ⟨key, isSigner, isWritable⟩ := use
  rw [rank]
  split
  next heq => exact iff_of_false (by decide) fun h => h.1 heq
  next hne => cases isSigner <;> cases isWritable <;> simp [hne, isReadonly]

/-- There is no rank behind the one of readonly accounts. -/
theorem rank_le_four : rank payer use ≤ 4 := by
  rw [rank]
  split
  next => decide
  next => split <;> decide

/-- The payer signs. -/
theorem isReadonly_eq_false_of_payer (h : use ∈ accountTable transaction payer)
    (hkey : use.key = payer) : isReadonly use = false := by
  have hwritable : use.isWritable :=
    (isWritable_iff_writes h).mpr (writes_accountTable.mpr (.inl hkey))
  simp [isReadonly, hwritable]

/-- Behind a readonly account there are only readonly ones. -/
theorem pairwise_isReadonly_accountTable :
    (accountTable transaction payer).Pairwise fun a b => isReadonly a → isReadonly b := by
  refine pairwise_accountTable.imp_of_mem fun {a b} ha _ hrank hreadonly => ?_
  have hne : a.key ≠ payer := fun hkey => by
    rw [isReadonly_eq_false_of_payer ha hkey] at hreadonly
    contradiction
  have hlast : rank payer a = 4 := rank_eq_four_iff.mpr ⟨hne, hreadonly⟩
  exact (rank_eq_four_iff.mp (Nat.le_antisymm rank_le_four (hlast ▸ hrank))).2

/-- If there are only readonly accounts behind each readonly one, they are as many as stand behind
the others. -/
theorem isReadonly_getElem_iff (h : table.Pairwise fun a b => isReadonly a → isReadonly b) {i : ℕ}
    (hi : i < table.length) :
    isReadonly table[i] ↔ table.length - readonlyCount table ≤ i := by
  have hcount : readonlyCount table ≤ table.length := List.countP_le_length
  induction table generalizing i with
  | nil => contradiction
  | cons first rest ih =>
      have hrest : readonlyCount rest ≤ rest.length := List.countP_le_length
      obtain ⟨hfirst, hpairwise⟩ := List.pairwise_cons.mp h
      by_cases hreadonly : isReadonly first
      · -- all are readonly
        have hall : ∀ use ∈ first :: rest, isReadonly use :=
          List.forall_mem_cons.mpr ⟨hreadonly, fun use huse => hfirst use huse hreadonly⟩
        have hcount : readonlyCount (first :: rest) = (first :: rest).length :=
          List.countP_eq_length.mpr hall
        exact iff_of_true (hall _ (List.getElem_mem hi)) (by omega)
      · have hcount : readonlyCount (first :: rest) = readonlyCount rest :=
          List.countP_cons_of_neg hreadonly
        rw [hcount, List.length_cons]
        cases i with
        | zero => exact iff_of_false hreadonly (by omega)
        | succ i =>
            have hi : i < rest.length := Nat.lt_of_succ_lt_succ hi
            have hlater : isReadonly rest[i] ↔ rest.length - readonlyCount rest ≤ i :=
              ih hpairwise hi hrest
            rw [List.getElem_cons_succ, hlater]
            omega

/-! ### Messages -/

/-- An account of a table that is not too long has a position. -/
theorem exists_position (hmem : key ∈ keys table) (hlength : table.length ≤ 256) :
    ∃ byte, position table key = .ok byte := by
  obtain ⟨entry, hentry, rfl⟩ := List.mem_map.mp hmem
  rw [position]
  cases hfind : table.findIdx? (·.key == entry.key) with
  | none => simpa using List.findIdx?_eq_none_iff.mp hfind entry hentry
  | some i =>
      obtain ⟨hi, -⟩ := List.findIdx?_eq_some_iff_getElem.mp hfind
      exact ⟨_, if_neg (by omega)⟩

/-- The position of an account is a place of the table where it stands. -/
theorem getElem?_of_position {byte : UInt8} (h : position table key = .ok byte) :
    (keys table)[byte.toNat]? = some key := by
  rw [position] at h
  split at h
  next => contradiction
  next i hfind =>
    split at h
    next => contradiction
    next hi =>
      obtain rfl := Except.ok.inj h
      obtain ⟨hlt, hkey, -⟩ := List.findIdx?_eq_some_iff_getElem.mp hfind
      have hread : (UInt8.ofNat i).toNat = i :=
        UInt8.toNat_ofNat_of_lt (show i < 256 by omega)
      rw [hread, keys, List.getElem?_map, List.getElem?_eq_getElem hlt]
      exact congrArg some (beq_iff_eq.mp hkey)

/-- A table in which every account but the first has a position has no more than 256 of them. -/
theorem length_le_of_positions (hnodup : (keys table).Nodup)
    (h : ∀ key ∈ keys table, (keys table).head? ≠ some key →
      ∃ byte, position table key = .ok byte) : table.length ≤ 256 := by
  by_contra hlong
  have hlt : 256 < (keys table).length := by
    rw [keys, List.length_map]
    omega
  -- the account behind the last place that a byte can name
  have hne : (keys table).head? ≠ some (keys table)[256] := by
    rw [List.head?_eq_getElem?, List.getElem?_eq_getElem (by omega), Ne, Option.some.injEq,
      hnodup.getElem_inj_iff]
    decide
  obtain ⟨byte, hbyte⟩ := h _ (List.getElem_mem hlt) hne
  have hbound : byte.toNat < 256 := byte.toNat_lt
  have hplace := getElem?_of_position hbyte
  rw [List.getElem?_eq_getElem (by omega), Option.some.injEq, hnodup.getElem_inj_iff] at hplace
  omega

/-- A length within the bound has a written form, and no other has. -/
theorem encodeLength_eq_ok_iff {n : ℕ} {b : Bytes} :
    encodeLength n = .ok b ↔ n ≤ maxItems ∧ groups n = b := by
  rw [encodeLength]
  split
  next h => simp; omega
  next h => simp; omega

/-- A length within the bound has a written form. -/
theorem encodeLength_eq_ok {n : ℕ} (h : n ≤ maxItems) : encodeLength n = .ok (groups n) :=
  encodeLength_eq_ok_iff.mpr ⟨h, rfl⟩

/-- A transaction for which nobody but the payer has to sign has a message, if its table is so short
that each account has a position, and its accounts and data can be counted. -/
theorem exists_compile_of_table
    (hsigners : ∀ use ∈ transaction.accounts, use.isSigner → use.key = payer)
    (htable : (accountTable transaction payer).length ≤ 256)
    (haccounts : transaction.accounts.length ≤ maxItems)
    (hdata : transaction.data.length ≤ maxItems) (recentBlock : FixedBytes 32) :
    ∃ message, compile transaction payer recentBlock = .ok message := by
  have halone : ((accountTable transaction payer).drop 1).find? (·.isSigner) = none :=
    List.find?_eq_none.mpr fun entry hentry =>
      Bool.eq_false_iff.mp (alone_accountTable_iff.mpr hsigners entry hentry)
  obtain ⟨program, hprogram⟩ : ∃ program,
      position (accountTable transaction payer) transaction.target = .ok program :=
    exists_position (mem_keys_accountTable.mpr (.inr (.inr rfl))) htable
  obtain ⟨positions, hpositions⟩ := Outcome.exists_mapM_eq_ok fun use huse =>
    exists_position (mem_keys_accountTable.mpr (.inr (.inl (List.mem_map_of_mem huse)))) htable
  simp only [compile, halone, encodeLength_eq_ok (Nat.le_trans htable (by decide)),
    encodeLength_eq_ok (show 1 ≤ maxItems by decide), hprogram, encodeLength_eq_ok haccounts,
    hpositions, encodeLength_eq_ok hdata]
  exact ⟨_, rfl⟩

/-- A transaction for which nobody but the payer has to sign, with so few accounts that each has a
position, and with data that is not too long, has a message. -/
theorem exists_compile (hsigners : ∀ use ∈ transaction.accounts, use.isSigner → use.key = payer)
    (haccounts : transaction.accounts.length + 2 ≤ 256)
    (hdata : transaction.data.length ≤ maxItems) (recentBlock : FixedBytes 32) :
    ∃ message, compile transaction payer recentBlock = .ok message := by
  refine exists_compile_of_table hsigners (Nat.le_trans length_accountTable_le haccounts) ?_ hdata
    recentBlock
  rw [maxItems]
  omega

/-! ### Signed transactions -/

/-- What is handed in for a transaction. -/
def signedForm (signer : Signer) (transaction : UnsignedTransaction) (message signature : Bytes) :
    SignedTransaction where
  transaction := transaction
  signer := signer.address
  signature := signature
  raw := groups 1 ++ signature ++ message

/-- What is handed in is the message of the transaction behind its one signature, and the signer
was asked for the signature of this message. -/
theorem signTransaction_eq_ok_iff {signer : Signer} {recentBlock : FixedBytes 32}
    {signed : SignedTransaction} :
    signTransaction signer transaction recentBlock = .ok signed ↔
      ∃ message signature, compile transaction signer.address recentBlock = .ok message ∧
        signer.sign message = .ok signature ∧ signature.length = signatureLength ∧
        signed = signedForm signer transaction message signature := by
  rw [signTransaction, Outcome.bind_eq_ok_iff]
  refine exists_congr fun message => ?_
  rw [exists_and_left, Outcome.bind_eq_ok_iff]
  refine and_congr_right fun _ => exists_congr fun signature => and_congr_right fun _ => ?_
  rw [encodeLength_eq_ok (show 1 ≤ maxItems by decide)]
  split
  next hwrong => exact iff_of_false nofun fun h => hwrong h.1
  next hright =>
    rw [not_not] at hright
    rw [and_iff_right hright]
    constructor
    · exact fun h => (Except.ok.inj h).symm
    · rintro rfl
      rfl

/-- What is signed is the transaction that was to be signed. -/
theorem transaction_eq_of_signTransaction {signer : Signer} {recentBlock : FixedBytes 32}
    {signed : SignedTransaction}
    (h : signTransaction signer transaction recentBlock = .ok signed) :
    signed.transaction = transaction := by
  obtain ⟨message, signature, -, -, -, rfl⟩ := signTransaction_eq_ok_iff.mp h
  rfl

/-- A signer whose signatures have the right length signs it. -/
theorem exists_signTransaction {signer : Signer}
    (hsign : ∀ message, ∃ signature, signer.sign message = .ok signature ∧
      signature.length = signatureLength)
    (hsigners : ∀ use ∈ transaction.accounts, use.isSigner → use.key = signer.address)
    (haccounts : transaction.accounts.length + 2 ≤ 256)
    (hdata : transaction.data.length ≤ maxItems) (recentBlock : FixedBytes 32) :
    ∃ signed, signTransaction signer transaction recentBlock = .ok signed := by
  obtain ⟨message, hmessage⟩ := exists_compile hsigners haccounts hdata recentBlock
  obtain ⟨signature, hsigned, hlength⟩ := hsign message
  exact ⟨_, signTransaction_eq_ok_iff.mpr ⟨message, signature, hmessage, hsigned, hlength, rfl⟩⟩

/-- An account that signs everything. -/
def openSigner : Signer where
  address := ⟨FixedBytes.ofNat 1⟩
  sign _ := .ok (Bytes.zeros signatureLength)

/-- It signs every instruction that nobody else has to sign, unless that is too long. -/
theorem exists_signed_instruction {chain : ChainId} {program : Address} {data : Bytes}
    {accounts : List AccountUse}
    (hsigners : ∀ use ∈ accounts, use.isSigner → use.key = openSigner.address)
    (haccounts : accounts.length ≤ 254) (hdata : data.length ≤ maxItems)
    (recentBlock : FixedBytes 32) : ∃ signed,
      signTransaction openSigner (.instruction chain program data accounts) recentBlock =
        .ok signed :=
  exists_signTransaction (fun _ => ⟨_, rfl, rfl⟩) hsigners (Nat.add_le_add_right haccounts 2) hdata
    recentBlock

end GuardianRelay.Svm
