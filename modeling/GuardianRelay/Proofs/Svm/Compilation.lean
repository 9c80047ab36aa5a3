import GuardianRelay.Proofs.Svm.Layout
import Mathlib.Data.Finset.Card
import Mathlib.Data.Finset.Dedup

/-!
# Which Transactions Have a Message

A message names accounts by one byte, and counts its lists in two. Whether an account has a position
is asked of each account that the transaction names, never of the table. But all accounts of the
table are named by the transaction, except the payer, who stands in front; so if one place of the
table is beyond the reach of a byte, so is a named account. The count of readonly accounts, which is
written without being asked for, is smaller than the table, so it fits its byte as well.

## Main results

* `card_accountsOf`: the table holds the accounts of the transaction, each once.
* `exists_compile_iff`: which transactions have a message.
* `exists_carries_of_compile`: a message that was made carries its transaction.
* `readonlyCount_accountTable`: which accounts are counted as readonly.
* `compile_settled`: when there is a message, and that its numbers are the ones they stand for.
-/

namespace GuardianRelay.Svm

variable {transaction : UnsignedTransaction} {payer key : Address} {recentBlock : FixedBytes 32}
  {table : List AccountUse}

instance (table : List AccountUse) (key : Address) : Decidable (Writes table key) :=
  inferInstanceAs (Decidable (∃ use ∈ table, use.key = key ∧ use.isWritable))

/-! ### The accounts of a transaction -/

/-- The accounts that a message of a transaction has to name. -/
def accountsOf (transaction : UnsignedTransaction) (payer : Address) : Finset Address :=
  insert payer (insert transaction.target (keys transaction.accounts).toFinset)

/-- The table holds the accounts of the transaction. -/
theorem toFinset_keys_accountTable :
    (keys (accountTable transaction payer)).toFinset = accountsOf transaction payer := by
  ext key
  rw [List.mem_toFinset, mem_keys_accountTable, accountsOf, Finset.mem_insert, Finset.mem_insert,
    List.mem_toFinset, or_comm (a := key = transaction.target)]

/-- The table is as long as there are accounts. -/
theorem card_accountsOf :
    (accountsOf transaction payer).card = (accountTable transaction payer).length := by
  rw [← toFinset_keys_accountTable, List.toFinset_card_of_nodup nodup_keys_accountTable, keys,
    List.length_map]

/-- An entry is counted as readonly if its account is not the payer's and is not to be written. -/
theorem isReadonly_iff
    (hsigners : ∀ use ∈ transaction.accounts, use.isSigner → use.key = payer) {use : AccountUse}
    (h : use ∈ accountTable transaction payer) :
    isReadonly use ↔ use.key ≠ payer ∧ ¬ Writes transaction.accounts use.key := by
  have hwrites : use.isWritable ↔ use.key = payer ∨ Writes transaction.accounts use.key := by
    rw [isWritable_iff_writes h, writes_accountTable]
  have hsigns : use.isSigner → use.key = payer := by
    intro hsigner
    obtain heq | ⟨other, hother, hkey, hsigner⟩ := signs_accountTable.mp ⟨use, h, rfl, hsigner⟩
    · exact heq
    · exact hkey ▸ hsigners other hother hsigner
  rw [← not_or, ← hwrites, isReadonly]
  simp only [Bool.and_eq_true, Bool.not_eq_true', Bool.not_eq_true]
  refine ⟨And.right, fun hreadonly => ⟨?_, hreadonly⟩⟩
  -- who signs is the payer, and may be written
  rw [Bool.eq_false_iff]
  intro hsigner
  rw [hwrites.mpr (.inl (hsigns hsigner))] at hreadonly
  contradiction

/-- What is counted as readonly are the accounts that are not to be written, the payer's apart. -/
theorem readonlyCount_accountTable
    (hsigners : ∀ use ∈ transaction.accounts, use.isSigner → use.key = payer) :
    readonlyCount (accountTable transaction payer) =
      ((accountsOf transaction payer).filter fun key =>
        key ≠ payer ∧ ¬ Writes transaction.accounts key).card := by
  have hnodup : (keys ((accountTable transaction payer).filter isReadonly)).Nodup :=
    nodup_keys_accountTable.sublist (List.filter_sublist.map _)
  have hcount : (keys ((accountTable transaction payer).filter isReadonly)).length =
      readonlyCount (accountTable transaction payer) := by
    rw [keys, List.length_map, ← List.countP_eq_length_filter]
    rfl
  rw [← hcount, ← List.toFinset_card_of_nodup hnodup]
  congr 1
  ext key
  rw [List.mem_toFinset, Finset.mem_filter, ← toFinset_keys_accountTable, List.mem_toFinset]
  constructor
  · intro hmem
    obtain ⟨use, huse, rfl⟩ := List.mem_map.mp hmem
    obtain ⟨htable, hreadonly⟩ := List.mem_filter.mp huse
    exact ⟨List.mem_map_of_mem htable, (isReadonly_iff hsigners htable).mp hreadonly⟩
  · rintro ⟨hmem, hreadonly⟩
    obtain ⟨use, huse, rfl⟩ := List.mem_map.mp hmem
    exact List.mem_map_of_mem
      (List.mem_filter.mpr ⟨huse, (isReadonly_iff hsigners huse).mpr hreadonly⟩)

/-! ### Positions -/

/-- The position of an account is where it stands in the table. -/
theorem toNat_of_position {byte : UInt8} (hnodup : (keys table).Nodup)
    (h : position table key = .ok byte) : byte.toNat = (keys table).idxOf key := by
  obtain ⟨hlt, hkey⟩ := List.getElem?_eq_some_iff.mp (getElem?_of_position h)
  rw [← hkey, hnodup.idxOf_getElem]

/-- An account of the table is not missing from it. -/
theorem position_ne_accountMissing (h : key ∈ keys table) (other : Address) :
    position table key ≠ .error (.accountMissing other) := by
  obtain ⟨entry, hentry, rfl⟩ := List.mem_map.mp h
  rw [position]
  cases hfind : table.findIdx? (·.key == entry.key) with
  | none => simpa using List.findIdx?_eq_none_iff.mp hfind entry hentry
  | some i =>
      dsimp only
      split <;> simp

/-- A length that cannot be written is no missing account. -/
theorem encodeLength_ne_accountMissing (n : ℕ) (other : Address) :
    encodeLength n ≠ .error (.accountMissing other) := by
  rw [encodeLength]
  split <;> simp

/-- No account of a transaction is missing from its table. -/
theorem compile_ne_accountMissing (other : Address) :
    compile transaction payer recentBlock ≠ .error (.accountMissing other) := by
  have htarget : transaction.target ∈ keys (accountTable transaction payer) :=
    mem_keys_accountTable.mpr (.inr (.inr rfl))
  have haccounts : ∀ use ∈ transaction.accounts, use.key ∈ keys (accountTable transaction payer) :=
    fun use huse => mem_keys_accountTable.mpr (.inr (.inl (List.mem_map_of_mem huse)))
  rw [compile]
  dsimp only
  split
  · intro h
    cases h
  · refine Outcome.bind_ne_error (encodeLength_ne_accountMissing _ _) fun _ => ?_
    refine Outcome.bind_ne_error (encodeLength_ne_accountMissing _ _) fun _ => ?_
    refine Outcome.bind_ne_error (position_ne_accountMissing htarget _) fun _ => ?_
    refine Outcome.bind_ne_error (encodeLength_ne_accountMissing _ _) fun _ => ?_
    refine Outcome.bind_ne_error (Outcome.mapM_ne_error fun use huse =>
      position_ne_accountMissing (haccounts use huse) _) fun _ => ?_
    refine Outcome.bind_ne_error (encodeLength_ne_accountMissing _ _) fun _ h => ?_
    cases h

/-! ### Messages -/

/-- What there is to know of a message that was made. -/
theorem exists_messageOf_of_compile {message : Bytes}
    (h : compile transaction payer recentBlock = .ok message) :
    (∀ use ∈ transaction.accounts, use.isSigner → use.key = payer) ∧
    (accountTable transaction payer).length ≤ 256 ∧
    ∃ call : Instruction,
      position (accountTable transaction payer) transaction.target = .ok call.program ∧
      transaction.accounts.mapM (fun use => position (accountTable transaction payer) use.key) =
        .ok call.accounts ∧
      call.data = transaction.data ∧
      (messageOf (accountTable transaction payer) recentBlock call).Fits ∧
      message = (messageOf (accountTable transaction payer) recentBlock call).written := by
  obtain ⟨halone, call, hprogram, haccounts, hrest⟩ := exists_written_of_compile h
  exact ⟨alone_accountTable_iff.mp halone,
    length_accountTable_le_of_positions hprogram haccounts, call, hprogram, haccounts, hrest⟩

/-- A message that was made carries its transaction. -/
theorem exists_carries_of_compile {message : Bytes}
    (h : compile transaction payer recentBlock = .ok message) :
    ∃ m, Message.decode? message = some m ∧ m.Carries transaction payer recentBlock := by
  obtain ⟨hsigners, htable, call, hprogram, haccounts, hdata, hfits, rfl⟩ :=
    exists_messageOf_of_compile h
  exact ⟨_, Message.decode?_written hfits, carries_messageOf (alone_accountTable_iff.mpr hsigners)
    htable (calls_of_positions hprogram haccounts hdata)⟩

/-- A transaction has a message exactly when nobody but the payer has to sign, there are at most 256
accounts, and the lists can be counted. -/
theorem exists_compile_iff :
    (∃ message, compile transaction payer recentBlock = .ok message) ↔
      (∀ use ∈ transaction.accounts, use.isSigner → use.key = payer) ∧
      (accountsOf transaction payer).card ≤ 256 ∧
      transaction.accounts.length ≤ 65535 ∧ transaction.data.length ≤ 65535 := by
  rw [card_accountsOf]
  constructor
  · rintro ⟨message, h⟩
    obtain ⟨hsigners, htable, call, -, haccounts, hdata, hfits, -⟩ := exists_messageOf_of_compile h
    obtain ⟨haccountsFit, hdataFit⟩ := hfits.calls call (List.mem_singleton_self call)
    rw [Outcome.length_eq_of_mapM_eq_ok haccounts] at haccountsFit
    rw [hdata] at hdataFit
    exact ⟨hsigners, htable, haccountsFit, hdataFit⟩
  · rintro ⟨hsigners, htable, haccounts, hdata⟩
    exact exists_compile_of_table hsigners htable haccounts hdata recentBlock

/-- The lengths that are written in a message. -/
def Message.lengths (m : Message) : List ℕ :=
  [m.keys.length, m.instructions.length] ++
    m.instructions.flatMap fun i => [i.accounts.length, i.data.length]

/-- The numbers in a message of a transaction are those that they stand for, however large these may
be: how many accounts sign and are only read, where accounts stand, and how many there are of
everything. -/
structure Message.IsExact (m : Message) (transaction : UnsignedTransaction) (payer : Address) :
    Prop where
  signers : m.signers.toNat = 1
  readonlySigners : m.readonlySigners.toNat = 0
  /-- The accounts that are only read are those that are not to be written, the payer's apart. -/
  readonlyOthers : m.readonlyOthers.toNat =
    ((accountsOf transaction payer).filter fun key =>
      key ≠ payer ∧ ¬ Writes transaction.accounts key).card
  keys : m.keys.length = (accountsOf transaction payer).card
  /-- The one call names the program and the accounts by where they stand. -/
  call : ∃ call, m.instructions = [call] ∧ call.data = transaction.data ∧
    call.program.toNat = m.keys.idxOf transaction.target ∧
    call.accounts.map UInt8.toNat = transaction.accounts.map (m.keys.idxOf ·.key)
  /-- A length is read back as it is, whatever follows it. -/
  lengths : ∀ n ∈ m.lengths, ∀ rest, length? (groups n ++ rest) = some (n, rest)

/-- In a message that fits, lengths are read back. -/
theorem Message.Fits.length?_append {m : Message} (h : m.Fits) {n : ℕ} (hn : n ∈ m.lengths)
    (rest : Bytes) : length? (groups n ++ rest) = some (n, rest) := by
  refine length?_eq_some_iff.mpr ⟨?_, rfl⟩
  rw [lengths, List.mem_append, List.mem_pair, List.mem_flatMap] at hn
  rcases hn with (rfl | rfl) | ⟨call, hcall, hn⟩
  · exact h.keys
  · exact h.instructions
  · rcases List.mem_pair.mp hn with rfl | rfl
    · exact (h.calls call hcall).1
    · exact (h.calls call hcall).2

/-- The numbers in a message that was made are those that they stand for. -/
theorem isExact_messageOf {call : Instruction}
    (hsigners : ∀ use ∈ transaction.accounts, use.isSigner → use.key = payer)
    (htable : (accountTable transaction payer).length ≤ 256)
    (hprogram : position (accountTable transaction payer) transaction.target = .ok call.program)
    (haccounts : transaction.accounts.mapM
      (fun use => position (accountTable transaction payer) use.key) = .ok call.accounts)
    (hdata : call.data = transaction.data)
    (hfits : (messageOf (accountTable transaction payer) recentBlock call).Fits) :
    (messageOf (accountTable transaction payer) recentBlock call).IsExact transaction payer where
  signers := rfl
  readonlySigners := rfl
  readonlyOthers := by
    -- the payer is in the table and is not counted
    have hless : readonlyCount (accountTable transaction payer) < _ :=
      readonlyCount_accountTable_lt
    rw [← readonlyCount_accountTable hsigners]
    exact UInt8.toNat_ofNat_of_lt (show _ < 256 by omega)
  keys := by
    rw [card_accountsOf, messageOf, Svm.keys, List.length_map]
  call := by
    refine ⟨call, rfl, hdata, toNat_of_position nodup_keys_accountTable hprogram, ?_⟩
    exact Outcome.map_eq_of_mapM_eq_ok haccounts fun use _ byte hbyte =>
      toNat_of_position nodup_keys_accountTable hbyte
  lengths n hn rest := hfits.length?_append hn rest

/-- **Which transactions have a message, and what its numbers are.** A transaction has none exactly
when somebody else than the payer has to sign, or the payer, the accounts and the target together
are more than 256, or there are more than 65535 accounts in the list, or more than 65535 bytes of
data. In a message, every number that was narrowed to a byte or to groups is the one that it stands
for. No account is ever missing from the table. -/
theorem compile_settled (transaction : UnsignedTransaction) (payer : Address)
    (recentBlock : FixedBytes 32) :
    ((∃ fault, compile transaction payer recentBlock = .error fault) ↔
      (∃ use ∈ transaction.accounts, use.isSigner ∧ use.key ≠ payer) ∨
      256 < (accountsOf transaction payer).card ∨
      65535 < transaction.accounts.length ∨ 65535 < transaction.data.length) ∧
    (∀ message, compile transaction payer recentBlock = .ok message →
      ∃ m, Message.decode? message = some m ∧ m.written = message ∧
        m.IsExact transaction payer) ∧
    ∀ key, compile transaction payer recentBlock ≠ .error (.accountMissing key) := by
  refine ⟨?_, ?_, compile_ne_accountMissing⟩
  · rw [Outcome.exists_eq_error_iff, exists_compile_iff]
    simp only [not_and_or, not_forall, not_le, exists_prop]
  · intro message h
    obtain ⟨hsigners, htable, call, hprogram, haccounts, hdata, hfits, rfl⟩ :=
      exists_messageOf_of_compile h
    exact ⟨_, Message.decode?_written hfits, rfl,
      isExact_messageOf hsigners htable hprogram haccounts hdata hfits⟩

/-- Of a transaction that names accounts twice, the message has three accounts, of which one is only
read. There is none for another payer, nor with a byte of data more than there may be. -/
theorem compile_settled_aliased :
    (∃ message m, compile aliased openSigner.address FixedBytes.zero = .ok message ∧
      Message.decode? message = some m ∧ m.keys.length = 3 ∧ m.readonlyOthers.toNat = 1) ∧
    (∃ fault, compile aliased Address.zero FixedBytes.zero = .error fault) ∧
    ∃ fault, compile { aliased with data := Bytes.zeros 65536 } openSigner.address
      FixedBytes.zero = .error fault := by
  obtain ⟨hfails, hexact, -⟩ := compile_settled aliased openSigner.address FixedBytes.zero
  refine ⟨?_, ?_, ?_⟩
  · cases hcompile : compile aliased openSigner.address FixedBytes.zero with
    | error fault => exact absurd (hfails.mp ⟨fault, hcompile⟩) (by decide)
    | ok message =>
        obtain ⟨m, hdecode, -, hm⟩ := hexact message hcompile
        exact ⟨message, m, rfl, hdecode, hm.keys.trans (by decide),
          hm.readonlyOthers.trans (by decide)⟩
  · exact (compile_settled aliased Address.zero FixedBytes.zero).1.mpr (.inl (by decide))
  · refine (compile_settled _ openSigner.address FixedBytes.zero).1.mpr (.inr (.inr (.inr ?_)))
    rw [Bytes.zeros, List.length_replicate]
    decide

end GuardianRelay.Svm
