import GuardianRelay.Proofs.Svm.Length
import GuardianRelay.Proofs.Svm.Message
import Mathlib.Data.Option.Basic

/-!
# Messages as the Chain Reads Them

The chain takes a message apart by itself: three numbers that count signers and readonly accounts,
the table of accounts, a recent block, and instructions that name accounts by their positions. What
an account may do it reads off its position and the three numbers. This module gives the reader and
shows what it finds in the message of a transaction: the accounts of the transaction, once each,
with the rights that the transaction asks for, and its one call. So the chain executes what was
signed, and nobody but the payer has signed it.

## Main results

* `Message.read?_append`, `Message.decode?_written`: a message is read where it is written.
* `exists_written_of_compile`: the message of a transaction is the written form of one that carries
  the transaction.
* `compile_carries`: what the chain finds in the message of a transaction, and in what is handed in
  for it.
-/

namespace GuardianRelay.Svm

/-! ### Fields -/

section Fields

variable {α : Type}

/-- Reads one byte. -/
def byte? : Bytes → Option (UInt8 × Bytes)
  | [] => none
  | x :: rest => some (x, rest)

/-- Reads a field of `n` bytes. -/
def fixed? (n : ℕ) (b : Bytes) : Option (FixedBytes n × Bytes) :=
  (FixedBytes.ofList? (b.take n)).map fun field => (field, b.drop n)

/-- Reads an address. -/
def key? (b : Bytes) : Option (Address × Bytes) :=
  (fixed? 32 b).map fun (bytes, rest) => (⟨bytes⟩, rest)

/-- Reads a value so many times. -/
def times? (read : Bytes → Option (α × Bytes)) : ℕ → Bytes → Option (List α × Bytes)
  | 0, b => some ([], b)
  | count + 1, b => do
    let (first, b) ← read b
    let (later, b) ← times? read count b
    return (first :: later, b)

/-- Reads the values of a list behind its length. -/
def counted? (read : Bytes → Option (α × Bytes)) (b : Bytes) : Option (List α × Bytes) := do
  let (count, b) ← length? b
  times? read count b

/-- A field is read where it stands. -/
theorem fixed?_append {n : ℕ} (field : FixedBytes n) (rest : Bytes) :
    fixed? n (field.toList ++ rest) = some (field, rest) := by
  rw [fixed?, List.take_left' field.length_toList, List.drop_left' field.length_toList,
    FixedBytes.ofList?_toList]
  rfl

/-- An address is read where it stands. -/
theorem key?_append (key : Address) (rest : Bytes) :
    key? (key.toList ++ rest) = some (key, rest) := by
  rw [key?, Address.toList, fixed?_append]
  rfl

variable {read : Bytes → Option (α × Bytes)} {write : α → Bytes} {values : List α}

/-- Values are read where they follow each other, if each of them is read where it stands. -/
theorem times?_flatMap (hread : ∀ v ∈ values, ∀ rest, read (write v ++ rest) = some (v, rest))
    (rest : Bytes) : times? read values.length (values.flatMap write ++ rest) =
      some (values, rest) := by
  induction values with
  | nil => rfl
  | cons first later ih =>
      obtain ⟨hfirst, hlater⟩ := List.forall_mem_cons.mp hread
      simp only [List.length_cons, times?, List.flatMap_cons, List.append_assoc, hfirst,
        ih hlater, Option.bind_eq_bind, Option.bind_some, Option.pure_def]

/-- A list that is not too long is read where it stands behind its length. -/
theorem counted?_append (hlength : values.length ≤ maxItems)
    (hread : ∀ v ∈ values, ∀ rest, read (write v ++ rest) = some (v, rest)) (rest : Bytes) :
    counted? read (groups values.length ++ (values.flatMap write ++ rest)) =
      some (values, rest) := by
  rw [counted?, length?_eq_some_iff.mpr ⟨hlength, rfl⟩]
  exact times?_flatMap hread rest

/-- Bytes that are not too many are read where they stand behind their length. -/
theorem counted?_byte?_append {b : Bytes} (hlength : b.length ≤ maxItems) (rest : Bytes) :
    counted? byte? (groups b.length ++ (b ++ rest)) = some (b, rest) := by
  have hread : ∀ x ∈ b, ∀ rest, byte? ([x] ++ rest) = some (x, rest) := fun _ _ _ => rfl
  have h := counted?_append hlength hread rest
  rwa [List.flatMap_singleton'] at h

end Fields

/-! ### Messages -/

/-- A call of a program. The program and its accounts are positions in the table of a message. -/
structure Instruction where
  program : UInt8
  accounts : List UInt8
  data : Bytes
deriving DecidableEq

/-- What the chain finds in a message. -/
structure Message where
  /-- How many accounts sign; they stand first. -/
  signers : UInt8
  /-- How many of the signers are only read; they are the last of them. -/
  readonlySigners : UInt8
  /-- How many of the other accounts are only read; they stand last. -/
  readonlyOthers : UInt8
  keys : List Address
  recentBlock : FixedBytes 32
  instructions : List Instruction
deriving DecidableEq

namespace Instruction

/-- The written form of a call. -/
def written (i : Instruction) : Bytes :=
  i.program :: (groups i.accounts.length ++ (i.accounts ++ (groups i.data.length ++ i.data)))

/-- The lists of a call can be counted. -/
def Fits (i : Instruction) : Prop := i.accounts.length ≤ maxItems ∧ i.data.length ≤ maxItems

/-- Reads a call. -/
def read? (b : Bytes) : Option (Instruction × Bytes) := do
  let (program, b) ← byte? b
  let (accounts, b) ← counted? byte? b
  let (data, b) ← counted? byte? b
  return ({ program, accounts, data }, b)

/-- A call is read where it is written. -/
theorem read?_append {i : Instruction} (h : i.Fits) (rest : Bytes) :
    read? (i.written ++ rest) = some (i, rest) := by
  simp only [read?, written, List.cons_append, List.append_assoc, byte?, Option.bind_eq_bind,
    Option.bind_some, counted?_byte?_append h.1, counted?_byte?_append h.2, Option.pure_def]

end Instruction

namespace Message

/-- Whether the account at a position signs. -/
def Signs (m : Message) (i : ℕ) : Prop := i < m.signers.toNat

/-- Whether the account at a position may be written. -/
def MayWrite (m : Message) (i : ℕ) : Prop :=
  i < m.signers.toNat - m.readonlySigners.toNat ∨
    (m.signers.toNat ≤ i ∧ i < m.keys.length - m.readonlyOthers.toNat)

/-- The written form of a message. -/
def written (m : Message) : Bytes :=
  [m.signers, m.readonlySigners, m.readonlyOthers] ++ (groups m.keys.length
    ++ (m.keys.flatMap Address.toList ++ (m.recentBlock.toList ++ (groups m.instructions.length
    ++ m.instructions.flatMap Instruction.written))))

/-- Reads a message. A first byte of 128 or more would announce one of another form. -/
def read? (b : Bytes) : Option (Message × Bytes) := do
  let (signers, b) ← byte? b
  let (readonlySigners, b) ← byte? b
  let (readonlyOthers, b) ← byte? b
  guard (signers < 128)
  let (keys, b) ← counted? key? b
  let (recentBlock, b) ← fixed? 32 b
  let (instructions, b) ← counted? Instruction.read? b
  return ({ signers, readonlySigners, readonlyOthers, keys, recentBlock, instructions }, b)

/-- Reads bytes that are one message, and nothing else. -/
def decode? (b : Bytes) : Option Message :=
  match read? b with
  | some (m, []) => some m
  | _ => none

/-- The message is of this form, and its lists can be counted. -/
structure Fits (m : Message) : Prop where
  signers : m.signers < 128
  keys : m.keys.length ≤ maxItems
  instructions : m.instructions.length ≤ maxItems
  calls : ∀ i ∈ m.instructions, i.Fits

/-- A message is read where it is written, whatever follows it. -/
theorem read?_append {m : Message} (h : m.Fits) (rest : Bytes) :
    read? (m.written ++ rest) = some (m, rest) := by
  have hkeys := counted?_append h.keys fun key _ => key?_append key
  have hcalls := counted?_append h.instructions
    (fun i hi => Instruction.read?_append (h.calls i hi)) rest
  simp only [read?, written, List.cons_append, List.nil_append, List.append_assoc, byte?,
    Option.bind_eq_bind, Option.bind_some, h.signers, guard_true, hkeys, fixed?_append, hcalls,
    Option.pure_def]

/-- What is written for a message is one. -/
theorem decode?_written {m : Message} (h : m.Fits) : decode? m.written = some m := by
  have hread := read?_append h []
  rw [List.append_nil] at hread
  rw [decode?, hread]

end Message

/-! ### Messages of transactions -/

variable {transaction : UnsignedTransaction} {payer : Address} {recentBlock : FixedBytes 32}
  {message : Bytes}

/-- A message in which one account signs, and which makes one call. -/
def messageOf (table : List AccountUse) (recentBlock : FixedBytes 32) (call : Instruction) :
    Message where
  signers := 1
  readonlySigners := 0
  readonlyOthers := UInt8.ofNat (readonlyCount table)
  keys := keys table
  recentBlock := recentBlock
  instructions := [call]

/-- A message makes the call of a transaction: its program and its accounts are named by places of
the table where they stand. -/
structure Message.Calls (m : Message) (call : Instruction) (transaction : UnsignedTransaction) :
    Prop where
  program : m.keys[call.program.toNat]? = some transaction.target
  accounts : call.accounts.map (fun i => m.keys[i.toNat]?) =
    transaction.accounts.map fun use => some use.key
  data : call.data = transaction.data

/-- A transaction has a message only if nobody but the payer has to sign, the lists can be counted,
and the program and the accounts of its call have positions. The message is what is written for the
table and the call. -/
theorem exists_written_of_compile
    (h : compile transaction payer recentBlock = .ok message) :
    (∀ use ∈ (accountTable transaction payer).drop 1, use.isSigner = false) ∧
    ∃ call : Instruction,
      position (accountTable transaction payer) transaction.target = .ok call.program ∧
      transaction.accounts.mapM (fun use => position (accountTable transaction payer) use.key) =
        .ok call.accounts ∧
      call.data = transaction.data ∧
      (messageOf (accountTable transaction payer) recentBlock call).Fits ∧
      message = (messageOf (accountTable transaction payer) recentBlock call).written := by
  rw [compile] at h
  dsimp only at h
  split at h
  next => contradiction
  next hfind =>
    obtain ⟨tableLength, htable, h⟩ := Outcome.bind_eq_ok_iff.mp h
    obtain ⟨callsLength, hcalls, h⟩ := Outcome.bind_eq_ok_iff.mp h
    obtain ⟨program, hprogram, h⟩ := Outcome.bind_eq_ok_iff.mp h
    obtain ⟨accountsLength, haccountsLength, h⟩ := Outcome.bind_eq_ok_iff.mp h
    obtain ⟨accounts, haccounts, h⟩ := Outcome.bind_eq_ok_iff.mp h
    obtain ⟨dataLength, hdataLength, h⟩ := Outcome.bind_eq_ok_iff.mp h
    obtain ⟨hfits, rfl⟩ := encodeLength_eq_ok_iff.mp htable
    obtain ⟨-, rfl⟩ := encodeLength_eq_ok_iff.mp hcalls
    obtain ⟨haccountsFit, rfl⟩ := encodeLength_eq_ok_iff.mp haccountsLength
    obtain ⟨hdataFit, rfl⟩ := encodeLength_eq_ok_iff.mp hdataLength
    have halone : ∀ use ∈ (accountTable transaction payer).drop 1, use.isSigner = false := by
      have hnone : ((accountTable transaction payer).drop 1).find? (·.isSigner) = none :=
        Option.eq_none_iff_forall_not_mem.mpr hfind
      exact fun use huse => Bool.eq_false_iff.mpr (List.find?_eq_none.mp hnone use huse)
    have hlength : accounts.length = transaction.accounts.length :=
      Outcome.length_eq_of_mapM_eq_ok haccounts
    refine ⟨halone, ⟨program, accounts, transaction.data⟩, hprogram, haccounts, rfl, ?_, ?_⟩
    · refine ⟨show (1 : UInt8) < 128 by decide, by rwa [messageOf, keys, List.length_map],
        show 1 ≤ maxItems by decide, fun i hi => ?_⟩
      obtain rfl := List.mem_singleton.mp hi
      exact ⟨hlength ▸ haccountsFit, hdataFit⟩
    · obtain rfl := Except.ok.inj h
      simp [messageOf, Message.written, Instruction.written, keys, hlength, List.flatMap_map,
        Address.toList]

/-- A call whose program and accounts have positions is made by the message of the table. -/
theorem calls_of_positions {table : List AccountUse} {call : Instruction}
    (hprogram : position table transaction.target = .ok call.program)
    (haccounts : transaction.accounts.mapM (fun use => position table use.key) = .ok call.accounts)
    (hdata : call.data = transaction.data) :
    (messageOf table recentBlock call).Calls call transaction where
  program := getElem?_of_position hprogram
  accounts := Outcome.map_eq_of_mapM_eq_ok haccounts fun _ _ _ h => getElem?_of_position h
  data := hdata

/-- If the accounts of a transaction have positions, so has every account of its table but the
payer; so there are no more than 256 of them. -/
theorem length_accountTable_le_of_positions {program : UInt8} {accounts : List UInt8}
    (hprogram : position (accountTable transaction payer) transaction.target = .ok program)
    (haccounts : transaction.accounts.mapM
      (fun use => position (accountTable transaction payer) use.key) = .ok accounts) :
    (accountTable transaction payer).length ≤ 256 := by
  refine length_le_of_positions nodup_keys_accountTable fun key hkey hne => ?_
  rw [head?_keys_accountTable, Ne, Option.some.injEq] at hne
  obtain rfl | hmem | rfl := mem_keys_accountTable.mp hkey
  · contradiction
  · obtain ⟨use, huse, rfl⟩ := List.mem_map.mp hmem
    exact Outcome.exists_of_mapM_eq_ok haccounts use huse
  · exact ⟨program, hprogram⟩

/-- What a message has to say of a transaction for which an account pays. -/
structure Message.Carries (m : Message) (transaction : UnsignedTransaction) (payer : Address)
    (recentBlock : FixedBytes 32) : Prop where
  /-- No account stands in the table twice. -/
  nodup : m.keys.Nodup
  /-- The accounts are the payer, those of the transaction, and its target. -/
  mem_keys_iff (key : Address) :
    key ∈ m.keys ↔
      key = payer ∨ (∃ use ∈ transaction.accounts, use.key = key) ∨ key = transaction.target
  payer_first : m.keys.head? = some payer
  recentBlock_eq : m.recentBlock = recentBlock
  /-- There is one call, and it is the transaction's. -/
  call : ∃ call, m.instructions = [call] ∧ m.Calls call transaction
  /-- The payer signs, and nobody else. -/
  signs_iff (i : ℕ) (key : Address) : m.keys[i]? = some key → (m.Signs i ↔ key = payer)
  /-- The payer may be written, and the accounts that the transaction wants to write. -/
  mayWrite_iff (i : ℕ) (key : Address) : m.keys[i]? = some key →
    (m.MayWrite i ↔ key = payer ∨ Writes transaction.accounts key)

/-- The first place of the table is the payer's, and no other is. -/
theorem eq_payer_iff_of_getElem? {i : ℕ} {key : Address}
    (h : (keys (accountTable transaction payer))[i]? = some key) : key = payer ↔ i = 0 := by
  have hfirst : (keys (accountTable transaction payer))[0]? = some payer :=
    List.head?_eq_getElem?.symm.trans head?_keys_accountTable
  constructor
  · rintro rfl
    obtain ⟨hi, -⟩ := List.getElem?_eq_some_iff.mp h
    exact (List.getElem?_inj hi nodup_keys_accountTable).mp (h.trans hfirst.symm)
  · rintro rfl
    exact Option.some.inj (h.symm.trans hfirst)

/-- The payer is not counted as readonly. -/
theorem readonlyCount_accountTable_lt :
    readonlyCount (accountTable transaction payer) < (accountTable transaction payer).length := by
  have hpayer : payer ∈ keys (accountTable transaction payer) :=
    mem_keys_accountTable.mpr (.inl rfl)
  obtain ⟨use, huse, hkey⟩ := List.mem_map.mp hpayer
  refine lt_of_le_of_ne List.countP_le_length fun hall => ?_
  have hreadonly : isReadonly use := List.countP_eq_length.mp hall use huse
  rw [isReadonly_eq_false_of_payer huse hkey] at hreadonly
  contradiction

/-- Behind the payer, the accounts that are not counted as readonly are those that the transaction
wants to write. -/
theorem lt_sub_readonlyCount_iff {i : ℕ} {key : Address} (hi : 0 < i)
    (halone : ∀ use ∈ (accountTable transaction payer).drop 1, use.isSigner = false)
    (h : (keys (accountTable transaction payer))[i]? = some key) :
    i < (accountTable transaction payer).length -
        readonlyCount (accountTable transaction payer) ↔
      key = payer ∨ Writes transaction.accounts key := by
  rw [keys, List.getElem?_map, Option.map_eq_some_iff] at h
  obtain ⟨use, huse, rfl⟩ := h
  obtain ⟨hlt, rfl⟩ := List.getElem?_eq_some_iff.mp huse
  have hsigner : (accountTable transaction payer)[i].isSigner = false := by
    refine halone _ (List.mem_of_getElem? (i := i - 1) ?_)
    rw [List.getElem?_drop, Nat.add_sub_cancel' hi]
    exact huse
  have hreadonly := isReadonly_getElem_iff pairwise_isReadonly_accountTable hlt
  rw [← writes_accountTable, ← isWritable_iff_writes (List.getElem_mem hlt), ← Nat.not_le,
    ← hreadonly]
  simp [isReadonly, hsigner]

/-- The message of a table carries the transaction if nobody but the payer has to sign, the table is
not too long, and the call is the transaction's. -/
theorem carries_messageOf {call : Instruction}
    (halone : ∀ use ∈ (accountTable transaction payer).drop 1, use.isSigner = false)
    (hlength : (accountTable transaction payer).length ≤ 256)
    (hcall : (messageOf (accountTable transaction payer) recentBlock call).Calls call
      transaction) :
    (messageOf (accountTable transaction payer) recentBlock call).Carries transaction payer
      recentBlock where
  nodup := nodup_keys_accountTable
  mem_keys_iff key := by
    rw [messageOf, mem_keys_accountTable, keys, List.mem_map]
  payer_first := head?_keys_accountTable
  recentBlock_eq := rfl
  call := ⟨call, rfl, hcall⟩
  signs_iff i key hi := by
    rw [eq_payer_iff_of_getElem? hi]
    exact Nat.lt_one_iff
  mayWrite_iff i key hi := by
    -- the payer is not counted as readonly, so the count fits its byte
    have hless : readonlyCount (accountTable transaction payer) < _ :=
      readonlyCount_accountTable_lt
    have hcount : (UInt8.ofNat (readonlyCount (accountTable transaction payer))).toNat =
        readonlyCount (accountTable transaction payer) :=
      UInt8.toNat_ofNat_of_lt (show _ < 256 by omega)
    obtain rfl | hpos := Nat.eq_zero_or_pos i
    · exact iff_of_true (.inl Nat.zero_lt_one) (.inl ((eq_payer_iff_of_getElem? hi).mpr rfl))
    · rw [← lt_sub_readonlyCount_iff hpos halone hi]
      simp only [Message.MayWrite, messageOf, keys, List.length_map, hcount]
      rw [show (1 : UInt8).toNat = 1 from rfl, show (0 : UInt8).toNat = 0 from rfl]
      omega

/-! ### Signed transactions -/

/-- The chain finds in the message of a transaction what the transaction says. What is handed in for
it is this message behind its one signature, which is the signer's for it. -/
theorem compile_carries (h : compile transaction payer recentBlock = .ok message) :
    (∃ m, Message.decode? message = some m ∧ m.Carries transaction payer recentBlock) ∧
    ∀ signer signed, signer.address = payer →
      signTransaction signer transaction recentBlock = .ok signed →
      length? signed.raw = some (1, signed.signature ++ message) ∧
        signed.signature.length = 64 ∧ signer.sign message = .ok signed.signature := by
  constructor
  · obtain ⟨halone, call, hprogram, haccounts, hdata, hfits, rfl⟩ := exists_written_of_compile h
    refine ⟨_, Message.decode?_written hfits, carries_messageOf halone ?_ ?_⟩
    · exact length_accountTable_le_of_positions hprogram haccounts
    · exact calls_of_positions hprogram haccounts hdata
  · rintro signer signed rfl hsigned
    obtain ⟨signedMessage, signature, hmessage, hsign, hlength, rfl⟩ :=
      signTransaction_eq_ok_iff.mp hsigned
    obtain rfl : signedMessage = message := Except.ok.inj (hmessage.symm.trans h)
    refine ⟨length?_eq_some_iff.mpr ⟨by decide, ?_⟩, hlength, hsign⟩
    exact List.append_assoc ..

/-- A transaction that names its payer again, its target among its accounts, and one account first
to be read and then to be written. -/
def aliased : UnsignedTransaction :=
  .instruction 1 ⟨FixedBytes.ofNat 2⟩ [7] [.readonly ⟨FixedBytes.ofNat 3⟩,
    .signer openSigner.address, .writable ⟨FixedBytes.ofNat 3⟩, .readonly ⟨FixedBytes.ofNat 2⟩]

theorem compile_carries_aliased : ∃ message signed,
    compile aliased openSigner.address FixedBytes.zero = .ok message ∧
    signTransaction openSigner aliased FixedBytes.zero = .ok signed ∧
    (∃ m, Message.decode? message = some m ∧
      m.Carries aliased openSigner.address FixedBytes.zero) ∧
    length? signed.raw = some (1, signed.signature ++ message) ∧
    signed.signature.length = 64 ∧ openSigner.sign message = .ok signed.signature := by
  have halone : ∀ use ∈ aliased.accounts, use.isSigner → use.key = openSigner.address := by
    decide
  obtain ⟨message, hmessage⟩ := exists_compile halone (by decide) (by decide) FixedBytes.zero
  obtain ⟨signed, hsigned⟩ := exists_signTransaction (fun _ => ⟨_, rfl, rfl⟩) halone (by decide)
    (by decide) FixedBytes.zero
  obtain ⟨hcarries, hraw⟩ := compile_carries hmessage
  exact ⟨message, signed, hmessage, hsigned, hcarries, hraw openSigner signed rfl hsigned⟩

end GuardianRelay.Svm
