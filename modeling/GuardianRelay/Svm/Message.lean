import GuardianRelay.Transaction

/-!
# Messages of an account-model chain

What an account-model chain executes is a message: a header that counts signers and readonly accounts, the table of
the accounts that the message uses, a recent block, and one instruction that names its program and its accounts by
their positions in the table. The payer stands first in the table and is the only signer. Lengths are written in
groups of seven bits.
-/

namespace GuardianRelay.Svm

/-! ### Lengths -/

/-- The longest list that a message can hold. -/
def maxItems : Nat := 65535

/-- A number in groups of seven bits, the lowest group first; every group but the last has its high bit set. -/
def groups (n : Nat) : Bytes :=
  if n < 128 then [UInt8.ofNat n] else UInt8.ofNat (n % 128 + 128) :: groups (n / 128)

/-- The written form of a length, unless it is too long. -/
def encodeLength (n : Nat) : Except SigningFault Bytes :=
  if maxItems < n then .error (.tooManyItems n) else .ok (groups n)

/-! ### The table of accounts -/

/-- Adds a use to a table: an account that is in it already may do from now on what either use allows. -/
def addUse (table : List AccountUse) (use : AccountUse) : List AccountUse :=
  if table.any (·.key == use.key) then
    table.map fun entry =>
      if entry.key = use.key then
        { entry with isSigner := entry.isSigner || use.isSigner, isWritable := entry.isWritable || use.isWritable }
      else entry
  else table ++ [use]

/-- Where an account belongs in the table: the payer, then the accounts that sign and are written, that sign, that
are written, and that are only read. -/
def rank (payer : Address) (use : AccountUse) : Nat :=
  if use.key = payer then 0
  else match use.isSigner, use.isWritable with
    | true, true => 1
    | true, false => 2
    | false, true => 3
    | false, false => 4

/-- The accounts of a message, each once: those of the transaction and its target, in order of rank, and among
equals in the order in which they occur. -/
def accountTable (transaction : UnsignedTransaction) (payer : Address) : List AccountUse :=
  let uses := transaction.accounts ++ [.readonly transaction.target]
  (uses.foldl addUse [.signer payer]).mergeSort fun a b => rank payer a ≤ rank payer b

/-- The position of an account in a table, as the byte that an instruction names it by. -/
def position (table : List AccountUse) (key : Address) : Except SigningFault UInt8 :=
  match table.findIdx? (·.key == key) with
  | none => .error (.accountMissing key)
  | some i => if 255 < i then .error .tooManyAccounts else .ok (UInt8.ofNat i)

/-! ### Messages -/

/-- How many accounts of a table are neither signers nor written. -/
def readonlyCount (table : List AccountUse) : Nat :=
  table.countP fun use => !use.isSigner && !use.isWritable

/-- The message of a transaction for which `payer` pays and signs. Another account's signature cannot be had. -/
def compile (transaction : UnsignedTransaction) (payer : Address) (recentBlock : FixedBytes 32) :
    Except SigningFault Bytes := do
  let table := accountTable transaction payer
  if let some other := (table.drop 1).find? (·.isSigner) then throw (.foreignSigner other.key)
  let tableLength ← encodeLength table.length
  let instructions ← encodeLength 1
  let program ← position table transaction.target
  let accountsLength ← encodeLength transaction.accounts.length
  let accounts ← transaction.accounts.mapM fun use => position table use.key
  let dataLength ← encodeLength transaction.data.length
  return [1, 0, UInt8.ofNat (readonlyCount table)] ++ tableLength ++ table.flatMap (·.key.toList)
    ++ recentBlock.toList ++ instructions ++ [program] ++ accountsLength ++ accounts ++ dataLength ++ transaction.data

/-- How long a signature is. -/
def signatureLength : Nat := 64

/-- Signs a transaction: the raw form is the list of signatures, of which there is one, and the message. -/
def signTransaction (signer : Signer) (transaction : UnsignedTransaction) (recentBlock : FixedBytes 32) :
    Except SigningFault SignedTransaction := do
  let message ← compile transaction signer.address recentBlock
  let signature ← signer.sign message
  if signature.length ≠ signatureLength then throw (.svmSignatureLength signature.length)
  return { transaction, signer := signer.address, signature, raw := (← encodeLength 1) ++ signature ++ message }

end GuardianRelay.Svm
