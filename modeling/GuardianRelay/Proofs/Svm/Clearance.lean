import GuardianRelay.Proofs.Endpoint
import GuardianRelay.Proofs.Payload.Message
import GuardianRelay.Proofs.Svm.Instructions
import GuardianRelay.Proofs.Svm.Posting
import GuardianRelay.Proofs.Svm.Publication

/-!
# What an Account-Model Endpoint Lets Go

Before an account-model endpoint sends something it reads accounts, each of which may be missing or
too short: the mint for its decimals, the payer's tokens, the core bridge for its fee, and what
tells whether the mint is a wrapped one. This module says under all answers of a node what has been
found out when a transaction is handed in (`Endpoint.Released`), and what the program that is
called reads in it (`Outgoing.read?`): the payload, or the transfer with the amount that was
checked, and not the one that was asked for.

A run either comes to the publication or ends before it with nothing handed in
(`Endpoint.Withheld`). What goes wrong later is a failure of the node or of the transaction, so
every other failure says that nothing was sent.

What the payer has to hold is a sum of 64 bits, and what goes beyond them is lost. That the payer
can pay is therefore said of the sums that 64 bits can hold; the rest is said of all.

## Main results

* `Outgoing.read?_of_sends`: a program reads what it is told to send.
* `Endpoint.clears_or_withheld`: a run that does not stop before comes to the publication of what
  the intent clears as.
* `Endpoint.send_releases_checked`: what is handed in, and what a failure says about it.
-/

namespace GuardianRelay.Svm

variable {exchanges : List (Exchange surroundings)}

open Svm.Action (lookup numberIn)

/-! ### What programs are told to send -/

/-- The program of an endpoint. -/
def Role.program : Role → Address
  | .messenger program => program.program
  | .tokens program => program.program

/-- What leaves for another chain: a message, or tokens. -/
inductive Outgoing where
  | message (payload : Bytes)
  | transfer (transfer : OutboundTransfer)
deriving DecidableEq

namespace Outgoing

/-- Reads the payload of a message behind its length. -/
def message? (b : Bytes) : Option (Outgoing × Bytes) := do
  let (length, b) ← littleEndian? 4 b
  let (payload, b) ← bytes? length b
  return (message payload, b)

/-- Reads the fields of a transfer. The mint is one of the accounts, and whether the tokens are
wrapped is said by the mark. -/
def transfer? (mint : Address) (wrapped : Bool) (b : Bytes) : Option (Outgoing × Bytes) := do
  let (batch, b) ← littleEndian? 4 b
  let (amount, b) ← littleEndian? 8 b
  let (recipient, b) ← key? b
  let (recipientChain, b) ← littleEndian? 2 b
  return (transfer { mint, wrapped, batch := .ofNat batch, amount := .ofNat amount, recipient,
                     recipientChain := .ofNat recipientChain }, b)

/-- Reads what a transaction tells a program to send, if there is nothing else in its data. -/
def read? (transaction : UnsignedTransaction) : Option Outgoing := do
  let (mark, b) ← fixed? 8 transaction.data
  let (outgoing, rest) ←
    if mark.toList = instructionMark "send_message" then message? b
    else do
      let mint ← transaction.accounts[3]?
      if mark.toList = instructionMark "send_wrapped_tokens_with_payload" then
        transfer? mint.key true b
      else if mark.toList = instructionMark "send_native_tokens_with_payload" then
        transfer? mint.key false b
      else none
  if rest = [] then some outgoing else none

/-- The marks of the functions that send differ. This computes them. -/
theorem marks_ne :
    instructionMark "send_wrapped_tokens_with_payload" ≠ instructionMark "send_message" ∧
    instructionMark "send_native_tokens_with_payload" ≠ instructionMark "send_message" ∧
    instructionMark "send_native_tokens_with_payload" ≠
      instructionMark "send_wrapped_tokens_with_payload" := by
  decide +kernel

/-- A mark is read where it stands. -/
theorem fixed?_instructionMark (name : String) (rest : Bytes) :
    fixed? 8 (instructionMark name ++ rest) =
      some (⟨instructionMark name, length_instructionMark name⟩, rest) :=
  fixed?_append ⟨instructionMark name, length_instructionMark name⟩ rest

/-- The fields of a transfer are read where they stand. -/
theorem transfer?_fields (t : OutboundTransfer) :
    transfer? t.mint t.wrapped (Bytes.littleEndian 4 t.batch.toNat ++
      (Bytes.littleEndian 8 t.amount.toNat ++ (t.recipient.toList ++
        Bytes.littleEndian 2 t.recipientChain.toNat))) = some (transfer t, []) := by
  have hbatch := littleEndian?_littleEndian (n := 4) t.batch.toNat_lt
  have hamount := littleEndian?_littleEndian (n := 8) t.amount.toNat_lt
  have hchain := littleEndian?_littleEndian (n := 2) t.recipientChain.toNat_lt []
  rw [List.append_nil] at hchain
  simp only [transfer?, hbatch, hamount, key?_append, hchain, Option.bind_eq_bind,
    Option.bind_some, Option.pure_def, UInt32.ofNat_toNat, UInt64.ofNat_toNat, UInt16.ofNat_toNat]

/-- A transaction of an endpoint that sends something: an instruction of its program. -/
inductive Sends (chain : ChainId) (payer : Address) : Role → Outgoing → UnsignedTransaction → Prop
  | message {program : Messenger} {payload : Bytes} {seed : UInt64}
      {transaction : UnsignedTransaction} :
      payload.length < 2 ^ 32 →
      program.send chain payer payload seed = .ok transaction →
      Sends chain payer (.messenger program) (.message payload) transaction
  | transfer {program : TokenIntegration} {t : OutboundTransfer} {seed : UInt64}
      {transaction : UnsignedTransaction} :
      program.send chain payer t seed = .ok transaction →
      Sends chain payer (.tokens program) (.transfer t) transaction

/-- The instruction that sends tokens: its mark, its fields, and the mint at its place. -/
theorem exists_of_send {program : TokenIntegration} {chain : ChainId} {payer : Address}
    {t : OutboundTransfer} {seed : UInt64} {transaction : UnsignedTransaction}
    (h : program.send chain payer t seed = .ok transaction) :
    transaction.target = program.program ∧
      transaction.data = TokenIntegration.sendData t ∧
      transaction.accounts[3]? = some (.writable t.mint) := by
  obtain ⟨contract, -, h⟩ := Outcome.bind_eq_ok_iff.mp h
  obtain ⟨payerTokens, -, h⟩ := Outcome.bind_eq_ok_iff.mp h
  obtain ⟨passing, -, h⟩ := Outcome.bind_eq_ok_iff.mp h
  dsimp only at h
  split at h
  all_goals
    obtain ⟨account, -, h⟩ := Outcome.bind_eq_ok_iff.mp h
    obtain ⟨ofMint, -, h⟩ := Outcome.bind_eq_ok_iff.mp h
    obtain ⟨message, -, h⟩ := Outcome.bind_eq_ok_iff.mp h
    obtain rfl := Except.ok.inj h
    exact ⟨rfl, rfl, rfl⟩

/-- What a program is told to send, it reads: all of it, and nothing else. -/
theorem read?_of_sends {chain : ChainId} {payer : Address} {role : Role} {outgoing : Outgoing}
    {transaction : UnsignedTransaction} (h : Sends chain payer role outgoing transaction) :
    read? transaction = some outgoing ∧ transaction.target = role.program := by
  cases h with
  | @message program payload seed _ hshort hsend =>
    obtain ⟨account, -, hsend⟩ := Outcome.bind_eq_ok_iff.mp hsend
    obtain rfl := Except.ok.inj hsend
    have hlength := littleEndian?_littleEndian (n := 4) hshort payload
    have hpayload := bytes?_length_append payload []
    rw [List.append_nil] at hpayload
    refine ⟨?_, rfl⟩
    simp only [read?, UnsignedTransaction.instruction, fixed?_instructionMark, counted, message?,
      hlength, hpayload, Option.bind_eq_bind, Option.bind_some, Option.pure_def, if_true]
  | @transfer program t seed _ hsend =>
    obtain ⟨htarget, hdata, hmint⟩ := exists_of_send hsend
    obtain ⟨hwrapped, hnative, hne⟩ := marks_ne
    refine ⟨?_, htarget⟩
    have hfields := transfer?_fields t
    cases hform : t.wrapped <;>
      · rw [hform] at hfields
        simp only [read?, hdata, TokenIntegration.sendData, hform, List.append_assoc,
          Bool.false_eq_true, if_true, if_false, fixed?_instructionMark, hmint, AccountUse.writable,
          hwrapped, hnative, hne, hfields, Option.bind_eq_bind, Option.bind_some]

end Outgoing

namespace Endpoint

variable {endpoint : Endpoint}

/-! ### Runs that stop early -/

/-- A run ended in a failure, and nothing was handed in. -/
def Withheld {α : Type} (exchanges : List (Exchange surroundings)) (outcome : Outcome α) : Prop :=
  submissions exchanges = [] ∧ ∃ error, outcome = .error error

section Withheld

variable {α : Type} {outcome : Outcome α}

/-- A failure before which a node is asked for an account stays one before which nothing was handed
in. -/
theorem Withheld.lookup_cons (h : Withheld exchanges outcome) (key : Address)
    (reply : Outcome (Option Bytes)) : Withheld (lookup key reply :: exchanges) outcome :=
  ⟨(List.filterMap_cons_none rfl).trans h.1, h.2⟩

/-- A program that has failed hands nothing in. -/
theorem withheld_of_runs_fail {error : RelayError}
    (h : (.fail error : Action α).Runs exchanges outcome) : Withheld exchanges outcome := by
  obtain ⟨rfl, rfl⟩ := Program.runs_fail_iff.mp h
  exact ⟨rfl, error, rfl⟩

/-- A number in an account is read from what was answered for the account, or the run ends. -/
theorem runs_accountNumber_bind {key : Address} {parse : Bytes → Except RpcFault UInt64}
    {f : UInt64 → Action α} (h : (Action.accountNumber key parse >>= f).Runs exchanges outcome) :
    (∃ reply n later, exchanges = lookup key reply :: later ∧ numberIn parse reply = .ok n ∧
      (f n).Runs later outcome) ∨ Withheld exchanges outcome := by
  obtain ⟨n, _, later, hread, hlater, rfl⟩ | ⟨error, hread, rfl⟩ := Program.runs_bind_iff.mp h
  · obtain ⟨reply, rfl, hn⟩ := Action.runs_accountNumber_iff.mp hread
    exact .inl ⟨reply, n, later, rfl, hn.symm, hlater⟩
  · obtain ⟨reply, rfl, -⟩ := Action.runs_accountNumber_iff.mp hread
    exact .inr ⟨rfl, error, rfl⟩

/-- An address is derived, or the run ends. -/
theorem runs_derived_bind {β : Type} {r : Except DeriveError β} {f : β → Action α}
    (h : (Action.derived r >>= f).Runs exchanges outcome) :
    (∃ value, r = .ok value ∧ (f value).Runs exchanges outcome) ∨ Withheld exchanges outcome := by
  obtain hvalue | ⟨fault, -, rfl, rfl⟩ := Action.runs_derived_bind_iff.mp h
  · exact .inl hvalue
  · exact .inr ⟨rfl, _, rfl⟩

end Withheld

/-! ### Intents that clear -/

/-- What is counted of a cost is all of it, if 64 bits can hold it. -/
theorem toNat_le_of_counted {fee held : UInt64} (h : fee + lamportsPerSignature ≤ held)
    (hcounted : fee.toNat + 5000 < 2 ^ 64) : fee.toNat + 5000 ≤ held.toNat := by
  have hsum : (fee + lamportsPerSignature).toNat = fee.toNat + 5000 :=
    (UInt64.toNat_add _ _).trans (Nat.mod_eq_of_lt hcounted)
  exact hsum ▸ UInt64.le_iff_toNat_le.mp h

/-- The payer can pay: the node answered what publishing costs, which is nothing if there is no
account that says so, and that the payer holds this and what a signature costs, as it is counted,
and therefore in full if 64 bits can hold it. -/
inductive Pays (endpoint : Endpoint) (core : CoreBridge) : List (Exchange surroundings) → Prop
  | pays {reply : Outcome (Option Bytes)} {fee held : UInt64} :
      numberIn parseBridgeFee reply = .ok fee →
      fee + lamportsPerSignature ≤ held →
      (fee.toNat + 5000 < 2 ^ 64 → fee.toNat + 5000 ≤ held.toNat) →
      Pays endpoint core [lookup core.account reply, ⟨.balance endpoint.payer, .ok held⟩]

/-- An intent clears as something that leaves: it is for the program of the endpoint and well
formed, the mint says with how many decimals, something is left of the amount, the payer has it,
and can pay. Whether the tokens are wrapped is what the node said of the account that tells. -/
inductive Clears (endpoint : Endpoint) : Intent → List (Exchange surroundings) → Outgoing → Prop
  | message {program : Messenger} {payload : Bytes} {paying : List (Exchange surroundings)} :
      endpoint.role = .messenger program →
      payload.length ≤ 1024 →
      Pays endpoint program.core paying →
      Clears endpoint (.message payload) paying (.message payload)
  | tokens {program : TokenIntegration} {mint recipient tokens wrappedMeta : Address}
      {amount held : UInt64} {chain : ChainId} {batch : UInt32} {decimals : UInt8}
      {mintData : Bytes} {heldReply : Outcome (Option Bytes)} {metaData : Option Bytes}
      {paying : List (Exchange surroundings)} :
      endpoint.role = .tokens program →
      chain ≠ 0 →
      chain ≠ endpoint.chain →
      recipient ≠ .zero →
      parseDecimals mintData = .ok decimals →
      Amount.truncate amount decimals ≠ 0 →
      AssociatedToken.address endpoint.payer mint = .ok tokens →
      numberIn parseTokenAmount heldReply = .ok held →
      Amount.truncate amount decimals ≤ held →
      Pays endpoint program.core paying →
      (ProgramAccount.wrappedMeta mint).address program.bridge = .ok wrappedMeta →
      Clears endpoint (.tokens mint amount chain recipient batch)
        (lookup mint (.ok (some mintData)) :: lookup tokens heldReply ::
          (paying ++ [lookup wrappedMeta (.ok metaData)]))
        (.transfer { mint, wrapped := metaData.isSome, batch,
                     amount := Amount.truncate amount decimals, recipient,
                     recipientChain := chain })

/-- The payer can pay, or the run ends. -/
theorem runs_checkLamports_bind {α : Type} {core : CoreBridge} {f : Unit → Action α}
    {outcome : Outcome α} (h : (endpoint.checkLamports core >>= f).Runs exchanges outcome) :
    (∃ paying later, exchanges = paying ++ later ∧ Pays endpoint core paying ∧
      (f ()).Runs later outcome) ∨ Withheld exchanges outcome := by
  rw [checkLamports, bind_assoc] at h
  obtain ⟨reply, fee, later, rfl, hfee, hlater⟩ | hwithheld := runs_accountNumber_bind h
  · simp only [bind_assoc] at hlater
    obtain ⟨held, later, rfl, hpaying⟩ | ⟨error, rfl, rfl⟩ :=
      Action.runs_node_bind_iff.mp hlater
    · split at hpaying
      next =>
        obtain ⟨rfl, rfl⟩ := Program.runs_fail_iff.mp hpaying
        exact .inr ⟨rfl, _, rfl⟩
      next hrich =>
        have hcounted := UInt64.not_lt.mp hrich
        exact .inl ⟨[_, _], later, rfl, .pays hfee hcounted (toNat_le_of_counted hcounted), hpaying⟩
    · exact .inr ⟨rfl, error, rfl⟩
  · exact .inr hwithheld

/-- What leaves is sent with the instruction that is built for it. -/
def Builds (endpoint : Endpoint) (outgoing : Outgoing)
    (build : UInt64 → Except DeriveError UnsignedTransaction) : Prop :=
  ∀ seed transaction, build seed = .ok transaction →
    Outgoing.Sends endpoint.chain endpoint.payer endpoint.role outgoing transaction

/-- The last of three stages of a transfer: the payer has to be able to pay, the node says whether
the tokens are wrapped, and the transfer is published. -/
def dispatch (endpoint : Endpoint) (program : TokenIntegration) (t : OutboundTransfer) :
    Action SendReceipt := do
  endpoint.checkLamports program.core
  let key ← Action.derived ((ProgramAccount.wrappedMeta t.mint).address program.bridge)
  let wrapped ← Action.accountExists key
  endpoint.publish program.tracker fun seed =>
    program.send endpoint.chain endpoint.payer { t with wrapped } seed

/-- The stage before: the payer has to hold the tokens. -/
def draw (endpoint : Endpoint) (program : TokenIntegration) (t : OutboundTransfer) :
    Action SendReceipt := do
  let tokens ← Action.derived (AssociatedToken.address endpoint.payer t.mint)
  let held ← Action.accountNumber tokens parseTokenAmount
  if held < t.amount then .fail (.insufficientFunds t.amount.toNat held.toNat)
  else endpoint.dispatch program t

/-- The first stage: something has to be left of the amount in the decimals of the mint. -/
def measure (endpoint : Endpoint) (program : TokenIntegration) (mint : Address) (amount : UInt64)
    (chain : ChainId) (recipient : Address) (batch : UInt32) : Action SendReceipt := do
  match ← Action.account mint with
  | none => .fail (.rpc (.mintMissing mint))
  | some mintData =>
    let decimals ← Program.ofOutcome (Outcome.ofRpc (parseDecimals mintData))
    let truncated := Amount.truncate amount decimals
    if truncated = 0 then .fail .zeroAmount
    else endpoint.draw program ⟨mint, false, batch, truncated, recipient, chain⟩

section Stages

variable {program : TokenIntegration} {mint recipient : Address} {amount : UInt64}
  {chain : ChainId} {batch : UInt32} {t : OutboundTransfer} {outcome : Outcome SendReceipt}

/-- A transfer goes through the three stages, if the recipient can be sent to. -/
theorem sendTokens_eq :
    endpoint.sendTokens program mint amount chain recipient batch =
      match checkRecipient endpoint.chain chain recipient with
      | .error fault => .fail (.invalidRecipient fault)
      | .ok _ => endpoint.measure program mint amount chain recipient batch := by
  rw [sendTokens]
  cases hrecipient : checkRecipient endpoint.chain chain recipient with
  | error fault => rfl
  | ok _ =>
    refine bind_congr fun data => ?_
    cases data with
    | none => rfl
    | some mintData =>
      refine bind_congr fun decimals => ?_
      dsimp only
      split
      next => rfl
      next =>
        refine bind_congr fun tokens => bind_congr fun held => ?_
        dsimp only
        split <;> rfl

/-- A transfer is published in the form that the node's answer gives it, or the run ends. -/
theorem runs_dispatch (h : (endpoint.dispatch program t).Runs exchanges outcome) :
    (∃ paying wrappedMeta metaData publishing,
      exchanges = paying ++ lookup wrappedMeta (.ok metaData) :: publishing ∧
      Pays endpoint program.core paying ∧
      (ProgramAccount.wrappedMeta t.mint).address program.bridge = .ok wrappedMeta ∧
      (endpoint.publish program.tracker fun seed => program.send endpoint.chain endpoint.payer
        { t with wrapped := metaData.isSome } seed).Runs publishing outcome) ∨
      Withheld exchanges outcome := by
  obtain ⟨paying, later, rfl, hpays, hlater⟩ | hwithheld := runs_checkLamports_bind h
  · have hpaying : submissions paying = [] := by cases hpays; rfl
    obtain ⟨wrappedMeta, hkey, hexists⟩ | ⟨hnone, herror⟩ := runs_derived_bind hlater
    · obtain ⟨metaData, publishing, rfl, hpublish⟩ | ⟨error, rfl, rfl⟩ :=
        Action.runs_accountExists_bind_iff.mp hexists
      · exact .inl ⟨paying, wrappedMeta, metaData, publishing, rfl, hpays, hkey, hpublish⟩
      · exact .inr ⟨by rw [submissions_append, hpaying]; rfl, error, rfl⟩
    · exact .inr ⟨by rw [submissions_append, hpaying, hnone]; rfl, herror⟩
  · exact .inr hwithheld

/-- The payer holds the tokens, or the run ends. -/
theorem runs_draw (h : (endpoint.draw program t).Runs exchanges outcome) :
    (∃ tokens reply held later, exchanges = lookup tokens reply :: later ∧
      AssociatedToken.address endpoint.payer t.mint = .ok tokens ∧
      numberIn parseTokenAmount reply = .ok held ∧ t.amount ≤ held ∧
      (endpoint.dispatch program t).Runs later outcome) ∨ Withheld exchanges outcome := by
  obtain ⟨tokens, htokens, hread⟩ | hwithheld := runs_derived_bind h
  · obtain ⟨reply, held, later, rfl, hheld, hdispatch⟩ | hwithheld := runs_accountNumber_bind hread
    · split at hdispatch
      next => exact .inr ((withheld_of_runs_fail hdispatch).lookup_cons _ _)
      next henough =>
        exact .inl ⟨tokens, reply, held, later, rfl, htokens, hheld, UInt64.not_lt.mp henough,
          hdispatch⟩
    · exact .inr hwithheld
  · exact .inr hwithheld

/-- The mint says with how many decimals, and something is left, or the run ends. -/
theorem runs_measure
    (h : (endpoint.measure program mint amount chain recipient batch).Runs exchanges outcome) :
    (∃ mintData decimals later, exchanges = lookup mint (.ok (some mintData)) :: later ∧
      parseDecimals mintData = .ok decimals ∧ Amount.truncate amount decimals ≠ 0 ∧
      (endpoint.draw program ⟨mint, false, batch, Amount.truncate amount decimals, recipient,
        chain⟩).Runs later outcome) ∨ Withheld exchanges outcome := by
  obtain ⟨data, later, rfl, hmint⟩ | ⟨error, rfl, rfl⟩ := Action.runs_node_bind_iff.mp h
  · cases data with
    | none => exact .inr ((withheld_of_runs_fail hmint).lookup_cons mint _)
    | some mintData =>
      obtain ⟨decimals, hdecimals, hamount⟩ | ⟨error, -, rfl, rfl⟩ :=
        Program.runs_ofOutcome_bind_iff.mp hmint
      · dsimp only at hamount
        split at hamount
        next => exact .inr ((withheld_of_runs_fail hamount).lookup_cons mint _)
        next hleft =>
          exact .inl ⟨mintData, decimals, later, rfl, Outcome.mapError_eq_ok_iff.mp hdecimals,
            hleft, hamount⟩
      · exact .inr ⟨rfl, error, rfl⟩
  · exact .inr ⟨rfl, error, rfl⟩

/-- Sending tokens comes to the publication of what the intent clears as, or it ends with nothing
handed in. -/
theorem sendTokens_clears_or_withheld (hrole : endpoint.role = .tokens program)
    (h : (endpoint.sendTokens program mint amount chain recipient batch).Runs exchanges outcome) :
    (∃ checking outgoing publishing build,
      Clears endpoint (.tokens mint amount chain recipient batch) checking outgoing ∧
      Builds endpoint outgoing build ∧ exchanges = checking ++ publishing ∧
      (endpoint.publish program.tracker build).Runs publishing outcome) ∨
      Withheld exchanges outcome := by
  rw [sendTokens_eq] at h
  cases hrecipient : checkRecipient endpoint.chain chain recipient with
  | error fault =>
    rw [hrecipient] at h
    exact .inr (withheld_of_runs_fail h)
  | ok _ =>
    rw [hrecipient] at h
    obtain ⟨hsome, helsewhere, hsomebody⟩ := checkRecipient_eq_ok_iff.mp hrecipient
    obtain ⟨mintData, decimals, later, rfl, hdecimals, hleft, hdraw⟩ | hwithheld := runs_measure h
    · obtain ⟨tokens, reply, held, later, rfl, htokens, hheld, henough, hdispatch⟩ | hwithheld :=
        runs_draw hdraw
      · obtain ⟨paying, wrappedMeta, metaData, publishing, rfl, hpays, hmeta, hpublish⟩ |
          hwithheld := runs_dispatch hdispatch
        · have hclears : Clears endpoint (.tokens mint amount chain recipient batch)
              (lookup mint (.ok (some mintData)) :: lookup tokens reply ::
                (paying ++ [lookup wrappedMeta (.ok metaData)]))
              (.transfer { mint, wrapped := metaData.isSome, batch,
                           amount := Amount.truncate amount decimals, recipient,
                           recipientChain := chain }) :=
            .tokens hrole hsome helsewhere hsomebody hdecimals hleft htokens hheld henough hpays
              hmeta
          refine .inl ⟨_, _, publishing, _, hclears, fun seed transaction hbuild => ?_, ?_,
            hpublish⟩
          · rw [hrole]
            exact .transfer hbuild
          · simp
        · exact .inr ((hwithheld.lookup_cons _ _).lookup_cons _ _)
      · exact .inr (hwithheld.lookup_cons _ _)
    · exact .inr hwithheld

end Stages

/-- Sending comes to the publication of what the intent clears as, or it ends with nothing handed
in. -/
theorem clears_or_withheld {intent : Intent} {outcome : Outcome SendReceipt}
    (h : (endpoint.send intent).Runs exchanges outcome) :
    (∃ checking outgoing publishing tracker build, Clears endpoint intent checking outgoing ∧
      Builds endpoint outgoing build ∧ exchanges = checking ++ publishing ∧
      (endpoint.publish tracker build).Runs publishing outcome) ∨ Withheld exchanges outcome := by
  unfold send at h
  split at h
  next program payload hrole =>
    obtain ⟨b, hencode, hlater⟩ | ⟨error, -, rfl, rfl⟩ := Program.runs_ofOutcome_bind_iff.mp h
    · have hcarried : payload.length ≤ 1024 :=
        (MessengerMessage.encode_eq_ok_iff.mp (Outcome.mapError_eq_ok_iff.mp hencode)).1
      obtain ⟨paying, publishing, rfl, hpays, hpublish⟩ | hwithheld :=
        runs_checkLamports_bind hlater
      · refine .inl ⟨paying, _, publishing, _, _, .message hrole hcarried hpays,
          fun seed transaction hbuild => ?_, rfl, hpublish⟩
        rw [hrole]
        exact .message (hcarried.trans_lt (by decide)) hbuild
      · exact .inr hwithheld
    · exact .inr ⟨rfl, error, rfl⟩
  next program mint amount chain recipient batch hrole =>
    obtain ⟨checking, outgoing, publishing, build, hclears, hbuilds, rfl, hpublish⟩ | hwithheld :=
      sendTokens_clears_or_withheld hrole h
    · exact .inl ⟨checking, outgoing, publishing, _, build, hclears, hbuilds, rfl, hpublish⟩
    · exact .inr hwithheld
  next => exact .inr (withheld_of_runs_fail h)
  next => exact .inr (withheld_of_runs_fail h)

/-! ### Publications that hand something in -/

section Publications

variable {tracker : Address} {build : UInt64 → Except DeriveError UnsignedTransaction}

/-- A publication hands in one transaction, which was built and signed, or none. -/
theorem Publishes.submissions_eq {outcome : Outcome SendReceipt}
    (h : Publishes endpoint tracker build exchanges outcome) :
    submissions exchanges = [] ∨ ∃ seed transaction block signed,
      submissions exchanges = [signed] ∧ build seed = .ok transaction ∧
      signTransaction endpoint.signer transaction block = .ok signed := by
  cases h with
  | unread | unbuilt => exact .inl rfl
  | unsubmitted _ hbuild hsubmit =>
    cases hsubmit with
    | undated | unsigned => exact .inl rfl
    | handedIn _ hsigned => exact .inr ⟨_, _, _, _, rfl, hbuild, hsigned⟩
  | landed _ _ _ hbuild hsigned => exact .inr ⟨_, _, _, _, rfl, hbuild, hsigned⟩

/-- What cannot be reported of a transaction that landed is that its log was not answered, or that
it tells no number. -/
theorem of_reported_error {tx : TxId} {answer : Outcome (List String)} {error : RelayError}
    (h : reported endpoint tx answer = .error error) :
    answer = .error error ∨ ∃ fault, error = .rpc fault := by
  cases answer with
  | error _ => exact .inl (congrArg _ (Except.error.inj h))
  | ok lines =>
    rw [reported] at h
    split at h
    next => contradiction
    next => exact .inr ⟨_, (Except.error.inj h).symm⟩

/-- A publication that fails after it has handed something in fails by an answer of the node, or
because the log tells no number. -/
theorem Publishes.rpc_of_submission {error : RelayError}
    (h : Publishes endpoint tracker build exchanges (.error error))
    (hrpc : ∀ error ∈ Action.failures exchanges, ∃ fault, error = .rpc fault)
    (hsubmissions : submissions exchanges ≠ []) : ∃ fault, error = .rpc fault := by
  generalize houtcome : Except.error error = outcome at h
  cases h with
  | unread | unbuilt => exact absurd rfl hsubmissions
  | unsubmitted _ _ hsubmit =>
    obtain rfl := Except.error.inj houtcome
    cases hsubmit with
    | undated | unsigned => exact absurd rfl hsubmissions
    | @handedIn _ signed =>
      exact hrpc _ (@Action.mem_failures _ (.submit signed) _ (.tail _ (.tail _ (.head _))))
  | landed tx answer =>
    obtain rfl | hfault := of_reported_error houtcome.symm
    · exact hrpc _ (@Action.mem_failures _ (.log tx) _ mem_landing.2)
    · exact hfault

end Publications

/-! ### A transfer -/

/-- An integration with a token bridge over the core bridge of the messenger. -/
def openIntegration : TokenIntegration where
  program := ⟨FixedBytes.ofNat 32⟩
  bridge := ⟨FixedBytes.ofNat 33⟩
  senderConfig := ⟨FixedBytes.ofNat 34⟩
  redeemerConfig := ⟨FixedBytes.ofNat 35⟩
  bridgeConfig := ⟨FixedBytes.ofNat 36⟩
  authoritySigner := ⟨FixedBytes.ofNat 37⟩
  custodySigner := ⟨FixedBytes.ofNat 38⟩
  mintAuthority := ⟨FixedBytes.ofNat 39⟩
  emitter := ⟨FixedBytes.ofNat 40⟩
  tracker := ⟨FixedBytes.ofNat 41⟩
  core := openMessenger.core

/-- The integration of the first chain, driven by an account that signs everything. -/
def openTokens : Endpoint := { openEndpoint with role := .tokens openIntegration }

/-- A transfer of a thousand of a wrapped mint. -/
def openTransfer : OutboundTransfer where
  mint := ⟨FixedBytes.ofNat 55⟩
  wrapped := true
  batch := 7
  amount := 1000
  recipient := stranger
  recipientChain := 2

/-- The questions of the endpoint when 1005 are to be sent, and the mint has nine decimals. The
payer holds what is left of them. -/
def transferring (tokens wrappedMeta : Address) (signed : SignedTransaction) :
    List (Exchange surroundings) :=
  lookup openTransfer.mint (.ok (some (Bytes.zeros 44 ++ [9]))) ::
    lookup tokens (.ok (some (Bytes.zeros 64 ++ Bytes.littleEndian 8 1000))) ::
    ([lookup openMessenger.core.account (.ok none),
      ⟨.balance openEndpoint.payer, .ok (1000000 : UInt64)⟩] ++
      lookup wrappedMeta (.ok (some [])) ::
        landing openIntegration.tracker (.ok none) FixedBytes.zero signed "5h6x" (.ok []))

/-- There are addresses for the accounts of the transfer. This computes them. -/
theorem exists_transfer : ∃ tokens wrappedMeta transaction,
    AssociatedToken.address openTokens.payer openTransfer.mint = .ok tokens ∧
    (ProgramAccount.wrappedMeta openTransfer.mint).address openIntegration.bridge =
      .ok wrappedMeta ∧
    openIntegration.send openTokens.chain openTokens.payer openTransfer (0 + 1) =
      .ok transaction := by
  have h : (do
      let _ ← AssociatedToken.address openTokens.payer openTransfer.mint
      let _ ← (ProgramAccount.wrappedMeta openTransfer.mint).address openIntegration.bridge
      let _ ← openIntegration.send openTokens.chain openTokens.payer openTransfer (0 + 1)
      return true) = Except.ok true := by decide +kernel
  obtain ⟨tokens, htokens, h⟩ := Outcome.bind_eq_ok_iff.mp h
  obtain ⟨wrappedMeta, hmeta, h⟩ := Outcome.bind_eq_ok_iff.mp h
  obtain ⟨transaction, hbuild, -⟩ := Outcome.bind_eq_ok_iff.mp h
  exact ⟨tokens, wrappedMeta, transaction, htokens, hmeta, hbuild⟩

/-- Only the account itself has to sign the transfer, which is small. -/
theorem exists_signed_transfer {transaction : UnsignedTransaction}
    (hbuild : openIntegration.send openTokens.chain openTokens.payer openTransfer (0 + 1) =
      .ok transaction) :
    ∃ signed, signTransaction openTokens.signer transaction FixedBytes.zero = .ok signed := by
  obtain ⟨-, hdata, -⟩ := Outgoing.exists_of_send hbuild
  have hpaid := TokenIntegration.send_paidBy transaction hbuild
  have hshort : transaction.data.length ≤ maxItems := by
    simp [hdata, TokenIntegration.sendData, length_instructionMark,
      Bytes.length_littleEndian, maxItems]
  exact exists_signTransaction (fun _ => ⟨_, rfl, rfl⟩) hpaid.signedBy
    (Nat.add_le_add_right (hpaid.length_le.trans (by decide)) 2) hshort _

/-- The transfer is sent like this, though its log tells no number. -/
theorem runs_transferring {tokens wrappedMeta : Address} {transaction : UnsignedTransaction}
    {signed : SignedTransaction}
    (htokens : AssociatedToken.address openTokens.payer openTransfer.mint = .ok tokens)
    (hmeta : (ProgramAccount.wrappedMeta openTransfer.mint).address openIntegration.bridge =
      .ok wrappedMeta)
    (hbuild : openIntegration.send openTokens.chain openTokens.payer openTransfer (0 + 1) =
      .ok transaction)
    (hsigned : signTransaction openTokens.signer transaction FixedBytes.zero = .ok signed) :
    (openTokens.send (.tokens openTransfer.mint 1005 2 stranger 7)).Runs
      (transferring tokens wrappedMeta signed) (.error (.rpc (.noSequence "5h6x"))) := by
  have hprovisional : Action.numberIn parseTracker (.ok none) = .ok 0 := rfl
  have hheld := Action.runs_accountNumber tokens parseTokenAmount
    (.ok (some (Bytes.zeros 64 ++ Bytes.littleEndian 8 1000)))
  have hrecipient : checkRecipient openTokens.chain 2 stranger = .ok () := by decide
  have hleft : Amount.truncate 1005 9 = openTransfer.amount := by decide
  change (openTokens.sendTokens openIntegration openTransfer.mint 1005 2 stranger 7).Runs _ _
  rw [sendTokens_eq, hrecipient]
  refine Action.runs_node_bind_iff.mpr (.inl ⟨some (Bytes.zeros 44 ++ [9]), _, rfl, ?_⟩)
  refine Program.runs_ofOutcome_bind_iff.mpr (.inl ⟨9, rfl, ?_⟩)
  dsimp only
  rw [hleft, if_neg (by decide)]
  refine Action.runs_derived_bind_iff.mpr (.inl ⟨tokens, htokens, ?_⟩)
  refine Program.runs_bind_iff.mpr (.inl ⟨1000, _, _, hheld, ?_, rfl⟩)
  rw [if_neg (by decide)]
  refine Program.runs_bind_iff.mpr (.inl ⟨(), _, _, runs_checkLamports, ?_, rfl⟩)
  refine Action.runs_derived_bind_iff.mpr (.inl ⟨wrappedMeta, hmeta, ?_⟩)
  refine Action.runs_accountExists_bind_iff.mpr (.inl ⟨some [], _, rfl, ?_⟩)
  exact runs_publish_iff.mpr (.landed "5h6x" (.ok []) hprovisional hbuild hsigned)

/-! ### What is handed in -/

/-- What has been found out when a transaction is handed in for an intent, and what the transaction
is. -/
structure Released (endpoint : Endpoint) (intent : Intent)
    (exchanges : List (Exchange surroundings)) (signed : SignedTransaction) (outgoing : Outgoing) :
    Prop where
  /-- The questions began with those by which the intent cleared. -/
  asked : ∃ checking later, Clears endpoint intent checking outgoing ∧
    exchanges = checking ++ later
  target : signed.transaction.target = endpoint.role.program
  /-- The program reads what the intent cleared as, and nothing else is in the data. -/
  read : Outgoing.read? signed.transaction = some outgoing
  /-- Behind the one signature is the message of this transaction, for which the payer pays. -/
  raw : ∃ message m block, length? signed.raw = some (1, signed.signature ++ message) ∧
    signed.signature.length = signatureLength ∧
    endpoint.signer.sign message = .ok signed.signature ∧
    Message.decode? message = some m ∧ m.Carries signed.transaction endpoint.payer block

/-- What is built for an intent that cleared, and signed, is released. -/
theorem Clears.released {intent : Intent} {checking later : List (Exchange surroundings)}
    {outgoing : Outgoing} {build : UInt64 → Except DeriveError UnsignedTransaction} {seed : UInt64}
    {transaction : UnsignedTransaction} {block : FixedBytes 32} {signed : SignedTransaction}
    (h : Clears endpoint intent checking outgoing) (hbuilds : Builds endpoint outgoing build)
    (hbuild : build seed = .ok transaction)
    (hsigned : signTransaction endpoint.signer transaction block = .ok signed) :
    Released endpoint intent (checking ++ later) signed outgoing := by
  obtain ⟨hreads, htarget⟩ := Outgoing.read?_of_sends (hbuilds seed transaction hbuild)
  obtain ⟨message, signature, hcompile, hsignature, hlength, rfl⟩ :=
    signTransaction_eq_ok_iff.mp hsigned
  obtain ⟨m, hdecode, hcarries⟩ := exists_carries_of_compile hcompile
  exact
    { asked := ⟨checking, later, h, rfl⟩
      target := htarget
      read := hreads
      raw := ⟨message, m, block,
        length?_eq_some_iff.mpr ⟨by decide, List.append_assoc (groups 1) signature message⟩,
        hlength, hsignature, hdecode, hcarries⟩ }

/-- The questions by which an intent clears hand nothing in. -/
theorem Clears.submissions_eq_nil {intent : Intent} {checking : List (Exchange surroundings)}
    {outgoing : Outgoing} (h : Clears endpoint intent checking outgoing) :
    submissions checking = [] := by
  cases h with
  | message _ _ hpays => cases hpays; rfl
  | tokens _ _ _ _ _ _ _ _ _ hpays _ => cases hpays; rfl

/-- **What an endpoint lets go.** One intent hands in at most one transaction, and only one that is
released: the intent is for its program and well formed, nothing that was read was too little, as
far as 64 bits can hold what publishing costs, and the program reads exactly the payload, or the
transfer of the amount that was checked, in the form that the node's answer gave it. If sending
fails for another reason than that the way to the node or to the number does, because of a
recipient, an amount, what is held, a message that is too long, an account that cannot be derived, a
signer or a program that is for something else, nothing was handed in. -/
theorem send_releases_checked {intent : Intent} {outcome : Outcome SendReceipt}
    (h : (endpoint.send intent).Runs exchanges outcome)
    (hrpc : ∀ error ∈ Action.failures exchanges, ∃ fault, error = .rpc fault) :
    (submissions exchanges).length ≤ 1 ∧
    (∀ signed ∈ submissions exchanges, ∃ outgoing,
      Released endpoint intent exchanges signed outgoing) ∧
    (∀ error, outcome = .error error → (∀ fault, error ≠ .rpc fault) →
      submissions exchanges = []) := by
  obtain ⟨checking, outgoing, publishing, tracker, build, hclears, hbuilds, rfl, hpublish⟩ |
    ⟨hnone, -⟩ := clears_or_withheld h
  · rw [runs_publish_iff] at hpublish
    have hsubmissions : submissions (checking ++ publishing) = submissions publishing := by
      rw [submissions_append, hclears.submissions_eq_nil, List.nil_append]
    rw [hsubmissions]
    obtain hnil | ⟨seed, transaction, block, signed, hone, hbuild, hsigned⟩ :=
      hpublish.submissions_eq
    · simp [hnil]
    · refine ⟨by simp [hone], fun signed' hmem => ?_, ?_⟩
      · obtain rfl : signed' = signed := by simpa [hone] using hmem
        exact ⟨outgoing, hclears.released hbuilds hbuild hsigned⟩
      -- something was handed in, so what failed is the way to the node or to the number
      · rintro error rfl hother
        obtain ⟨fault, hfault⟩ := hpublish.rpc_of_submission
          (fun error herror => hrpc error (Action.failures_subset (by simp) herror))
          (by simp [hone])
        exact absurd hfault (hother fault)
  · simp [hnone]

/-- Of 1005 of a wrapped mint with nine decimals a thousand are released, which the payer holds. -/
theorem send_releases_checked_transfer : ∃ signed exchanges outcome,
    (openTokens.send (.tokens openTransfer.mint 1005 2 stranger 7)).Runs exchanges outcome ∧
    submissions exchanges = [signed] ∧
    Released openTokens (.tokens openTransfer.mint 1005 2 stranger 7) exchanges signed
      (.transfer openTransfer) := by
  obtain ⟨tokens, wrappedMeta, transaction, htokens, hmeta, hbuild⟩ := exists_transfer
  obtain ⟨signed, hsigned⟩ := exists_signed_transfer hbuild
  have hruns := runs_transferring htokens hmeta hbuild hsigned
  obtain ⟨-, hreleased, -⟩ := send_releases_checked hruns (by nofun)
  have hsubmissions : submissions (transferring tokens wrappedMeta signed) = [signed] := rfl
  obtain ⟨outgoing, hout⟩ := hreleased signed (by simp [hsubmissions])
  have hread := (Outgoing.read?_of_sends (.transfer hbuild)).1
  rw [← transaction_eq_of_signTransaction hsigned] at hread
  obtain rfl := Option.some.inj (hout.read.symm.trans hread)
  exact ⟨signed, _, _, hruns, hsubmissions, hout⟩

end Endpoint

end GuardianRelay.Svm
