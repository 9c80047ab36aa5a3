import GuardianRelay.Proofs.Svm.Submission

/-!
# Runs of Sends on Account-Model Chains

To send something an endpoint first reads accounts and balances. Then it publishes: it asks the
emitter's tracker for a number, builds a transaction, submits it, and reads the number of the
message from the log.

The transaction creates an account for the message, and the address of this account is derived from
the number that the tracker told. The number is not used for anything else. If the tracker lags
behind, or if somebody else publishes in between, the account has another name than it could have,
and the message still has the number that the chain logged for it.

## Main results

* `Endpoint.runs_publish_iff`: the runs of a publication are the four that are enumerated.
* `Endpoint.send_reaches`: an endpoint only reads before it publishes.
* `Endpoint.of_runs_send_landed`: a send whose transaction landed reports what the log tells.
* `Endpoint.send_differs`: what the number of the tracker changes.
-/

namespace GuardianRelay.Svm

variable {exchanges : List (Exchange surroundings)}

open Svm.Action (lookup)

/-! ### Reading -/

/-- A question for what an account has. -/
def NodeRequest.isReading : NodeRequest → Bool
  | account _ | balance _ => true
  | _ => false

namespace Action

variable {α : Type}

/-- A program that only reads. -/
def Reads (p : Action α) : Prop := p.Asks fun request : NodeRequest => request.isReading = true

/-- A question for what an account has reads. -/
theorem reads_node {request : NodeRequest} (h : request.isReading = true) :
    Reads (node request) :=
  .request h fun reply => .ofOutcome reply

/-- To read an account. -/
theorem reads_account (key : Address) : Reads (account key) := reads_node rfl

/-- To read a number in an account. -/
theorem reads_accountNumber (key : Address) (parse : Bytes → Except RpcFault UInt64) :
    Reads (accountNumber key parse) := by
  refine (reads_node rfl).bind fun data => ?_
  cases data with
  | none => exact .done 0
  | some data => exact .ofOutcome _

/-- To ask whether there is an account. -/
theorem reads_accountExists (key : Address) : Reads (accountExists key) :=
  (reads_node rfl).bind fun _ => .done _

/-- To derive an address asks nothing. -/
theorem reads_derived (r : Except DeriveError α) : Reads (derived r) := .ofOutcome _

/-- The number in an account, from what was answered for the account. -/
def numberIn (parse : Bytes → Except RpcFault UInt64) : Outcome (Option Bytes) → Outcome UInt64
  | .ok (some data) => Outcome.ofRpc (parse data)
  | .ok none => .ok 0
  | .error error => .error error

/-- To read a number in an account is to ask for the account. -/
theorem runs_accountNumber (key : Address) (parse : Bytes → Except RpcFault UInt64)
    (reply : Outcome (Option Bytes)) :
    (accountNumber key parse).Runs [lookup key reply] (numberIn parse reply) := by
  refine runs_node_bind_iff.mpr ?_
  match reply with
  | .ok none => exact .inl ⟨none, [], rfl, .done 0⟩
  | .ok (some data) =>
      exact .inl ⟨some data, [], rfl, Program.runs_ofOutcome_iff.mpr ⟨rfl, rfl⟩⟩
  | .error error => exact .inr ⟨error, rfl, rfl⟩

/-- A number in an account is read in this way. -/
theorem runs_accountNumber_iff {key : Address} {parse : Bytes → Except RpcFault UInt64}
    {outcome : Outcome UInt64} :
    (accountNumber key parse).Runs exchanges outcome ↔
      ∃ reply, exchanges = [lookup key reply] ∧ outcome = numberIn parse reply := by
  constructor
  · intro h
    obtain ⟨data, later, rfl, hlater⟩ | ⟨error, rfl, rfl⟩ := runs_node_bind_iff.mp h
    · cases data with
      | none =>
          obtain ⟨rfl, rfl⟩ := Program.runs_done_iff.mp hlater
          exact ⟨.ok none, rfl, rfl⟩
      | some data =>
          obtain ⟨rfl, rfl⟩ := Program.runs_ofOutcome_iff.mp hlater
          exact ⟨.ok (some data), rfl, rfl⟩
    · exact ⟨.error error, rfl, rfl⟩
  · rintro ⟨reply, rfl, rfl⟩
    exact runs_accountNumber key parse reply

end Action

namespace Endpoint

variable {endpoint : Endpoint}

/-- To check what the payer holds. -/
theorem reads_checkLamports (core : CoreBridge) : Action.Reads (endpoint.checkLamports core) := by
  refine (Action.reads_accountNumber _ _).bind fun fee => ?_
  refine (Action.reads_node rfl).bind fun held => ?_
  split
  next => exact .fail _
  next => exact .done ()

/-! ### Publishing -/

/-- The tracker of the endpoint's emitter. -/
def tracker (endpoint : Endpoint) : Address :=
  match endpoint.role with
  | .messenger program => program.tracker
  | .tokens program => program.tracker

/-- The account of a message, which is named by a number. -/
def messageAccount (endpoint : Endpoint) (seed : UInt64) : Except DeriveError Address :=
  match endpoint.role with
  | .messenger program => (ProgramAccount.sentMessage seed).address program.program
  | .tokens program => (ProgramAccount.bridgedMessage seed).address program.program

/-- What is reported of a transaction that landed, after its log was asked for. -/
def reported (endpoint : Endpoint) (tx : TxId) : Outcome (List String) → Outcome SendReceipt
  | .error error => .error error
  | .ok lines =>
    match sequenceOf? lines with
    | some sequence => .ok { sequence, emitter := endpoint.emitter, tx }
    | none => .error (.rpc (.noSequence tx))

/-- Something is reported if the log was answered and tells a number. -/
theorem reported_eq_ok_iff {tx : TxId} {answer : Outcome (List String)} {receipt : SendReceipt} :
    reported endpoint tx answer = .ok receipt ↔
      ∃ lines sequence, answer = .ok lines ∧ sequenceOf? lines = some sequence ∧
        receipt = ⟨sequence, endpoint.emitter, tx⟩ := by
  cases answer with
  | error error => simp [reported]
  | ok lines =>
      rw [reported]
      cases hsequence : sequenceOf? lines with
      | none => simp [hsequence]
      | some sequence => simp [hsequence, eq_comm]

/-- The number that is reported is the one of the log, whatever the name of the transaction is. -/
theorem sequence_reported (tx : TxId) (answer : Outcome (List String)) :
    (reported endpoint tx answer).toOption.map SendReceipt.sequence =
      answer.toOption.bind sequenceOf? := by
  cases answer with
  | error error => rfl
  | ok lines =>
      show (reported endpoint tx (.ok lines)).toOption.map _ = sequenceOf? lines
      rw [reported]
      cases sequenceOf? lines <;> rfl

/-- The exchanges of a publication whose transaction landed. -/
def landing (tracker : Address) (reply : Outcome (Option Bytes)) (block : FixedBytes 32)
    (signed : SignedTransaction) (tx : TxId) (answer : Outcome (List String)) :
    List (Exchange surroundings) :=
  [lookup tracker reply, ⟨.recentBlock, .ok block⟩, ⟨.submit signed, .ok tx⟩, ⟨.log tx, answer⟩]

/-- They hand the transaction in, and ask for its log. -/
theorem mem_landing {tracker : Address} {reply : Outcome (Option Bytes)} {block : FixedBytes 32}
    {signed : SignedTransaction} {tx : TxId} {answer : Outcome (List String)} :
    ⟨.submit signed, .ok tx⟩ ∈ landing tracker reply block signed tx answer ∧
    ⟨.log tx, answer⟩ ∈ landing tracker reply block signed tx answer :=
  ⟨.tail _ (.tail _ (.head _)), .tail _ (.tail _ (.tail _ (.head _)))⟩

/-- How something is published. -/
inductive Publishes (endpoint : Endpoint) (tracker : Address)
    (build : UInt64 → Except DeriveError UnsignedTransaction) :
    List (Exchange surroundings) → Outcome SendReceipt → Prop
  /-- The tracker told no number. -/
  | unread {reply : Outcome (Option Bytes)} {error : RelayError} :
      Action.numberIn parseTracker reply = .error error →
      Publishes endpoint tracker build [lookup tracker reply] (.error error)
  /-- There is no account for the message. -/
  | unbuilt {reply : Outcome (Option Bytes)} {provisional : UInt64} {fault : DeriveError} :
      Action.numberIn parseTracker reply = .ok provisional →
      build (provisional + 1) = .error fault →
      Publishes endpoint tracker build [lookup tracker reply] (.error (.invalidSeed fault))
  /-- The transaction did not land. -/
  | unsubmitted {reply : Outcome (Option Bytes)} {provisional : UInt64}
      {transaction : UnsignedTransaction} {submitting : List (Exchange surroundings)}
      {error : RelayError} :
      Action.numberIn parseTracker reply = .ok provisional →
      build (provisional + 1) = .ok transaction →
      Submits endpoint transaction submitting (.error error) →
      Publishes endpoint tracker build (lookup tracker reply :: submitting) (.error error)
  /-- The transaction landed, and the log was asked for. -/
  | landed {reply : Outcome (Option Bytes)} {provisional : UInt64}
      {transaction : UnsignedTransaction} {block : FixedBytes 32} {signed : SignedTransaction}
      (tx : TxId) (answer : Outcome (List String)) :
      Action.numberIn parseTracker reply = .ok provisional →
      build (provisional + 1) = .ok transaction →
      signTransaction endpoint.signer transaction block = .ok signed →
      Publishes endpoint tracker build (landing tracker reply block signed tx answer)
        (reported endpoint tx answer)

variable {tracker : Address} {build : UInt64 → Except DeriveError UnsignedTransaction}

/-- What an endpoint does after its transaction has landed: it asks for the log, and reports what
the log tells. -/
def report (endpoint : Endpoint) (tx : TxId) : Action SendReceipt := do
  let lines ← Action.log tx
  Program.ofOutcome (reported endpoint tx (.ok lines))

/-- To publish is to read the tracker, to submit, and to report. -/
theorem publish_eq :
    endpoint.publish tracker build =
      Action.accountNumber tracker parseTracker >>= fun provisional =>
        Action.derived (build (provisional + 1)) >>= fun transaction =>
          endpoint.submit transaction >>= endpoint.report := by
  rw [publish]
  refine bind_congr fun provisional => bind_congr fun transaction => bind_congr fun tx => ?_
  refine bind_congr fun lines => ?_
  rw [reported]
  cases sequenceOf? lines <;> rfl

/-- The log is asked for, and what it tells is reported. -/
theorem runs_report_iff {tx : TxId} {outcome : Outcome SendReceipt} :
    (endpoint.report tx).Runs exchanges outcome ↔
      ∃ answer, exchanges = [⟨.log tx, answer⟩] ∧ outcome = reported endpoint tx answer := by
  constructor
  · intro h
    obtain ⟨lines, later, rfl, hlater⟩ | ⟨error, rfl, rfl⟩ := Action.runs_node_bind_iff.mp h
    · obtain ⟨rfl, rfl⟩ := Program.runs_ofOutcome_iff.mp hlater
      exact ⟨.ok lines, rfl, rfl⟩
    · exact ⟨.error error, rfl, rfl⟩
  · rintro ⟨answer, rfl, rfl⟩
    refine Action.runs_node_bind_iff.mpr ?_
    cases answer with
    | ok lines => exact .inl ⟨lines, [], rfl, Program.runs_ofOutcome_iff.mpr ⟨rfl, rfl⟩⟩
    | error error => exact .inr ⟨error, rfl, rfl⟩

/-- Something is published in one of these ways. -/
theorem runs_publish_iff {outcome : Outcome SendReceipt} :
    (endpoint.publish tracker build).Runs exchanges outcome ↔
      Publishes endpoint tracker build exchanges outcome := by
  rw [publish_eq]
  constructor
  · intro h
    obtain ⟨provisional, _, rest, hread, hasked, rfl⟩ | ⟨error, hread, rfl⟩ :=
      Program.runs_bind_iff.mp h
    · obtain ⟨reply, rfl, hprovisional⟩ := Action.runs_accountNumber_iff.mp hread
      obtain ⟨transaction, hbuild, hbuilt⟩ | ⟨fault, hfault, rfl, rfl⟩ :=
        Action.runs_derived_bind_iff.mp hasked
      · obtain ⟨tx, submitting, _, hsubmit, hreport, rfl⟩ | ⟨error, hsubmit, rfl⟩ :=
          Program.runs_bind_iff.mp hbuilt
        · obtain ⟨answer, rfl, rfl⟩ := runs_report_iff.mp hreport
          cases runs_submit_iff.mp hsubmit with
          | handedIn _ hsigned => exact .landed tx answer hprovisional.symm hbuild hsigned
        · exact .unsubmitted hprovisional.symm hbuild (runs_submit_iff.mp hsubmit)
      · exact .unbuilt hprovisional.symm hfault
    · obtain ⟨reply, rfl, herror⟩ := Action.runs_accountNumber_iff.mp hread
      exact .unread herror.symm
  · intro h
    rw [Program.runs_bind_iff]
    have hread (reply : Outcome (Option Bytes)) :=
      Action.runs_accountNumber tracker parseTracker reply
    cases h with
    | @unread reply error herror => exact .inr ⟨error, herror ▸ hread reply, rfl⟩
    | @unbuilt reply provisional fault hprovisional hfault =>
        refine .inl ⟨provisional, _, [], hprovisional ▸ hread reply, ?_, rfl⟩
        exact Action.runs_derived_bind_iff.mpr (.inr ⟨fault, hfault, rfl, rfl⟩)
    | @unsubmitted reply provisional transaction submitting error hprovisional hbuild hsubmit =>
        refine .inl ⟨provisional, _, submitting, hprovisional ▸ hread reply, ?_, rfl⟩
        refine Action.runs_derived_bind_iff.mpr (.inl ⟨transaction, hbuild, ?_⟩)
        exact Program.runs_bind_iff.mpr (.inr ⟨error, runs_submit_iff.mpr hsubmit, rfl⟩)
    | @landed reply provisional transaction block signed tx answer hprovisional hbuild hsigned =>
        have hsubmit : Submits endpoint transaction _ (.ok tx) := .handedIn (.ok tx) hsigned
        refine .inl ⟨provisional, _, _, hprovisional ▸ hread reply, ?_, rfl⟩
        refine Action.runs_derived_bind_iff.mpr (.inl ⟨transaction, hbuild, ?_⟩)
        exact Program.runs_bind_iff.mpr (.inl ⟨tx, _, _, runs_submit_iff.mpr hsubmit,
          runs_report_iff.mpr ⟨answer, rfl, rfl⟩, rfl⟩)

/-- If a transaction landed, the exchanges are those. -/
theorem Publishes.of_mem {outcome : Outcome SendReceipt} {signed : SignedTransaction} {tx : TxId}
    (h : Publishes endpoint tracker build exchanges outcome)
    (hmem : ⟨.submit signed, .ok tx⟩ ∈ exchanges) :
    ∃ reply block answer, exchanges = landing tracker reply block signed tx answer ∧
      outcome = reported endpoint tx answer := by
  cases h with
  | unread | unbuilt => nomatch List.mem_singleton.mp hmem
  | unsubmitted _ _ hsubmit =>
      obtain hread | hhanded := List.mem_cons.mp hmem
      · nomatch hread
      · obtain ⟨_, _, rfl⟩ := List.append_of_mem hhanded
        obtain ⟨-, -, -, hanswer⟩ := hsubmit.of_submission
        contradiction
  | @landed reply _ _ block _ tx' answer =>
      simp only [landing, lookup, List.mem_cons, List.not_mem_nil, or_false] at hmem
      obtain h | h | h | h := hmem <;> cases h
      exact ⟨reply, block, answer, rfl, rfl⟩

/-- If the exchanges are those, the tracker told a number, with which the transaction was built. -/
theorem Publishes.of_landing {outcome : Outcome SendReceipt} {reply : Outcome (Option Bytes)}
    {block : FixedBytes 32} {signed : SignedTransaction} {tx : TxId}
    {answer : Outcome (List String)}
    (h : Publishes endpoint tracker build (landing tracker reply block signed tx answer) outcome) :
    outcome = reported endpoint tx answer ∧
    ∃ provisional, Action.numberIn parseTracker reply = .ok provisional ∧
      build (provisional + 1) = .ok signed.transaction := by
  generalize hexchanges : landing tracker reply block signed tx answer = exchanges at h
  cases h with
  | unread | unbuilt => simp [landing] at hexchanges
  | unsubmitted _ _ hsubmit =>
      cases hsubmit with
      | undated | unsigned | handedIn => simp [landing] at hexchanges
  | @landed _ provisional _ _ _ _ _ hprovisional hbuild hsigned =>
      cases hexchanges
      rw [transaction_eq_of_signTransaction hsigned]
      exact ⟨rfl, provisional, hprovisional, hbuild⟩

/-! ### What the number of the tracker names -/

/-- A transaction with an account for a message among its accounts. -/
def placed (transaction : UnsignedTransaction) (front back : List AccountUse) (message : Address) :
    UnsignedTransaction :=
  { transaction with accounts := front ++ .writable message :: back }

/-- The number with which a transaction is built only names the account of the message. -/
def Places (endpoint : Endpoint) (build : UInt64 → Except DeriveError UnsignedTransaction) : Prop :=
  ∃ transaction front back, ∀ seed built, build seed = .ok built →
    ∃ message, endpoint.messageAccount seed = .ok message ∧
      built = placed transaction front back message

/-- What is derived without the number does not matter. -/
theorem Places.bind {α : Type} {r : Except DeriveError α}
    {f : α → UInt64 → Except DeriveError UnsignedTransaction}
    (h : ∀ value, Places endpoint (f value)) :
    Places endpoint fun seed => r >>= fun value => f value seed := by
  cases r with
  | ok value => exact h value
  | error fault =>
      refine ⟨.instruction endpoint.chain endpoint.payer [] [], [], [], fun seed built hbuilt => ?_⟩
      contradiction

/-- The account is derived and put among the others. -/
theorem Places.message {chain : ChainId} {program : Address} {data : Bytes}
    {accounts : Address → List AccountUse}
    (h : ∃ front back, ∀ message, accounts message = front ++ .writable message :: back) :
    Places endpoint fun seed => endpoint.messageAccount seed >>= fun message =>
      pure (.instruction chain program data (accounts message)) := by
  obtain ⟨front, back, haccounts⟩ := h
  refine ⟨.instruction chain program data [], front, back, fun seed built hbuilt => ?_⟩
  obtain ⟨message, hmessage, hbuilt⟩ := Outcome.bind_eq_ok_iff.mp hbuilt
  obtain rfl := Except.ok.inj hbuilt
  refine ⟨message, hmessage, ?_⟩
  rw [haccounts]
  rfl

/-- A message is put together like this. -/
theorem places_messenger {program : Messenger} (hrole : endpoint.role = .messenger program)
    (payload : Bytes) :
    Places endpoint fun seed => program.send endpoint.chain endpoint.payer payload seed := by
  have haccount (seed : UInt64) : endpoint.messageAccount seed =
      (ProgramAccount.sentMessage seed).address program.program := by
    rw [messageAccount, hrole]
  simp only [Messenger.send, ← haccount]
  exact .message ⟨[_, _, _, _, _, _, _], [_, _, _], fun _ => rfl⟩

/-- A transfer is put together like this. -/
theorem places_tokens {program : TokenIntegration} (hrole : endpoint.role = .tokens program)
    (transfer : OutboundTransfer) :
    Places endpoint fun seed => program.send endpoint.chain endpoint.payer transfer seed := by
  have haccount (seed : UInt64) : endpoint.messageAccount seed =
      (ProgramAccount.bridgedMessage seed).address program.program := by
    rw [messageAccount, hrole]
  simp only [TokenIntegration.send, ← haccount]
  refine .bind fun contract => .bind fun payerTokens => .bind fun passing => ?_
  split
  all_goals
    refine .bind fun _ => .bind fun ofMint => ?_
    exact .message ⟨_, _, fun _ => List.append_cons _ _ _⟩

/-! ### Sends -/

/-- A transfer only reads before it publishes. -/
theorem sendTokens_reaches {program : TokenIntegration} (hrole : endpoint.role = .tokens program)
    {mint : Address} {amount : UInt64} {recipientChain : ChainId} {recipient : Address}
    {batch : UInt32} :
    (endpoint.sendTokens program mint amount recipientChain recipient batch).Reaches
      (fun request : NodeRequest => request.isReading = true)
      fun p => ∃ build, Places endpoint build ∧ p = endpoint.publish endpoint.tracker build := by
  have htracker : endpoint.tracker = program.tracker := by rw [Endpoint.tracker, hrole]
  rw [sendTokens]
  split
  next => exact .fail _
  next =>
    refine (Action.reads_account mint).reaches_bind fun mintData => ?_
    split
    next =>
      refine Program.Asks.reaches_bind (.ofOutcome _) fun decimals => ?_
      dsimp only
      split
      next => exact .fail _
      next =>
        refine (Action.reads_derived _).reaches_bind fun tokens => ?_
        refine (Action.reads_accountNumber _ _).reaches_bind fun held => ?_
        split
        next => exact .fail _
        next =>
          refine (reads_checkLamports _).reaches_bind fun _ => ?_
          refine (Action.reads_derived _).reaches_bind fun wrappedMeta => ?_
          refine (Action.reads_accountExists _).reaches_bind fun wrapped => ?_
          exact .self ⟨_, places_tokens hrole _, by rw [htracker]⟩
    next => exact .fail _

/-- A send only reads before it publishes. -/
theorem send_reaches {intent : Intent} :
    (endpoint.send intent).Reaches (fun request : NodeRequest => request.isReading = true)
      fun p => ∃ build, Places endpoint build ∧ p = endpoint.publish endpoint.tracker build := by
  unfold send
  split
  next program payload hrole =>
    have htracker : endpoint.tracker = program.tracker := by rw [Endpoint.tracker, hrole]
    refine Program.Asks.reaches_bind (.ofOutcome _) fun _ => ?_
    refine (reads_checkLamports _).reaches_bind fun _ => ?_
    exact .self ⟨_, places_messenger hrole payload, by rw [htracker]⟩
  next hrole => exact sendTokens_reaches hrole
  next => exact .fail _
  next => exact .fail _

variable {intent : Intent} {signed : SignedTransaction} {tx : TxId}

/-- A send whose transaction landed reports what the log tells. Before it published it only read. -/
theorem of_runs_send_landed {outcome : Outcome SendReceipt}
    (h : (endpoint.send intent).Runs exchanges outcome)
    (hsubmit : ⟨.submit signed, .ok tx⟩ ∈ exchanges) :
    ∃ before reply block answer,
      exchanges = before ++ landing endpoint.tracker reply block signed tx answer ∧
      (∀ x ∈ before, x.request.isReading = true) ∧ outcome = reported endpoint tx answer ∧
      ∃ build, Places endpoint build ∧
        (endpoint.send intent).Leads before (endpoint.publish endpoint.tracker build) := by
  obtain ⟨_, -, hreads⟩ | ⟨before, later, _, rfl, hreads, ⟨build, hplaces, rfl⟩, hleads, hlater⟩ :=
    send_reaches.of_runs h
  · exact absurd (hreads _ hsubmit) Bool.false_ne_true
  · obtain hbefore | hpublish := List.mem_append.mp hsubmit
    · exact absurd (hreads _ hbefore) Bool.false_ne_true
    · obtain ⟨reply, block, answer, rfl, rfl⟩ := (runs_publish_iff.mp hlater).of_mem hpublish
      exact ⟨before, reply, block, answer, rfl, hreads, rfl, build, hplaces, hleads⟩

/-- A send whose transaction landed with a log that tells no number fails. -/
theorem of_runs_send_silent {outcome : Outcome SendReceipt} {lines : List String}
    (h : (endpoint.send intent).Runs exchanges outcome)
    (hsubmit : ⟨.submit signed, .ok tx⟩ ∈ exchanges) (hlog : ⟨.log tx, .ok lines⟩ ∈ exchanges)
    (hsilent : sequenceOf? lines = none) :
    outcome = .error (.rpc (.noSequence tx)) := by
  obtain ⟨before, reply, block, answer, rfl, hreads, rfl, -⟩ := of_runs_send_landed h hsubmit
  have hanswer : answer = .ok lines := by
    obtain hbefore | hlanding := List.mem_append.mp hlog
    · exact absurd (hreads _ hbefore) Bool.false_ne_true
    · simp only [landing, lookup, List.mem_cons, List.not_mem_nil, or_false] at hlanding
      obtain h | h | h | h := hlanding <;> cases h
      rfl
  rw [hanswer, reported, hsilent]

/-- Two sends that were answered alike until they read the tracker, and whose transactions landed:
what they report depends on their logs alone, and in the transactions at most the account of the
message is another, which is derived from the number of the tracker. -/
theorem send_differs {before : List (Exchange surroundings)} {reply reply' : Outcome (Option Bytes)}
    {block block' : FixedBytes 32} {signed' : SignedTransaction} {tx' : TxId}
    {answer answer' : Outcome (List String)} {outcome outcome' : Outcome SendReceipt}
    (h : (endpoint.send intent).Runs
      (before ++ landing endpoint.tracker reply block signed tx answer) outcome)
    (h' : (endpoint.send intent).Runs
      (before ++ landing endpoint.tracker reply' block' signed' tx' answer') outcome') :
    outcome = reported endpoint tx answer ∧ outcome' = reported endpoint tx' answer' ∧
    ∃ provisional provisional' message message' transaction front back,
      Action.numberIn parseTracker reply = .ok provisional ∧
      Action.numberIn parseTracker reply' = .ok provisional' ∧
      endpoint.messageAccount (provisional + 1) = .ok message ∧
      endpoint.messageAccount (provisional' + 1) = .ok message' ∧
      signed.transaction = placed transaction front back message ∧
      signed'.transaction = placed transaction front back message' := by
  have hmem : (⟨.submit signed, .ok tx⟩ : Exchange surroundings) ∈
      before ++ landing endpoint.tracker reply block signed tx answer :=
    List.mem_append_right before mem_landing.1
  obtain ⟨_, _, _, _, hsplit, -, -, build, hplaces, hleads⟩ := of_runs_send_landed h hmem
  obtain ⟨rfl, -⟩ := List.append_inj' hsplit rfl
  obtain ⟨transaction, front, back, hbuilds⟩ := hplaces
  obtain ⟨houtcome, provisional, hprovisional, hbuild⟩ :=
    (runs_publish_iff.mp (hleads.runs_iff.mp h)).of_landing
  obtain ⟨houtcome', provisional', hprovisional', hbuild'⟩ :=
    (runs_publish_iff.mp (hleads.runs_iff.mp h')).of_landing
  obtain ⟨message, hmessage, hplaced⟩ := hbuilds _ _ hbuild
  obtain ⟨message', hmessage', hplaced'⟩ := hbuilds _ _ hbuild'
  exact ⟨houtcome, houtcome', provisional, provisional', message, message', transaction, front,
    back, hprovisional, hprovisional', hmessage, hmessage', hplaced, hplaced'⟩

end Endpoint

end GuardianRelay.Svm
