import GuardianRelay.Proofs.Steps
import GuardianRelay.Proofs.Svm.Log

/-!
# Numbers of Messages That Are Sent at the Same Time

Any number of sends publish for one emitter at the same time, and others publish for it too. Before
it builds its transaction, a send asks the tracker of the emitter which number comes next. By then
the answer may be long out of date, and until the transaction lands anybody else may publish. So the
number that was asked for cannot be relied on, and it is not: what a send reports is what the log of
its own transaction tells.

This module lets the exchanges of the sends follow each other in any order (`Ledger.Runs`), with
messages of others between them. The state on which they meet is which number comes next, and what
the chain has written down about the transactions that landed: whose each one is, which number its
message was given, and the lines of its log. The chain gives every message the next number. It
lets a transaction land once, and in the lines of the log no other number is told than that of the
message, in whatever form and how often. The node may fail to answer, also when a transaction has
landed, and what it answers for accounts, the tracker among them, may be anything.

A transaction is named by its signature, and one that is accepted is taken to have a name that no
earlier one had. This leaves out sends that hand in the same octets, as two sends of one message on
one recent block and one answer for the tracker would: the chain lets these land once, and a node
may accept them twice.

## Main results

* `Ledger.Sound.step`, `Ledger.Sound.run`: what a step and what a run keep.
* `Ledger.Runs.landed_of_mem`, `Ledger.Runs.lines_of_mem`: what was answered is written down.
* `send_reports_assigned`: a send reports the number that its message was given.
-/

namespace GuardianRelay.Svm

open Svm.Action (lookup)

variable {ι : Type}

/-! ### What happens -/

/-- One of the things that happen. -/
inductive Event (ι : Type) where
  /-- Somebody asks something, and gets an answer. -/
  | asked (caller : ι) (x : Exchange surroundings)
  /-- Somebody else publishes a message for the emitter. -/
  | foreign

/-- What somebody asked, in this order. -/
def exchangesOf [DecidableEq ι] (caller : ι) (events : List (Event ι)) :
    List (Exchange surroundings) :=
  events.filterMap fun
    | .asked i x => if i = caller then some x else none
    | .foreign => none

/-- What somebody asked was asked. -/
theorem asked_mem_of_mem_exchangesOf [DecidableEq ι] {caller : ι} {events : List (Event ι)}
    {x : Exchange surroundings} (h : x ∈ exchangesOf caller events) :
    .asked caller x ∈ events := by
  obtain ⟨event, hevent, hx⟩ := List.mem_filterMap.mp h
  cases event with
  | asked i y =>
      dsimp only at hx
      split at hx
      next hi =>
        obtain rfl := hi
        obtain rfl := Option.some.inj hx
        exact hevent
      next => contradiction
  | foreign => contradiction

/-- What the chain has written down about a transaction that landed. -/
structure Landing (ι : Type) where
  /-- Who handed it in. -/
  caller : ι
  transaction : SignedTransaction
  /-- The number that its message was given. -/
  number : ℕ
  /-- The lines of its log. -/
  lines : List String

/-- The state on which sends for an emitter meet. -/
structure Ledger (ι : Type) where
  /-- The number that the next message is given. -/
  next : ℕ
  /-- The transactions that landed, by their names. -/
  landed : TxId → Option (Landing ι)

namespace Ledger

/-- No transaction has landed yet. -/
def opened (first : ℕ) : Ledger ι := ⟨first, fun _ => none⟩

/-- A transaction lands, and its message is given the next number. -/
def land (ledger : Ledger ι) (caller : ι) (signed : SignedTransaction) (tx : TxId)
    (lines : List String) : Ledger ι where
  next := ledger.next + 1
  landed := Function.update ledger.landed tx (some ⟨caller, signed, ledger.next, lines⟩)

/-- The next number is given to a message of which nothing is written down here. -/
def skip (ledger : Ledger ι) : Ledger ι := { ledger with next := ledger.next + 1 }

/-- One step: an exchange of a send, or a message of somebody else. -/
inductive Step : Ledger ι → Event ι → Ledger ι → Prop
  /-- A transaction lands, under a name that no earlier one had. Its log tells the number of its
  message or none. -/
  | landed {ledger : Ledger ι} (caller : ι) (signed : SignedTransaction) {tx : TxId}
      {lines : List String} :
      ledger.landed tx = none →
      (∀ line ∈ lines, ∀ n, Tells line n → n.toNat = ledger.next) →
      Step ledger (.asked caller ⟨.submit signed, .ok tx⟩) (ledger.land caller signed tx lines)
  /-- A transaction does not land. -/
  | refused (ledger : Ledger ι) (caller : ι) (signed : SignedTransaction) (error : RelayError) :
      Step ledger (.asked caller ⟨.submit signed, .error error⟩) ledger
  /-- A transaction lands, and the node does not answer so. -/
  | unnoticed (ledger : Ledger ι) (caller : ι) (signed : SignedTransaction) (error : RelayError) :
      Step ledger (.asked caller ⟨.submit signed, .error error⟩) ledger.skip
  /-- The log of a transaction that landed is read. -/
  | read {ledger : Ledger ι} {caller : ι} {tx : TxId} {landing : Landing ι} :
      ledger.landed tx = some landing →
      Step ledger (.asked caller ⟨.log tx, .ok landing.lines⟩) ledger
  /-- The log of a transaction is not read. -/
  | unread (ledger : Ledger ι) (caller : ι) (tx : TxId) (error : RelayError) :
      Step ledger (.asked caller ⟨.log tx, .error error⟩) ledger
  /-- The node answers for an account, in any way. -/
  | account (ledger : Ledger ι) (caller : ι) (key : Address) (reply : Outcome (Option Bytes)) :
      Step ledger (.asked caller ⟨.account key, reply⟩) ledger
  /-- The node says what an account holds. -/
  | balance (ledger : Ledger ι) (caller : ι) (owner : Address) (reply : Outcome UInt64) :
      Step ledger (.asked caller ⟨.balance owner, reply⟩) ledger
  /-- The node names a recent block. -/
  | recentBlock (ledger : Ledger ι) (caller : ι) (reply : Outcome (FixedBytes 32)) :
      Step ledger (.asked caller ⟨.recentBlock, reply⟩) ledger
  /-- The message of somebody else is given the next number. -/
  | foreign (ledger : Ledger ι) : Step ledger .foreign ledger.skip

/-- Steps that follow each other. -/
abbrev Runs : Ledger ι → List (Event ι) → Ledger ι → Prop := Steps Step

variable {start next finish ledger : Ledger ι} {event : Event ι} {events : List (Event ι)}
  {caller : ι} {signed : SignedTransaction} {tx tx' : TxId} {lines : List String}
  {landing landing' : Landing ι}

/-! ### Landings -/

/-- The message of somebody else is not written down. -/
theorem landed_skip : ledger.skip.landed = ledger.landed := rfl

/-- The transaction that lands is written down. -/
theorem landed_land_self : (ledger.land caller signed tx lines).landed tx =
    some ⟨caller, signed, ledger.next, lines⟩ :=
  Function.update_self ..

/-- Nothing changes about other transactions. -/
theorem landed_land_of_ne (h : tx' ≠ tx) :
    (ledger.land caller signed tx lines).landed tx' = ledger.landed tx' :=
  Function.update_of_ne h ..

/-- When a transaction lands, what was written down before stays as it is. -/
theorem landed_land_of_some (hnew : ledger.landed tx = none)
    (h : ledger.landed tx' = some landing) :
    (ledger.land caller signed tx lines).landed tx' = some landing := by
  have hne : tx' ≠ tx := by
    rintro rfl
    rw [hnew] at h
    contradiction
  rw [landed_land_of_ne hne, h]

/-- When a transaction lands, only it is written down. -/
theorem landed_land_cases (h : (ledger.land caller signed tx lines).landed tx' = some landing) :
    tx' = tx ∧ landing = ⟨caller, signed, ledger.next, lines⟩ ∨
      ledger.landed tx' = some landing := by
  by_cases htx : tx' = tx
  · subst htx
    rw [landed_land_self] at h
    exact .inl ⟨rfl, (Option.some.inj h).symm⟩
  · rw [landed_land_of_ne htx] at h
    exact .inr h

/-- A step leaves what is written down as it is. -/
theorem Step.grows (h : start.Step event next) (hlanded : start.landed tx = some landing) :
    next.landed tx = some landing := by
  cases h with
  | landed _ _ hnew _ => exact landed_land_of_some hnew hlanded
  | _ => exact hlanded

/-- What is written down stays. -/
theorem Runs.grows (h : Runs start events finish) (hlanded : start.landed tx = some landing) :
    finish.landed tx = some landing :=
  h.keeps Step.grows hlanded

/-- A transaction of which the node said that it landed is written down as its sender's. -/
theorem Runs.landed_of_mem (h : Runs start events finish)
    (hmem : .asked caller ⟨.submit signed, .ok tx⟩ ∈ events) :
    ∃ number lines, finish.landed tx = some ⟨caller, signed, number, lines⟩ := by
  obtain ⟨before, _, _, hstep, hrest⟩ := h.exists_step_of_mem hmem
  cases hstep with
  | landed => exact ⟨before.next, _, Runs.grows hrest landed_land_self⟩

/-- A log that was read is the one that is written down. -/
theorem Runs.lines_of_mem (h : Runs start events finish)
    (hmem : .asked caller ⟨.log tx, .ok lines⟩ ∈ events) :
    ∃ landing, finish.landed tx = some landing ∧ landing.lines = lines := by
  obtain ⟨_, _, _, hstep, hrest⟩ := h.exists_step_of_mem hmem
  cases hstep with
  | read hlanded => exact ⟨_, Runs.grows hrest hlanded, rfl⟩

/-! ### Numbers -/

/-- What holds of what is written down. -/
structure Sound (ledger : Ledger ι) : Prop where
  /-- Only numbers before the next one were given. -/
  below : ∀ tx landing, ledger.landed tx = some landing → landing.number < ledger.next
  /-- No number was given twice. -/
  once : ∀ tx tx' landing landing', ledger.landed tx = some landing →
    ledger.landed tx' = some landing' → landing.number = landing'.number → tx = tx'
  /-- A log tells no other number. -/
  honest : ∀ tx landing, ledger.landed tx = some landing →
    ∀ line ∈ landing.lines, ∀ n, Tells line n → n.toNat = landing.number

namespace Sound

/-- Before anything has landed. -/
theorem opened (first : ℕ) : Sound (opened first : Ledger ι) where
  below := nofun
  once := nofun
  honest := nofun

/-- A number that is given to a message of somebody else is not given again. -/
theorem skip (h : Sound ledger) : Sound ledger.skip where
  below tx landing hlanded := Nat.lt_succ_of_lt (h.below tx landing hlanded)
  once := h.once
  honest := h.honest

/-- The transaction that lands is given a number that no other one has. -/
theorem land (h : Sound ledger)
    (hlines : ∀ line ∈ lines, ∀ n, Tells line n → n.toNat = ledger.next) :
    Sound (ledger.land caller signed tx lines) where
  below other landing hlanded := by
    show landing.number < ledger.next + 1
    obtain ⟨-, rfl⟩ | hold := landed_land_cases hlanded
    · exact Nat.lt_succ_self _
    · exact Nat.lt_succ_of_lt (h.below other landing hold)
  once other other' landing landing' hlanded hlanded' hnumber := by
    obtain ⟨rfl, rfl⟩ | hold := landed_land_cases hlanded
    · obtain ⟨rfl, -⟩ | hold' := landed_land_cases hlanded'
      · rfl
      · have hlt := h.below other' landing' hold'
        dsimp only at hnumber
        omega
    · obtain ⟨rfl, rfl⟩ | hold' := landed_land_cases hlanded'
      · have hlt := h.below other landing hold
        dsimp only at hnumber
        omega
      · exact h.once other other' landing landing' hold hold' hnumber
  honest other landing hlanded := by
    obtain ⟨-, rfl⟩ | hold := landed_land_cases hlanded
    · exact hlines
    · exact h.honest other landing hold

/-- A step keeps what is written down sound. -/
theorem step (h : Sound start) (hstep : start.Step event next) : Sound next := by
  cases hstep with
  | landed _ _ _ hlines => exact h.land hlines
  | unnoticed | foreign => exact h.skip
  | _ => exact h

/-- Steps keep what is written down sound. -/
theorem run (hruns : Runs start events finish) (h : Sound start) : Sound finish :=
  hruns.keeps (fun hstep h => h.step hstep) h

end Sound

end Ledger

/-! ### Sends -/

/-- A send that has succeeded reports the number that is written down for its transaction. -/
theorem landed_of_runs_send [DecidableEq ι] {endpoint : Endpoint} {intent : Intent} {first : ℕ}
    {events : List (Event ι)} {finish : Ledger ι} {i : ι} {receipt : SendReceipt}
    (h : Ledger.Runs (.opened first) events finish)
    (hsend : (endpoint.send intent).Runs (exchangesOf i events) (.ok receipt)) :
    receipt.emitter = endpoint.emitter ∧
    ∃ signed lines, ⟨.submit signed, .ok receipt.tx⟩ ∈ exchangesOf i events ∧
      finish.landed receipt.tx = some ⟨i, signed, receipt.sequence.toNat, lines⟩ := by
  obtain ⟨_, publishing, ⟨tracker, build, rfl⟩, hsuffix, hpublish⟩ :=
    Endpoint.send_endsIn _ _ hsend
  obtain ⟨hemitter, signed, lines, hsubmit, hlog, hsequence⟩ := Endpoint.of_runs_publish hpublish
  have hsubmit := hsuffix.subset hsubmit
  obtain ⟨number, written, hlanded⟩ := h.landed_of_mem (asked_mem_of_mem_exchangesOf hsubmit)
  obtain ⟨landing, hread, hlines⟩ :=
    h.lines_of_mem (asked_mem_of_mem_exchangesOf (hsuffix.subset hlog))
  obtain rfl : landing = ⟨i, signed, number, written⟩ :=
    Option.some.inj (hread.symm.trans hlanded)
  obtain ⟨line, hline, htells⟩ := exists_tells_of_sequenceOf? hsequence
  have hsound := Ledger.Sound.run h (.opened first)
  have hnumber : receipt.sequence.toNat = number :=
    hsound.honest _ _ hlanded line (hlines ▸ hline) _ htells
  refine ⟨hemitter, signed, written, hsubmit, ?_⟩
  rw [hnumber]
  exact hlanded

/-- **The numbers of messages.** Any number of sends for an emitter take their steps in any order,
among messages of others, and whatever the tracker is said to hold. Every transaction that is
accepted is assumed to have a name that no earlier one had (`Ledger.Step.landed`). What is left out
is that the same octets are handed in twice: they have one name and land once, and both sends would
report the one number.

* A send that succeeds reports the number that the chain gave to the message of the transaction
  that it handed in.
* Two sends do not report the same number.
* If a send is answered alike twice, up to what the tracker holds, and its transaction lands with
  the same log, it reports the same number, or none both times. The transactions may differ in which
  account is named for the message, which is derived from what the tracker held.
* If the log of the transaction tells no number, the send fails. -/
theorem send_reports_assigned [DecidableEq ι] {emitter : Address} {endpoints : ι → Endpoint}
    {intents : ι → Intent} {first : ℕ} {events : List (Event ι)} {finish : Ledger ι}
    (hemitter : ∀ i, (endpoints i).emitter = emitter)
    (h : Ledger.Runs (.opened first) events finish) :
    (∀ i receipt,
      ((endpoints i).send (intents i)).Runs (exchangesOf i events) (.ok receipt) →
      receipt.emitter = emitter ∧
      ∃ signed lines, ⟨.submit signed, .ok receipt.tx⟩ ∈ exchangesOf i events ∧
        finish.landed receipt.tx = some ⟨i, signed, receipt.sequence.toNat, lines⟩) ∧
    (∀ i j receipt receipt',
      ((endpoints i).send (intents i)).Runs (exchangesOf i events) (.ok receipt) →
      ((endpoints j).send (intents j)).Runs (exchangesOf j events) (.ok receipt') →
      i ≠ j → receipt.sequence ≠ receipt'.sequence) ∧
    (∀ i before reply reply' block signed signed' tx tx' answer outcome outcome',
      ((endpoints i).send (intents i)).Runs
        (before ++ Endpoint.landing (endpoints i).tracker reply block signed tx answer) outcome →
      ((endpoints i).send (intents i)).Runs
        (before ++ Endpoint.landing (endpoints i).tracker reply' block signed' tx' answer)
        outcome' →
      outcome.toOption.map SendReceipt.sequence = outcome'.toOption.map SendReceipt.sequence ∧
      ∃ provisional provisional' message message' transaction front back,
        Action.numberIn parseTracker reply = .ok provisional ∧
        Action.numberIn parseTracker reply' = .ok provisional' ∧
        (endpoints i).messageAccount (provisional + 1) = .ok message ∧
        (endpoints i).messageAccount (provisional' + 1) = .ok message' ∧
        signed.transaction = Endpoint.placed transaction front back message ∧
        signed'.transaction = Endpoint.placed transaction front back message') ∧
    ∀ i exchanges outcome signed tx (lines : List String),
      ((endpoints i).send (intents i)).Runs exchanges outcome →
      ⟨.submit signed, .ok tx⟩ ∈ exchanges → ⟨.log tx, .ok lines⟩ ∈ exchanges →
      (∀ line ∈ lines, ∀ n, ¬ Tells line n) → outcome = .error (.rpc (.noSequence tx)) := by
  refine ⟨fun i receipt hsend => ?_, fun i j receipt receipt' hsend hsend' hne heq => ?_, ?_, ?_⟩
  · rw [← hemitter i]
    exact landed_of_runs_send h hsend
  · obtain ⟨-, signed, lines, -, hlanded⟩ := landed_of_runs_send h hsend
    obtain ⟨-, signed', lines', -, hlanded'⟩ := landed_of_runs_send h hsend'
    have hsound := Ledger.Sound.run h (.opened first)
    have htx : receipt.tx = receipt'.tx :=
      hsound.once _ _ _ _ hlanded hlanded' (congrArg UInt64.toNat heq)
    rw [htx, hlanded', Option.some.injEq] at hlanded
    exact hne (congrArg Landing.caller hlanded).symm
  · intro i before reply reply' block signed signed' tx tx' answer outcome outcome' hsend hsend'
    obtain ⟨rfl, rfl, hplaced⟩ := Endpoint.send_differs hsend hsend'
    rw [Endpoint.sequence_reported, Endpoint.sequence_reported]
    exact ⟨rfl, hplaced⟩
  · intro i exchanges outcome signed tx lines hsend hsubmit hlog hsilent
    exact Endpoint.of_runs_send_silent hsend hsubmit hlog (sequenceOf?_eq_none_iff.mpr hsilent)

/-! ### Two sends -/

section TwoSends

open Endpoint

/-- What a send asks before it hands its transaction in. The tracker is said to hold something. -/
def preparing (reply : Outcome (Option Bytes)) : List (Exchange surroundings) :=
  [lookup openMessenger.core.account (.ok none),
    ⟨.balance openEndpoint.payer, .ok (1000000 : UInt64)⟩,
    lookup openMessenger.tracker reply, ⟨.recentBlock, .ok FixedBytes.zero⟩]

/-- What a send asks whose transaction lands. -/
def sent (reply : Outcome (Option Bytes)) (signed : SignedTransaction) (tx : TxId)
    (lines : List String) : List (Exchange surroundings) :=
  preparing reply ++ [⟨.submit signed, .ok tx⟩, ⟨.log tx, .ok lines⟩]

/-- A transaction sends the message without content, with the number that follows the one that the
tracker is said to hold. -/
def Sends (reply : Outcome (Option Bytes)) (signed : SignedTransaction) : Prop :=
  ∃ provisional message, Action.numberIn parseTracker reply = .ok provisional ∧
    openMessenger.send openEndpoint.chain openEndpoint.payer [] (provisional + 1) =
      .ok (sentMessage message) ∧
    signTransaction openSigner (sentMessage message) FixedBytes.zero = .ok signed

/-- A tracker that lags behind. -/
def lagging : Outcome (Option Bytes) := .ok (some (Bytes.littleEndian 8 7))

/-- The number that it is said to hold. -/
theorem numberIn_lagging : Action.numberIn parseTracker lagging = .ok 7 := by
  decide

/-- There are such transactions, also if the tracker lags behind. This computes their accounts. -/
theorem exists_sends : (∃ signed, Sends (.ok none) signed) ∧ ∃ signed, Sends lagging signed := by
  have h : (do
      let _ ← (ProgramAccount.sentMessage (7 + 1)).address openMessenger.program
      return true) = Except.ok true := by decide +kernel
  obtain ⟨message', hmessage', -⟩ := Outcome.bind_eq_ok_iff.mp h
  have hsend' : openMessenger.send openEndpoint.chain openEndpoint.payer [] (7 + 1) =
      .ok (sentMessage message') := by
    rw [Messenger.send, hmessage']
    rfl
  obtain ⟨message, hsend⟩ := exists_send
  obtain ⟨signed, hsigned⟩ := exists_signed_sentMessage message
  obtain ⟨signed', hsigned'⟩ := exists_signed_sentMessage message'
  exact ⟨⟨signed, 0, message, rfl, hsend, hsigned⟩,
    ⟨signed', 7, message', numberIn_lagging, hsend', hsigned'⟩⟩

/-- A send asks this if its transaction lands. -/
theorem Sends.runs {reply : Outcome (Option Bytes)} {signed : SignedTransaction}
    (h : Sends reply signed) (tx : TxId) (lines : List String) :
    (openEndpoint.send (.message [])).Runs (sent reply signed tx lines)
      (reported openEndpoint tx (.ok lines)) := by
  obtain ⟨provisional, message, hprovisional, hbuild, hsigned⟩ := h
  exact runs_send hprovisional hbuild hsigned tx (.ok lines)

/-- The first send reads a tracker that is missing, and the second one a tracker that lags behind.
The second one's transaction lands before somebody else's, and the first one's after it. -/
def twoSends (first second : SignedTransaction) : List (Event Bool) :=
  (preparing (.ok none)).map (.asked true) ++ ((preparing lagging).map (.asked false) ++
    [.asked false ⟨.submit second, .ok "3yZe"⟩, .foreign, .asked true ⟨.submit first, .ok "5h6x"⟩,
      .asked true ⟨.log "5h6x", .ok [logged "Sequence: 42"]⟩,
      .asked false ⟨.log "3yZe", .ok [told openEndpoint.emitter "40"]⟩])

/-- Preparing changes nothing. -/
theorem Ledger.runs_preparing_append {start finish : Ledger ι} {events : List (Event ι)} (i : ι)
    (reply : Outcome (Option Bytes)) (h : Ledger.Runs start events finish) :
    Ledger.Runs start ((preparing reply).map (.asked i) ++ events) finish :=
  .cons (.account _ i _ _) <| .cons (.balance _ i _ _) <| .cons (.account _ i _ _) <|
    .cons (.recentBlock _ i _) h

/-- A log of one line tells the number that is read from it. -/
theorem tells_singleton {line : String} {number : UInt64}
    (h : lineSequence? line = some number) :
    ∀ other ∈ [line], ∀ n, Tells other n → n.toNat = number.toNat := by
  intro other hother n htells
  obtain rfl := List.mem_singleton.mp hother
  rw [lineSequence?_eq_some_iff.mpr htells] at h
  exact congrArg UInt64.toNat (Option.some.inj h)

/-- What is read from the two logs. -/
theorem lineSequence?_twoSends : lineSequence? (logged "Sequence: 42") = some 42 ∧
    lineSequence? (told openEndpoint.emitter "40") = some 40 := by
  decide +kernel

/-- What is written down after that. -/
def afterTwoSends (first second : SignedTransaction) : Ledger Bool :=
  (((Ledger.opened 40).land false second "3yZe" [told openEndpoint.emitter "40"]).skip).land true
    first "5h6x" [logged "Sequence: 42"]

/-- The three messages are given the numbers from 40 on. -/
theorem runs_twoSends (first second : SignedTransaction) :
    Ledger.Runs (.opened 40) (twoSends first second) (afterTwoSends first second) := by
  obtain ⟨hfirst, hsecond⟩ := lineSequence?_twoSends
  refine Ledger.runs_preparing_append _ _ (Ledger.runs_preparing_append _ _ ?_)
  refine .cons (.landed false second rfl (tells_singleton hsecond)) ?_
  refine .cons (.foreign _) ?_
  refine .cons (.landed true first rfl (tells_singleton hfirst)) ?_
  have hlanded : (afterTwoSends first second).landed "3yZe" =
      some ⟨false, second, 40, [told openEndpoint.emitter "40"]⟩ := by
    rw [afterTwoSends, Ledger.landed_land_of_ne (by decide), Ledger.landed_skip,
      Ledger.landed_land_self]
    rfl
  exact .cons (.read Ledger.landed_land_self) (.cons (.read hlanded) (.nil _))

/-- Both report the number that the message of their own transaction was given. With the tracker
that lags behind, only the account of the message is another one. Without a line that tells a number
the first one fails. -/
theorem send_reports_assigned_twoSends : ∃ first second,
    Ledger.Runs (.opened 40) (twoSends first second) (afterTwoSends first second) ∧
    (openEndpoint.send (.message [])).Runs (exchangesOf true (twoSends first second))
      (.ok ⟨42, openEndpoint.emitter, "5h6x"⟩) ∧
    (openEndpoint.send (.message [])).Runs (exchangesOf false (twoSends first second))
      (.ok ⟨40, openEndpoint.emitter, "3yZe"⟩) ∧
    (∃ signed lines, (afterTwoSends first second).landed "5h6x" =
      some ⟨true, signed, 42, lines⟩) ∧
    (∃ signed lines, (afterTwoSends first second).landed "3yZe" =
      some ⟨false, signed, 40, lines⟩) ∧
    (∃ message message' transaction front back,
      openEndpoint.messageAccount (0 + 1) = .ok message ∧
      openEndpoint.messageAccount (7 + 1) = .ok message' ∧
      first.transaction = placed transaction front back message ∧
      second.transaction = placed transaction front back message') ∧
    (openEndpoint.send (.message [])).Runs (sent (.ok none) first "5h6x" [logged "Hello"])
      (.error (.rpc (.noSequence "5h6x"))) := by
  obtain ⟨⟨first, hfirst⟩, second, hsecond⟩ := exists_sends
  have hown : (openEndpoint.send (.message [])).Runs
      (exchangesOf true (twoSends first second)) (.ok ⟨42, openEndpoint.emitter, "5h6x"⟩) := by
    have h := hfirst.runs "5h6x" [logged "Sequence: 42"]
    rwa [reported, sequenceOf?, List.findSome?_cons, lineSequence?_twoSends.1] at h
  have hother : (openEndpoint.send (.message [])).Runs
      (exchangesOf false (twoSends first second)) (.ok ⟨40, openEndpoint.emitter, "3yZe"⟩) := by
    have h := hsecond.runs "3yZe" [told openEndpoint.emitter "40"]
    rwa [reported, sequenceOf?, List.findSome?_cons, lineSequence?_twoSends.2] at h
  obtain ⟨hassigned, -, hdiffers, hsilent⟩ := @send_reports_assigned Bool _ openEndpoint.emitter
    (fun _ => openEndpoint) (fun _ => .message []) _ _ _ (fun _ => rfl)
    (runs_twoSends first second)
  obtain ⟨-, signed, lines, -, hlanded⟩ := hassigned true _ hown
  obtain ⟨-, signed', lines', -, hlanded'⟩ := hassigned false _ hother
  obtain ⟨-, provisional, provisional', hplaced⟩ := hdiffers true
    [lookup openMessenger.core.account (.ok none),
      ⟨.balance openEndpoint.payer, .ok (1000000 : UInt64)⟩] _ _ _ _ _ _ _ _ _ _
    (hfirst.runs "5h6x" []) (hsecond.runs "3yZe" [])
  obtain ⟨message, message', transaction, front, back, htold, htold', hplaced⟩ := hplaced
  obtain rfl : 0 = provisional := Except.ok.inj htold
  obtain rfl : 7 = provisional' := by
    rw [numberIn_lagging] at htold'
    exact Except.ok.inj htold'
  have hsays := hfirst.runs "5h6x" [logged "Hello"]
  have hfails := hsilent true _ _ first "5h6x" [logged "Hello"] hsays (by simp [sent])
    (by simp [sent]) (sequenceOf?_eq_none_iff.mp (by decide +kernel))
  rw [hfails] at hsays
  exact ⟨first, second, runs_twoSends first second, hown, hother, ⟨signed, lines, hlanded⟩,
    ⟨signed', lines', hlanded'⟩, ⟨message, message', transaction, front, back, hplaced⟩, hsays⟩

end TwoSends

end GuardianRelay.Svm
