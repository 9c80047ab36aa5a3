import GuardianRelay.Proofs.Svm.Redemption
import GuardianRelay.Proofs.Svm.Sending
import Mathlib.Data.Option.Basic

/-!
# Numbers in Logs

An account-model endpoint reads the number of a message that it sent from the log of the
transaction: from the first line that tells one. The chain writes into the log which program was
called and which has ended, so for every line it can be told which program wrote it, but that is
not looked at, nor whom the line names.

## Main results

* `sequenceOf?_eq_some_iff`: the line that is read is the first that tells a number.
* `Endpoint.send_endsIn`: sending ends in publishing.
* `Endpoint.of_runs_publish`: a number that is said is the one of the transaction's log.
* `Endpoint.exists_runs_send`: whatever is read from the log of a transaction is said.
-/

namespace GuardianRelay.Svm

/-! ### Lines -/

/-- What a line of the chain itself, which a program cannot write, says of which program. -/
def announced? (line : String) : Option (String × String) := do
  let rest ← Text.after? "Program " line
  let program := rest.toList.takeWhile (· ≠ ' ')
  guard (':' ∉ program)
  return (String.ofList program, String.ofList (rest.toList.dropWhile (· ≠ ' ')))

/-- The programs that run after a line, the one that was called last in front. -/
def running (programs : List String) (line : String) : List String :=
  match announced? line with
  | none => programs
  | some (program, said) =>
    if (Text.after? " invoke" said).isSome then program :: programs
    else if (Text.after? " success" said).isSome || (Text.after? " failed" said).isSome then
      programs.tail
    else programs

/-- The lines of a log that came while a program was the one that was called last. -/
def linesOf (program : String) : List String → List String → List String
  | _, [] => []
  | programs, line :: later =>
    if programs.head? = some program then line :: linesOf program (running programs line) later
    else linesOf program (running programs line) later

/-- How the chain writes down what a program logs. -/
def logged (text : String) : String := "Program log: " ++ text

/-- Whom a line names as the one who published, if it names somebody. -/
def lineEmitter? (line : String) : Option String := do
  let fields ← Text.after? "MessagePublished: " ((Text.after? "Program log: " line).getD line)
  (Text.splitComma fields).findSome? (Text.after? "emitter=")

/-- A line is one that the core bridge wrote, and names nobody else than the emitter. -/
def Attributed (lines : List String) (core emitter : Address) (line : String) : Prop :=
  line ∈ linesOf core.toBase58 [] lines ∧ ∀ name ∈ lineEmitter? line, name = emitter.toBase58

/-- A log shows that the core bridge published a message for an emitter. -/
def LogShows (lines : List String) (core emitter : Address) (sequence : UInt64) : Prop :=
  ∃ line ∈ linesOf core.toBase58 [] lines,
    (∀ name ∈ lineEmitter? line, name = emitter.toBase58) ∧ lineSequence? line = some sequence

instance (lines : List String) (core emitter : Address) :
    DecidablePred (Attributed lines core emitter) :=
  fun _ => inferInstanceAs (Decidable (_ ∧ _))

instance (lines : List String) (core emitter : Address) (sequence : UInt64) :
    Decidable (LogShows lines core emitter sequence) :=
  inferInstanceAs (Decidable (∃ _ ∈ _, _))

/-- A line is the first in a log that tells a number. -/
structure FirstTelling (lines : List String) (line : String) (sequence : UInt64) : Prop where
  tells : lineSequence? line = some sequence
  split : ∃ earlier later, lines = earlier ++ line :: later ∧
    ∀ other ∈ earlier, lineSequence? other = none

/-- The number is read from the first line that tells one, whoever wrote it. -/
theorem sequenceOf?_eq_some_iff {lines : List String} {sequence : UInt64} :
    sequenceOf? lines = some sequence ↔ ∃ line, FirstTelling lines line sequence := by
  rw [sequenceOf?, List.findSome?_eq_some_iff]
  constructor
  · rintro ⟨earlier, line, later, hlines, htells, hearlier⟩
    exact ⟨line, htells, earlier, later, hlines, hearlier⟩
  · rintro ⟨line, htells, earlier, later, hlines, hearlier⟩
    exact ⟨earlier, line, later, hlines, htells, hearlier⟩

/-- The first such line is a line of the log. -/
theorem FirstTelling.mem {lines : List String} {line : String} {sequence : UInt64}
    (h : FirstTelling lines line sequence) : line ∈ lines := by
  obtain ⟨earlier, later, rfl, -⟩ := h.split
  simp

/-- If the first such line is the core bridge's, for the emitter, the log shows its number for the
emitter. -/
theorem FirstTelling.logShows {lines : List String} {line : String} {core emitter : Address}
    {sequence : UInt64} (h : FirstTelling lines line sequence)
    (hline : Attributed lines core emitter line) : LogShows lines core emitter sequence :=
  ⟨line, hline.1, hline.2, h.tells⟩

namespace Endpoint

open Svm.Action (lookup)

/-! ### Sending -/

/-- Sending ends in a publication. -/
theorem send_endsIn {endpoint : Endpoint} {intent : Intent} :
    (endpoint.send intent).EndsIn fun p => ∃ tracker build, p = endpoint.publish tracker build := by
  intro exchanges receipt hsend
  obtain ⟨_, herror, -⟩ | ⟨before, later, _, rfl, -, ⟨build, -, rfl⟩, -, hlater⟩ :=
    send_reaches.of_runs hsend
  · contradiction
  · exact ⟨_, later, ⟨_, build, rfl⟩, List.suffix_append before later, hlater⟩

/-- The receipt of a publication says the number that the log of its transaction tells. -/
theorem of_runs_publish {endpoint : Endpoint} {tracker : Address}
    {build : UInt64 → Except DeriveError UnsignedTransaction}
    {exchanges : List (Exchange surroundings)} {receipt : SendReceipt}
    (h : (endpoint.publish tracker build).Runs exchanges (.ok receipt)) :
    receipt.emitter = endpoint.emitter ∧
    ∃ signed lines, ⟨.submit signed, .ok receipt.tx⟩ ∈ exchanges ∧
      ⟨.log receipt.tx, .ok lines⟩ ∈ exchanges ∧
      sequenceOf? lines = some receipt.sequence := by
  rw [runs_publish_iff] at h
  generalize houtcome : Except.ok receipt = outcome at h
  cases h with
  | unread | unbuilt | unsubmitted => contradiction
  | @landed _ _ _ _ signed tx answer =>
      obtain ⟨lines, sequence, rfl, hsequence, rfl⟩ := reported_eq_ok_iff.mp houtcome.symm
      exact ⟨rfl, signed, lines, mem_landing.1, mem_landing.2, hsequence⟩

/-! ### Two numbers in one log -/

/-- The lines that a program writes that the transaction itself calls, and the chain's around
them. -/
def called (program : Address) (written : List String) : List String :=
  ("Program " ++ program.toBase58 ++ " invoke [1]") ::
    (written ++ ["Program " ++ program.toBase58 ++ " success"])

/-- The questions of an endpoint that sends a message without content, in a transaction with some
log. -/
def sending (signed : SignedTransaction) (lines : List String) : List (Exchange surroundings) :=
  [lookup openMessenger.core.account (.ok none),
    ⟨.balance openEndpoint.payer, .ok (1000000 : UInt64)⟩,
    lookup openMessenger.tracker (.ok none), ⟨.recentBlock, .ok FixedBytes.zero⟩,
    ⟨.submit signed, .ok "5h6x"⟩, ⟨.log "5h6x", .ok lines⟩]

/-- There is one log. -/
theorem eq_of_mem_sending {signed : SignedTransaction} {lines lines' : List String} {tx : TxId}
    (h : ⟨.log tx, .ok lines'⟩ ∈ sending signed lines) : lines' = lines := by
  simp only [sending, lookup, List.mem_cons, List.not_mem_nil, or_false] at h
  obtain h | h | h | h | h | h := h <;> cases h
  rfl

/-- The instruction that sends the message, which is kept in some account. -/
def sentMessage (message : Address) : UnsignedTransaction :=
  .instruction openEndpoint.chain openMessenger.program
    (instructionMark "send_message" ++ counted [])
    [.signer openEndpoint.payer, .readonly openMessenger.config,
      .readonly openMessenger.core.program, .writable openMessenger.core.account,
      .writable openMessenger.core.feeCollector, .readonly openMessenger.emitter,
      .writable openMessenger.tracker, .writable message, .readonly systemProgram,
      .readonly clockAccount, .readonly rentAccount]

/-- There is an account for the message. This computes it. -/
theorem exists_send : ∃ message,
    openMessenger.send openEndpoint.chain openEndpoint.payer [] (0 + 1) =
      .ok (sentMessage message) := by
  have h : (do
      let _ ← (ProgramAccount.sentMessage (0 + 1)).address openMessenger.program
      return true) = Except.ok true := by decide +kernel
  obtain ⟨message, hmessage, -⟩ := Outcome.bind_eq_ok_iff.mp h
  refine ⟨message, ?_⟩
  rw [Messenger.send, hmessage]
  rfl

/-- Only the account itself has to sign the message, which is small. -/
theorem exists_signed_sentMessage (message : Address) :
    ∃ signed, signTransaction openSigner (sentMessage message) FixedBytes.zero = .ok signed := by
  refine exists_signed_instruction ?_ (by simp) ?_ _
  · simp [AccountUse.signer, AccountUse.readonly, AccountUse.writable, payer, openEndpoint]
  · exact Nat.le_trans (length_instructionMark_append_le "send_message" _) (by decide)

/-- The account can pay. -/
theorem runs_checkLamports :
    (openEndpoint.checkLamports openMessenger.core).Runs
      [lookup openMessenger.core.account (.ok none),
        ⟨.balance openEndpoint.payer, .ok (1000000 : UInt64)⟩] (.ok ()) := by
  have hpays : ¬ (1000000 : UInt64) < 0 + lamportsPerSignature := by decide
  have hfee := Action.runs_accountNumber openMessenger.core.account parseBridgeFee (.ok none)
  refine Program.runs_bind_iff.mpr (.inl ⟨0, _, _, hfee, ?_, rfl⟩)
  refine Action.runs_node_bind_iff.mpr (.inl ⟨(1000000 : UInt64), [], rfl, ?_⟩)
  rw [if_neg hpays]
  exact .done ()

/-- A message without content is sent like this, whatever the tracker holds. -/
theorem runs_send {reply : Outcome (Option Bytes)} {provisional : UInt64} {message : Address}
    {signed : SignedTransaction}
    (hprovisional : Action.numberIn parseTracker reply = .ok provisional)
    (hbuild : openMessenger.send openEndpoint.chain openEndpoint.payer [] (provisional + 1) =
      .ok (sentMessage message))
    (hsigned : signTransaction openSigner (sentMessage message) FixedBytes.zero = .ok signed)
    (tx : TxId) (answer : Outcome (List String)) :
    (openEndpoint.send (.message [])).Runs
      ([lookup openMessenger.core.account (.ok none),
        ⟨.balance openEndpoint.payer, .ok (1000000 : UInt64)⟩] ++
        landing openMessenger.tracker reply FixedBytes.zero signed tx answer)
      (reported openEndpoint tx answer) := by
  refine Program.runs_ofOutcome_bind_iff.mpr (.inl ⟨[1, 0, 0], by decide, ?_⟩)
  refine Program.runs_bind_iff.mpr (.inl ⟨(), _, _, runs_checkLamports, ?_, rfl⟩)
  exact runs_publish_iff.mpr (.landed tx answer hprovisional hbuild hsigned)

/-- Sending succeeds, with the number that is read from the log. -/
theorem exists_runs_send {lines : List String} {sequence : UInt64}
    (h : sequenceOf? lines = some sequence) :
    ∃ signed, (openEndpoint.send (.message [])).Runs (sending signed lines)
      (.ok ⟨sequence, openEndpoint.emitter, "5h6x"⟩) := by
  obtain ⟨message, hmessage⟩ := exists_send
  obtain ⟨signed, hsigned⟩ := exists_signed_sentMessage message
  have hreply : Action.numberIn parseTracker (.ok none) = .ok 0 := rfl
  have hruns := runs_send hreply hmessage hsigned "5h6x" (.ok lines)
  rw [reported, h] at hruns
  exact ⟨signed, hruns⟩

/-- Somebody else who publishes, or a program that writes numbers. -/
def stranger : Address := ⟨FixedBytes.ofNat 9⟩

/-- The log of a transaction in which only the core bridge writes a number. -/
def ownCalled : List String :=
  called openEndpoint.core.program [logged "Sequence: 42"]

/-- The log of a transaction in which somebody else's program writes a number before the core bridge
does. -/
def strangerCalled : List String :=
  called stranger [logged "Sequence: 7"] ++ ownCalled

/-- How the core bridge tells for whom it published a message. -/
def told (emitter : Address) (n : String) : String :=
  logged ("MessagePublished: emitter=" ++ emitter.toBase58 ++ ", sequence=" ++ n)

/-- The log of a transaction in which the core bridge publishes for somebody else before it
publishes for the endpoint. -/
def strangerServed : List String :=
  called openEndpoint.core.program [told stranger "7", told openEndpoint.emitter "42"]

/-- In both logs the number that is read is the first, which is not shown to be the endpoint's. The
endpoint's is shown too. -/
theorem sequenceOf?_stranger : ∀ lines ∈ [strangerCalled, strangerServed],
    sequenceOf? lines = some 7 ∧
    ¬ LogShows lines openEndpoint.core.program openEndpoint.emitter 7 ∧
    LogShows lines openEndpoint.core.program openEndpoint.emitter 42 := by
  decide +kernel

end Endpoint

end GuardianRelay.Svm
