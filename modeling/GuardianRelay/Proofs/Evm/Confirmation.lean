import GuardianRelay.Evm.Endpoint
import GuardianRelay.Proofs.Polling

/-!
# Waiting for a Receipt

An endpoint asks its node for the receipt of a transaction until there is one, in virtual time,
where only pauses last. A receipt decides the wait, and so does a question that fails; a transaction
of which there is no receipt yet does not.

## Main results

* `Receipt.succeeded_iff`: which receipts are those of a success.
* `Endpoint.verdict?_eq_ok_iff`: what it takes for a transaction to have landed.
* `Endpoint.runFrom_awaitReceipt`: when the wait asks, and how it ends.
-/

namespace GuardianRelay.Evm

/-- What a node answers to its questions: to the first, to the second, and so on. -/
abbrev Answers := ℕ → (request : NodeRequest) → Outcome request.Answer

/-- Answers what an endpoint asks, where only pauses last. The lock is free, and the number of the
network is not remembered. -/
def inTime (answers : Answers) : (request : Request) → StateM Progress request.Reply
  | .node request => fun progress => (answers progress.asked.length request, progress.ask)
  | .now => fun progress => (progress.now, progress)
  | .sleep millis => fun progress => ((), progress.pause millis)
  | .knownNetwork => fun progress => (none, progress)
  | .lock | .unlock | .keepNetwork _ => fun progress => ((), progress)

/-- What becomes of an action that begins at a time, and how things stand when it has ended. -/
def Action.runFrom {α : Type} (action : Action α) (answers : Answers) (progress : Progress) :
    Outcome α × Progress :=
  (Program.run (inTime answers) action).run progress

variable {answers : Answers} {progress : Progress} {tx : TxId}

namespace Action

variable {α : Type}

/-- To ask for the time takes none. -/
theorem runFrom_now_bind {f : ℕ → Action α} :
    Action.runFrom (now >>= f) answers progress = (f progress.now).runFrom answers progress := rfl

/-- The node is asked for a receipt. -/
theorem runFrom_receipt_bind {f : Option Receipt → Action α} :
    Action.runFrom (receipt tx >>= f) answers progress =
      match answers progress.asked.length (.receipt tx) with
      | .ok receipt? => (f receipt?).runFrom answers progress.ask
      | .error error => (.error error, progress.ask) := by
  have hasked : Action.runFrom (receipt tx >>= f) answers progress =
      Action.runFrom (Program.ofOutcome (answers progress.asked.length (.receipt tx)) >>= f) answers
        progress.ask := rfl
  rw [hasked]
  cases answers progress.asked.length (.receipt tx) <;> rfl

end Action

/-- **Which receipts are those of a success.** A receipt that has a status has one that is a number
other than zero. -/
theorem Receipt.succeeded_iff {receipt : Receipt} :
    receipt.succeeded = true ↔
      ∀ status, receipt.status = some status → ∃ n, parseQuantity status = .ok n ∧ n ≠ 0 := by
  rw [succeeded]
  cases receipt.status with
  | none => simp
  | some status => cases hparse : parseQuantity status <;> simp [hparse]

namespace Endpoint

variable {endpoint : Endpoint}

/-- When the wait for a receipt asks, if it starts at a time. -/
def schedule (endpoint : Endpoint) (start : ℕ) : Schedule where
  start := start
  intervalMillis := endpoint.settings.receiptPollMillis.toNat
  timeoutMillis := endpoint.settings.confirmationMillis

/-- What the answer to a question for a receipt says of the transaction, if it decides the wait. -/
def verdict? (tx : TxId) : Outcome (Option Receipt) → Option (Outcome Receipt)
  | .ok none => none
  | .ok (some receipt) =>
      some (if receipt.succeeded then .ok receipt else .error (.rpc (.reverted tx)))
  | .error error => some (.error error)

/-- **A transaction has landed** exactly if there is a receipt of a success. -/
theorem verdict?_eq_ok_iff {answer : Outcome (Option Receipt)} {receipt : Receipt} :
    verdict? tx answer = some (.ok receipt) ↔
      answer = .ok (some receipt) ∧ receipt.succeeded = true := by
  rcases answer with error | _ | other
  · simp [verdict?]
  · simp [verdict?]
  · by_cases hsucceeded : other.succeeded = true
    · simp only [verdict?, hsucceeded, if_true, Option.some.injEq, Except.ok.injEq]
      exact ⟨fun h => ⟨h, h ▸ hsucceeded⟩, fun h => h.1⟩
    · simp only [verdict?, hsucceeded, Bool.false_eq_true, if_false, Option.some.injEq,
        reduceCtorEq, Except.ok.injEq, false_iff, not_and]
      rintro rfl
      exact hsucceeded

/-- The end of a wait for a receipt that does not come in time. -/
def unconfirmed (endpoint : Endpoint) (tx : TxId) : RelayError :=
  .rpc (.unconfirmed tx endpoint.settings.confirmationSeconds)

/-- The rounds of the wait are those of its schedule. -/
theorem runFrom_pollReceipt_succ {start polls : ℕ} :
    (endpoint.pollReceipt tx start (polls + 1)).runFrom answers progress =
      (endpoint.schedule start).round (endpoint.unconfirmed tx) progress
        ((endpoint.pollReceipt tx start polls).runFrom answers)
        (verdict? tx (answers progress.asked.length (.receipt tx))) := by
  rw [pollReceipt, Action.runFrom_receipt_bind]
  rcases answers progress.asked.length (.receipt tx) with error | _ | receipt
  · rfl
  · dsimp only [verdict?]
    rw [Action.runFrom_now_bind, Schedule.round]
    change Action.runFrom (if endpoint.settings.confirmationMillis ≤ progress.now - start then _
      else _) _ _ = if endpoint.settings.confirmationMillis ≤ progress.now - start then _ else _
    split <;> rfl
  · dsimp only [verdict?]
    split <;> rfl

/-- **When the wait for a receipt asks, and how it ends.** It asks on its schedule, and it ends on
it as the answers decide. -/
theorem runFrom_awaitReceipt (endpoint : Endpoint)
    (hinterval : 0 < endpoint.settings.receiptPollMillis.toNat) (tx : TxId) (answers : Answers)
    (start : ℕ) (earlier : List ℕ) :
    ∃ n outcome,
      (endpoint.awaitReceipt tx).runFrom answers ⟨start, earlier⟩ =
        (outcome, ⟨(endpoint.schedule start).time n,
          earlier ++ (endpoint.schedule start).times (n + 1)⟩) ∧
      (endpoint.schedule start).Ends
        (fun k => verdict? tx (answers (earlier.length + k) (.receipt tx)))
        (endpoint.unconfirmed tx) n outcome := by
  have hpauses : 0 < (endpoint.schedule start).intervalMillis := hinterval
  exact Schedule.exists_ends (fun k => verdict? tx (answers k (.receipt tx)))
    (fun polls => (endpoint.pollReceipt tx start polls).runFrom answers) hpauses
    (fun _ _ => runFrom_pollReceipt_succ) (Schedule.last_lt_pollLimit hpauses) earlier

end Endpoint

end GuardianRelay.Evm
