import GuardianRelay.Proofs.Evm.Confirmation
import GuardianRelay.Proofs.Evm.Redemption
import GuardianRelay.Proofs.Svm.Confirmation

/-!
# Waiting for a Confirmation

The endpoints of both kinds of chains wait until a transaction is confirmed, each with its own loop
and its own answers: a receipt or none, and a status that has a level of commitment. The two waits
keep the same time. This module states what is common to them and what is decisive for each.

## Main results

* `confirmations_on_schedule`: when both waits ask, and how they end, whatever the node answers.
-/

namespace GuardianRelay

/-- **The waits for a confirmation**, in virtual time and whatever the node answers. Each of them
asks at its start and after every interval. It ends with the first question whose answer is
decisive, and as that answer decides. If none is decisive up to the first question for which the
time is over, it ends with that one, because the transaction is not confirmed. There is always a
question, also if there is no time at all.

On a contract-model chain a receipt is decisive, and a question that fails. A transaction is taken
to have landed only if its receipt says nothing of success, or says it by a number that is not zero.

On an account-model chain a status is decisive if it carries an error, whatever its level, or if it
is as firm as the client asks for; and so is a call that fails. A transaction is taken to have
landed only if its status carries no error and is as firm as that. -/
theorem confirmations_on_schedule :
    (∀ (endpoint : Evm.Endpoint) (tx : TxId) (answers : Evm.Answers) (start : ℕ)
        (earlier : List ℕ), 0 < endpoint.settings.receiptPollMillis.toNat →
      ∃ n outcome,
        (endpoint.awaitReceipt tx).runFrom answers ⟨start, earlier⟩ =
          (outcome, ⟨(endpoint.schedule start).time n,
            earlier ++ (endpoint.schedule start).times (n + 1)⟩) ∧
        (endpoint.schedule start).Ends
          (fun k => Evm.Endpoint.verdict? tx (answers (earlier.length + k) (.receipt tx)))
          (endpoint.unconfirmed tx) n outcome ∧
        ∀ receipt, outcome = .ok receipt →
          answers (earlier.length + n) (.receipt tx) = .ok (some receipt) ∧
          ∀ status, receipt.status = some status →
            ∃ q, Evm.parseQuantity status = .ok q ∧ q ≠ 0) ∧
    (∀ (node : Svm.Node) (tx : TxId) (server : Client.Server) (start : ℕ) (earlier : List ℕ),
      0 < node.confirmationPollMillis →
      ∃ n outcome,
        (node.awaitLanded tx).runFrom server ⟨start, earlier⟩ =
          (outcome, ⟨(node.schedule start).time n,
            earlier ++ (node.schedule start).times (n + 1)⟩) ∧
        (node.schedule start).Ends
          (fun k => node.verdict? tx (node.standing tx server (earlier.length + k + 1)))
          (node.notCommitted tx) n outcome ∧
        (outcome = .ok () → ∃ status,
          node.standing tx server (earlier.length + n + 1) = .ok (some status) ∧
          status.error = none ∧ Svm.Node.rank node.commitment ≤ status.rank)) ∧
    ∀ schedule : Schedule, 0 < schedule.intervalMillis →
      schedule.last = schedule.timeoutMillis ⌈/⌉ schedule.intervalMillis ∧
      ∀ k, schedule.last ≤ k ↔ schedule.timeoutMillis ≤ k * schedule.intervalMillis := by
  refine ⟨fun endpoint tx answers start earlier hinterval => ?_,
    fun node tx server start earlier hinterval => ?_,
    fun schedule hinterval => ⟨rfl, fun k => Schedule.last_le_iff hinterval⟩⟩
  · obtain ⟨n, outcome, hrun, hends⟩ :=
      endpoint.runFrom_awaitReceipt hinterval tx answers start earlier
    refine ⟨n, outcome, hrun, hends, ?_⟩
    rintro receipt rfl
    obtain ⟨hanswer, hsucceeded⟩ := Evm.Endpoint.verdict?_eq_ok_iff.mp hends.verdict_of_ok
    exact ⟨hanswer, Evm.Receipt.succeeded_iff.mp hsucceeded⟩
  · obtain ⟨n, outcome, hrun, hends⟩ :=
      node.runFrom_awaitLanded hinterval tx server start earlier
    refine ⟨n, outcome, hrun, hends, ?_⟩
    rintro rfl
    exact Svm.Node.verdict?_eq_ok_iff.mp hends.verdict_of_ok

/-! ### Transactions that take a while -/

/-- The receipt of a transaction that succeeded. -/
def someReceipt : Evm.Receipt := ⟨"0x01", some "0x1", []⟩

/-- A node that has the receipt after so many questions. -/
def receiptAfter (polls : ℕ) : Evm.Answers := fun number request =>
  match request with
  | .receipt _ => .ok (if number < polls then none else some someReceipt)
  | _ => .error (.rpc .undelivered)

/-- The node of one machine. -/
def someNode : Svm.Node := .ofUrl "http://[::1]:8899"

/-- What a server answers that does not know a transaction at first and then sees it become firm. -/
def firming : ℕ → String
  | 1 => "\x7b\"result\":\x7b\"value\":[null]\x7d\x7d"
  | 2 => "\x7b\"result\":\x7b\"value\":[\x7b\"confirmationStatus\":\"processed\"\x7d]\x7d\x7d"
  | _ => "\x7b\"result\":\x7b\"value\":[\x7b\"confirmationStatus\":\"confirmed\"\x7d]\x7d\x7d"

/-- Two waits that end with their third question, and one that ends with its last. -/
theorem confirmations_on_schedule_third :
    (0 < (Evm.Endpoint.openEndpoint.settings.receiptPollMillis).toNat ∧
      (Evm.Endpoint.openEndpoint.awaitReceipt "0x01").runFrom (receiptAfter 2) ⟨7, []⟩ =
        (.ok someReceipt, ⟨4007, [7, 2007, 4007]⟩) ∧
      ∃ asked, asked.length = 61 ∧
        (Evm.Endpoint.openEndpoint.awaitReceipt "0x01").runFrom (receiptAfter 61) ⟨7, []⟩ =
          (.error (.rpc (.unconfirmed "0x01" 120)), ⟨120007, asked⟩)) ∧
    0 < someNode.confirmationPollMillis ∧
      (someNode.awaitLanded "tx").runFrom (fun number _ => some ⟨200, firming number⟩) ⟨7, []⟩ =
        (.ok (), ⟨1007, [7, 507, 1007]⟩) := by
  obtain ⟨hreceipt, hlanded, -⟩ := confirmations_on_schedule
  have hlast : (Evm.Endpoint.openEndpoint.schedule 7).last = 60 := by decide
  have hpending {polls k : ℕ} (h : k < polls) : Evm.Endpoint.verdict? "0x01"
      (receiptAfter polls (([] : List ℕ).length + k) (.receipt "0x01")) = none := by
    have hanswer : receiptAfter polls k (.receipt "0x01") = .ok none := congrArg _ (if_pos h)
    rw [List.length_nil, Nat.zero_add, hanswer]
    rfl
  refine ⟨⟨by decide, ?_, ?_⟩, by decide, ?_⟩
  · obtain ⟨n, outcome, hrun, hends, -⟩ :=
      hreceipt Evm.Endpoint.openEndpoint "0x01" (receiptAfter 2) 7 [] (by decide)
    obtain ⟨rfl, rfl⟩ := hends.eq_of_decided (hlast ▸ by decide) (fun k hk => hpending hk)
      (show _ = some (.ok someReceipt) by decide +kernel)
    exact hrun
  · obtain ⟨n, outcome, hrun, hends, -⟩ :=
      hreceipt Evm.Endpoint.openEndpoint "0x01" (receiptAfter 61) 7 [] (by decide)
    obtain ⟨rfl, rfl⟩ := hends.eq_of_undecided fun k hk =>
      hpending (Nat.lt_succ_of_le (hk.trans_eq hlast))
    rw [hlast] at hrun
    exact ⟨_, rfl, hrun⟩
  · obtain ⟨n, outcome, hrun, hends, -⟩ :=
      hlanded someNode "tx" (fun number _ => some ⟨200, firming number⟩) 7 [] (by decide)
    have hundecided : ∀ k < 2, someNode.verdict? "tx" (someNode.standing "tx"
        (fun number _ => some ⟨200, firming number⟩) (([] : List ℕ).length + k + 1)) = none := by
      decide +kernel
    obtain ⟨rfl, rfl⟩ := hends.eq_of_decided (by decide) hundecided
      (show _ = some (.ok ()) by decide +kernel)
    exact hrun

end GuardianRelay
