import GuardianRelay.Proofs.Evm.Redemption

/-!
# Publications in Receipts

A contract-model endpoint reads the number of a message that it sent from the receipt of the
transaction: from the first event by which the core contract says that something was published. The
event names who published, but that is not looked at.

## Main results

* `Receipt.sequence_eq_ok_iff`: the event that is read is the first publication.
* `Endpoint.send_endsIn`: sending ends in publishing.
* `Endpoint.of_runs_publish`: a number that is said is the one of the transaction's receipt.
* `Endpoint.exists_runs_send`: whatever is read from the events of a transaction is said.
-/

namespace GuardianRelay.Evm

/-! ### Events -/

/-- Whether an event is one by which the core contract tells that a message was published. -/
def Log.isPublication (core : EvmAddress) (log : Log) : Bool :=
  Text.eqIgnoringCase log.address (Hex.encodeMarked core.toList) &&
    log.topics.head?.any (Text.eqIgnoringCase ·
      (Hex.encodeMarked (eventTopic messagePublished).toList))

/-- An event of the core contract is a publication if its first topic says so. -/
theorem Log.isPublication_of {core : EvmAddress} {log : Log} {others : List String}
    (haddress : log.address = Hex.encodeMarked core.toList)
    (htopics : log.topics = Hex.encodeMarked (eventTopic messagePublished).toList :: others) :
    log.isPublication core := by
  have hself (s : String) : Text.eqIgnoringCase s s = true := beq_self_eq_true _
  rw [isPublication, haddress, htopics, List.head?_cons, Option.any_some, hself, hself]
  rfl

/-- The event names who published: that is its second topic. -/
def Log.Names (emitter : Address) (log : Log) : Prop :=
  log.topics[1]?.any (Text.eqIgnoringCase · (Hex.encodeMarked emitter.toList))

/-- The number of the message that was published. -/
def Log.number (log : Log) : Except RpcFault UInt64 := do
  let n ← Evm.number (← parseData log.data) 0
  if n < UInt64.size then return UInt64.ofNat n else throw (.wideSequence n)

/-- A receipt shows that the core contract published a message for an emitter. -/
def Receipt.Shows (receipt : Receipt) (core : EvmAddress) (emitter : Address)
    (sequence : UInt64) : Prop :=
  ∃ log ∈ receipt.logs, log.isPublication core ∧ log.Names emitter ∧ log.number = .ok sequence

instance (emitter : Address) : DecidablePred (Log.Names emitter) :=
  fun _ => inferInstanceAs (Decidable (_ = true))

instance (receipt : Receipt) (core : EvmAddress) (emitter : Address) (sequence : UInt64) :
    Decidable (receipt.Shows core emitter sequence) :=
  inferInstanceAs (Decidable (∃ _ ∈ _, _))

/-- An event is the first publication in a receipt. -/
structure Receipt.First (receipt : Receipt) (core : EvmAddress) (log : Log) : Prop where
  isPublication : log.isPublication core
  split : ∃ earlier later, receipt.logs = earlier ++ log :: later ∧
    ∀ other ∈ earlier, ¬ other.isPublication core

/-- What is looked for is the first publication. -/
theorem Receipt.find?_eq_some_iff {receipt : Receipt} {core : EvmAddress} {log : Log} :
    receipt.logs.find? (·.isPublication core) = some log ↔ receipt.First core log := by
  rw [List.find?_eq_some_iff_append]
  simp only [Bool.not_eq_true', ← Bool.not_eq_true]
  exact ⟨fun ⟨hlog, hsplit⟩ => ⟨hlog, hsplit⟩, fun ⟨hlog, hsplit⟩ => ⟨hlog, hsplit⟩⟩

/-- There is one first publication. -/
theorem Receipt.First.unique {receipt : Receipt} {core : EvmAddress} {log log' : Log}
    (h : receipt.First core log) (h' : receipt.First core log') : log = log' :=
  Option.some.inj ((find?_eq_some_iff.mpr h).symm.trans (find?_eq_some_iff.mpr h'))

/-- If there is a publication at all, the number is the one of the first. -/
theorem Receipt.sequence_eq {receipt : Receipt} {core : EvmAddress} :
    receipt.sequence core =
      match receipt.logs.find? (·.isPublication core) with
      | none => .error (.noPublication receipt.hash)
      | some log => log.number := rfl

/-- The number is read from the first publication, whoever published. -/
theorem Receipt.sequence_eq_ok_iff {receipt : Receipt} {core : EvmAddress} {sequence : UInt64} :
    receipt.sequence core = .ok sequence ↔
      ∃ log, receipt.First core log ∧ log.number = .ok sequence := by
  simp only [← find?_eq_some_iff, sequence_eq]
  constructor
  · intro h
    split at h
    next => contradiction
    next log hfirst => exact ⟨log, hfirst, h⟩
  · rintro ⟨log, hfirst, hnumber⟩
    rw [hfirst]
    exact hnumber

/-- If the first publication is the emitter's, the receipt shows its number for the emitter. -/
theorem Receipt.First.shows {receipt : Receipt} {core : EvmAddress} {log : Log}
    {emitter : Address} {sequence : UInt64} (h : receipt.First core log)
    (hnumber : log.number = .ok sequence) (hnames : log.Names emitter) :
    receipt.Shows core emitter sequence := by
  obtain ⟨earlier, later, hlogs, -⟩ := h.split
  exact ⟨log, by simp [hlogs], h.isPublication, hnames, hnumber⟩

namespace Endpoint

/-! ### Sending -/

/-- A transfer ends in its publication. -/
theorem sendTokens_endsIn {endpoint : Endpoint} {token : Address}
    {amount : UInt64} {recipientChain : ChainId} {recipient : Address} {batch : UInt32} :
    (endpoint.sendTokens token amount recipientChain recipient batch).EndsIn
      fun p => ∃ call, p = endpoint.publish call := by
  rw [sendTokens]
  split
  next => exact .fail
  next =>
    dsimp only
    split
    next => exact .fail
    next =>
      split
      next =>
        refine .bind fun held => ?_
        split
        next => exact .fail
        next =>
          refine .bind fun approved => ?_
          split
          next => exact .fail
          next => exact .self ⟨_, rfl⟩
      next => exact .fail

/-- Sending ends in a publication. -/
theorem send_endsIn {endpoint : Endpoint} {intent : Intent} :
    (endpoint.send intent).EndsIn fun p => ∃ call, p = endpoint.publish call := by
  unfold send
  split
  next => exact .bind fun _ => .self ⟨_, rfl⟩
  next => exact sendTokens_endsIn
  next => exact .fail
  next => exact .fail

/-- The receipt of a publication says the number that the receipt of its transaction has. -/
theorem of_runs_publish {endpoint : Endpoint} {call : Call}
    {exchanges : List (Exchange surroundings)} {receipt : SendReceipt}
    (h : (endpoint.publish call).Runs exchanges (.ok receipt)) :
    receipt.emitter = endpoint.emitter ∧
    ∃ signed tx record, ⟨.node (.submit signed), .ok tx⟩ ∈ exchanges ∧
      ⟨.node (.receipt tx), .ok (some record)⟩ ∈ exchanges ∧ record.succeeded = true ∧
      receipt.tx = record.hash ∧ record.sequence endpoint.core = .ok receipt.sequence := by
  obtain ⟨fee, asking, rest, -, hpaid, rfl⟩ | ⟨_, -, herror⟩ := Program.runs_bind_iff.mp h
  · obtain ⟨record, executing, reading, hexecute, hread, rfl⟩ | ⟨_, -, herror⟩ :=
      Program.runs_bind_iff.mp hpaid
    · obtain ⟨sequence, hsequence, hdone⟩ | ⟨_, -, -, herror⟩ :=
        Program.runs_ofOutcome_bind_iff.mp hread
      · obtain ⟨rfl, hreceipt⟩ := Program.runs_done_iff.mp hdone
        obtain rfl := Except.ok.inj hreceipt
        obtain ⟨signed, tx, hsubmit, hrecord, hsucceeded⟩ :=
          (runs_execute_iff.mp hexecute).of_ok
        exact ⟨rfl, signed, tx, record, by simp [hsubmit], by simp [hrecord], hsucceeded, rfl,
          Outcome.mapError_eq_ok_iff.mp hsequence⟩
      · contradiction
    · contradiction
  · contradiction

/-! ### Two publications in one transaction -/

/-- An event by which the core contract tells that a message was published. -/
def publication (emitter : Address) (n : ℕ) : Log where
  address := Hex.encodeMarked openEndpoint.core.toList
  topics := [Hex.encodeMarked (eventTopic messagePublished).toList,
    Hex.encodeMarked emitter.toList]
  data := Hex.encodeMarked (Word.ofNat n).toList

/-- The receipt of a transaction that succeeded with some events. -/
def sentWith (logs : List Log) : Receipt := ⟨"0x02", none, logs⟩

theorem isPublication_publication (emitter : Address) (n : ℕ) :
    (publication emitter n).isPublication openEndpoint.core :=
  Log.isPublication_of rfl rfl

/-- A publication names who published. -/
theorem names_publication_iff {emitter named : Address} {n : ℕ} :
    (publication emitter n).Names named ↔
      Text.eqIgnoringCase (Hex.encodeMarked emitter.toList) (Hex.encodeMarked named.toList) := by
  simp [publication, Log.Names]

/-- A publication that is the first event is the first publication. -/
theorem first_publication (emitter : Address) (n : ℕ) (later : List Log) :
    (sentWith (publication emitter n :: later)).First openEndpoint.core
      (publication emitter n) where
  isPublication := isPublication_publication emitter n
  split := ⟨[], later, rfl, nofun⟩

/-- The open account executes the call that publishes a message without content, in a transaction
with some events. -/
def publishing (signed : SignedTransaction) (logs : List Log) : List (Exchange surroundings) :=
  cheapGas.asked openEndpoint (.sendMessage []) 0 ++
    [⟨.knownNetwork, some 5⟩, ⟨.lock, ()⟩,
      ⟨.node (.transactionCount openEndpoint.sender), .ok (1 : UInt64)⟩,
      ⟨.node (.submit signed), .ok (sentWith logs).hash⟩, ⟨.unlock, ()⟩, ⟨.now, (0 : ℕ)⟩,
      mined (sentWith logs)]

/-- Before it does so it asks what publishing costs, which is nothing. -/
def sending (signed : SignedTransaction) (logs : List Log) : List (Exchange surroundings) :=
  ⟨.node (.call openEndpoint.core Call.messageFee.encode), .ok (Word.ofNat 0).toList⟩ ::
    publishing signed logs

/-- There is one receipt. -/
theorem eq_sentWith_of_mem {signed : SignedTransaction} {logs : List Log} {tx : TxId}
    {record : Receipt}
    (h : ⟨.node (.receipt tx), .ok (some record)⟩ ∈ sending signed logs) :
    record = sentWith logs := by
  simp only [sending, publishing, Estimate.asked, List.mem_cons, List.cons_append, List.nil_append,
    List.not_mem_nil, or_false] at h
  obtain h | h | h | h | h | h | h | h | h | h | h := h <;> cases h
  rfl

/-- Sending succeeds, with the number that is read from the events. -/
theorem exists_runs_send {logs : List Log} {sequence : UInt64}
    (h : (sentWith logs).sequence openEndpoint.core = .ok sequence) :
    ∃ signed, (openEndpoint.send (.message [])).Runs (sending signed logs)
      (.ok ⟨sequence, openEndpoint.emitter, "0x02"⟩) := by
  obtain ⟨signed, hsigned⟩ := exists_signLegacy_call recoverable_openSigner openEndpoint.chain
    openEndpoint.program (Call.sendMessage []).encode 0 (scaledGas 100000) ⟨1, 1, 5⟩
  have hfee : openEndpoint.messageFee.Runs
      [⟨.node (.call openEndpoint.core Call.messageFee.encode), .ok (Word.ofNat 0).toList⟩]
      (.ok 0) :=
    Action.runs_node_bind_iff.mpr (.inl ⟨_, [], rfl,
      Program.runs_ofOutcome_iff.mpr ⟨rfl, by decide⟩⟩)
  have hexecute : Executes openEndpoint (.sendMessage []) 0 (publishing signed logs)
      (.ok (sentWith logs)) :=
    .submitted (affords_cheapGas _) (.known 5) (.handedIn _ hsigned) (.confirmed rfl)
  have hread : (Program.ofOutcome (Outcome.ofRpc ((sentWith logs).sequence openEndpoint.core)) >>=
      fun sequence => pure ⟨sequence, openEndpoint.emitter, (sentWith logs).hash⟩ :
        Action SendReceipt).Runs [] (.ok ⟨sequence, openEndpoint.emitter, "0x02"⟩) :=
    Program.runs_ofOutcome_bind_iff.mpr
      (.inl ⟨sequence, Outcome.mapError_eq_ok_iff.mpr h, .done _⟩)
  refine ⟨signed, Program.runs_ofOutcome_bind_iff.mpr (.inl ⟨[1, 0, 0], by decide, ?_⟩)⟩
  refine Program.runs_bind_iff.mpr (.inl ⟨0, _, _, hfee, ?_, rfl⟩)
  exact Program.runs_bind_iff.mpr (.inl ⟨_, _, [], runs_execute_iff.mpr hexecute, hread, rfl⟩)

/-- Somebody else who publishes. -/
def stranger : Address := Address.ofEvm (FixedBytes.ofNat 9)

/-- The events of a transaction in which somebody else publishes before the endpoint. -/
def crowded : List Log := [publication stranger 7, publication openEndpoint.emitter 42]

/-- The number that is read is the one of the first. -/
theorem sequence_crowded : (sentWith crowded).sequence openEndpoint.core = .ok 7 :=
  Receipt.sequence_eq_ok_iff.mpr ⟨_, first_publication stranger 7 _, by decide +kernel⟩

/-- It is not shown to be the endpoint's. -/
theorem not_shows_crowded :
    ¬ (sentWith crowded).Shows openEndpoint.core openEndpoint.emitter 7 := by
  rintro ⟨log, hlog, -, hnames, hnumber⟩
  obtain rfl | rfl : log = publication stranger 7 ∨ log = publication openEndpoint.emitter 42 := by
    simpa [sentWith, crowded] using hlog
  · exact absurd (names_publication_iff.mp hnames) (by decide)
  · exact absurd hnumber (by decide +kernel)

/-- The endpoint's number is shown too. -/
theorem shows_crowded : (sentWith crowded).Shows openEndpoint.core openEndpoint.emitter 42 :=
  ⟨_, List.mem_cons_of_mem _ List.mem_cons_self, isPublication_publication _ _,
    names_publication_iff.mpr (beq_self_eq_true _), by decide +kernel⟩

end Endpoint

end GuardianRelay.Evm
