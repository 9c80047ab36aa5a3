import GuardianRelay.Proofs.Evm.Publication
import GuardianRelay.Proofs.Svm.Publication

/-!
# The Number of a Message

An endpoint that has sent a message says under which number it was published. It reads the number
from what the chain tells of the transaction, from the first event, or the first line, that it can
be read from. The number belongs to the message if nobody else publishes, or writes such a line,
earlier in the transaction. Otherwise it may be another message's, although the chain says whose
it is.

## Main results

* `send_reads_first`: what the receipt of a message says, under all answers.
* `send_reads_others`: receipts that say the number of somebody else's message.
-/

namespace GuardianRelay

/-- **What the receipt of a message says**, on either kind of chain and under all answers. It is the
number of the first publication that the receipt of the endpoint's transaction tells of, or the one
that the first line of its log tells. The chain shows it to be the emitter's if that publication, or
that line, is the emitter's. -/
theorem send_reads_first (evm : Evm.Endpoint) (svm : Svm.Endpoint) (intent : Intent)
    (evmExchanges : List (Exchange Evm.surroundings))
    (svmExchanges : List (Exchange Svm.surroundings)) (receipt : SendReceipt) :
    ((evm.send intent).Runs evmExchanges (.ok receipt) →
      receipt.emitter = evm.emitter ∧
      ∃ signed tx record log, ⟨.node (.submit signed), .ok tx⟩ ∈ evmExchanges ∧
        ⟨.node (.receipt tx), .ok (some record)⟩ ∈ evmExchanges ∧
        record.succeeded = true ∧ receipt.tx = record.hash ∧
        record.First evm.core log ∧ log.number = .ok receipt.sequence ∧
        (log.Names receipt.emitter → record.Shows evm.core receipt.emitter receipt.sequence)) ∧
    ((svm.send intent).Runs svmExchanges (.ok receipt) →
      receipt.emitter = svm.emitter ∧
      ∃ signed lines line, ⟨.submit signed, .ok receipt.tx⟩ ∈ svmExchanges ∧
        ⟨.log receipt.tx, .ok lines⟩ ∈ svmExchanges ∧
        Svm.FirstTelling lines line receipt.sequence ∧
        (Svm.Attributed lines svm.core.program receipt.emitter line →
          Svm.LogShows lines svm.core.program receipt.emitter receipt.sequence)) := by
  constructor
  · intro h
    obtain ⟨_, publishing, ⟨call, rfl⟩, hsuffix, hpublish⟩ := Evm.Endpoint.send_endsIn _ _ h
    obtain ⟨hemitter, signed, tx, record, hsubmit, hrecord, hsucceeded, htx, hsequence⟩ :=
      Evm.Endpoint.of_runs_publish hpublish
    obtain ⟨log, hfirst, hnumber⟩ := Evm.Receipt.sequence_eq_ok_iff.mp hsequence
    exact ⟨hemitter, signed, tx, record, log, hsuffix.subset hsubmit, hsuffix.subset hrecord,
      hsucceeded, htx, hfirst, hnumber, hfirst.shows hnumber⟩
  · intro h
    obtain ⟨_, publishing, ⟨tracker, build, rfl⟩, hsuffix, hpublish⟩ :=
      Svm.Endpoint.send_endsIn _ _ h
    obtain ⟨hemitter, signed, lines, hsubmit, hlog, hsequence⟩ :=
      Svm.Endpoint.of_runs_publish hpublish
    obtain ⟨line, hfirst⟩ := Svm.sequenceOf?_eq_some_iff.mp hsequence
    exact ⟨hemitter, signed, lines, line, hsuffix.subset hsubmit, hsuffix.subset hlog, hfirst,
      hfirst.logShows⟩

/-- If only the endpoint publishes in its transaction, the number is shown to be its own. -/
theorem send_reads_first_alone :
    (∃ signed, (Evm.Endpoint.openEndpoint.send (.message [])).Runs
        (Evm.Endpoint.sending signed
          [Evm.Endpoint.publication Evm.Endpoint.openEndpoint.emitter 42])
        (.ok ⟨42, Evm.Endpoint.openEndpoint.emitter, "0x02"⟩) ∧
      (Evm.Endpoint.sentWith [Evm.Endpoint.publication Evm.Endpoint.openEndpoint.emitter 42]).Shows
        Evm.Endpoint.openEndpoint.core Evm.Endpoint.openEndpoint.emitter 42) ∧
    ∃ signed lines, (Svm.Endpoint.openEndpoint.send (.message [])).Runs
        (Svm.Endpoint.sending signed lines)
        (.ok ⟨42, Svm.Endpoint.openEndpoint.emitter, "5h6x"⟩) ∧
      Svm.LogShows lines Svm.Endpoint.openEndpoint.core.program
        Svm.Endpoint.openEndpoint.emitter 42 := by
  constructor
  · have hfirst := Evm.Endpoint.first_publication Evm.Endpoint.openEndpoint.emitter 42 []
    have hnumber :
        (Evm.Endpoint.publication Evm.Endpoint.openEndpoint.emitter 42).number = .ok 42 := by
      decide +kernel
    obtain ⟨signed, hruns⟩ := Evm.Endpoint.exists_runs_send
      (Evm.Receipt.sequence_eq_ok_iff.mpr ⟨_, hfirst, hnumber⟩)
    obtain ⟨-, _, tx, record, log, -, hrecord, -, -, hlog, -, hshows⟩ :=
      (send_reads_first _ Svm.Endpoint.openEndpoint _ _ [] _).1 hruns
    obtain rfl := Evm.Endpoint.eq_sentWith_of_mem hrecord
    obtain rfl := hlog.unique hfirst
    exact ⟨signed, hruns, hshows (Evm.Endpoint.names_publication_iff.mpr (beq_self_eq_true _))⟩
  · have htold : Svm.sequenceOf? Svm.Endpoint.ownCalled = some 42 ∧
        ∀ line ∈ Svm.Endpoint.ownCalled, Svm.lineSequence? line = some 42 →
          Svm.Attributed Svm.Endpoint.ownCalled Svm.Endpoint.openEndpoint.core.program
            Svm.Endpoint.openEndpoint.emitter line := by
      decide +kernel
    obtain ⟨signed, hruns⟩ := Svm.Endpoint.exists_runs_send htold.1
    obtain ⟨-, _, _, line, -, hlog, hfirst, hshows⟩ :=
      (send_reads_first Evm.Endpoint.openEndpoint _ _ [] _ _).2 hruns
    obtain rfl := Svm.Endpoint.eq_of_mem_sending hlog
    exact ⟨signed, _, hruns, hshows (htold.2 line hfirst.mem hfirst.tells)⟩

/-- **The number may be another message's.** Another sender publishes in the same transaction, and
the receipt names it; or another program writes a number, or the core bridge publishes for another
emitter, and the log says so. The message is then said to have the number of the other one, although
the chain shows its own. -/
theorem send_reads_others :
    (∃ signed, (Evm.Endpoint.openEndpoint.send (.message [])).Runs
        (Evm.Endpoint.sending signed Evm.Endpoint.crowded)
        (.ok ⟨7, Evm.Endpoint.openEndpoint.emitter, "0x02"⟩) ∧
      ∀ tx record, ⟨.node (.receipt tx), .ok (some record)⟩ ∈
          Evm.Endpoint.sending signed Evm.Endpoint.crowded →
        ¬ record.Shows Evm.Endpoint.openEndpoint.core Evm.Endpoint.openEndpoint.emitter 7 ∧
        record.Shows Evm.Endpoint.openEndpoint.core Evm.Endpoint.openEndpoint.emitter 42) ∧
    ∀ lines ∈ [Svm.Endpoint.strangerCalled, Svm.Endpoint.strangerServed],
      ∃ signed, (Svm.Endpoint.openEndpoint.send (.message [])).Runs
          (Svm.Endpoint.sending signed lines)
          (.ok ⟨7, Svm.Endpoint.openEndpoint.emitter, "5h6x"⟩) ∧
        ¬ Svm.LogShows lines Svm.Endpoint.openEndpoint.core.program
          Svm.Endpoint.openEndpoint.emitter 7 ∧
        Svm.LogShows lines Svm.Endpoint.openEndpoint.core.program
          Svm.Endpoint.openEndpoint.emitter 42 := by
  constructor
  · obtain ⟨signed, hruns⟩ := Evm.Endpoint.exists_runs_send Evm.Endpoint.sequence_crowded
    refine ⟨signed, hruns, fun tx record hrecord => ?_⟩
    obtain rfl := Evm.Endpoint.eq_sentWith_of_mem hrecord
    exact ⟨Evm.Endpoint.not_shows_crowded, Evm.Endpoint.shows_crowded⟩
  · intro lines hlines
    obtain ⟨hsequence, hnot, hshows⟩ := Svm.Endpoint.sequenceOf?_stranger lines hlines
    obtain ⟨signed, hruns⟩ := Svm.Endpoint.exists_runs_send hsequence
    exact ⟨signed, hruns, hnot, hshows⟩

end GuardianRelay
