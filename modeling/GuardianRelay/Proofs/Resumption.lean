import GuardianRelay.Proofs.Evm.Publication
import GuardianRelay.Proofs.Poller
import GuardianRelay.Proofs.Relay
import GuardianRelay.Proofs.Svm.Publication

/-!
# Relays That Go On

What a relay does once it knows its message depends on the message alone: not on the states that
the relay was in before, not on who sent the message, and not on how long the wait was. So it is
said here without the relay (`Relay.Concludes`): which states follow the wait, and with what the
relay ends, for what the wait found and what the destination answers. A relay that ran into a
timeout has lost nothing. Its message is known by the sequence and by the emitter of the source,
and a relay that is made anew and goes on with the sequence comes to the end that the first one
would have come to.

The one thing that is read in two ways is the emitter. A relay that sends has it from the receipt,
and a relay that goes on has it from the endpoint. They are the same for the endpoints of both
families of chains, whatever their programs are for (`Relay.Origin.emitter_of_sends`).

## Main results

* `Relay.runs_complete_append_iff`: what follows the wait does not depend on the relay.
* `Relay.resume_ends_as_run`: a relay that goes on looks up what the relay before it looked up, and
  ends as that one would have ended.
-/

namespace GuardianRelay

namespace Poller

/-! ### What a wait asks -/

/-- A question of a wait is not about another message. -/
def Request.About (key : MessageKey) : Request → Prop
  | .lookup key' _ => key' = key
  | .now | .sleep _ => True

/-- A wait asks about its message only. -/
theorem asks_poll (poller : Poller) (key : MessageKey) (start lookups : ℕ) :
    Program.Asks (Request.About key) (poller.poll key start lookups) := by
  induction lookups with
  | zero => exact .fail _
  | succ lookups ih =>
      rw [poll_succ]
      refine .request trivial fun before => ?_
      refine .request rfl fun reply => ?_
      simp only [Program.bind]
      rcases foundBytes? reply with _ | b
      · refine .request trivial fun after => ?_
        change Program.Asks _ (if _ then _ else _)
        split
        next => exact .fail _
        next => exact .request trivial fun _ => ih
      · exact .ofOutcome _

/-- A wait asks about its message only. -/
theorem asks_await (poller : Poller) (key : MessageKey) :
    Program.Asks (Request.About key) (poller.await key) :=
  .request trivial fun start => asks_poll poller key start _

/-- A wait makes a lookup, whatever it is answered. -/
theorem exists_lookup_mem {poller : Poller} {key : MessageKey}
    {polls : List (Exchange surroundings)} {found : Outcome Attestation}
    (h : (poller.await key).Runs polls found) :
    ∃ budget reply, ⟨.lookup key budget, reply⟩ ∈ polls := by
  obtain ⟨limit, hlimit⟩ : ∃ limit,
      pollLimit poller.intervalMillis poller.deadlineMillis = limit + 1 := by
    unfold pollLimit
    split
    next => exact ⟨UInt64.size - 1, rfl⟩
    next => exact ⟨_, rfl⟩
  obtain ⟨start, _, rfl, hpoll⟩ := Program.runs_request_bind_iff.mp h
  rw [hlimit, poll_succ] at hpoll
  obtain ⟨before, _, rfl, hlookup⟩ := Program.runs_request_bind_iff.mp hpoll
  obtain ⟨reply, later, rfl, -⟩ := Program.runs_request_bind_iff.mp hlookup
  exact ⟨_, reply, by simp⟩

end Poller

/-- Whether a state says that the source took the message. -/
def RelayState.isSent : RelayState → Bool
  | sent .. => true
  | _ => false

namespace Relay

/-! ### What a relay looks up -/

/-- The messages that were looked up, in order. -/
def lookups (exchanges : List (Exchange surroundings)) : List MessageKey :=
  exchanges.filterMap fun x =>
    match x.request with
    | .poll (.lookup key _) => some key
    | _ => none

@[simp] theorem lookups_append (first second : List (Exchange surroundings)) :
    lookups (first ++ second) = lookups first ++ lookups second := List.filterMap_append

/-- There were lookups, and all of them were of one message. -/
structure LooksUp (key : MessageKey) (exchanges : List (Exchange surroundings)) : Prop where
  ne_nil : lookups exchanges ≠ []
  eq_key : ∀ key' ∈ lookups exchanges, key' = key

/-- A wait looks up its message. -/
theorem looksUp_map_polled {poller : Poller} {key : MessageKey}
    {polls : List (Exchange Poller.surroundings)} {found : Outcome Attestation}
    (h : (poller.await key).Runs polls found) : LooksUp key (polls.map polled) where
  ne_nil := by
    obtain ⟨budget, reply, hmem⟩ := Poller.exists_lookup_mem h
    have hlookup : key ∈ lookups (polls.map polled) :=
      List.mem_filterMap.mpr ⟨polled ⟨.lookup key budget, reply⟩, List.mem_map_of_mem hmem, rfl⟩
    exact List.ne_nil_of_mem hlookup
  eq_key := by
    intro key' hkey'
    obtain ⟨_, hx, hrequest⟩ := List.mem_filterMap.mp hkey'
    obtain ⟨⟨request, reply⟩, hpoll, rfl⟩ := List.mem_map.mp hx
    have habout := (Poller.asks_await poller key).of_runs h _ hpoll
    cases request with
    | lookup key'' budget =>
        obtain rfl := Option.some.inj hrequest
        exact habout
    | now | sleep millis => contradiction

/-- What is asked of others does not count. -/
theorem LooksUp.append {key : MessageKey} {polls later : List (Exchange surroundings)}
    (h : LooksUp key polls) (hlater : lookups later = []) : LooksUp key (polls ++ later) := by
  have heq : lookups (polls ++ later) = lookups polls := by
    rw [lookups_append, hlater, List.append_nil]
  exact ⟨heq ▸ h.ne_nil, heq ▸ h.eq_key⟩

/-! ### The way to the end, without the relay -/

/-- The relay in the last of some states that follow each other. -/
def enterAll (relay : Relay) (states : List RelayState) : Relay := states.foldl enter relay

@[simp] theorem history_enterAll (relay : Relay) (states : List RelayState) :
    (relay.enterAll states).history = relay.history ++ states := by
  induction states generalizing relay with
  | nil => exact (List.append_nil _).symm
  | cons state states ih =>
      change ((relay.enter state).enterAll states).history = _
      rw [ih, enter, List.append_assoc]
      rfl

/-- The state is the last one that was entered. -/
theorem state_enterAll (relay : Relay) (states : List RelayState) :
    (relay.enterAll states).state = states.getLast?.getD relay.state := by
  induction states generalizing relay with
  | nil => rfl
  | cons state states ih =>
      change ((relay.enter state).enterAll states).state = _
      rw [ih, List.getLast?_cons]
      rfl

/-- The receipt for a message that was redeemed. -/
def receiptOf (key : MessageKey) (sourceTx : Option TxId) (redeemed : Attestation × Option TxId) :
    RelayReceipt where
  sequence := key.sequence
  emitter := key.emitter
  sourceTx
  redeemTx := redeemed.2
  attestation := redeemed.1

/-- What follows a wait for a message that ended like this: what is asked, the states that are
entered, and with what it ends, which is an error or the attestation with the transaction that
redeemed it. -/
inductive Concludes (key : MessageKey) : Outcome Attestation → List (Exchange surroundings) →
    List RelayState → Outcome (Attestation × Option TxId) → Prop
  /-- No attestation was to be had. -/
  | unattested (error : RelayError) :
      Concludes key (.error error) [] [.failed error] (.error error)
  /-- The attestation was another message's. -/
  | mismatched {a : Attestation} {mismatch : Mismatch} :
      checkAttestation a key = .error mismatch →
      Concludes key (.ok a) [] [.failed (.attestationMismatch mismatch)]
        (.error (.attestationMismatch mismatch))
  /-- The destination did not redeem the attestation. -/
  | unredeemed {a : Attestation} {error : RelayError} :
      checkAttestation a key = .ok () →
      error ≠ .alreadyRedeemed →
      Concludes key (.ok a) [⟨.redeem a, .error error⟩] [.attested a, .failed error]
        (.error error)
  /-- The attestation is redeemed. -/
  | redeemed {a : Attestation} {answer : Outcome TxId} {redeemTx : Option TxId} :
      checkAttestation a key = .ok () →
      Redeems answer redeemTx →
      Concludes key (.ok a) [⟨.redeem a, answer⟩]
        [.attested a, .redeemed key.sequence redeemTx] (.ok (a, redeemTx))

/-- The ways of a relay to its end are the ways on from its wait, with the relay put in. -/
theorem completes_iff {route : Route} {relay : Relay} {key : MessageKey}
    {sourceTx : Option TxId} {exchanges : List (Exchange surroundings)}
    {result : Relay × Outcome RelayReceipt} :
    Completes route relay key sourceTx exchanges result ↔
      ∃ found polls later states ended, (route.poller.await key).Runs polls found ∧
        Concludes key found later states ended ∧ exchanges = polls.map polled ++ later ∧
        result = (relay.enterAll (.awaitingAttestation key.sequence :: states),
          ended.map (receiptOf key sourceTx)) := by
  constructor
  · intro h
    cases h with
    | @unattested polls error hpolls =>
        exact ⟨_, polls, [], _, _, hpolls, .unattested error, (List.append_nil _).symm, rfl⟩
    | @mismatched polls a mismatch hpolls hcheck =>
        exact ⟨_, polls, [], _, _, hpolls, .mismatched hcheck, (List.append_nil _).symm, rfl⟩
    | unredeemed hpolls hcheck herror =>
        exact ⟨_, _, _, _, _, hpolls, .unredeemed hcheck herror, rfl, rfl⟩
    | redeemed hpolls hcheck hanswer =>
        exact ⟨_, _, _, _, _, hpolls, .redeemed hcheck hanswer, rfl, rfl⟩
  · rintro ⟨found, polls, later, states, ended, hpolls, hconcludes, rfl, rfl⟩
    cases hconcludes with
    | unattested error =>
        rw [List.append_nil]
        exact .unattested hpolls
    | mismatched hcheck =>
        rw [List.append_nil]
        exact .mismatched hpolls hcheck
    | unredeemed hcheck herror => exact .unredeemed hpolls hcheck herror
    | redeemed hcheck hanswer => exact .redeemed hpolls hcheck hanswer

/-- A wait by itself, as a part of a relay. -/
theorem runs_awaitAttestation_iff {poller : Poller} {key : MessageKey}
    {exchanges : List (Exchange surroundings)} {outcome : Outcome (Outcome Attestation)} :
    (awaitAttestation poller key).Runs exchanges outcome ↔
      ∃ found polls, (poller.await key).Runs polls found ∧ exchanges = polls.map polled ∧
        outcome = .ok found := by
  rw [awaitAttestation, Program.runs_attempt_iff]
  simp only [runs_via_poll_iff]
  constructor
  · rintro ⟨found, ⟨polls, hpolls, rfl⟩, rfl⟩
    exact ⟨found, polls, hpolls, rfl, rfl⟩
  · rintro ⟨found, polls, hpolls, rfl, rfl⟩
    exact ⟨found, ⟨polls, hpolls, rfl⟩, rfl⟩

/-- **What follows the wait does not depend on the relay**: a relay whose wait has ended goes one
of the ways on from there. -/
theorem runs_complete_append_iff {route : Route} {relay : Relay} {emitter : Address}
    {sequence : UInt64} {sourceTx : Option TxId} {polls : List (Exchange Poller.surroundings)}
    {found : Outcome Attestation} {later : List (Exchange surroundings)}
    {outcome : Outcome (Relay × Outcome RelayReceipt)}
    (hpolls : (route.poller.await ⟨route.chain, emitter, sequence⟩).Runs polls found) :
    (complete route relay emitter sequence sourceTx).Runs (polls.map polled ++ later) outcome ↔
      ∃ states ended, Concludes ⟨route.chain, emitter, sequence⟩ found later states ended ∧
        outcome = .ok (relay.enterAll (.awaitingAttestation sequence :: states),
          ended.map (receiptOf ⟨route.chain, emitter, sequence⟩ sourceTx)) := by
  simp only [runs_complete_iff, completes_iff]
  constructor
  · rintro ⟨_, rfl, found', polls', later', states, ended, hpolls', hconcludes, heq, rfl⟩
    -- the same answers end the wait at the same place
    have hwait := runs_awaitAttestation_iff.mpr ⟨found, polls, hpolls, rfl, rfl⟩
    have hwait' := runs_awaitAttestation_iff.mpr ⟨found', polls', hpolls', rfl, rfl⟩
    obtain ⟨-, rfl, hfound⟩ := hwait.append_unique hwait' heq
    obtain rfl := Except.ok.inj hfound
    exact ⟨states, ended, hconcludes, rfl⟩
  · rintro ⟨states, ended, hconcludes, rfl⟩
    exact ⟨_, rfl, found, polls, later, states, ended, hpolls, hconcludes, rfl, rfl⟩

section Concludes

variable {key : MessageKey} {found : Outcome Attestation}
  {exchanges : List (Exchange surroundings)} {states : List RelayState}
  {ended : Outcome (Attestation × Option TxId)}

/-- After the wait nothing is looked up. -/
theorem Concludes.lookups_eq_nil (h : Concludes key found exchanges states ended) :
    lookups exchanges = [] := by
  cases h with
  | unattested | mismatched | unredeemed | redeemed => rfl

/-- Nothing is sent after the wait, so no state says that something was. -/
theorem Concludes.isSent_eq_false (h : Concludes key found exchanges states ended) :
    ∀ state ∈ states, state.isSent = false := by
  cases h with
  | unattested | mismatched | unredeemed | redeemed => simp [RelayState.isSent]

/-- A run that goes on from its wait makes the same lookups as the wait. -/
theorem Concludes.looksUp {poller : Poller} {polls : List (Exchange Poller.surroundings)}
    (h : Concludes key found exchanges states ended)
    (hpolls : (poller.await key).Runs polls found) :
    LooksUp key (polls.map polled ++ exchanges) :=
  (looksUp_map_polled hpolls).append h.lookups_eq_nil

end Concludes

/-! ### Where messages come from -/

/-- The endpoint that a relay sends from. -/
inductive Origin where
  | evm (endpoint : Evm.Endpoint)
  | svm (endpoint : Svm.Endpoint)

namespace Origin

/-- The chain of the endpoint. -/
def chain : Origin → ChainId
  | evm endpoint => endpoint.chain
  | svm endpoint => endpoint.chain

/-- Who publishes the endpoint's messages. -/
def emitter : Origin → Address
  | evm endpoint => endpoint.emitter
  | svm endpoint => endpoint.emitter

/-- What a relay from the endpoint knows that waits with a poller. -/
def route (origin : Origin) (poller : Poller) : Route :=
  ⟨origin.chain, .ok origin.emitter, poller⟩

/-- The endpoint may answer so, if it is to send. -/
def Sends (intent : Intent) (answer : Outcome SendReceipt) : Origin → Prop
  | evm endpoint => ∃ exchanges, (endpoint.send intent).Runs exchanges answer
  | svm endpoint => ∃ exchanges, (endpoint.send intent).Runs exchanges answer

/-- A receipt names the emitter that the endpoint says it has, whatever its program is for. -/
theorem emitter_of_sends {origin : Origin} {intent : Intent} {receipt : SendReceipt}
    (h : origin.Sends intent (.ok receipt)) : receipt.emitter = origin.emitter := by
  cases origin with
  | evm endpoint =>
      obtain ⟨exchanges, hruns⟩ := h
      obtain ⟨_, _, ⟨call, rfl⟩, -, hpublish⟩ := Evm.Endpoint.send_endsIn _ _ hruns
      exact (Evm.Endpoint.of_runs_publish hpublish).1
  | svm endpoint =>
      obtain ⟨exchanges, hruns⟩ := h
      obtain ⟨_, _, ⟨tracker, build, rfl⟩, -, hpublish⟩ := Svm.Endpoint.send_endsIn _ _ hruns
      exact (Svm.Endpoint.of_runs_publish hpublish).1

end Origin

/-! ### Going on -/

/-- What a relay has become, if it did not send the message itself. -/
def unsent (result : Relay × Outcome RelayReceipt) : Relay × Outcome RelayReceipt :=
  ({ result.1 with history := result.1.history.filter fun state => !state.isSent },
    result.2.map fun receipt => { receipt with sourceTx := none })

/-- Without the sending, a relay that sent is the relay that went on. -/
theorem unsent_enterAll {key : MessageKey} {found : Outcome Attestation}
    {exchanges : List (Exchange surroundings)} {states : List RelayState}
    {ended : Outcome (Attestation × Option TxId)} (sequence : UInt64) (tx : TxId)
    (h : Concludes key found exchanges states ended) :
    unsent ((start.enter (.sent sequence tx)).enterAll (.awaitingAttestation sequence :: states),
        ended.map (receiptOf key (some tx))) =
      (start.enterAll (.awaitingAttestation sequence :: states),
        ended.map (receiptOf key none)) := by
  have hkept : states.filter (fun state => !state.isSent) = states :=
    List.filter_eq_self.mpr fun state hstate => by rw [h.isSent_eq_false state hstate]; rfl
  have hhistory : ((start.enter (.sent sequence tx)).enterAll
        (.awaitingAttestation sequence :: states)).history.filter (fun state => !state.isSent) =
      (start.enterAll (.awaitingAttestation sequence :: states)).history := by
    rw [history_enterAll, history_enterAll, List.filter_append]
    exact congrArg ([.initiated, .awaitingAttestation sequence] ++ ·) hkept
  have hstate : ((start.enter (.sent sequence tx)).enterAll
        (.awaitingAttestation sequence :: states)).state =
      (start.enterAll (.awaitingAttestation sequence :: states)).state := by
    rw [state_enterAll, state_enterAll, List.getLast?_cons]
    rfl
  have hreceipt : (ended.map (receiptOf key (some tx))).map
        (fun receipt => { receipt with sourceTx := none }) = ended.map (receiptOf key none) := by
    cases ended <;> rfl
  refine Prod.ext ?_ hreceipt
  exact congrArg₂ Relay.mk hstate hhistory

/-- A relay that has sent goes on with its message. -/
theorem runs_run_cons_iff {route : Route} {relay : Relay} {intent : Intent}
    {receipt : SendReceipt} {later : List (Exchange surroundings)}
    {outcome : Outcome (Relay × Outcome RelayReceipt)} :
    (run route relay intent).Runs (⟨.send intent, .ok receipt⟩ :: later) outcome ↔
      (complete route (relay.enter (.sent receipt.sequence receipt.tx)) receipt.emitter
        receipt.sequence (some receipt.tx)).Runs later outcome := by
  rw [run, send, Program.runs_request_bind_iff]
  constructor
  · rintro ⟨reply, rest, heq, hrest⟩
    obtain ⟨hhead, rfl⟩ := List.cons.inj heq
    obtain rfl := eq_of_heq (Exchange.mk.inj hhead).2
    exact hrest
  · intro hcomplete
    exact ⟨.ok receipt, later, rfl, hcomplete⟩

/-- What a run of a fresh relay has done that has sent: the source took the message, and the relay
goes on from there. -/
theorem of_runs_run_of_mem {route : Route} {intent : Intent}
    {exchanges : List (Exchange surroundings)} {relay : Relay} {returned : Outcome RelayReceipt}
    {sequence : UInt64} {tx : TxId}
    (h : (run route start intent).Runs exchanges (.ok (relay, returned)))
    (hsent : .sent sequence tx ∈ relay.history) :
    ∃ emitter later, exchanges = ⟨.send intent, .ok ⟨sequence, emitter, tx⟩⟩ :: later ∧
      Completes route (start.enter (.sent sequence tx)) ⟨route.chain, emitter, sequence⟩ (some tx)
        later (relay, returned) := by
  obtain ⟨error, -, houtcome⟩ | ⟨receipt, later, result, rfl, houtcome, hcompletes⟩ :=
    runs_run_iff.mp h
  · obtain ⟨rfl, rfl⟩ := Prod.mk.inj (Except.ok.inj houtcome)
    simp [enter, start] at hsent
  · obtain rfl := Except.ok.inj houtcome
    obtain ⟨_, _, _, states, _, -, hconcludes, -, hresult⟩ := completes_iff.mp hcompletes
    have hhistory : relay.history = [.initiated, .sent receipt.sequence receipt.tx,
        .awaitingAttestation receipt.sequence] ++ states := by
      rw [(Prod.mk.inj hresult).1, history_enterAll]
      rfl
    have hmem : .sent sequence tx = RelayState.sent receipt.sequence receipt.tx := by
      rw [hhistory, List.mem_append] at hsent
      rcases hsent with hbefore | hafter
      · simpa using hbefore
      · cases hconcludes.isSent_eq_false _ hafter
    obtain ⟨rfl, rfl⟩ := RelayState.sent.inj hmem
    exact ⟨receipt.emitter, later, rfl, hcompletes⟩

/-- If two waits find the same, a relay that goes on with a sequence ends as one that got the
sequence when it sent, but that it has not sent. -/
theorem runs_resume_append_iff {chain : ChainId} {emitter : Address} {poller poller' : Poller}
    {intent : Intent} {sequence : UInt64} {tx : TxId} {found : Outcome Attestation}
    {polls polls' : List (Exchange Poller.surroundings)} {later : List (Exchange surroundings)}
    {result' : Relay × Outcome RelayReceipt}
    (hpolls : (poller.await ⟨chain, emitter, sequence⟩).Runs polls found)
    (hpolls' : (poller'.await ⟨chain, emitter, sequence⟩).Runs polls' found) :
    (resume ⟨chain, .ok emitter, poller'⟩ start sequence).Runs (polls'.map polled ++ later)
        (.ok result') ↔
      ∃ result, (run ⟨chain, .ok emitter, poller⟩ start intent).Runs
          (⟨.send intent, .ok ⟨sequence, emitter, tx⟩⟩ :: (polls.map polled ++ later))
            (.ok result) ∧
        result' = unsent result := by
  have hresumes : (resume ⟨chain, .ok emitter, poller'⟩ start sequence).Runs
        (polls'.map polled ++ later) (.ok result') ↔ _ :=
    runs_complete_append_iff hpolls'
  have hsending (result : Relay × Outcome RelayReceipt) :
      (run ⟨chain, .ok emitter, poller⟩ start intent).Runs
          (⟨.send intent, .ok ⟨sequence, emitter, tx⟩⟩ :: (polls.map polled ++ later))
        (.ok result) ↔ _ :=
    runs_run_cons_iff.trans (runs_complete_append_iff hpolls)
  simp only [hresumes, hsending]
  constructor
  · rintro ⟨states, ended, hconcludes, hresult⟩
    refine ⟨_, ⟨states, ended, hconcludes, rfl⟩, ?_⟩
    rw [Except.ok.inj hresult]
    exact (unsent_enterAll sequence tx hconcludes).symm
  · rintro ⟨result, ⟨states, ended, hconcludes, hresult⟩, rfl⟩
    refine ⟨states, ended, hconcludes, congrArg Except.ok ?_⟩
    rw [Except.ok.inj hresult]
    exact unsent_enterAll sequence tx hconcludes

/-- **A relay that goes on ends as the one before it would have ended.** A fresh relay sent with one
of the endpoints and did not come to its end; it may have run into a timeout. It had from its
endpoint the sequence of the message. Another relay that is made anew with the same endpoint, and
waits however it may, goes on with the sequence. It looks up the message that the first one looked
up, and no other. Whatever the wait finds and the destination answers, it ends as the first relay
would have ended had its wait found the same: in the same state, and with the same result, but that
it has not sent. -/
theorem resume_ends_as_run (origin : Origin) (poller : Poller) (intent : Intent)
    {exchanges : List (Exchange surroundings)} {relay : Relay} {returned : Outcome RelayReceipt}
    {sequence : UInt64} {tx : TxId}
    (hruns : (run (origin.route poller) start intent).Runs exchanges (.ok (relay, returned)))
    (hsends : ∀ answer, ⟨.send intent, answer⟩ ∈ exchanges → origin.Sends intent answer)
    (hsent : .sent sequence tx ∈ relay.history) :
    let key : MessageKey := ⟨origin.chain, origin.emitter, sequence⟩
    let sending : Exchange surroundings := ⟨.send intent, .ok ⟨sequence, origin.emitter, tx⟩⟩
    (∃ later, exchanges = sending :: later ∧ LooksUp key later) ∧
    ∀ poller' : Poller,
      (∀ exchanges' outcome,
        (resume (origin.route poller') start sequence).Runs exchanges' outcome →
        LooksUp key exchanges' ∧
        ∃ found polls later, (poller'.await key).Runs polls found ∧
          exchanges' = polls.map polled ++ later) ∧
      ∀ found polls polls', (poller.await key).Runs polls found →
        (poller'.await key).Runs polls' found →
        ∀ later result',
          (resume (origin.route poller') start sequence).Runs (polls'.map polled ++ later)
              (.ok result') ↔
            ∃ result, (run (origin.route poller) start intent).Runs
                (sending :: (polls.map polled ++ later)) (.ok result) ∧
              result' = unsent result := by
  intro key sending
  obtain ⟨emitter, later, rfl, hcompletes⟩ := of_runs_run_of_mem hruns hsent
  obtain rfl : emitter = origin.emitter :=
    Origin.emitter_of_sends (hsends _ List.mem_cons_self)
  refine ⟨⟨later, rfl, ?_⟩, fun poller' => ⟨?_, ?_⟩⟩
  · obtain ⟨found, polls, _, _, _, hpolls, hconcludes, rfl, -⟩ := completes_iff.mp hcompletes
    exact hconcludes.looksUp hpolls
  · intro exchanges' outcome hresumes
    obtain ⟨_, herror, -⟩ | ⟨emitter, result, hemitter, -, hcompletes'⟩ :=
      runs_resume_iff.mp hresumes
    · exact absurd herror nofun
    · obtain rfl := Except.ok.inj hemitter
      obtain ⟨found, polls, later', _, _, hpolls, hconcludes, rfl, -⟩ :=
        completes_iff.mp hcompletes'
      exact ⟨hconcludes.looksUp hpolls, found, polls, later', hpolls, rfl⟩
  · intro found polls polls' hpolls hpolls' later' result'
    exact runs_resume_append_iff hpolls hpolls'

/-- The open account as a source. -/
def openOrigin : Origin := .evm Evm.Endpoint.openEndpoint

/-- A message of it. -/
def openKey : MessageKey := ⟨openOrigin.chain, openOrigin.emitter, 42⟩

/-- An attestation of the message. -/
def openAttestation : Attestation :=
  { (default : Attestation) with
    emitterChain := openKey.chain, emitter := openKey.emitter, sequence := openKey.sequence }

/-- The source took the message. -/
def openSending : Exchange surroundings :=
  ⟨.send (.message []), .ok (⟨42, openOrigin.emitter, "0x02"⟩ : SendReceipt)⟩

/-- The only lookup of a wait that has no time. -/
def lookedUp (reply : Option (Outcome LookupAnswer)) : List (Exchange Poller.surroundings) :=
  [⟨.now, (0 : ℕ)⟩, ⟨.now, (0 : ℕ)⟩, ⟨.lookup openKey 0, reply⟩]

/-- A wait that has no time and whose lookup is not answered. -/
def unanswered : List (Exchange Poller.surroundings) := lookedUp none ++ [⟨.now, (0 : ℕ)⟩]

/-- The source may take the message. -/
theorem openOrigin_sends :
    openOrigin.Sends (.message []) (.ok ⟨42, openOrigin.emitter, "0x02"⟩) := by
  have hsequence : (Evm.Endpoint.sentWith
        [Evm.Endpoint.publication Evm.Endpoint.openEndpoint.emitter 42]).sequence
      Evm.Endpoint.openEndpoint.core = .ok 42 :=
    Evm.Receipt.sequence_eq_ok_iff.mpr
      ⟨_, Evm.Endpoint.first_publication Evm.Endpoint.openEndpoint.emitter 42 [],
        by decide +kernel⟩
  obtain ⟨signed, hsend⟩ := Evm.Endpoint.exists_runs_send hsequence
  exact ⟨_, hsend⟩

/-- The wait that is not answered is over. -/
theorem runs_await_unanswered :
    (Poller.await ⟨1000, 0⟩ openKey).Runs unanswered
      (.error (.timeout openKey.chain openKey.emitter 42 0)) :=
  .ask (.ask (.ask (.ask (.fail _))))

/-- The wait that is answered has the attestation. -/
theorem runs_await_answered :
    (Poller.await ⟨1000, 0⟩ openKey).Runs
      (lookedUp (some (.ok (.found openAttestation.written)))) (.ok openAttestation) := by
  have hdecode : Attestation.decode openAttestation.written = .ok openAttestation :=
    Attestation.decode_eq_ok_iff_encode.mpr
      (Attestation.encode_eq_ok_iff.mpr ⟨by decide, rfl⟩)
  refine .ask (.ask (.ask ?_))
  exact Program.runs_ofOutcome_iff.mpr ⟨rfl, (congrArg Outcome.ofParsed hdecode).symm⟩

/-- A relay finds nothing, and one that goes on for it finds the attestation and redeems it. -/
theorem resume_ends_as_run_timedOut :
    ∃ relay,
      (run (openOrigin.route ⟨1000, 0⟩) start (.message [])).Runs
        (openSending :: unanswered.map polled)
        (.ok (relay, .error (.timeout openKey.chain openKey.emitter 42 0))) ∧
      (∀ answer, ⟨.send (.message []), answer⟩ ∈ openSending :: unanswered.map polled →
        openOrigin.Sends (.message []) answer) ∧
      .sent 42 "0x02" ∈ relay.history ∧
      ∃ resumed, (resume (openOrigin.route ⟨1000, 0⟩) start 42).Runs
          ((lookedUp (some (.ok (.found openAttestation.written)))).map polled ++
            [⟨.redeem openAttestation, .ok "0x03"⟩]) (.ok resumed) ∧
        resumed.1.state = .redeemed 42 (some "0x03") := by
  have hcheck : checkAttestation openAttestation openKey = .ok () :=
    checkAttestation_eq_ok_iff.mpr ⟨rfl, rfl, rfl⟩
  have htimedOut : (run (openOrigin.route ⟨1000, 0⟩) start (.message [])).Runs
      (openSending :: unanswered.map polled) _ :=
    runs_run_cons_iff.mpr (runs_complete_iff.mpr ⟨_, rfl, .unattested runs_await_unanswered⟩)
  have hinTime : (run (openOrigin.route ⟨1000, 0⟩) start (.message [])).Runs
      (openSending :: ((lookedUp (some (.ok (.found openAttestation.written)))).map polled ++
        [⟨.redeem openAttestation, .ok "0x03"⟩])) _ :=
    runs_run_cons_iff.mpr
      (runs_complete_iff.mpr ⟨_, rfl, .redeemed runs_await_answered hcheck (.here "0x03")⟩)
  have hsends : ∀ answer, ⟨.send (.message []), answer⟩ ∈ openSending :: unanswered.map polled →
      openOrigin.Sends (.message []) answer := by
    intro answer hmem
    rcases List.mem_cons.mp hmem with heq | hpolled
    · obtain rfl := eq_of_heq (Exchange.mk.inj heq).2
      exact openOrigin_sends
    · simp [unanswered, lookedUp, polled] at hpolled
  have hsent : .sent 42 "0x02" ∈ ((start.enter (.sent 42 "0x02")).enter (.awaitingAttestation 42)
      |>.stop (.timeout openKey.chain openKey.emitter 42 0)).1.history := by
    simp [start, enter, stop]
  obtain ⟨-, hends⟩ := resume_ends_as_run openOrigin ⟨1000, 0⟩ (.message []) htimedOut hsends hsent
  have hresumes := ((hends ⟨1000, 0⟩).2 _ _ _ runs_await_answered runs_await_answered _ _).mpr
    ⟨_, hinTime, rfl⟩
  exact ⟨_, htimedOut, hsends, hsent, _, hresumes, rfl⟩

end Relay

end GuardianRelay
