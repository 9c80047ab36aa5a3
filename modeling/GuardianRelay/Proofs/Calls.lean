import GuardianRelay.Proofs.Resumption
import GuardianRelay.Proofs.Steps

/-!
# Calls That Follow Each Other

A relay is there for one message, but nothing keeps its owner from calling it again. This module
says what a relay does then. A call does not look at the relay that it finds: it adds its states to
the history as it would add them to any other one (`Relay.Calling.Appends`), and where it has added
them the relay has come to an end. So the history of a relay is its beginning, and then what each of
the calls added, in their order.

An end is an end for the call only. A relay that is redeemed, or that failed for good, sends and
redeems once more if it is told to, and if it failed it goes on with any sequence. How often a relay
sends is therefore how often it was told to: to go on never sends.

## Main results

* `Relay.Calls.exists_appends`: what one call adds, whatever the relay.
* `Relay.calls_append`: the history of a relay after any calls, and what they sent and redeemed.
* `Relay.calls_after_end`: relays that are called after their end.
-/

namespace GuardianRelay.Relay

/-! ### One call -/

/-- A call of a relay: on which route it went, what was asked and answered, and what it returned. -/
structure Calling where
  call : Call
  route : Route
  exchanges : List (Exchange surroundings)
  returned : Outcome RelayReceipt

/-- The call is made of a relay, which becomes another. -/
def Calls (relay : Relay) (calling : Calling) (relay' : Relay) : Prop :=
  (calling.call.action calling.route relay).Runs calling.exchanges (.ok (relay', calling.returned))

/-- States that come to an end: the last of them is an end, and no other is. -/
def Closed (states : List RelayState) : Prop :=
  ∃ before last, states = before ++ [last] ∧ last.isTerminal = true ∧
    ∀ state ∈ before, state.isTerminal = false

/-- What a call adds to the history of a relay. -/
structure Calling.Appends (calling : Calling) (states : List RelayState) : Prop where
  /-- The call brings the relay to an end, and goes no further. -/
  closed : Closed states
  /-- It sends what it was told to send, once. -/
  sends_eq : sends calling.exchanges = calling.call.intents
  length_redeems_le : (redeems calling.exchanges).length ≤ 1
  /-- It does so whatever relay it finds. -/
  calls_iff : ∀ relay relay', Calls relay calling relay' ↔ relay' = relay.enterAll states

/-- A state comes to an end if it is one. -/
theorem closed_singleton {state : RelayState} (h : state.isTerminal = true) : Closed [state] :=
  ⟨[], state, rfl, h, nofun⟩

/-- On the way to an end. -/
theorem Closed.cons {state : RelayState} {states : List RelayState} (h : Closed states)
    (hstate : state.isTerminal = false) : Closed (state :: states) := by
  obtain ⟨before, last, rfl, hlast, hbefore⟩ := h
  exact ⟨state :: before, last, rfl, hlast, List.forall_mem_cons.mpr ⟨hstate, hbefore⟩⟩

/-- A relay that comes to an end is there. -/
theorem Closed.isTerminal_state {states : List RelayState} (h : Closed states) (relay : Relay) :
    (relay.enterAll states).state.isTerminal = true := by
  obtain ⟨before, last, rfl, hlast, -⟩ := h
  rw [state_enterAll, List.getLast?_concat]
  exact hlast

/-- After its wait a relay comes to an end. -/
theorem Concludes.closed {key : MessageKey} {found : Outcome Attestation}
    {exchanges : List (Exchange surroundings)} {states : List RelayState}
    {ended : Outcome (Attestation × Option TxId)}
    (h : Concludes key found exchanges states ended) : Closed states := by
  cases h with
  | unattested | mismatched => exact closed_singleton rfl
  | unredeemed | redeemed => exact (closed_singleton rfl).cons rfl

/-- If a call adds some states to any relay, it is all that it does: the answers determine it. -/
theorem Calling.appends_of {calling : Calling} {states : List RelayState} (hclosed : Closed states)
    (hsends : sends calling.exchanges = calling.call.intents)
    (hredeems : (redeems calling.exchanges).length ≤ 1)
    (hcalls : ∀ relay : Relay, Calls relay calling (relay.enterAll states)) :
    calling.Appends states where
  closed := hclosed
  sends_eq := hsends
  length_redeems_le := hredeems
  calls_iff := by
    intro relay relay'
    constructor
    · intro h
      have hresult := Except.ok.inj (h.outcome_unique (hcalls relay))
      exact (Prod.mk.inj hresult).1
    · rintro rfl
      exact hcalls relay

/-- A call with an intent adds that sending failed, or that the message was sent and what follows
its wait. -/
theorem exists_appends_of_run {route : Route} {relay relay' : Relay} {intent : Intent}
    {exchanges : List (Exchange surroundings)} {returned : Outcome RelayReceipt}
    (h : (run route relay intent).Runs exchanges (.ok (relay', returned))) :
    ∃ states, Calling.Appends ⟨.run intent, route, exchanges, returned⟩ states := by
  obtain ⟨error, rfl, houtcome⟩ | ⟨receipt, later, result, rfl, houtcome, hcompletes⟩ :=
    runs_run_iff.mp h
  · obtain ⟨-, rfl⟩ := Prod.mk.inj (Except.ok.inj houtcome)
    refine ⟨[.failed error],
      Calling.appends_of (closed_singleton rfl) rfl (Nat.zero_le 1) fun relay => ?_⟩
    exact runs_run_iff.mpr (.inl ⟨error, rfl, rfl⟩)
  · have hsends : sends later = [] := hcompletes.sends_eq_nil
    have hredeems : (redeems later).length ≤ 1 := hcompletes.length_redeems_le
    obtain ⟨found, polls, rest, states, ended, hpolls, hconcludes, rfl, rfl⟩ :=
      completes_iff.mp hcompletes
    obtain ⟨-, rfl⟩ := Prod.mk.inj (Except.ok.inj houtcome)
    have hclosed : Closed (.sent receipt.sequence receipt.tx ::
        .awaitingAttestation receipt.sequence :: states) :=
      (hconcludes.closed.cons rfl).cons rfl
    refine ⟨_, Calling.appends_of hclosed (congrArg (intent :: ·) hsends) hredeems fun relay => ?_⟩
    exact runs_run_cons_iff.mpr
      ((runs_complete_append_iff hpolls).mpr ⟨states, ended, hconcludes, rfl⟩)

/-- A call with a sequence adds that there is no emitter, or what follows its wait. -/
theorem exists_appends_of_resume {route : Route} {relay relay' : Relay} {sequence : UInt64}
    {exchanges : List (Exchange surroundings)} {returned : Outcome RelayReceipt}
    (h : (resume route relay sequence).Runs exchanges (.ok (relay', returned))) :
    ∃ states, Calling.Appends ⟨.resume sequence, route, exchanges, returned⟩ states := by
  obtain ⟨error, hemitter, rfl, houtcome⟩ | ⟨emitter, result, hemitter, houtcome, hcompletes⟩ :=
    runs_resume_iff.mp h
  · obtain ⟨-, rfl⟩ := Prod.mk.inj (Except.ok.inj houtcome)
    refine ⟨[.failed error],
      Calling.appends_of (closed_singleton rfl) rfl (Nat.zero_le 1) fun relay => ?_⟩
    exact runs_resume_iff.mpr (.inl ⟨error, hemitter, rfl, rfl⟩)
  · have hsends : sends exchanges = [] := hcompletes.sends_eq_nil
    have hredeems : (redeems exchanges).length ≤ 1 := hcompletes.length_redeems_le
    obtain ⟨found, polls, rest, states, ended, hpolls, hconcludes, rfl, rfl⟩ :=
      completes_iff.mp hcompletes
    obtain ⟨-, rfl⟩ := Prod.mk.inj (Except.ok.inj houtcome)
    refine ⟨.awaitingAttestation sequence :: states,
      Calling.appends_of (hconcludes.closed.cons rfl) hsends hredeems fun relay => ?_⟩
    exact runs_resume_iff.mpr (.inr ⟨emitter, _, hemitter, rfl,
      completes_iff.mpr ⟨found, polls, rest, states, ended, hpolls, hconcludes, rfl, rfl⟩⟩)

/-- **What one call adds**: the same states to any relay. -/
theorem Calls.exists_appends {relay relay' : Relay} {calling : Calling}
    (h : Calls relay calling relay') :
    ∃ states, calling.Appends states ∧ relay' = relay.enterAll states := by
  have happends : ∃ states, calling.Appends states := by
    obtain ⟨call, route, exchanges, returned⟩ := calling
    cases call with
    | run intent => exact exists_appends_of_run h
    | resume sequence => exact exists_appends_of_resume h
  obtain ⟨states, happends⟩ := happends
  exact ⟨states, happends, (happends.calls_iff relay relay').mp h⟩

/-! ### All calls -/

/-- Calls that follow each other add what each of them adds. -/
theorem exists_appends_of_steps {relay relay' : Relay} {callings : List Calling}
    (h : Steps Calls relay callings relay') :
    ∃ segments, List.Forall₂ Calling.Appends callings segments ∧
      relay' = relay.enterAll segments.flatten := by
  induction h with
  | nil relay => exact ⟨[], .nil, rfl⟩
  | cons hfirst _ ih =>
      obtain ⟨states, happends, rfl⟩ := hfirst.exists_appends
      obtain ⟨segments, hsegments, rfl⟩ := ih
      refine ⟨states :: segments, .cons happends hsegments, ?_⟩
      rw [List.flatten_cons, enterAll, enterAll, enterAll, List.foldl_append]

/-- What was sent is what the calls were to send. -/
theorem flatMap_sends_eq {callings : List Calling} {segments : List (List RelayState)}
    (h : List.Forall₂ Calling.Appends callings segments) :
    callings.flatMap (fun calling => sends calling.exchanges) =
      callings.flatMap fun calling => calling.call.intents := by
  induction h with
  | nil => rfl
  | cons happends _ ih => rw [List.flatMap_cons, List.flatMap_cons, happends.sends_eq, ih]

/-- After calls a relay is at an end. -/
theorem isTerminal_of_appends {callings : List Calling} {segments : List (List RelayState)}
    (h : List.Forall₂ Calling.Appends callings segments) (hcalled : callings ≠ []) (relay : Relay) :
    (relay.enterAll segments.flatten).state.isTerminal = true := by
  induction h generalizing relay with
  | nil => contradiction
  | @cons calling states callings segments happends hrest ih =>
      rw [List.flatten_cons, enterAll, List.foldl_append]
      cases hrest with
      | nil => exact happends.closed.isTerminal_state relay
      | cons => exact ih (List.cons_ne_nil _ _) (relay.enterAll states)

/-- **The history of a relay after any calls**, whatever they are answered. It is the beginning and
then what each call added, which comes to an end there and not before. What a call adds, it adds to
any relay. After the first call the relay is at an end, and the state is the last of the history.
Each call redeems once at most. What was sent is what the calls were told to send, so a relay that
is told so once, and then only goes on, sends once. -/
theorem calls_append {callings : List Calling} {relay : Relay}
    (h : Steps Calls start callings relay) :
    (∃ segments, List.Forall₂ Calling.Appends callings segments ∧
      relay.history = .initiated :: segments.flatten) ∧
    relay.history.getLast? = some relay.state ∧
    (callings ≠ [] → relay.state.isTerminal = true) ∧
    callings.flatMap (fun calling => sends calling.exchanges) =
      callings.flatMap (fun calling => calling.call.intents) := by
  obtain ⟨segments, hsegments, rfl⟩ := exists_appends_of_steps h
  refine ⟨⟨segments, hsegments, history_enterAll start _⟩, ?_, ?_, flatMap_sends_eq hsegments⟩
  · rw [history_enterAll, state_enterAll, List.getLast?_append]
    cases segments.flatten.getLast? <;> rfl
  · intro hcalled
    exact isTerminal_of_appends hsegments hcalled start

/-! ### Calls after an end -/

/-- The message of the open account is sent, attested at once, and redeemed. -/
def delivering : Calling where
  call := .run (.message [])
  route := openOrigin.route ⟨1000, 0⟩
  exchanges := openSending ::
    ((lookedUp (some (.ok (.found openAttestation.written)))).map polled ++
      [⟨.redeem openAttestation, .ok "0x03"⟩])
  returned := .ok (receiptOf openKey (some "0x02") (openAttestation, some "0x03"))

/-- The states that this adds. -/
def delivery : List RelayState :=
  [.sent 42 "0x02", .awaitingAttestation 42, .attested openAttestation, .redeemed 42 (some "0x03")]

/-- The message is sent before: a relay goes on with its sequence. -/
def continuing : Calling where
  call := .resume 42
  route := openOrigin.route ⟨1000, 0⟩
  exchanges := (lookedUp (some (.ok (.found openAttestation.written)))).map polled ++
      [⟨.redeem openAttestation, .ok "0x03"⟩]
  returned := .ok (receiptOf openKey none (openAttestation, some "0x03"))

/-- The source refuses what it is to send. -/
def refused : Calling where
  call := .run (.message [])
  route := openOrigin.route ⟨1000, 0⟩
  exchanges := [⟨.send (.message []), .error .zeroAmount⟩]
  returned := .error .zeroAmount

/-- After the wait the attestation is redeemed. -/
theorem concludes_open : Concludes openKey (.ok openAttestation)
    [⟨.redeem openAttestation, .ok "0x03"⟩]
    [.attested openAttestation, .redeemed 42 (some "0x03")] (.ok (openAttestation, some "0x03")) :=
  .redeemed (checkAttestation_eq_ok_iff.mpr ⟨rfl, rfl, rfl⟩) (.here "0x03")

/-- Any relay may deliver the message. -/
theorem calls_delivering (relay : Relay) : Calls relay delivering (relay.enterAll delivery) :=
  runs_run_cons_iff.mpr
    ((runs_complete_append_iff runs_await_answered).mpr ⟨_, _, concludes_open, rfl⟩)

/-- Any relay may go on with it. -/
theorem calls_continuing (relay : Relay) :
    Calls relay continuing (relay.enterAll delivery.tail) :=
  (runs_complete_append_iff runs_await_answered).mpr ⟨_, _, concludes_open, rfl⟩

/-- Any relay may fail for good. -/
theorem calls_refused (relay : Relay) :
    Calls relay refused (relay.enterAll [.failed .zeroAmount]) :=
  runs_run_iff.mpr (.inl ⟨.zeroAmount, rfl, rfl⟩)

/-- A relay that fails, delivers its message and goes on with it has its beginning in front of three
ends. -/
theorem calls_append_thrice : ∃ relay,
    Steps Calls start [refused, delivering, continuing] relay ∧
      relay.history.getLast? = some relay.state ∧ relay.state.isTerminal = true := by
  have hsteps : Steps Calls start [refused, delivering, continuing] _ :=
    .cons (calls_refused _) (.cons (calls_delivering _) (.cons (calls_continuing _) (.nil _)))
  obtain ⟨-, hlast, hterminal, -⟩ := calls_append hsteps
  exact ⟨_, hsteps, hlast, hterminal (List.cons_ne_nil _ _)⟩

/-- **Relays that are called after their end.** One that is redeemed sends its message and redeems
its attestation once more, and its history grows, so it has sent twice. One that failed for good
sends as well, and goes on with a sequence. -/
theorem calls_after_end :
    (start.enterAll delivery).state = .redeemed 42 (some "0x03") ∧
    Steps Calls start [delivering, delivering] ((start.enterAll delivery).enterAll delivery) ∧
    sends delivering.exchanges = [.message []] ∧
    redeems delivering.exchanges = [openAttestation] ∧
    ((start.enterAll delivery).enterAll delivery).history =
      (start.enterAll delivery).history ++ delivery ∧
    (start.enterAll [.failed .zeroAmount]).state = .failed .zeroAmount ∧
    RelayError.zeroAmount.isRecoverable = false ∧
    Steps Calls start [refused, delivering]
      ((start.enterAll [.failed .zeroAmount]).enterAll delivery) ∧
    Steps Calls start [refused, continuing]
      ((start.enterAll [.failed .zeroAmount]).enterAll delivery.tail) := by
  refine ⟨rfl, ?_, ?_, ?_, history_enterAll _ _, rfl, rfl, ?_, ?_⟩
  · exact .cons (calls_delivering _) (.cons (calls_delivering _) (.nil _))
  · rfl
  · rfl
  · exact .cons (calls_refused _) (.cons (calls_delivering _) (.nil _))
  · exact .cons (calls_refused _) (.cons (calls_continuing _) (.nil _))

end GuardianRelay.Relay
