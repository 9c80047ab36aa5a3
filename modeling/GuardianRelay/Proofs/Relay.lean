import GuardianRelay.Proofs.Attestation.RoundTrip
import GuardianRelay.Proofs.Program
import GuardianRelay.Relay
import Mathlib.Data.Nat.Notation

/-!
# Runs of Relays

What a relay does depends on answers that nobody controls: of the source, of the destination
and of the lookups in between. This module says what it can do under all of them. Once a relay
knows its message there are four ways to its end (`Relay.Completes`), each with the questions
that it asks and the states that it enters; a call goes one of those ways, or ends before it
knows its message. All that is promised of a call is read off these ways.

## Main results

* `Relay.runs_complete_iff`, `Relay.runs_run_iff`, `Relay.runs_resume_iff`: the runs of a relay
  are the ways to its end, and every run gives back a relay.
* `Relay.call_start_settles`: what a single call of a fresh relay asks, which states it enters and
  what it returns.
-/

namespace GuardianRelay.Relay

/-! ### The wait in between -/

/-- A question of the wait as the relay passes it on. -/
def polled (x : Exchange Poller.surroundings) : Exchange surroundings :=
  ⟨.poll x.request, x.reply⟩

/-- A wait that a relay passes on asks and ends as it does by itself. -/
theorem runs_via_poll_iff {α : Type} {p : Poller.Action α}
    {exchanges : List (Exchange surroundings)} {outcome : Outcome α} :
    (p.via fun request => Program.request (I := surroundings) (.poll request)).Runs
        exchanges outcome ↔
      ∃ polls, p.Runs polls outcome ∧ exchanges = polls.map polled := by
  induction p generalizing exchanges with
  | done value =>
      constructor
      · rintro ⟨⟩
        exact ⟨[], .done value, rfl⟩
      · rintro ⟨_, ⟨⟩, rfl⟩
        exact .done value
  | fail error =>
      constructor
      · rintro ⟨⟩
        exact ⟨[], .fail error, rfl⟩
      · rintro ⟨_, ⟨⟩, rfl⟩
        exact .fail error
  | ask request next ih =>
      have hask : (Program.ask request next).via
            (fun request => Program.request (I := surroundings) (.poll request)) =
          Program.ask (I := surroundings) (.poll request) fun reply =>
            (next reply).via fun request =>
              Program.request (I := surroundings) (.poll request) := rfl
      rw [hask, Program.runs_ask_iff]
      simp only [ih, Program.runs_ask_iff]
      constructor
      · rintro ⟨reply, _, rfl, polls, hpolls, rfl⟩
        exact ⟨⟨request, reply⟩ :: polls, ⟨reply, polls, rfl, hpolls⟩, rfl⟩
      · rintro ⟨_, ⟨reply, polls, rfl, hpolls⟩, rfl⟩
        exact ⟨reply, polls.map polled, rfl, polls, hpolls, rfl⟩

/-- Going on after the wait, with the attestation or with what prevented it. -/
theorem runs_awaitAttestation_bind_iff {β : Type} {poller : Poller} {key : MessageKey}
    {f : Outcome Attestation → Action β} {exchanges : List (Exchange surroundings)}
    {outcome : Outcome β} :
    (awaitAttestation poller key >>= f).Runs exchanges outcome ↔
      ∃ found polls later, (poller.await key).Runs polls found ∧
        (f found).Runs later outcome ∧ exchanges = polls.map polled ++ later := by
  rw [awaitAttestation, Program.runs_attempt_bind_iff]
  simp only [runs_via_poll_iff]
  constructor
  · rintro ⟨found, _, later, ⟨polls, hpolls, rfl⟩, hf, rfl⟩
    exact ⟨found, polls, later, hpolls, hf, rfl⟩
  · rintro ⟨found, polls, later, hpolls, hf, rfl⟩
    exact ⟨found, polls.map polled, later, ⟨polls, hpolls, rfl⟩, hf, rfl⟩

/-- An attestation is the one that was awaited if chain, emitter and sequence are. -/
theorem checkAttestation_eq_ok_iff {a : Attestation} {key : MessageKey} :
    checkAttestation a key = .ok () ↔
      a.emitterChain = key.chain ∧ a.emitter = key.emitter ∧ a.sequence = key.sequence := by
  rw [checkAttestation]
  by_cases hchain : a.emitterChain = key.chain
  · by_cases hemitter : a.emitter = key.emitter
    · by_cases hsequence : a.sequence = key.sequence <;>
        simp [hchain, hemitter, hsequence]
    · simp [hchain, hemitter]
  · simp [hchain]

/-! ### The ways to the end -/

/-- A destination's answer means that the attestation is redeemed, by the given transaction if
it was the relay's. -/
inductive Redeems : Outcome TxId → Option TxId → Prop
  | here (tx : TxId) : Redeems (.ok tx) (some tx)
  | before : Redeems (.error .alreadyRedeemed) none

/-- How a relay that knows its message comes to its end: what it asks from then on, and where it
stands then with what it returns. -/
inductive Completes (route : Route) (relay : Relay) (key : MessageKey)
    (sourceTx : Option TxId) :
    List (Exchange surroundings) → Relay × Outcome RelayReceipt → Prop
  /-- No attestation was to be had. -/
  | unattested {polls : List (Exchange Poller.surroundings)} {error : RelayError} :
      (route.poller.await key).Runs polls (.error error) →
      Completes route relay key sourceTx (polls.map polled)
        ((relay.enter (.awaitingAttestation key.sequence)).stop error)
  /-- The attestation was another message's. -/
  | mismatched {polls : List (Exchange Poller.surroundings)} {a : Attestation}
      {mismatch : Mismatch} :
      (route.poller.await key).Runs polls (.ok a) →
      checkAttestation a key = .error mismatch →
      Completes route relay key sourceTx (polls.map polled)
        ((relay.enter (.awaitingAttestation key.sequence)).stop
          (.attestationMismatch mismatch))
  /-- The destination did not redeem the attestation. -/
  | unredeemed {polls : List (Exchange Poller.surroundings)} {a : Attestation}
      {error : RelayError} :
      (route.poller.await key).Runs polls (.ok a) →
      checkAttestation a key = .ok () →
      error ≠ .alreadyRedeemed →
      Completes route relay key sourceTx (polls.map polled ++ [⟨.redeem a, .error error⟩])
        (((relay.enter (.awaitingAttestation key.sequence)).enter (.attested a)).stop error)
  /-- The attestation is redeemed. -/
  | redeemed {polls : List (Exchange Poller.surroundings)} {a : Attestation}
      {answer : Outcome TxId} {redeemTx : Option TxId} :
      (route.poller.await key).Runs polls (.ok a) →
      checkAttestation a key = .ok () →
      Redeems answer redeemTx →
      Completes route relay key sourceTx (polls.map polled ++ [⟨.redeem a, answer⟩])
        (((relay.enter (.awaitingAttestation key.sequence)).enter (.attested a)).enter
            (.redeemed key.sequence redeemTx),
          .ok { sequence := key.sequence, emitter := key.emitter, sourceTx, redeemTx,
                attestation := a })

/-- A relay that knows its message goes one of the ways, and goes each of them under some
answers. -/
theorem runs_complete_iff {route : Route} {relay : Relay} {emitter : Address}
    {sequence : UInt64} {sourceTx : Option TxId} {exchanges : List (Exchange surroundings)}
    {outcome : Outcome (Relay × Outcome RelayReceipt)} :
    (complete route relay emitter sequence sourceTx).Runs exchanges outcome ↔
      ∃ result, outcome = .ok result ∧
        Completes route relay ⟨route.chain, emitter, sequence⟩ sourceTx exchanges result := by
  rw [complete, runs_awaitAttestation_bind_iff]
  constructor
  · rintro ⟨found, polls, later, hpolls, hlater, rfl⟩
    cases found with
    | error error =>
        obtain ⟨rfl, rfl⟩ := Program.runs_done_iff.mp hlater
        rw [List.append_nil]
        exact ⟨_, rfl, .unattested hpolls⟩
    | ok a =>
        cases hcheck : checkAttestation a ⟨route.chain, emitter, sequence⟩ with
        | error mismatch =>
            simp only [hcheck] at hlater
            obtain ⟨rfl, rfl⟩ := Program.runs_done_iff.mp hlater
            rw [List.append_nil]
            exact ⟨_, rfl, .mismatched hpolls hcheck⟩
        | ok _ =>
            simp only [hcheck] at hlater
            obtain ⟨answer, later, rfl, hanswer⟩ := Program.runs_request_bind_iff.mp hlater
            split at hanswer
            next tx =>
              obtain ⟨rfl, rfl⟩ := Program.runs_done_iff.mp hanswer
              exact ⟨_, rfl, .redeemed hpolls hcheck (.here tx)⟩
            next =>
              obtain ⟨rfl, rfl⟩ := Program.runs_done_iff.mp hanswer
              exact ⟨_, rfl, .redeemed hpolls hcheck .before⟩
            next error herror =>
              obtain ⟨rfl, rfl⟩ := Program.runs_done_iff.mp hanswer
              exact ⟨_, rfl, .unredeemed hpolls hcheck herror⟩
  · rintro ⟨_, rfl, hpolls | ⟨hpolls, hcheck⟩ | @⟨polls, a, error, hpolls, hcheck, herror⟩ |
      ⟨hpolls, hcheck, hanswer⟩⟩
    · exact ⟨_, _, [], hpolls, .done _, (List.append_nil _).symm⟩
    · refine ⟨_, _, [], hpolls, ?_, (List.append_nil _).symm⟩
      simp only [hcheck]
      exact .done _
    · refine ⟨_, _, _, hpolls, ?_, rfl⟩
      simp only [hcheck]
      refine Program.runs_request_bind_iff.mpr ⟨.error error, [], rfl, ?_⟩
      -- only the branch for an error other than `alreadyRedeemed` can be the one taken
      split
      next heq => contradiction
      next heq => exact absurd (Except.error.inj heq) herror
      next error' herror' heq =>
        obtain rfl := Except.error.inj heq
        exact .done _
    · refine ⟨_, _, _, hpolls, ?_, rfl⟩
      simp only [hcheck]
      refine Program.runs_request_bind_iff.mpr ⟨_, [], rfl, ?_⟩
      cases hanswer with
      | here tx => exact .done _
      | before => exact .done _

/-- A call with an intent sends it, and ends there or goes one of the ways with the message that
the chain made of it. -/
theorem runs_run_iff {route : Route} {relay : Relay} {intent : Intent}
    {exchanges : List (Exchange surroundings)}
    {outcome : Outcome (Relay × Outcome RelayReceipt)} :
    (run route relay intent).Runs exchanges outcome ↔
      (∃ error, exchanges = [⟨.send intent, .error error⟩] ∧
        outcome = .ok (relay.stop error)) ∨
      ∃ receipt later result, exchanges = ⟨.send intent, .ok receipt⟩ :: later ∧
        outcome = .ok result ∧
        Completes route (relay.enter (.sent receipt.sequence receipt.tx))
          ⟨route.chain, receipt.emitter, receipt.sequence⟩ (some receipt.tx) later result := by
  rw [run, send, Program.runs_request_bind_iff]
  constructor
  · rintro ⟨answer, later, rfl, hlater⟩
    cases answer with
    | error error =>
        obtain ⟨rfl, rfl⟩ := Program.runs_done_iff.mp hlater
        exact .inl ⟨error, rfl, rfl⟩
    | ok receipt =>
        obtain ⟨result, rfl, hcompletes⟩ := runs_complete_iff.mp hlater
        exact .inr ⟨receipt, later, result, rfl, rfl, hcompletes⟩
  · rintro (⟨error, rfl, rfl⟩ | ⟨receipt, later, result, rfl, rfl, hcompletes⟩)
    · exact ⟨.error error, [], rfl, .done _⟩
    · exact ⟨.ok receipt, later, rfl, runs_complete_iff.mpr ⟨result, rfl, hcompletes⟩⟩

/-- A call with a sequence ends without an emitter, or goes one of the ways with the message of
that sequence. -/
theorem runs_resume_iff {route : Route} {relay : Relay} {sequence : UInt64}
    {exchanges : List (Exchange surroundings)}
    {outcome : Outcome (Relay × Outcome RelayReceipt)} :
    (resume route relay sequence).Runs exchanges outcome ↔
      (∃ error, route.emitter = .error error ∧ exchanges = [] ∧
        outcome = .ok (relay.stop error)) ∨
      ∃ emitter result, route.emitter = .ok emitter ∧ outcome = .ok result ∧
        Completes route relay ⟨route.chain, emitter, sequence⟩ none exchanges result := by
  rw [resume]
  cases hemitter : route.emitter with
  | error error => simp [Program.runs_done_iff]
  | ok emitter => simp [runs_complete_iff]

/-! ### What was asked -/

/-- The intents that were sent, in order. -/
def sends (exchanges : List (Exchange surroundings)) : List Intent :=
  exchanges.filterMap fun x =>
    match x.request with
    | .send intent => some intent
    | _ => none

/-- The attestations that the destination was asked to redeem, in order. -/
def redeems (exchanges : List (Exchange surroundings)) : List Attestation :=
  exchanges.filterMap fun x =>
    match x.request with
    | .redeem a => some a
    | _ => none

/-- A wait sends nothing. -/
@[simp] theorem sends_map_polled (polls : List (Exchange Poller.surroundings)) :
    sends (polls.map polled) = [] := by
  simp [sends, polled]

/-- A wait redeems nothing. -/
@[simp] theorem redeems_map_polled (polls : List (Exchange Poller.surroundings)) :
    redeems (polls.map polled) = [] := by
  simp [redeems, polled]

@[simp] theorem sends_append (first second : List (Exchange surroundings)) :
    sends (first ++ second) = sends first ++ sends second := List.filterMap_append

@[simp] theorem redeems_append (first second : List (Exchange surroundings)) :
    redeems (first ++ second) = redeems first ++ redeems second := List.filterMap_append

/-- A wait does not ask the destination. -/
theorem redeem_not_mem_map_polled (polls : List (Exchange Poller.surroundings))
    (a : Attestation) (answer : Outcome TxId) :
    (⟨.redeem a, answer⟩ : Exchange surroundings) ∉ polls.map polled := by
  simp [polled]

section Completes

variable {route : Route} {relay : Relay} {key : MessageKey} {sourceTx : Option TxId}
  {exchanges : List (Exchange surroundings)} {result : Relay × Outcome RelayReceipt}

/-- A relay that knows its message sends nothing. -/
theorem Completes.sends_eq_nil (h : Completes route relay key sourceTx exchanges result) :
    sends exchanges = [] := by
  cases h with
  | unattested | mismatched => exact sends_map_polled _
  | unredeemed | redeemed =>
      rw [sends_append, sends_map_polled]
      rfl

/-- The destination is asked once at most. -/
theorem Completes.length_redeems_le
    (h : Completes route relay key sourceTx exchanges result) :
    (redeems exchanges).length ≤ 1 := by
  cases h with
  | unattested | mismatched => simp
  | unredeemed | redeemed =>
      rw [redeems_append, redeems_map_polled]
      exact Nat.le_refl 1

/-- The destination is asked only about an attestation of the message. -/
theorem Completes.key_of_mem_redeems
    (h : Completes route relay key sourceTx exchanges result) {a : Attestation}
    (ha : a ∈ redeems exchanges) :
    a.emitterChain = key.chain ∧ a.emitter = key.emitter ∧ a.sequence = key.sequence := by
  cases h with
  | unattested | mismatched => simp at ha
  | unredeemed _ hcheck | redeemed _ hcheck =>
      rw [redeems_append, redeems_map_polled] at ha
      obtain rfl := List.mem_singleton.mp ha
      exact checkAttestation_eq_ok_iff.mp hcheck

/-- If the destination says that the attestation was redeemed before, the relay ends well, without
a transaction. -/
theorem Completes.state_eq_of_alreadyRedeemed
    (h : Completes route relay key sourceTx exchanges result) {a : Attestation}
    (hmem : ⟨.redeem a, .error .alreadyRedeemed⟩ ∈ exchanges) :
    result.1.state = .redeemed key.sequence none := by
  cases h with
  | unattested | mismatched => exact absurd hmem (redeem_not_mem_map_polled _ _ _)
  | unredeemed _ _ herror =>
      rw [List.mem_append, List.mem_singleton] at hmem
      cases hmem.resolve_left (redeem_not_mem_map_polled _ _ _)
      exact absurd rfl herror
  | redeemed _ _ hanswer =>
      rw [List.mem_append, List.mem_singleton] at hmem
      cases hmem.resolve_left (redeem_not_mem_map_polled _ _ _)
      cases hanswer
      rfl

/-! ### Where it ends -/

/-- A history that followed a path to its end, or one that was cut short before the end by a
failure. -/
def Follows (path history : List RelayState) : Prop :=
  history = path ∨
    ∃ n error, 0 < n ∧ n < path.length ∧ history = path.take n ++ [.failed error]

/-- A relay that fails on a path has followed it until then. -/
theorem follows_stop {path : List RelayState} {relay : Relay} {n : ℕ} (error : RelayError)
    (hpos : 0 < n) (hlt : n < path.length) (h : relay.history = path.take n) :
    Follows path (relay.stop error).1.history :=
  .inr ⟨n, error, hpos, hlt, h ▸ rfl⟩

/-- From where it knows its message, a relay is on the path to redemption. -/
theorem Completes.follows (h : Completes route relay key sourceTx exchanges result) :
    ∃ a redeemTx, Follows
      (relay.history ++ [.awaitingAttestation key.sequence, .attested a,
        .redeemed key.sequence redeemTx])
      result.1.history := by
  cases h with
  | unattested | mismatched =>
      refine ⟨default, none,
        follows_stop (n := relay.history.length + 1) _ (by omega) (by simp) ?_⟩
      rw [List.take_length_add_append]
      rfl
  | @unredeemed _ a =>
      refine ⟨a, none,
        follows_stop (n := relay.history.length + 2) _ (by omega) (by simp) ?_⟩
      rw [List.take_length_add_append]
      simp [enter]
  | @redeemed _ a _ redeemTx => exact ⟨a, redeemTx, .inl (by simp [enter])⟩

/-- The state, the history and what is returned say the same. -/
structure Settled (relay : Relay) (returned : Outcome RelayReceipt) : Prop where
  /-- The state is the one that was entered last. -/
  getLast?_history : relay.history.getLast? = some relay.state
  /-- A receipt is returned exactly when the attestation is redeemed. -/
  ok_iff : (∃ receipt, returned = .ok receipt) ↔ ∃ sequence tx, relay.state = .redeemed sequence tx
  /-- An error is returned exactly when the relay has failed by it. -/
  error_iff : ∀ error, returned = .error error ↔ relay.state = .failed error
  /-- The receipt shows the attestation, the sequence and the transaction that the relay went
  through. -/
  receipt : ∀ receipt, returned = .ok receipt →
    .attested receipt.attestation ∈ relay.history ∧
      .redeemed receipt.sequence receipt.redeemTx ∈ relay.history

/-- A relay that was stopped is settled. -/
theorem settled_stop (relay : Relay) (error : RelayError) :
    Settled (relay.stop error).1 (relay.stop error).2 where
  getLast?_history := by simp [stop, enter]
  ok_iff := by simp [stop, enter]
  error_iff := by simp [stop, enter]
  receipt := by simp [stop]

/-- A relay that has come to its end is settled. -/
theorem Completes.settled (h : Completes route relay key sourceTx exchanges result) :
    Settled result.1 result.2 := by
  cases h with
  | unattested | mismatched | unredeemed => exact settled_stop _ _
  | redeemed =>
      exact
        { getLast?_history := by simp [enter]
          ok_iff := by simp [enter]
          error_iff := by simp [enter]
          receipt := by simp [enter] }

end Completes

/-! ### Calls -/

/-- What a caller can ask of a relay. -/
inductive Call where
  /-- To send a message and bring it to its end. -/
  | run (intent : Intent)
  /-- To bring a message to its end that was sent before. -/
  | resume (sequence : UInt64)

/-- What a relay does when it is called. -/
def Call.action (route : Route) (relay : Relay) :
    Call → Action (Relay × Outcome RelayReceipt)
  | run intent => Relay.run route relay intent
  | resume sequence => Relay.resume route relay sequence

/-- The intents that a call is to send. -/
def Call.intents : Call → List Intent
  | run intent => [intent]
  | resume _ => []

/-- The message that a call is about: the one of the receipt that sending gave, or the given one
of the emitter. -/
inductive Call.About (route : Route) (exchanges : List (Exchange surroundings)) :
    Call → MessageKey → Prop
  | run {intent : Intent} {receipt : SendReceipt} :
      ⟨.send intent, .ok receipt⟩ ∈ exchanges →
      About route exchanges (.run intent) ⟨route.chain, receipt.emitter, receipt.sequence⟩
  | resume {sequence : UInt64} {emitter : Address} :
      route.emitter = .ok emitter →
      About route exchanges (.resume sequence) ⟨route.chain, emitter, sequence⟩

/-- The states that a fresh relay goes through in a call that nothing stops. -/
inductive Call.Path : Call → List RelayState → Prop
  | run (intent : Intent) (sequence : UInt64) (tx : TxId) (a : Attestation)
      (redeemTx : Option TxId) :
      Path (.run intent) [.initiated, .sent sequence tx, .awaitingAttestation sequence,
        .attested a, .redeemed sequence redeemTx]
  | resume (sequence : UInt64) (a : Attestation) (redeemTx : Option TxId) :
      Path (.resume sequence) [.initiated, .awaitingAttestation sequence, .attested a,
        .redeemed sequence redeemTx]

/-- **One call of a fresh relay**, under all answers. It gives back a relay. It sends what it was
to send, once, or nothing if it resumes; it redeems once at most, and only an attestation of the
message that it is about. Its history is the path of the call or a beginning of it with a failure.
State, history and what it returns say the same. If the destination says that the attestation was
redeemed before, it ends redeemed, without a transaction. -/
theorem call_start_settles (route : Route) (call : Call)
    {exchanges : List (Exchange surroundings)}
    {outcome : Outcome (Relay × Outcome RelayReceipt)}
    (h : (call.action route start).Runs exchanges outcome) :
    ∃ relay returned, outcome = .ok (relay, returned) ∧
      sends exchanges = call.intents ∧
      (redeems exchanges).length ≤ 1 ∧
      (∀ a ∈ redeems exchanges, ∃ key, call.About route exchanges key ∧
        a.emitterChain = key.chain ∧ a.emitter = key.emitter ∧ a.sequence = key.sequence) ∧
      (∃ path, call.Path path ∧ Follows path relay.history) ∧
      Settled relay returned ∧
      (∀ a, ⟨.redeem a, .error .alreadyRedeemed⟩ ∈ exchanges →
        ∃ sequence, relay.state = .redeemed sequence none) := by
  cases call with
  | run intent =>
      obtain ⟨error, rfl, rfl⟩ | ⟨receipt, later, result, rfl, rfl, hcompletes⟩ :=
        runs_run_iff.mp h
      · have hpath : ∃ path, (Call.run intent).Path path ∧
            Follows path (start.stop error).1.history :=
          ⟨_, .run intent 0 default default none,
            follows_stop (n := 1) error Nat.one_pos (by simp) rfl⟩
        exact ⟨_, _, rfl, rfl, Nat.zero_le 1, by simp [redeems], hpath,
          settled_stop start error, by simp⟩
      · obtain ⟨a, redeemTx, hfollows⟩ := hcompletes.follows
        refine ⟨result.1, result.2, rfl, congrArg (intent :: ·) hcompletes.sends_eq_nil,
          hcompletes.length_redeems_le,
          fun _ ha => ⟨_, .run List.mem_cons_self, hcompletes.key_of_mem_redeems ha⟩,
          ⟨_, .run intent _ _ a redeemTx, hfollows⟩, hcompletes.settled, fun a hmem => ?_⟩
        have hlater : ⟨.redeem a, .error .alreadyRedeemed⟩ ∈ later :=
          (List.mem_cons.mp hmem).resolve_left (by simp)
        exact ⟨_, hcompletes.state_eq_of_alreadyRedeemed hlater⟩
  | resume sequence =>
      obtain ⟨error, hemitter, rfl, rfl⟩ | ⟨emitter, result, hemitter, rfl, hcompletes⟩ :=
        runs_resume_iff.mp h
      · have hpath : ∃ path, (Call.resume sequence).Path path ∧
            Follows path (start.stop error).1.history :=
          ⟨_, .resume sequence default none,
            follows_stop (n := 1) error Nat.one_pos (by simp) rfl⟩
        exact ⟨_, _, rfl, rfl, Nat.zero_le 1, by simp [redeems], hpath,
          settled_stop start error, by simp⟩
      · obtain ⟨a, redeemTx, hfollows⟩ := hcompletes.follows
        exact ⟨result.1, result.2, rfl, hcompletes.sends_eq_nil,
          hcompletes.length_redeems_le,
          fun _ ha => ⟨_, .resume hemitter, hcompletes.key_of_mem_redeems ha⟩,
          ⟨_, .resume sequence a redeemTx, hfollows⟩, hcompletes.settled,
          fun _ hmem => ⟨_, hcompletes.state_eq_of_alreadyRedeemed hmem⟩⟩

/-- A route from the first chain, with five lookups. -/
def firstRoute : Route := ⟨1, .ok Address.zero, ⟨1000, 5000⟩⟩

/-- An attestation of an empty message of the first chain, by nobody. -/
def firstAttestation : Attestation :=
  { (default : Attestation) with emitterChain := 1, emitter := Address.zero, sequence := 42 }

/-- Sending gives sequence 42, the second lookup finds the attestation, and somebody else has
redeemed it. -/
def lostRace : List (Exchange surroundings) :=
  [⟨.send (.message []), .ok ⟨42, Address.zero, "0x01"⟩⟩,
    ⟨.poll .now, (0 : ℕ)⟩,
    ⟨.poll .now, (0 : ℕ)⟩,
    ⟨.poll (.lookup ⟨1, Address.zero, 42⟩ 5000), some (.ok .notFound)⟩,
    ⟨.poll .now, (0 : ℕ)⟩,
    ⟨.poll (.sleep 1000), ()⟩,
    ⟨.poll .now, (1000 : ℕ)⟩,
    ⟨.poll (.lookup ⟨1, Address.zero, 42⟩ 4000), some (.ok (.found firstAttestation.written))⟩,
    ⟨.redeem firstAttestation, .error .alreadyRedeemed⟩]

/-- A fresh relay that loses the race for its attestation ends redeemed, without a transaction. -/
theorem call_start_settles_lostRace : ∃ relay returned,
    ((Call.run (.message [])).action firstRoute start).Runs lostRace
      (.ok (relay, returned)) ∧
    sends lostRace = [.message []] ∧
    Settled relay returned ∧
    ∃ sequence, relay.state = .redeemed sequence none := by
  have hruns : ∃ outcome,
      ((Call.run (.message [])).action firstRoute start).Runs lostRace outcome :=
    ⟨_, .ask (.ask (.ask (.ask (.ask (.ask (.ask (.ask (.ask (.done _)))))))))⟩
  obtain ⟨outcome, hruns⟩ := hruns
  obtain ⟨relay, returned, rfl, hsends, -, -, -, hsettled, halready⟩ :=
    call_start_settles firstRoute _ hruns
  exact ⟨relay, returned, hruns, hsends, hsettled,
    halready firstAttestation (by simp [lostRace])⟩

end GuardianRelay.Relay
