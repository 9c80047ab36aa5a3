import GuardianRelay.Attestation
import GuardianRelay.Lookup
import GuardianRelay.Polling
import GuardianRelay.Program

/-!
# Waiting for an attestation

Guardians need a while to sign a message, so its attestation is looked up in intervals until it is there or a
deadline has passed. A lookup that fails counts as one that found nothing, and so does one that is still running at
the deadline. What is found ends the wait at once, also when it turns out to be no attestation.
-/

namespace GuardianRelay

/-- How often an attestation is looked up, and for how long. -/
structure Poller where
  intervalMillis : Nat
  deadlineMillis : Nat
deriving DecidableEq, Repr

namespace Poller

/-- A question of a wait. -/
inductive Request where
  /-- A lookup, for which so many milliseconds are left. -/
  | lookup (key : MessageKey) (budgetMillis : Nat)
  /-- The time, in milliseconds. -/
  | now
  /-- A pause. -/
  | sleep (millis : Nat)
deriving DecidableEq

/-- What is answered to a wait. A lookup that takes longer than is left for it has no answer. -/
abbrev Request.Reply : Request → Type
  | lookup .. => Option (Outcome LookupAnswer)
  | now => Nat
  | sleep _ => Unit

/-- The surroundings of a wait. -/
abbrev surroundings : Interface := ⟨Request, Request.Reply⟩

/-- A wait. -/
abbrev Action := Program surroundings

/-- A lookup. -/
def lookup (key : MessageKey) (budgetMillis : Nat) : Action (Option (Outcome LookupAnswer)) :=
  Program.request (I := surroundings) (.lookup key budgetMillis)

/-- The time. -/
def now : Action Nat := Program.request (I := surroundings) .now

/-- Pauses. -/
def sleep (millis : Nat) : Action Unit := Program.request (I := surroundings) (.sleep millis)

/-- The end of a wait that found nothing. -/
def giveUp (key : MessageKey) (elapsedMillis : Nat) : RelayError :=
  .timeout key.chain key.emitter key.sequence (elapsedMillis / 1000)

/-- Looks an attestation up at most so many times. -/
def poll (poller : Poller) (key : MessageKey) (start : Nat) : Nat → Action Attestation
  | 0 => throw (giveUp key poller.deadlineMillis)
  | lookups + 1 => do
    let elapsed := (← now) - start
    match ← lookup key (poller.deadlineMillis - elapsed) with
    | some (.ok (.found b)) => Program.ofOutcome (Outcome.ofParsed (Attestation.decode b))
    | _ =>
      let elapsed := (← now) - start
      if poller.deadlineMillis ≤ elapsed then throw (giveUp key elapsed)
      sleep (min poller.intervalMillis (poller.deadlineMillis - elapsed))
      poll poller key start lookups

/-- Waits for an attestation. The wait does not run out of lookups before its deadline. -/
def await (poller : Poller) (key : MessageKey) : Action Attestation := do
  let start ← now
  poller.poll key start (pollLimit poller.intervalMillis poller.deadlineMillis)

end Poller

end GuardianRelay
