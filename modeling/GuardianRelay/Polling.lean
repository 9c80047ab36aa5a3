/-!
# Waiting in intervals

A wait asks, pauses for an interval and asks again, until it has what it waits for or its time is over. The number of
questions is bounded, so every wait is a finite program, and the bound is one that a wait does not reach.
-/

namespace GuardianRelay

/-- How often a wait asks at most. With an interval of a millisecond or more there are no more questions than
milliseconds, and the one at the start. Without an interval only the answers take time, and any number of them may
come within a millisecond: then the bound is the number of values of 64 bits. -/
def pollLimit (intervalMillis waitMillis : Nat) : Nat :=
  if intervalMillis = 0 then UInt64.size else waitMillis + 1

/-- A wait that pauses asks no more often than there are milliseconds, and once at the start. -/
theorem pollLimit_of_pos {intervalMillis : Nat} (h : 0 < intervalMillis) (waitMillis : Nat) :
    pollLimit intervalMillis waitMillis = waitMillis + 1 := if_neg (Nat.ne_of_gt h)

end GuardianRelay
