import GuardianRelay.CommandLine.FileTree
import GuardianRelay.CommandLine.Run
import GuardianRelay.Network

/-!
# The program

Runs the command line on the files, the clock and the network of a machine.
-/

namespace GuardianRelay.CommandLine

/-- What the program keeps while it runs, for each endpoint: how many calls were numbered, and the number of the
network. -/
structure Memory where
  calls : Pairing.Side → Nat
  networks : Pairing.Side → Option UInt64

/-- What a machine says of the number of a fault, which some interfaces give as its negative. -/
def faultText (code : UInt32) : String :=
  let code := if code < 0x80000000 then code else 0 - code
  match code with
  | 2 => FileFault.missing.message
  | 13 => "Permission denied (os error 13)"
  | 20 => FileFault.notFolder.message
  | 21 => FileFault.folder.message
  | 36 => FileFault.tooLong.message
  | 98 => "Address already in use (os error 98)"
  | 99 => "Cannot assign requested address (os error 99)"
  | _ => s!"Unknown error (os error {code})"

/-- What the machine says of a fault. -/
def reasonOf : IO.Error → String
  | .noFileOrDirectory _ code _ | .inappropriateType _ code _ | .permissionDenied _ code _
  | .alreadyExists _ code _ | .resourceBusy code _ | .otherError code _ => faultText code
  | error => toString error

/-- The text of a file. -/
def readText (path : String) : IO (Except String String) := do
  if path.toList.contains '\x00' then return .error FileFault.zeroOctet.message
  try return (String.fromUTF8? (← IO.FS.readBinFile path)).elim (.error FileFault.notText.message) .ok
  catch error => return .error (reasonOf error)

/-- Answers what a command asks. -/
def answerMachine (memory : IO.Ref Memory) : (request : Machine.Request) → IO request.Reply
  | .fileText path => readText path
  | .exchange limitMillis request => Network.exchange limitMillis request
  | .number side =>
    memory.modifyGet fun m =>
      let n := m.calls side + 1
      (n, { m with calls := fun other => if other = side then n else m.calls other })
  | .knownNetwork side => return (← memory.get).networks side
  | .keepNetwork side networkId =>
    memory.modify fun m => { m with networks := fun other => if other = side then some networkId else m.networks other }
  | .now => IO.monoMsNow
  | .sleep millis => IO.sleep (UInt32.ofNat millis)
  | .listen store host tcpPort => do
    try
      Network.listen store host tcpPort
      return "the listener was closed"
    catch error => return reasonOf error

end GuardianRelay.CommandLine

open GuardianRelay CommandLine in
/-- Runs the program on the words that it was given. -/
def main (words : List String) : IO UInt32 := do
  let memory ← IO.mkRef { calls := fun _ => 0, networks := fun _ => none }
  match ← Program.run (I := surroundings) (answerMachine memory) (program words) with
  | .error error =>
    IO.eprintln error.message
    return 1
  | .ok completion =>
    IO.print completion.stdout
    IO.eprint completion.stderr
    return UInt32.ofNat completion.exitCode
