import GuardianRelay.Address
import GuardianRelay.CommandLine.Arguments

/-!
# Commands

What the program can be told to do. Addresses, payloads and attestations stay texts here: they are read when the
command is carried out, so that a text which cannot be read is an error of the command and not of its use.
-/

namespace GuardianRelay.CommandLine

/-- A transfer of tokens as a command names it. -/
structure TransferArguments where
  token : String
  amount : UInt64
  recipient : String
  batch : UInt32
deriving DecidableEq, Repr

/-- What is to be relayed. -/
inductive Consignment where
  | message (payload : String)
  | tokens (transfer : TransferArguments)
  | nothing
deriving DecidableEq, Repr

/-- A command. -/
inductive Command where
  /-- Shows the addresses of a chain's endpoint. -/
  | emitter (chain : ChainId)
  /-- Registers two endpoints with each other. -/
  | register (here remote : ChainId)
  | sendMessage (source : ChainId) (payload : String)
  | sendTokens (source destination : ChainId) (transfer : TransferArguments)
  /-- Waits for an attestation. -/
  | wait (chain : ChainId) (emitter : String) (sequence : UInt64)
  /-- Redeems an attestation. -/
  | redeem (chain : ChainId) (attestation : String)
  /-- Sends, waits and redeems. -/
  | relay (source destination : ChainId) (consignment : Consignment)
  /-- Answers lookups from files that hold an attestation each. -/
  | serve (files : List String)
deriving DecidableEq, Repr

/-- A command with the configuration that it is carried out with. -/
structure Invocation where
  configPath : String
  command : Command
deriving DecidableEq, Repr

/-- The commands by name, with what they do and with their options. -/
def catalogue : List (String × String × List OptionSpec) :=
  [("emitter", "Print the emitter and endpoint addresses of a chain\x27s program", [.needed "chain" .chain ""]),
   ("register", "Register two chains\x27 endpoints with each other and verify both",
    [.needed "local" .chain "", .needed "remote" .chain ""]),
   ("send-message", "Send a message and print its sequence",
    [.needed "from" .chain "", .needed "payload" .text "UTF-8 text, or 0x-hex for raw bytes"]),
   ("send-tokens", "Send a token transfer and print its sequence",
    [.needed "from" .chain "", .needed "to" .chain "", .needed "token" .text "Mint or ERC-20 contract",
     .needed "amount" .count "Amount in the token\x27s native decimals", .needed "recipient" .text "",
     .free "batch-id" .word "[default: 0]"]),
   ("wait", "Wait for an attestation and print it as base64",
    [.needed "chain" .chain "", .needed "emitter" .text "Emitter address, 0x-hex or base58",
     .needed "sequence" .count ""]),
   ("redeem", "Redeem a base64 attestation on a destination chain",
    [.needed "chain" .chain "", .needed "vaa" .text ""]),
   ("relay", "Send, wait for the attestation and redeem in one go",
    [.needed "from" .chain "", .needed "to" .chain "", .free "payload" .text "", .free "token" .text "",
     .free "amount" .count "", .free "recipient" .text "", .free "batch-id" .word "[default: 0]"]),
   ("serve", "Serve attestations from files over the lookup API",
    [{ OptionSpec.free "load" .path "Files each holding one base64 attestation" with repeats := true }])]

/-- The configuration file, unless told otherwise. -/
def defaultConfigPath : String := "relay.toml"

/-- The options that stand before the command. -/
def globalOptions : List OptionSpec :=
  [{ OptionSpec.free "config" .path s!"Relay configuration file [default: {defaultConfigPath}]" with short := some 'c' }]

/-! ### Usage -/

/-- The name that the program is called by. -/
def programName : String := "xchain-relay"

/-- What the command does that tells the usage. -/
def helpPurpose : String := "Print this message or the help of the given subcommand(s)"

/-- The lines of a text. -/
def lines (parts : List String) : String := String.join (parts.map (· ++ "\n"))

/-- Rows of two columns; the second starts two blanks behind the widest text of the first. -/
def columns (rows : List (String × String)) : List String :=
  let width := rows.foldl (fun width (head, _) => max width head.length) 0
  rows.map fun (head, text) => head ++ String.ofList (List.replicate (width + 2 - head.length) ' ') ++ text

/-- How an option is shown with its value. -/
def OptionSpec.shown (spec : OptionSpec) : String :=
  let value := spec.name.toList.map fun c => if c = '-' then '_' else c.toUpper
  s!"--{spec.name} <{String.ofList value}>"

/-- The lines of options. -/
def optionLines (specs : List OptionSpec) : List String :=
  let row (spec : OptionSpec) : String × String :=
    let short := match spec.short with
      | some c => s!"  -{c}, "
      | none => "      "
    (short ++ spec.shown, spec.purpose)
  "Options:" :: columns (specs.map row ++ [("  -h, --help", "Print help")])

/-- What stands in the usage of a command behind its name. -/
def pattern (specs : List OptionSpec) : String :=
  let free := if specs.all OptionSpec.isNeeded then "" else " [OPTIONS]"
  free ++ String.join ((specs.filter OptionSpec.isNeeded).map fun spec => " " ++ spec.shown)

/-- How the program is used. -/
def programUsage : String :=
  let commands := catalogue.map (fun (name, purpose, _) => ("  " ++ name, purpose)) ++ [("  help", helpPurpose)]
  lines (["Move messages and token transfers between chains via guardian attestations", "",
      s!"Usage: {programName} [OPTIONS] <COMMAND>", "", "Commands:"]
    ++ columns commands ++ "" :: optionLines globalOptions)

/-- How the command that tells the usage is used. -/
def helpUsage : String :=
  lines [helpPurpose, "", s!"Usage: {programName} help [COMMAND]...", "", "Arguments:",
    "  [COMMAND]...  Print help for the subcommand(s)"]

/-- How the program, or one of its commands, is used. -/
def usage : Option String → String
  | none => programUsage
  | some name =>
    match catalogue.lookup name with
    | some (purpose, specs) =>
      lines ([purpose, "", s!"Usage: {programName} {name}{pattern specs}", ""] ++ optionLines specs)
    | none => helpUsage

/-! ### Reading -/

/-- A transfer from the options that were given; only the batch may be left out. -/
def transferOf (given : Given) : Except UsageFault TransferArguments := do
  return { token := ← given.text "token", amount := ← given.count "amount", recipient := ← given.text "recipient",
           batch := given.word "batch-id" }

/-- What is to be relayed, from the options that were given. A message and tokens exclude each other. -/
def consignmentOf (given : Given) : Except UsageFault Consignment := do
  match given.text? "payload", given.text? "token" with
  | some _, some _ => throw (.conflict "payload" "token")
  | some payload, none => return .message payload
  | none, some _ => return .tokens (← transferOf given)
  | none, none => return .nothing

/-- The command of a name with the options that were given. -/
def commandOf (name : String) (given : Given) : Except UsageFault Command := do
  match name with
  | "emitter" => return .emitter (← given.chain "chain")
  | "register" => return .register (← given.chain "local") (← given.chain "remote")
  | "send-message" => return .sendMessage (← given.chain "from") (← given.text "payload")
  | "send-tokens" => return .sendTokens (← given.chain "from") (← given.chain "to") (← transferOf given)
  | "wait" => return .wait (← given.chain "chain") (← given.text "emitter") (← given.count "sequence")
  | "redeem" => return .redeem (← given.chain "chain") (← given.text "vaa")
  | "relay" => return .relay (← given.chain "from") (← given.chain "to") (← consignmentOf given)
  | "serve" => return .serve (given.texts "load")
  | _ => throw (.unexpected name)

/-- Reads the words after the name of a command. -/
def readCommand (name : String) (words : List String) : Except UsageFault Command := do
  match catalogue.lookup name with
  | none => throw (.unexpected name)
  | some (_, specs) =>
    match ← readOptions (some name) specs [] words with
    | (given, []) => commandOf name given
    | (_, word :: _) => throw (.unexpected word)

/-- Reads a command line. -/
def Invocation.read (words : List String) : Except UsageFault Invocation := do
  let (given, rest) ← readOptions none globalOptions [] words
  let configPath := (given.text? "config").getD defaultConfigPath
  match rest with
  | [] => throw .missingCommand
  | ["help"] => throw (.help none)
  | ["help", name] =>
    if name = "help" ∨ (catalogue.lookup name).isSome then throw (.help (some name)) else throw (.unexpected name)
  | "help" :: _ :: word :: _ => throw (.unexpected word)
  | name :: words => return { configPath, command := ← readCommand name words }

end GuardianRelay.CommandLine
