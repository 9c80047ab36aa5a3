import GuardianRelay.Text.Integer
import GuardianRelay.Text.Quoted

/-!
# Arguments of a command line

A command line is a list of words: options with their values, and the name of a command with the options of its own.
An option stands before its value or is joined to it by an equals sign; one with a short name can also stand right
before it. A value that starts with a dash can only be joined. After a word of two dashes there are no options any
more, and no command takes anything else.
-/

namespace GuardianRelay.CommandLine

/-- Why a command line is not carried out. -/
inductive UsageFault where
  /-- The words ask how the program, or one of its commands, is used. -/
  | help (command : Option String)
  /-- A word is neither an option, nor its value, nor a command. -/
  | unexpected (word : String)
  | missingValue (option : String)
  | badValue (option value : String)
  /-- An option that stands once was given again. -/
  | repeated (option : String)
  | missingOption (option : String)
  | missingCommand
  /-- Two options exclude each other. -/
  | conflict (option other : String)
deriving DecidableEq, Repr

/-- The wording of a usage fault. -/
def UsageFault.message : UsageFault → String
  | .help _ => "help was asked for"
  | .unexpected word => s!"unexpected argument {Text.quoteText word}"
  | .missingValue option => s!"a value is required for --{option} but none was supplied"
  | .badValue option value => s!"invalid value {Text.quoteText value} for --{option}"
  | .repeated option => s!"the argument --{option} cannot be used multiple times"
  | .missingOption option => s!"the required argument --{option} was not provided"
  | .missingCommand => "a command is required"
  | .conflict option other => s!"the argument --{option} cannot be used with --{other}"

/-- What an option's values are. -/
inductive ValueKind where
  | text
  /-- The path of a file, which is not empty. -/
  | path
  /-- A number that is read with its sign and has at most 16 bits. -/
  | chain
  /-- A number that is read with its sign and has at most 32 bits. -/
  | word
  /-- A number without a sign of at most 64 bits. -/
  | count
deriving DecidableEq, Repr

/-- An option. -/
structure OptionSpec where
  name : String
  kind : ValueKind
  /-- The short name, if there is one. -/
  short : Option Char
  /-- Whether the option may stand more than once. -/
  repeats : Bool
  /-- Whether the option has to be given. -/
  isNeeded : Bool
  /-- What the usage tells of the option. -/
  purpose : String
deriving DecidableEq, Repr

/-- An option that has to be given. -/
def OptionSpec.needed (name : String) (kind : ValueKind) (purpose : String) : OptionSpec :=
  { name, kind, short := none, repeats := false, isNeeded := true, purpose }

/-- An option that may be left out. -/
def OptionSpec.free (name : String) (kind : ValueKind) (purpose : String) : OptionSpec :=
  { name, kind, short := none, repeats := false, isNeeded := false, purpose }

/-- A number that may have a sign, though only zero has a negative one. -/
def signedNumber? (bits : Nat) (s : String) : Option Nat :=
  match s.toList with
  | '-' :: digits => if digits ≠ [] ∧ digits.all (· == '0') then some 0 else none
  | _ => (Integer.parse bits s).toOption

/-- Whether a text is a value of a kind. -/
def ValueKind.accepts (kind : ValueKind) (value : String) : Bool :=
  match kind with
  | text => true
  | path => ! value.isEmpty
  | chain => (signedNumber? 16 value).isSome
  | word => (signedNumber? 32 value).isSome
  | count => (Integer.parse 64 value).toOption.isSome

/-- The options that were given, with their values, in the order of the words. -/
abbrev Given := List (String × String)

/-- What a word is. -/
inductive WordForm where
  /-- An option whose value is the next word. -/
  | option (spec : OptionSpec)
  /-- An option joined to its value. -/
  | joined (spec : OptionSpec) (value : String)
  | help
  /-- The end of the options. -/
  | endOfOptions
  /-- A word that is no option. -/
  | plain
  /-- A word that looks like an option and is none. -/
  | unknown
deriving DecidableEq, Repr

/-- The name of a joined option and its value, from what follows the dashes. -/
def splitJoined (cs : List Char) : List Char × Option (List Char) :=
  match cs.span (· != '=') with
  | (name, []) => (name, none)
  | (name, _ :: value) => (name, some value)

/-- What a word is, where some options can stand. -/
def formOf (specs : List OptionSpec) (word : String) : WordForm :=
  match word.toList with
  | ['-', '-'] => .endOfOptions
  | '-' :: '-' :: cs =>
    let (name, value) := splitJoined cs
    match specs.find? fun spec => spec.name.toList = name, value with
    | some spec, some value => .joined spec (String.ofList value)
    | some spec, none => .option spec
    | none, none => if name = "help".toList then .help else .unknown
    | none, some _ => .unknown
  | '-' :: c :: cs =>
    match specs.find? fun spec => spec.short = some c, cs with
    | some spec, [] => .option spec
    | some spec, '=' :: value => .joined spec (String.ofList value)
    | some spec, value => .joined spec (String.ofList value)
    | none, _ => if c = 'h' then .help else .unknown
  | _ => .plain

/-- Whether a word can be the value of the option before it. -/
def isValue (word : String) : Bool :=
  match word.toList with
  | '-' :: _ :: _ => false
  | _ => true

/-- Adds an option with its value. -/
def give (spec : OptionSpec) (value : String) (given : Given) : Except UsageFault Given :=
  if ! spec.kind.accepts value then .error (.badValue spec.name value)
  else if ! spec.repeats && (given.lookup spec.name).isSome then .error (.repeated spec.name)
  else .ok (given ++ [(spec.name, value)])

/-- Reads options up to the first word that is none, and gives that word with all that follow. `command` is the
command whose options they are. -/
def readOptions (command : Option String) (specs : List OptionSpec) (given : Given) :
    List String → Except UsageFault (Given × List String)
  | [] => .ok (given, [])
  | word :: rest =>
    match formOf specs word with
    | .help => .error (.help command)
    | .unknown => .error (.unexpected word)
    | .plain => .ok (given, word :: rest)
    | .endOfOptions =>
      match rest with
      | [] => .ok (given, [])
      | next :: _ => .error (.unexpected next)
    | .joined spec value =>
      match give spec value given with
      | .ok given => readOptions command specs given rest
      | .error fault => .error fault
    | .option spec =>
      match rest with
      | [] => .error (.missingValue spec.name)
      | value :: rest =>
        if isValue value then
          match give spec value given with
          | .ok given => readOptions command specs given rest
          | .error fault => .error fault
        else .error (.missingValue spec.name)

namespace Given

/-- The value of an option that stands once. -/
def text? (given : Given) (name : String) : Option String := given.lookup name

/-- The values of an option. -/
def texts (given : Given) (name : String) : List String :=
  given.filterMap fun (other, value) => if other = name then some value else none

/-- The value of an option that has to be there. -/
def text (given : Given) (name : String) : Except UsageFault String :=
  match given.text? name with
  | some value => .ok value
  | none => .error (.missingOption name)

/-- The number of a chain. -/
def chain (given : Given) (name : String) : Except UsageFault UInt16 := do
  return UInt16.ofNat ((signedNumber? 16 (← given.text name)).getD 0)

/-- A number of 32 bits, which is zero where it is not given. -/
def word (given : Given) (name : String) : UInt32 :=
  UInt32.ofNat (((given.text? name).bind (signedNumber? 32)).getD 0)

/-- A number of 64 bits. -/
def count? (given : Given) (name : String) : Option UInt64 :=
  (given.text? name).map fun value => UInt64.ofNat ((Integer.parse 64 value).toOption.getD 0)

/-- A number of 64 bits that has to be there. -/
def count (given : Given) (name : String) : Except UsageFault UInt64 :=
  match given.count? name with
  | some value => .ok value
  | none => .error (.missingOption name)

end Given

end GuardianRelay.CommandLine
