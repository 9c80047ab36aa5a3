import GuardianRelay.Error

/-!
# Configurations

What a relay is told of its surroundings: where attestations are looked up, where keys lie, how the lookup service
and transactions are set up, and the chains with their programs. `ChainConfig.arrange` brings the chains of a
configuration into the order of their numbers and checks that each stands under its own family and that no number
occurs twice.
-/

namespace GuardianRelay

/-- The two families of chains. -/
inductive ChainFamily where
  /-- Contract-model chains. -/
  | evm
  /-- Account-model chains. -/
  | svm
deriving DecidableEq, Repr

namespace ChainFamily

/-- The families in the order in which their chains are read. -/
def all : List ChainFamily := [evm, svm]

/-- The table under which the chains of a family stand. -/
def table : ChainFamily → String
  | evm => "evm"
  | svm => "svm"

/-- The name by which a chain tells its family. -/
def name : ChainFamily → String
  | evm => "EVM"
  | svm => "SVM"

end ChainFamily

/-- What a chain's program is for. -/
inductive ProgramMode where
  /-- It passes messages on. -/
  | messenger
  /-- It sends and redeems tokens through a token bridge. -/
  | tokenBridge
deriving DecidableEq, Repr

/-- The name of a mode. -/
def ProgramMode.name : ProgramMode → String
  | messenger => "messenger"
  | tokenBridge => "token_bridge"

/-- A chain and the programs on it. Addresses are texts in the chain's own form. -/
structure ChainConfig where
  chain : ChainId
  family : ChainFamily
  name : String
  nodeUrl : String
  coreAddress : String
  programAddress : String
  tokenBridgeAddress : Option String
  mode : ProgramMode
  enabled : Bool
deriving DecidableEq, Repr

/-- Where attestations are looked up, and for how long. -/
structure AttestationSettings where
  baseUrl : String
  pollSeconds : UInt64
  deadlineSeconds : UInt64
deriving DecidableEq, Repr

/-- Which files hold keys. -/
structure KeySettings where
  evmKeyFile : Option String
  svmKeypairFile : Option String
deriving DecidableEq, Repr

/-- Where the lookup service listens. -/
structure ServiceSettings where
  host : String
  tcpPort : UInt16
deriving DecidableEq, Repr

/-- How transactions are confirmed. -/
structure TransactionSettings where
  receiptPollMillis : UInt64
  confirmationSeconds : UInt64
  /-- The gas limit of a call whose gas cannot be estimated. -/
  defaultGasLimit : UInt64
deriving DecidableEq, Repr

/-- How long a transaction may take to be confirmed, in milliseconds. -/
def TransactionSettings.confirmationMillis (settings : TransactionSettings) : Nat :=
  settings.confirmationSeconds.toNat * 1000

/-- The settings of a relay. -/
structure RelayConfig where
  attestation : AttestationSettings
  keys : KeySettings
  service : ServiceSettings
  transactions : TransactionSettings
  logLevel : String
deriving DecidableEq, Repr

namespace AttestationSettings

/-- Seconds between two lookups, unless told otherwise. -/
def defaultPollSeconds : UInt64 := 5

/-- Seconds after which a wait ends, unless told otherwise. -/
def defaultDeadlineSeconds : UInt64 := 180

end AttestationSettings

/-- No keys. -/
def KeySettings.none : KeySettings := ⟨Option.none, Option.none⟩

/-- The lookup service of one machine. -/
def ServiceSettings.default : ServiceSettings := ⟨"127.0.0.1", 7071⟩

/-- Two seconds between polls, two minutes in all, and room for a simple call. -/
def TransactionSettings.default : TransactionSettings := ⟨2000, 120, 300000⟩

namespace RelayConfig

/-- How much is logged, unless told otherwise. -/
def defaultLogLevel : String := "info"

/-- The settings of a relay that looks attestations up on its own machine. -/
def standalone : RelayConfig where
  attestation := ⟨"http://127.0.0.1:7071", AttestationSettings.defaultPollSeconds,
    AttestationSettings.defaultDeadlineSeconds⟩
  keys := KeySettings.none
  service := ServiceSettings.default
  transactions := TransactionSettings.default
  logLevel := defaultLogLevel

end RelayConfig

namespace ChainConfig

/-- A messenger chain with stand-in addresses, for tries without a network. -/
def sample (chain : ChainId) (family : ChainFamily) : ChainConfig :=
  let (name, nodeUrl, coreAddress, programAddress) :=
    match chain, family with
    | 1, .svm => ("Solana", "http://localhost:8899", "3u8hJUVTA4jH1wYAyUur7FFZVQ8H635K3tSHHF4ssjQ5",
        "Scaffo1dingHe11oWor1dMessengerProgram111111")
    | 2, .evm => ("Ethereum", "http://localhost:8545", "0x98f3c9e6E3fAce36bAAd05FE09d375Ef1464288B",
        "0x5FbDB2315678afecb367f032d93F642f64180aa3")
    | 30, .evm => ("Base", "http://localhost:8546", "0x79A1027a6A159502049F10906D333EC57E95F083",
        "0x5FbDB2315678afecb367f032d93F642f64180aa3")
    | _, _ => (s!"TestChain{chain}", "http://localhost:8545", "0x0000000000000000000000000000000000000000",
        "0x0000000000000000000000000000000000000000")
  { chain, family, name, nodeUrl, coreAddress, programAddress, tokenBridgeAddress := none, mode := .messenger,
    enabled := true }

/-- The chain with a number, if it is switched on. -/
def find (chains : List ChainConfig) (chain : ChainId) : Except ConfigFault ChainConfig :=
  match chains.find? fun config => config.chain = chain ∧ config.enabled with
  | some config => .ok config
  | none => .error (.noEnabledChain chain)

/-- Checks that a chain is of the family under which it stands. -/
def checkFamily (family : ChainFamily) (config : ChainConfig) : Except ConfigFault ChainConfig :=
  if config.family = family then .ok config
  else .error (.misfiled config.name family.table config.family.name)

/-- The first number that two neighbours share. -/
def repeated? : List ChainConfig → Option ChainId
  | a :: b :: rest => if a.chain = b.chain then some a.chain else repeated? (b :: rest)
  | _ => none

/-- The chains of a configuration in the order of their numbers. They come by family, each family in some order,
which the result does not show. -/
def arrange (families : List (ChainFamily × List ChainConfig)) : Except ConfigFault (List ChainConfig) := do
  let chains ← families.flatMapM fun (family, configs) => configs.mapM (checkFamily family)
  let sorted := chains.mergeSort fun a b => a.chain ≤ b.chain
  match repeated? sorted with
  | some chain => throw (.duplicateChain chain)
  | none => return sorted

end ChainConfig

end GuardianRelay
