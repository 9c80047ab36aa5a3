import GuardianRelay.Config
import GuardianRelay.Toml.Document

/-!
# Reading configurations

The settings of a relay stand under `relay`, the chains under `chains`, by family and name. Only the address of the
attestation service has to be given. A group of settings that is given has to be complete; unknown settings do not
count. What is under a family that is unknown is read and put aside.
-/

namespace GuardianRelay

namespace Settings

/-- A group of settings: a table, or a list in which they stand in their order. -/
structure Group where
  /-- The setting with a name and a place. -/
  get? : String → Nat → Option Toml.Value
  /-- Whether a setting that may be left out can be missing. -/
  isTable : Bool

/-- The group that a value is. A time counts as a table whose only entry is none of the settings. -/
def group? : Toml.Value → Option Group
  | .table entries => some ⟨fun name _ => entries.lookup name, true⟩
  | .scalar .time => some ⟨fun _ _ => none, true⟩
  | .list items => some ⟨fun _ place => items[place]?, false⟩
  | _ => none

/-- A text. -/
def text? : Toml.Value → Option String
  | .string s => some s
  | _ => none

/-- A truth value. -/
def truth? : Toml.Value → Option Bool
  | .scalar (.boolean b) => some b
  | _ => none

/-- A whole number of at most `bits` bits that is not negative. -/
def number? (bits : Nat) : Toml.Value → Option Nat
  | .scalar (.integer n) => if 0 ≤ n ∧ n < Nat.pow 2 bits then some n.toNat else none
  | _ => none

/-- A number of 64 bits. -/
def uint64? (value : Toml.Value) : Option UInt64 := (number? 64 value).map UInt64.ofNat

/-- A number of 16 bits. -/
def uint16? (value : Toml.Value) : Option UInt16 := (number? 16 value).map UInt16.ofNat

/-- One of some names, alone or with an empty table behind it. -/
def name? {α : Type} (names : List (String × α)) : Toml.Value → Option α
  | .string s => names.lookup s
  | .table [(s, .table [])] => names.lookup s
  | .table [(s, .list [])] => names.lookup s
  | _ => none

namespace Group

variable {α : Type}

/-- A setting that has to be given. -/
def required? (group : Group) (name : String) (place : Nat) (read? : Toml.Value → Option α) : Option α :=
  (group.get? name place).bind read?

/-- A setting that has a value where it is not given. -/
def withDefault? (group : Group) (name : String) (place : Nat) (read? : Toml.Value → Option α) (value : α) : Option α :=
  match group.get? name place with
  | none => some value
  | some given => read? given

/-- A setting that may be left out of a table. -/
def optional? (group : Group) (name : String) (place : Nat) (read? : Toml.Value → Option α) : Option (Option α) :=
  match group.get? name place with
  | none => if group.isTable then some none else none
  | some given => (read? given).map some

end Group

/-- Where attestations are looked up. -/
def attestation? (value : Toml.Value) : Option AttestationSettings := do
  let group ← group? value
  return { baseUrl := ← group.required? "base_url" 0 text?
           pollSeconds := ← group.withDefault? "poll_interval_secs" 1 uint64? AttestationSettings.defaultPollSeconds
           deadlineSeconds :=
             ← group.withDefault? "deadline_secs" 2 uint64? AttestationSettings.defaultDeadlineSeconds }

/-- Which files hold keys. -/
def keys? (value : Toml.Value) : Option KeySettings := do
  let group ← group? value
  return { evmKeyFile := ← group.optional? "evm_private_key_file" 0 text?
           svmKeypairFile := ← group.optional? "solana_keypair_file" 1 text? }

/-- Where the lookup service listens. -/
def service? (value : Toml.Value) : Option ServiceSettings := do
  let group ← group? value
  return { host := ← group.required? "host" 0 text?, tcpPort := ← group.required? "port" 1 uint16? }

/-- How transactions are confirmed. -/
def transactions? (value : Toml.Value) : Option TransactionSettings := do
  let group ← group? value
  return { receiptPollMillis := ← group.required? "receipt_poll_interval_ms" 0 uint64?
           confirmationSeconds := ← group.required? "confirmation_timeout_secs" 1 uint64?
           defaultGasLimit := ← group.required? "default_gas_limit" 2 uint64? }

/-- How much is logged. -/
def logLevel? (value : Toml.Value) : Option String := do
  let group ← group? value
  group.required? "log_level" 0 text?

/-- The settings of a relay. -/
def relay? (value : Toml.Value) : Option RelayConfig := do
  let group ← group? value
  return { attestation := ← group.required? "attestation" 0 attestation?
           keys := ← group.withDefault? "keys" 1 keys? KeySettings.none
           service := ← group.withDefault? "api" 2 service? ServiceSettings.default
           transactions := ← group.withDefault? "transactions" 3 transactions? TransactionSettings.default
           logLevel := ← group.withDefault? "monitoring" 4 logLevel? RelayConfig.defaultLogLevel }

/-- A chain. -/
def chain? (value : Toml.Value) : Option ChainConfig := do
  let group ← group? value
  let families := ChainFamily.all.map fun family => (family.name, family)
  let modes := [ProgramMode.messenger, .tokenBridge].map fun mode => (mode.name, mode)
  return { chain := ← group.required? "chain_id" 0 uint16?
           family := ← group.required? "chain_type" 1 (name? families)
           name := ← group.required? "name" 2 text?
           nodeUrl := ← group.required? "rpc_url" 3 text?
           coreAddress := ← group.required? "core_address" 4 text?
           programAddress := ← group.required? "program_address" 5 text?
           tokenBridgeAddress :=
             ← group.withDefault? "token_bridge_address" 6 (fun given => (text? given).map some) none
           mode := ← group.withDefault? "mode" 7 (name? modes) .messenger
           enabled := ← group.required? "enabled" 8 truth? }

/-- Everything under a table, read one by one. -/
def table? {α : Type} (read? : Toml.Value → Option α) : Toml.Value → Option (List (String × α))
  | .table entries => entries.mapM fun (name, value) => (read? value).map fun a => (name, a)
  | _ => none

/-- A whole configuration: the settings of a relay, and the chains by family. -/
def file? (value : Toml.Value) : Option (RelayConfig × List (String × List (String × ChainConfig))) := do
  let group ← group? value
  let relay ← group.required? "relay" 0 relay?
  let chains ← group.withDefault? "chains" 1 (table? (table? chain?)) []
  return (relay, chains)

end Settings

namespace RelayConfig

/-- The chains of a family. -/
def chainsOf (families : List (String × List (String × ChainConfig))) (family : ChainFamily) :
    ChainFamily × List ChainConfig :=
  (family, ((families.lookup family.table).getD []).map Prod.snd)

/-- Reads a configuration: the settings of the relay, and the chains in the order of their numbers. -/
def parse (text : String) : Except ConfigFault (RelayConfig × List ChainConfig) :=
  match (Toml.parse? text).bind Settings.file? with
  | none => .error .malformed
  | some (relay, families) =>
    (ChainConfig.arrange (ChainFamily.all.map (chainsOf families))).map fun chains => (relay, chains)

end RelayConfig

end GuardianRelay
