import GuardianRelay.CommandLine.Run
import GuardianRelay.Proofs.Config
import GuardianRelay.Proofs.Hex.Address
import GuardianRelay.Proofs.Program

/-!
# Sessions

A session holds a configuration that was read, and connects endpoints of its chains. The text with
which a contract-model chain names its token bridge is then read for two purposes. The endpoint on
that chain takes the bridge for the one that publishes its messages, and reads 20 bytes; endpoints
on other chains are told the bridge in the form that all chains share, and read up to 32 bytes.
Both come to the same address: an attestation whose emitter is the bridge on one chain is one of the
bridge that is known on the other.

Of texts that only the wider reader takes nothing is said: no endpoint that sends tokens on the
chain itself comes of them.

## Main results

* `Job.gives_bind_iff` and its like: the values of the parts of a command.
* `Session.gives_connect_iff`: which connections a session makes, and what it asks for them.
* `Session.lookup_foreignBridges_iff`: which bridges an endpoint is told of.
* `Session.addresses_agree`: the address of a bridge, wherever it is read.
-/

namespace GuardianRelay.CommandLine

/-! ### Parts of commands -/

namespace Job

variable {α β : Type} {told : List (Exchange surroundings)} {value : α} {result : β}

/-- Asked and answered like this, a part of a command has a value. -/
def Gives (job : Job α) (told : List (Exchange surroundings)) (value : α) : Prop :=
  Program.Runs job.run told (.ok (.ok value))

/-- Two parts have a value if the first one has, and the second one for it. -/
theorem gives_bind_iff {job : Job α} {next : α → Job β} :
    (job >>= next).Gives told result ↔
      ∃ value first second, job.Gives first value ∧ (next value).Gives second result ∧
        told = first ++ second := by
  rw [Gives, ExceptT.run_bind, Program.runs_bind_iff]
  constructor
  · rintro (⟨settled, first, second, hjob, hnext, rfl⟩ | ⟨error, -, herror⟩)
    · cases settled with
      | ok value => exact ⟨value, first, second, hjob, hnext, rfl⟩
      | error failure => exact absurd hnext nofun
    · contradiction
  · rintro ⟨value, first, second, hjob, hnext, rfl⟩
    exact .inl ⟨.ok value, first, second, hjob, hnext, rfl⟩

/-- A value is there without a question. -/
theorem gives_pure_iff {given : α} :
    (pure given : Job α).Gives told value ↔ told = [] ∧ value = given := by
  rw [Gives, ExceptT.run_pure, Program.pure_eq, Program.runs_done_iff]
  simp

/-- A part that has failed has no value. -/
theorem not_gives_throw {failure : Failure} : ¬ (throw failure : Job α).Gives told value := nofun

/-- Going on with the value of an outcome asks nothing before. -/
theorem gives_ofOutcome_bind_iff {outcome : Outcome α} {next : α → Job β} :
    (ofOutcome outcome >>= next).Gives told result ↔
      ∃ value, outcome = .ok value ∧ (next value).Gives told result := by
  cases outcome with
  | ok given =>
      simp only [Except.ok.injEq, exists_eq_left']
      exact Iff.rfl
  | error error => exact iff_of_false not_gives_throw nofun

/-- A part that asks gets some answer, and goes on with it. -/
theorem gives_ask_bind_iff {r : Machine.Request} {next : r.Reply → Job β} :
    (ask r >>= next).Gives told result ↔
      ∃ reply later, told = ⟨r, reply⟩ :: later ∧ (next reply).Gives later result :=
  Program.runs_ask_iff

/-- Going on with the text of a file asks for the file before. -/
theorem gives_fileText_bind_iff {path : String} {next : String → Job β} :
    (fileText path >>= next).Gives told result ↔
      ∃ text later, told = ⟨.fileText path, .ok text⟩ :: later ∧
        (next text).Gives later result := by
  constructor
  · intro h
    obtain ⟨text, _, second, htext, hnext, rfl⟩ := gives_bind_iff.mp h
    obtain ⟨reply, later, rfl, hreply⟩ := gives_ask_bind_iff.mp htext
    cases reply with
    | error reason => exact absurd hreply not_gives_throw
    | ok found =>
        obtain ⟨rfl, rfl⟩ := gives_pure_iff.mp hreply
        exact ⟨text, second, rfl, hnext⟩
  · rintro ⟨text, later, rfl, hnext⟩
    refine gives_bind_iff.mpr ⟨text, [⟨.fileText path, .ok text⟩], later, ?_, hnext, rfl⟩
    exact gives_ask_bind_iff.mpr ⟨.ok text, [], rfl, gives_pure_iff.mpr ⟨rfl, rfl⟩⟩

end Job

namespace Session

open ChainConfig (Ascending find)

variable {session : Session} {told : List (Exchange surroundings)} {id : ChainId}
  {config : ChainConfig} {bridge : Address} {bridges : List (ChainId × Address)}

/-! ### Endpoints of configured chains -/

section Endpoints

variable {signer : Signer}

/-- A contract-model chain sends tokens through the bridge that it names. -/
theorem evm_roleOf_eq_tokens_iff {contract : EvmAddress} :
    Evm.Endpoint.roleOf config = .ok (.tokens contract) ↔
      config.mode = .tokenBridge ∧
        ∃ text, config.tokenBridgeAddress = some text ∧ EvmAddress.ofHex text = .ok contract := by
  rw [Evm.Endpoint.roleOf]
  split
  next hmode => exact iff_of_false nofun fun h => nomatch hmode.symm.trans h.1
  next hmode hnone => exact iff_of_false nofun fun ⟨_, _, h, _⟩ => nomatch hnone.symm.trans h
  next text hmode htext =>
    rw [htext, and_iff_right hmode]
    simp [Outcome.map_eq_ok_iff, Outcome.ofAddress]

/-- The endpoint of a contract-model chain. -/
theorem evm_ofConfig_eq_ok_iff {settings : TransactionSettings} {endpoint : Evm.Endpoint} :
    Evm.Endpoint.ofConfig config settings signer = .ok endpoint ↔
      config.family = .evm ∧ Evm.Endpoint.roleOf config = .ok endpoint.role ∧
        EvmAddress.ofHex config.coreAddress = .ok endpoint.core ∧
        EvmAddress.ofHex config.programAddress = .ok endpoint.program ∧
        endpoint.chain = config.chain ∧ endpoint.signer = signer ∧
        endpoint.settings = settings := by
  rw [Evm.Endpoint.ofConfig]
  split
  next hfamily => exact iff_of_false nofun fun h => hfamily h.1
  next hfamily =>
    rw [not_not] at hfamily
    rw [and_iff_right hfamily]
    simp only [Outcome.bind_eq_ok_iff]
    constructor
    · rintro ⟨role, hrole, h⟩
      split at h
      next => contradiction
      next sender hsender =>
        obtain ⟨core, hcore, h⟩ := Outcome.bind_eq_ok_iff.mp h
        obtain ⟨program, hprogram, h⟩ := Outcome.bind_eq_ok_iff.mp h
        obtain rfl := Except.ok.inj h
        exact ⟨hrole, Outcome.mapError_eq_ok_iff.mp hcore, Outcome.mapError_eq_ok_iff.mp hprogram,
          rfl, rfl, rfl⟩
    · obtain ⟨chain, role, core, program, sender, signer', settings', hsender⟩ := endpoint
      rintro ⟨hrole, hcore, hprogram, rfl, rfl, rfl⟩
      refine ⟨role, hrole, ?_⟩
      split
      next hnone =>
        dsimp only at hnone
        rw [hsender] at hnone
        contradiction
      next found hfound =>
        obtain rfl := Option.some.inj (hfound.symm.trans hsender)
        exact Outcome.bind_eq_ok_iff.mpr ⟨core, Outcome.mapError_eq_ok_iff.mpr hcore,
          Outcome.bind_eq_ok_iff.mpr ⟨program, Outcome.mapError_eq_ok_iff.mpr hprogram, rfl⟩⟩

/-- An account-model chain sends tokens through the bridge that it names. -/
theorem svm_roleOf_eq_tokens_iff {program core : Address} {integration : Svm.TokenIntegration} :
    Svm.Endpoint.roleOf config program core = .ok (.tokens integration) ↔
      config.mode = .tokenBridge ∧
        ∃ text bridge, config.tokenBridgeAddress = some text ∧ Address.ofBase58 text = .ok bridge ∧
          Svm.TokenIntegration.derive program bridge core = .ok integration := by
  rw [Svm.Endpoint.roleOf]
  split
  next hmode =>
    refine iff_of_false ?_ fun h => nomatch hmode.symm.trans h.1
    simp [Outcome.map_eq_ok_iff]
  next hmode hnone => exact iff_of_false nofun fun ⟨_, _, _, h, _⟩ => nomatch hnone.symm.trans h
  next text hmode htext =>
    rw [htext, and_iff_right hmode]
    simp [Outcome.bind_eq_ok_iff, Outcome.ofAddress, Outcome.ofDerived, pure, Except.pure]

/-- The endpoint of an account-model chain. It knows of no other chains' bridges. -/
theorem svm_ofConfig_eq_ok_iff {endpoint : Svm.Endpoint} :
    Svm.Endpoint.ofConfig config signer = .ok endpoint ↔
      config.family = .svm ∧ (∃ program core,
        Address.ofBase58 config.programAddress = .ok program ∧
        Address.ofBase58 config.coreAddress = .ok core ∧
        Svm.Endpoint.roleOf config program core = .ok endpoint.role) ∧
        endpoint.chain = config.chain ∧ endpoint.signer = signer ∧
        endpoint.foreignBridges = [] := by
  rw [Svm.Endpoint.ofConfig]
  split
  next hfamily => exact iff_of_false nofun fun h => hfamily h.1
  next hfamily =>
    rw [not_not] at hfamily
    rw [and_iff_right hfamily]
    simp only [Outcome.bind_eq_ok_iff, Outcome.ofAddress, Outcome.mapError_eq_ok_iff]
    constructor
    · rintro ⟨program, hprogram, core, hcore, role, hrole, h⟩
      obtain rfl := Except.ok.inj h
      exact ⟨⟨program, core, hprogram, hcore, hrole⟩, rfl, rfl, rfl⟩
    · obtain ⟨chain, role, signer', bridges'⟩ := endpoint
      rintro ⟨⟨program, core, hprogram, hcore, hrole⟩, rfl, rfl, rfl⟩
      exact ⟨program, hprogram, core, hcore, role, hrole, rfl⟩

end Endpoints

/-! ### Loading -/

/-- A session holds what was read from the file. -/
theorem exists_parse_of_load {path : String} (h : (load path).Gives told session) :
    ∃ text, told = [⟨.fileText path, .ok text⟩] ∧
      RelayConfig.parse text = .ok (session.config, session.chains) := by
  obtain ⟨reply, later, rfl, hread⟩ := Job.gives_ask_bind_iff.mp h
  cases reply with
  | error reason => exact absurd hread Job.not_gives_throw
  | ok text =>
      obtain ⟨⟨config, chains⟩, hparse, hmade⟩ := Job.gives_ofOutcome_bind_iff.mp hread
      obtain ⟨rfl, rfl⟩ := Job.gives_pure_iff.mp hmade
      exact ⟨text, rfl, Outcome.mapError_eq_ok_iff.mp hparse⟩

/-- In a session that was loaded, the chains are in the order of their numbers. -/
theorem ascending_of_load {path : String} (h : (load path).Gives told session) :
    Ascending session.chains := by
  obtain ⟨text, -, hparse⟩ := exists_parse_of_load h
  exact RelayConfig.ascending_of_parse hparse

/-! ### Bridges of other chains -/

/-- The bridge of a chain, if it names one. -/
def bridgeOf (config : ChainConfig) : Outcome (Option (ChainId × Address)) :=
  match config.tokenBridgeAddress with
  | none => return none
  | some text => return some (config.chain, ← Outcome.ofAddress (Address.ofHex text))

/-- The bridge of a chain is what is read from the text that names it. -/
theorem bridgeOf_eq_some_iff :
    (bridgeOf config).toOption.join = some (id, bridge) ↔
      config.chain = id ∧
        ∃ text, config.tokenBridgeAddress = some text ∧ Address.ofHex text = .ok bridge := by
  rw [bridgeOf]
  cases config.tokenBridgeAddress with
  | none => exact iff_of_false nofun nofun
  | some text =>
      simp only [Option.some.injEq, exists_eq_left']
      cases Address.ofHex text with
      | error fault => exact iff_of_false nofun nofun
      | ok found =>
          rw [Except.ok.injEq, ← Prod.mk.injEq]
          exact Option.some_inj

/-- The bridges are those of the contract-model chains that name one. -/
theorem mem_foreignBridges_iff (h : session.foreignBridges = .ok bridges) :
    (id, bridge) ∈ bridges ↔
      ∃ config ∈ session.chains, config.family = .evm ∧ config.chain = id ∧
        ∃ text, config.tokenBridgeAddress = some text ∧ Address.ofHex text = .ok bridge := by
  rw [Outcome.eq_filterMap_of_filterMapM_eq_ok (f := bridgeOf) h]
  simp only [List.mem_filterMap, bridgeOf_eq_some_iff, List.mem_filter, decide_eq_true_eq,
    and_assoc]

/-- No chain has two bridges, because no two chains have one number. -/
theorem nodup_foreignBridges (hchains : Ascending session.chains)
    (h : session.foreignBridges = .ok bridges) : (bridges.map Prod.fst).Nodup := by
  rw [Outcome.eq_filterMap_of_filterMapM_eq_ok (f := bridgeOf) h]
  refine List.pairwise_map.mpr (List.Pairwise.filterMap _ ?_ (hchains.filter _))
  intro config config' hlt entry hentry entry' hentry'
  obtain ⟨hchain, -⟩ := bridgeOf_eq_some_iff.mp hentry
  obtain ⟨hchain', -⟩ := bridgeOf_eq_some_iff.mp hentry'
  rw [← hchain, ← hchain']
  exact UInt16.ne_of_lt hlt

/-- Bridges that are told one after the other stand before those that were told before, the latest
first. -/
theorem foldl_withForeignBridge (endpoint : Svm.Endpoint) :
    bridges.foldl (fun endpoint (foreign, bridge) => endpoint.withForeignBridge foreign bridge)
        endpoint =
      { endpoint with foreignBridges := bridges.reverse ++ endpoint.foreignBridges } := by
  induction bridges generalizing endpoint with
  | nil => rfl
  | cons first later ih =>
      rw [List.foldl_cons, ih, List.reverse_cons, List.append_assoc]
      rfl

/-- Where no number occurs twice, a bridge is found by its chain's number. -/
theorem lookup_eq_some_iff (h : (bridges.map Prod.fst).Nodup) :
    bridges.lookup id = some bridge ↔ (id, bridge) ∈ bridges := by
  rw [List.lookup_eq_some_iff]
  constructor
  · rintro ⟨before, after, rfl, -⟩
    exact List.mem_append_right _ List.mem_cons_self
  · intro hmem
    obtain ⟨before, after, rfl⟩ := List.append_of_mem hmem
    refine ⟨before, after, rfl, fun entry hentry => ?_⟩
    rw [List.map_append, List.map_cons, List.nodup_middle, List.nodup_cons] at h
    refine bne_iff_ne.mpr fun heq => h.1 (List.mem_append_left _ ?_)
    exact List.mem_map.mpr ⟨entry, hentry, heq.symm⟩

/-! ### Connecting -/

/-- The file with the keys of a family. -/
def keyFile? (session : Session) : ChainFamily → Option String
  | .evm => session.config.keys.evmKeyFile
  | .svm => session.config.keys.svmKeypairFile

/-- Going on with the keys of a family asks for their file before. -/
theorem gives_keyText_bind_iff {α : Type} {family : ChainFamily} {next : String → Job α}
    {result : α} :
    (session.keyText family >>= next).Gives told result ↔
      ∃ path text later, session.keyFile? family = some path ∧
        told = ⟨.fileText path, .ok text⟩ :: later ∧ (next text).Gives later result := by
  have hread : session.keyText family =
      (session.keyFile? family).elim (throw (.keyFileUnset family)) Job.fileText := by
    cases family with
    | evm =>
        rw [keyText, keyFile?]
        cases session.config.keys.evmKeyFile <;> rfl
    | svm =>
        rw [keyText, keyFile?]
        cases session.config.keys.svmKeypairFile <;> rfl
  rw [hread]
  cases session.keyFile? family with
  | none =>
      refine iff_of_false Job.not_gives_throw ?_
      rintro ⟨_, _, _, hpath, -⟩
      contradiction
  | some path =>
      simp only [Option.some.injEq, exists_and_left, exists_eq_left']
      exact Job.gives_fileText_bind_iff

/-- The node of an account-model chain. -/
def svmNode (session : Session) (config : ChainConfig) : Svm.Node :=
  { Svm.Node.ofUrl config.nodeUrl with
    confirmationPollMillis := session.config.transactions.receiptPollMillis.toNat
    confirmationTimeoutMillis := session.config.transactions.confirmationMillis }

/-- The bridges that an endpoint on a chain is told of: none, if it does not send tokens. -/
def bridgesFor (session : Session) (config : ChainConfig) : Outcome (List (ChainId × Address)) :=
  if config.mode = .tokenBridge then session.foreignBridges else .ok []

/-- The connections that a session makes for a chain, with the text of the keys. -/
inductive Connects (session : Session) (config : ChainConfig) (text : String) : Connection → Prop
  | evm {key : Secp256k1Key} {endpoint : Evm.Endpoint} :
      config.family = .evm →
      Secp256k1Key.ofText (Text.trim text) = .ok key →
      Evm.Endpoint.ofConfig config session.config.transactions key.signer = .ok endpoint →
      Connects session config text (.evm endpoint (Evm.Node.ofUrl config.nodeUrl))
  | svm {key : Ed25519Key} {endpoint : Svm.Endpoint} {bridges : List (ChainId × Address)} :
      config.family = .svm →
      Ed25519Key.ofText text = .ok key →
      Svm.Endpoint.ofConfig config key.signer = .ok endpoint →
      session.bridgesFor config = .ok bridges →
      Connects session config text
        (.svm { endpoint with foreignBridges := bridges.reverse ++ endpoint.foreignBridges }
          (session.svmNode config))

/-- Connects the endpoint of a chain that was found, with the text of the keys. -/
def connectWith (session : Session) (config : ChainConfig) (text : String) : Job Connection :=
  match config.family with
  | .evm => do
    let key ← Job.ofOutcome (Outcome.ofSigned (Secp256k1Key.ofText (Text.trim text)))
    let endpoint ← Job.ofOutcome
      (Evm.Endpoint.ofConfig config session.config.transactions key.signer)
    return .evm endpoint (Evm.Node.ofUrl config.nodeUrl)
  | .svm => do
    let key ← Job.ofOutcome (Outcome.ofSigned (Ed25519Key.ofText text))
    let endpoint ← Job.ofOutcome (Svm.Endpoint.ofConfig config key.signer)
    let bridges ← Job.ofOutcome (session.bridgesFor config)
    return .svm { endpoint with foreignBridges := bridges.reverse ++ endpoint.foreignBridges }
      (session.svmNode config)

/-- Connecting asks nothing. -/
theorem gives_connectWith_iff {text : String} {connection : Connection} :
    (session.connectWith config text).Gives told connection ↔
      told = [] ∧ Connects session config text connection := by
  rw [connectWith]
  cases hfamily : config.family with
  | evm =>
      simp only [Job.gives_ofOutcome_bind_iff, Job.gives_pure_iff, Outcome.ofSigned,
        Outcome.mapError_eq_ok_iff]
      constructor
      · rintro ⟨key, hkey, endpoint, hendpoint, rfl, rfl⟩
        exact ⟨rfl, .evm hfamily hkey hendpoint⟩
      · rintro ⟨rfl, hconnects⟩
        cases hconnects with
        | evm _ hkey hendpoint => exact ⟨_, hkey, _, hendpoint, rfl, rfl⟩
        | svm hother =>
            rw [hfamily] at hother
            contradiction
  | svm =>
      simp only [Job.gives_ofOutcome_bind_iff, Job.gives_pure_iff, Outcome.ofSigned,
        Outcome.mapError_eq_ok_iff]
      constructor
      · rintro ⟨key, hkey, endpoint, hendpoint, bridges, hbridges, rfl, rfl⟩
        exact ⟨rfl, .svm hfamily hkey hendpoint hbridges⟩
      · rintro ⟨rfl, hconnects⟩
        cases hconnects with
        | evm hother =>
            rw [hfamily] at hother
            contradiction
        | svm _ hkey hendpoint hbridges => exact ⟨_, hkey, _, hendpoint, _, hbridges, rfl, rfl⟩

/-- A session looks the chain up and reads the keys, and then connects. -/
theorem connect_eq :
    session.connect id = (do
      let config ← Job.ofOutcome (Outcome.ofConfig (find session.chains id))
      let text ← session.keyText config.family
      session.connectWith config text) := by
  refine bind_congr fun config => bind_congr fun text => ?_
  rw [connectWith]
  cases config.family with
  | evm => rfl
  | svm =>
      dsimp only
      refine bind_congr fun key => bind_congr fun endpoint => ?_
      rw [bridgesFor]
      split
      next => simp only [foldl_withForeignBridge]; rfl
      next => rfl

/-- **Which connections a session makes.** The chain has to be found, and the only thing that is
asked for is the file with the keys. -/
theorem gives_connect_iff {connection : Connection} :
    (session.connect id).Gives told connection ↔
      ∃ config, find session.chains id = .ok config ∧ ∃ path text,
        session.keyFile? config.family = some path ∧ told = [⟨.fileText path, .ok text⟩] ∧
        Connects session config text connection := by
  rw [connect_eq]
  simp only [Job.gives_ofOutcome_bind_iff, gives_keyText_bind_iff, gives_connectWith_iff,
    Outcome.ofConfig, Outcome.mapError_eq_ok_iff]
  constructor
  · rintro ⟨config, hfind, path, text, _, hpath, rfl, rfl, hconnects⟩
    exact ⟨config, hfind, path, text, hpath, rfl, hconnects⟩
  · rintro ⟨config, hfind, path, text, hpath, rfl, hconnects⟩
    exact ⟨config, hfind, path, text, [], hpath, rfl, rfl, hconnects⟩

/-! ### Bridges that are known -/

/-- The endpoint of a contract-model chain that sends tokens has its messages published by the
bridge that the chain names. -/
theorem exists_of_connects_evm {text : String} {endpoint : Evm.Endpoint} {node : Client.Node}
    {contract : EvmAddress} (h : Connects session config text (.evm endpoint node))
    (hrole : endpoint.role = .tokens contract) :
    config.family = .evm ∧ endpoint.chain = config.chain ∧
      endpoint.emitter = Address.ofEvm contract ∧
      ∃ text, config.tokenBridgeAddress = some text ∧ EvmAddress.ofHex text = .ok contract := by
  cases h with
  | evm hfamily _ hendpoint =>
      obtain ⟨-, hrole', -, -, hchain, -, -⟩ := evm_ofConfig_eq_ok_iff.mp hendpoint
      rw [hrole, evm_roleOf_eq_tokens_iff] at hrole'
      exact ⟨hfamily, hchain, by rw [Evm.Endpoint.emitter, hrole], hrole'.2⟩

/-- **Which bridges an endpoint is told of**: on an account-model chain, an endpoint that sends
tokens knows the bridges of the contract-model chains that name one. -/
theorem lookup_foreignBridges_iff {text : String} {endpoint : Svm.Endpoint} {node : Svm.Node}
    {program : Svm.TokenIntegration} (hchains : Ascending session.chains)
    (h : Connects session config text (.svm endpoint node))
    (hrole : endpoint.role = .tokens program) :
    endpoint.foreignBridges.lookup id = some bridge ↔
      ∃ config ∈ session.chains, config.family = .evm ∧ config.chain = id ∧
        ∃ text, config.tokenBridgeAddress = some text ∧ Address.ofHex text = .ok bridge := by
  cases h with
  | @svm key made bridges _ _ hmade hbridges =>
      obtain ⟨-, ⟨_, _, -, -, hmode⟩, -, -, hnone⟩ := svm_ofConfig_eq_ok_iff.mp hmade
      rw [show made.role = .tokens program from hrole, svm_roleOf_eq_tokens_iff] at hmode
      have hfound : session.foreignBridges = .ok bridges := by
        rwa [bridgesFor, if_pos hmode.1] at hbridges
      dsimp only
      rw [hnone, List.append_nil, ← mem_foreignBridges_iff hfound, ← List.mem_reverse]
      refine lookup_eq_some_iff ?_
      rw [List.map_reverse, List.nodup_reverse]
      exact nodup_foreignBridges hchains hfound

/-- **One address, wherever it is read.** What is read as a contract-model address is read as its
shared form, from which it can be had again, and which no other address has. An address is read as
it is written, with a mark or without it. So the text with which a chain names its token bridge
names the same bridge to both ends of a session: it publishes the messages of the endpoint on its
own chain, and it is the bridge of that chain that the endpoint on an account-model chain knows. -/
theorem addresses_agree :
    (∀ s e, EvmAddress.ofHex s = .ok e →
      Address.ofHex s = .ok (Address.ofEvm e) ∧ (Address.ofEvm e).evm? = some e) ∧
    (∀ a : Address, Address.ofHex a.toHex = .ok a ∧ Address.ofHex ("0x" ++ a.toHex) = .ok a ∧
      Address.ofHex (toString a) = .ok a) ∧
    (∀ (a : Address) e, a.evm? = some e ↔ a = Address.ofEvm e) ∧
    (∀ e, (Address.ofEvm e).toList = Bytes.zeros 12 ++ e.toList) ∧
    ∀ path loaded session near told endpoint node far told' endpoint' node' contract program,
      (load path).Gives loaded session →
      (session.connect near).Gives told (.evm endpoint node) →
      (session.connect far).Gives told' (.svm endpoint' node') →
      endpoint.role = .tokens contract → endpoint'.role = .tokens program →
      (∃ config ∈ session.chains, config.chain = near ∧
        ∃ text, config.tokenBridgeAddress = some text ∧ EvmAddress.ofHex text = .ok contract ∧
          Address.ofHex text = .ok endpoint.emitter) ∧
      endpoint.chain = near ∧ endpoint.emitter.evm? = some contract ∧
      endpoint'.foreignBridges.lookup near = some endpoint.emitter := by
  refine ⟨fun s e h => ⟨Address.ofHex_of_evm h, Address.evm?_ofEvm e⟩, fun a => ?_,
    fun a e => Address.evm?_eq_some_iff, Address.toList_ofEvm, ?_⟩
  · exact ⟨a.ofHex_toHex, a.ofHex_mark_toHex, a.ofHex_toHex⟩
  · intro path loaded session near told endpoint node far told' endpoint' node' contract program
      hload hnear hfar hrole hrole'
    have hchains := ascending_of_load hload
    obtain ⟨config, hfind, _, _, -, -, hconnects⟩ := gives_connect_iff.mp hnear
    obtain ⟨_, -, _, _, -, -, hconnects'⟩ := gives_connect_iff.mp hfar
    obtain ⟨hconfig, hnumber, -⟩ := (ChainConfig.find_eq_ok_iff hchains).mp hfind
    obtain ⟨hfamily, hchain, hemitter, text, htext, hread⟩ := exists_of_connects_evm hconnects hrole
    have hshared : Address.ofHex text = .ok endpoint.emitter := by
      rw [hemitter, Address.ofHex_of_evm hread]
    refine ⟨⟨config, hconfig, hnumber, text, htext, hread, hshared⟩, hchain.trans hnumber, ?_, ?_⟩
    · rw [hemitter, Address.evm?_ofEvm]
    · exact (lookup_foreignBridges_iff hchains hconnects' hrole').mpr
        ⟨config, hconfig, hfamily, hnumber, text, htext, hshared⟩

/-! ### A session with two ends -/

/-- A text of ones. -/
def ones (n : ℕ) : String := String.ofList (List.replicate n '1')

/-- A bridge, written with a mark, zeros, and letters of either case. -/
def bridgeText : String := "0x00000000000000000000000000000000000000Ff"

/-- The bridge that is written. -/
def nearBridge : EvmAddress := FixedBytes.ofNat 255

/-- The address of a program. It is one for whose accounts few bumps have to be tried. -/
def farProgram : Address := Address.ofNative [56]

/-- The address of the program in base 58. -/
def farText : String := String.ofList (List.replicate 31 '1' ++ ['y'])

/-- A chain that sends tokens. -/
def tokenChain (chain : ChainId) (family : ChainFamily) (program bridge : String) :
    ChainConfig where
  chain := chain
  family := family
  name := ""
  nodeUrl := ""
  coreAddress := program
  programAddress := program
  tokenBridgeAddress := some bridge
  mode := .tokenBridge
  enabled := true

/-- A contract-model chain. -/
def nearChain : ChainConfig := tokenChain 2 .evm (ones 40) bridgeText

/-- An account-model chain, whose programs all have one address. -/
def farChain : ChainConfig := tokenChain 1 .svm farText farText

/-- The programs of a chain, as they stand in a configuration. -/
def programsChars (program bridge : String) : List Char :=
  "'".toList ++ program.toList ++ "','".toList ++ program.toList ++ "','".toList ++ bridge.toList
    ++ "','token_bridge',true]\n".toList

/-- A configuration of the two chains, character by character. -/
def twoEndsChars : List Char :=
  "relay=[['u'],['e','s']]\n[chains.evm]\n".toList ++ "e=[2,'EVM','','',".toList
    ++ programsChars (ones 40) bridgeText ++ "[chains.svm]\ns=[1,'SVM','','',".toList
    ++ programsChars farText farText

/-- The text of the configuration. -/
def twoEnds : String := String.ofList twoEndsChars

/-- The keys for the account-model chain. -/
def keypairText : String :=
  "[5,5,5,5,5,5,5,5,5,5,5,5,5,5,5,5,5,5,5,5,5,5,5,5,5,5,5,5,5,5,5,5," ++
  "110,122,28,221,41,176,183,143,209,58,244,197,89,143,239,244,239,42,151,22," ++
  "110,60,166,242,228,251,252,205,128,80,91,241]"

/-- The session of the configuration. -/
def twoEndsSession : Session where
  config := { RelayConfig.standalone with
    attestation := { RelayConfig.standalone.attestation with baseUrl := "u" }
    keys := ⟨some "e", some "s"⟩ }
  chains := [farChain, nearChain]

/-- The session is loaded. This computes what the configuration says. -/
theorem gives_load_twoEnds : (load "c").Gives [⟨.fileText "c", .ok twoEnds⟩] twoEndsSession := by
  have hread : (Toml.parse? twoEnds).bind Settings.file? = some (twoEndsSession.config,
      [("evm", [("e", nearChain)]), ("svm", [("s", farChain)])]) := by
    rw [Toml.parse?, twoEnds, String.toList_ofList]
    decide +kernel
  have hparse : RelayConfig.parse twoEnds = .ok (twoEndsSession.config, twoEndsSession.chains) :=
    (RelayConfig.parse_eq_ok_iff hread).mpr
      ⟨rfl, RelayConfig.arrange_chainsOf_eq_ok_iff.mpr (by decide +kernel)⟩
  refine Job.gives_ask_bind_iff.mpr ⟨.ok twoEnds, [], rfl, ?_⟩
  exact Job.gives_ofOutcome_bind_iff.mpr ⟨_, Outcome.mapError_eq_ok_iff.mpr hparse,
    Job.gives_pure_iff.mpr ⟨rfl, rfl⟩⟩

/-- The two chains are found. -/
theorem find_twoEnds : find twoEndsSession.chains 2 = .ok nearChain ∧
    find twoEndsSession.chains 1 = .ok farChain := by
  decide

/-- The contract-model chain is connected. -/
theorem exists_gives_connect_near : ∃ endpoint node,
    (connect twoEndsSession 2).Gives [⟨.fileText "e", .ok (ones 64)⟩] (.evm endpoint node) ∧
      endpoint.role = .tokens nearBridge := by
  have hkeys : (Secp256k1Key.ofText (Text.trim (ones 64))).map (fun _ => ()) = .ok () := by
    decide +kernel
  obtain ⟨key, hkey, -⟩ := Outcome.map_eq_ok_iff.mp hkeys
  have hprogram : EvmAddress.ofHex (ones 40) = .ok ⟨List.replicate 20 0x11, rfl⟩ := by
    decide +kernel
  have hbridge : EvmAddress.ofHex bridgeText = .ok nearBridge := by decide +kernel
  let endpoint : Evm.Endpoint :=
    { chain := 2
      role := .tokens nearBridge
      core := ⟨List.replicate 20 0x11, rfl⟩
      program := ⟨List.replicate 20 0x11, rfl⟩
      sender := key.address
      signer := key.signer
      settings := twoEndsSession.config.transactions
      signer_address := Address.evm?_ofEvm key.address }
  have hrole : Evm.Endpoint.roleOf nearChain = .ok endpoint.role :=
    evm_roleOf_eq_tokens_iff.mpr ⟨rfl, bridgeText, rfl, hbridge⟩
  have hendpoint : Evm.Endpoint.ofConfig nearChain twoEndsSession.config.transactions
      key.signer = .ok endpoint :=
    evm_ofConfig_eq_ok_iff.mpr ⟨rfl, hrole, hprogram, hprogram, rfl, rfl, rfl⟩
  exact ⟨endpoint, _, gives_connect_iff.mpr
    ⟨nearChain, find_twoEnds.1, "e", ones 64, rfl, rfl, .evm rfl hkey hendpoint⟩, rfl⟩

/-- The account-model chain is connected. This computes the addresses that its programs own. -/
theorem exists_gives_connect_far : ∃ endpoint node program,
    (connect twoEndsSession 1).Gives [⟨.fileText "s", .ok keypairText⟩] (.svm endpoint node) ∧
      endpoint.role = .tokens program := by
  have hkeys : (Ed25519Key.ofText keypairText).map (fun _ => ()) = .ok () := by decide +kernel
  have hderived : (Svm.TokenIntegration.derive farProgram farProgram farProgram).map
      (fun _ => ()) = .ok () := by decide +kernel
  obtain ⟨key, hkey, -⟩ := Outcome.map_eq_ok_iff.mp hkeys
  obtain ⟨program, hprogram, -⟩ := Outcome.map_eq_ok_iff.mp hderived
  have htext : Address.ofBase58 farText = .ok farProgram := by decide +kernel
  have hrole : Svm.Endpoint.roleOf farChain farProgram farProgram = .ok (.tokens program) :=
    svm_roleOf_eq_tokens_iff.mpr ⟨rfl, farText, farProgram, rfl, htext, hprogram⟩
  have hendpoint : Svm.Endpoint.ofConfig farChain key.signer =
      .ok ⟨1, .tokens program, key.signer, []⟩ :=
    svm_ofConfig_eq_ok_iff.mpr ⟨rfl, ⟨_, _, htext, htext, hrole⟩, rfl, rfl, rfl⟩
  have hbridges : twoEndsSession.bridgesFor farChain = .ok [(2, Address.ofEvm nearBridge)] := by
    decide +kernel
  exact ⟨_, _, program, gives_connect_iff.mpr
    ⟨farChain, find_twoEnds.2, "s", keypairText, rfl, rfl, .svm rfl hkey hendpoint hbridges⟩, rfl⟩

/-- Both ends of the session know the bridge, and so does whoever reads its text or what is printed
of it. -/
theorem addresses_agree_twoEnds : ∃ endpoint node endpoint' node' program,
    (load "c").Gives [⟨.fileText "c", .ok twoEnds⟩] twoEndsSession ∧
    (connect twoEndsSession 2).Gives [⟨.fileText "e", .ok (ones 64)⟩] (.evm endpoint node) ∧
    (connect twoEndsSession 1).Gives [⟨.fileText "s", .ok keypairText⟩] (.svm endpoint' node') ∧
    endpoint.role = .tokens nearBridge ∧ endpoint'.role = .tokens program ∧
    endpoint.emitter.evm? = some nearBridge ∧
    endpoint'.foreignBridges.lookup 2 = some endpoint.emitter ∧
    Address.ofHex bridgeText = .ok endpoint.emitter ∧
    Address.ofHex endpoint.emitter.toHex = .ok endpoint.emitter := by
  obtain ⟨hnarrow, hprinted, hforms, -, hsession⟩ := addresses_agree
  obtain ⟨endpoint, node, hnear, hrole⟩ := exists_gives_connect_near
  obtain ⟨endpoint', node', program, hfar, hrole'⟩ := exists_gives_connect_far
  obtain ⟨-, -, hemitter, hlookup⟩ := hsession _ _ _ _ _ _ _ _ _ _ _ _ _
    gives_load_twoEnds hnear hfar hrole hrole'
  have hread : Address.ofHex bridgeText = .ok (Address.ofEvm nearBridge) :=
    (hnarrow bridgeText nearBridge (by decide +kernel)).1
  refine ⟨endpoint, node, endpoint', node', program, gives_load_twoEnds, hnear, hfar, hrole, hrole',
    hemitter, hlookup, ?_, (hprinted endpoint.emitter).1⟩
  rw [hread, (hforms endpoint.emitter nearBridge).mp hemitter]

end Session

end GuardianRelay.CommandLine
