import GuardianRelay.Proofs.Evm.Registry
import GuardianRelay.Proofs.Retries
import GuardianRelay.Proofs.Svm.Registry

/-!
# Pairings of Endpoints

A pairing asks two endpoints, and each of them drives a chain of its own kind. This module follows
what happens on both chains while attempts to pair are made (`Scene`). What is one exchange of the
pairing is an attempt to register on the chain of a side, or a question about what it holds, with
all that is asked on that chain meanwhile. During an attempt only what it has handed in itself
lands. What attempts that failed have left behind lands between two exchanges, or never.

As far as pairings can see them, such chains are chains that keep what is registered
(`Chains.Pictures`): whatever happens on the one happens on the other. So what is promised of
attempts to pair holds on the chains that the endpoints are on, of either kind (`pair_registers`).

## Main results

* `answers_of_makes`, `answers_of_reads`: how endpoints answer.
* `Scene.Step.pictured`, `Scene.Makes.pictured`: what a step and what an attempt look like.
* `pair_registers`: what an attempt to pair leaves on the two chains, in which nothing fails;
  `pair_registers_bothKinds`: the same between a chain of the one kind and one of the other.
-/

namespace GuardianRelay.Pairing

variable {endpoints : Pair} {remoteChain : ChainId} {remoteAddress : Address}
  {chains next : Chains} {side : Side} {foreign : ChainId} {address : Address}

/-! ### Answers of one endpoint -/

/-- Nothing has changed on the other side. -/
def Chains.AgreeBeside (side : Side) (chains next : Chains) : Prop :=
  ∀ other, other ≠ side → next.held other = chains.held other ∧
    next.handedIn other = chains.handedIn other

theorem Chains.agreeBeside_refl (side : Side) (chains : Chains) : chains.AgreeBeside side chains :=
  fun _ _ => ⟨rfl, rfl⟩

theorem Chains.agreeBeside_handIn : chains.AgreeBeside side (chains.handIn side foreign address) :=
  fun _ hne => ⟨rfl, handedIn_handIn_of_ne hne⟩

theorem Chains.agreeBeside_store :
    chains.AgreeBeside side ((chains.handIn side foreign address).store side foreign address) :=
  fun _ hne => ⟨held_store_of_ne hne, handedIn_handIn_of_ne hne⟩

section Endpoints

variable {I : Interface} {σ : Type} {m : Registering I σ} {ids : Set ChainId}
  {registrar : ChainId → Address → Registrar I} {Holds : σ → (ChainId → Option Address) → Prop}
  {Registers : SignedTransaction → ChainId → Address → Prop} {state later : σ}

/-- **An endpoint that registers answers like this**, on a chain of a kind of which enough is known
(`Registering.Lawful`). What is handed in is what the endpoint hands in, and nothing changes on the
other side. -/
theorem answers_of_makes (law : m.Lawful ids registrar Holds Registers)
    (hside : endpoints.chainOf side = m.chain) {attempt : GuardianRelay.Attempt I}
    (hmakes : m.Makes state attempt later) (hown : m.LandsOwn attempt)
    (hforeign : attempt.foreign ∈ ids) (hholds : Holds state (chains.held side)) :
    ∃ answered landed, Answers endpoints chains
        ⟨.register side attempt.foreign attempt.address, attempt.outcome⟩ answered ∧
      Relation.ReflTransGen Chains.Lands answered landed ∧ Holds later (landed.held side) ∧
      landed.handedIn side = chains.handedIn side ++
        (m.submissions attempt.asked).map (fun _ => (attempt.foreign, attempt.address)) ∧
      chains.AgreeBeside side landed := by
  have hlater := law.holds_of_landsOwn hmakes hown hholds hforeign
  have hquiet (hnone : m.submissions attempt.asked = []) : Holds later (chains.held side) := by
    simpa [hown.landings_eq_nil (List.append_nil _).symm hnone] using hlater
  have hstored (hlands : m.landings attempt.events ≠ []) :
      Holds later (((chains.handIn side attempt.foreign attempt.address).store side
        attempt.foreign attempt.address).held side) := by
    rw [Chains.held_store]
    simpa [hlands] using hlater
  cases law.ends hmakes hown hholds hforeign with
  | invalid hcheck hended hnone =>
      have hsubmissions : m.submissions attempt.asked = [] := by
        rw [hnone]
        rfl
      refine ⟨chains, chains, ?_, .refl, hquiet hsubmissions, by simp [hsubmissions],
        Chains.agreeBeside_refl side chains⟩
      rw [hended]
      exact .rejected (hside ▸ hcheck)
  | refused hcheck hended hnone =>
      refine ⟨chains, chains, ?_, .refl, hquiet hnone, by simp [hnone],
        Chains.agreeBeside_refl side chains⟩
      rw [hended]
      exact .refused (hside ▸ hcheck)
  | unchanged hcheck hheld hended hnone =>
      refine ⟨chains, chains, ?_, .refl, hquiet hnone, by simp [hnone],
        Chains.agreeBeside_refl side chains⟩
      rw [hended]
      exact .unchanged (hside ▸ hcheck) hheld
  | submitted hcheck hheld hended hone hlands =>
      refine ⟨_, _, ?_, .refl, hstored hlands, by simp [hone, Chains.handIn],
        Chains.agreeBeside_store⟩
      rw [hended]
      exact .submitted (hside ▸ hcheck) hheld
  | lost hcheck hheld hended hone =>
      have hanswers : Answers endpoints chains
          ⟨.register side attempt.foreign attempt.address, attempt.outcome⟩
          (chains.handIn side attempt.foreign attempt.address) := by
        rw [hended]
        exact .lost (hside ▸ hcheck) hheld
      -- what was handed in has landed meanwhile, or has not
      by_cases hlands : m.landings attempt.events = []
      · refine ⟨_, _, hanswers, .refl, ?_, by simp [hone, Chains.handIn],
          Chains.agreeBeside_handIn⟩
        simpa [hlands] using hlater
      · have hmem : (attempt.foreign, attempt.address) ∈
            (chains.handIn side attempt.foreign attempt.address).handedIn side := by
          simp [Chains.handIn]
        exact ⟨_, _, hanswers, .single (.land hmem), hstored hlands,
          by simp [hone, Chains.handIn], Chains.agreeBeside_store⟩

/-- What an endpoint reads is answered like this. -/
theorem answers_of_reads (law : m.Lawful ids registrar Holds Registers)
    {asked : List (Exchange I)} {reply : Outcome (Option Address)}
    (hruns : (m.registered foreign).Runs asked reply)
    (hsteps : Steps m.Step state (asked.map .asked) later) (hforeign : foreign ∈ ids)
    (hholds : Holds state (chains.held side)) :
    later = state ∧ Answers endpoints chains ⟨.registered side foreign, reply⟩ chains := by
  obtain ⟨hlater, rfl | ⟨error, -, rfl⟩⟩ := (law.reads hholds hforeign).ends hruns hsteps
  · exact ⟨hlater, .read⟩
  · exact ⟨hlater, .unread⟩

end Endpoints

/-! ### Two endpoints and their chains -/

/-- An endpoint that registers others, on a chain of a kind of which enough is known. -/
structure Registry where
  Question : Interface
  State : Type
  endpoint : Registering Question State
  /-- The chains for which it registers. -/
  ids : Set ChainId
  registrar : ChainId → Address → Registrar Question
  Holds : State → (ChainId → Option Address) → Prop
  Registers : SignedTransaction → ChainId → Address → Prop
  lawful : endpoint.Lawful ids registrar Holds Registers

/-- Endpoints on contract-model chains register for every chain. -/
def Registry.ofEvm (endpoint : Evm.Endpoint) : Registry :=
  ⟨_, _, _, _, _, _, _, endpoint.lawful_registering⟩

/-- Endpoints on account-model chains register for the chains whose accounts are different ones. -/
def Registry.ofSvm {endpoint : Svm.Endpoint} {ids : Set ChainId} {record : ChainId → Address}
    (hseparates : endpoint.Separates ids record) : Registry :=
  ⟨_, _, _, _, _, _, _, Svm.Endpoint.lawful_registering hseparates⟩

variable {registries : Side → Registry}

/-- The chains of both sides, and the transactions that were handed in to them, each with what it was
handed in for. -/
structure Scene (registries : Side → Registry) where
  state : ∀ side, (registries side).State
  handedIn : Side → List (SignedTransaction × ChainId × Address)

namespace Scene

/-- Nothing was ever registered. -/
def empty (registries : Side → Registry) : Scene registries :=
  ⟨fun side => (registries side).endpoint.empty, fun _ => []⟩

/-- A transaction that was handed in lands. -/
inductive Lands : Scene registries → Scene registries → Prop
  | land {scene : Scene registries} {side : Side} {tx : TxId} {signed : SignedTransaction}
      {foreign : ChainId} {address : Address} {later : (registries side).State} :
      (signed, foreign, address) ∈ scene.handedIn side →
      (registries side).endpoint.Step (scene.state side) (.landed tx signed) later →
      Lands scene { scene with state := Function.update scene.state side later }

/-- What an exchange of a pairing is on the chain of its side. -/
inductive Answers : Scene registries → Exchange surroundings → Scene registries → Prop
  /-- The endpoint attempts to register. -/
  | register {scene : Scene registries} {side : Side}
      {attempt : GuardianRelay.Attempt (registries side).Question}
      {later : (registries side).State} :
      attempt.foreign ∈ (registries side).ids →
      (registries side).endpoint.Makes (scene.state side) attempt later →
      (registries side).endpoint.LandsOwn attempt →
      Answers scene ⟨.register side attempt.foreign attempt.address, attempt.outcome⟩
        { state := Function.update scene.state side later
          handedIn := Function.update scene.handedIn side
            (scene.handedIn side ++ ((registries side).endpoint.submissions attempt.asked).map
              fun signed => (signed, attempt.foreign, attempt.address)) }
  /-- The endpoint reads what is held. -/
  | registered {scene : Scene registries} {side : Side} {foreign : ChainId}
      {asked : List (GuardianRelay.Exchange (registries side).Question)}
      {reply : Outcome (Option Address)} {later : (registries side).State} :
      foreign ∈ (registries side).ids →
      ((registries side).endpoint.registered foreign).Runs asked reply →
      Steps (registries side).endpoint.Step (scene.state side) (asked.map .asked) later →
      Answers scene ⟨.registered side foreign, reply⟩
        { scene with state := Function.update scene.state side later }

/-- One step: some transactions land, and an exchange follows. -/
def Step (scene : Scene registries) (x : Exchange surroundings) (later : Scene registries) : Prop :=
  ∃ landed, Relation.ReflTransGen Lands scene landed ∧ landed.Answers x later

/-- An attempt to pair the endpoints is made on their chains. -/
structure Makes (endpoints : Pair) (remoteChain : ChainId) (remoteAddress : Address)
    (scene : Scene registries) (attempt : Attempt) (later : Scene registries) : Prop where
  runs : (pair endpoints remoteChain remoteAddress).Runs attempt.exchanges attempt.outcome
  steps : Steps Step scene attempt.exchanges later

end Scene

/-! ### What pairings see of them -/

variable {scene later : Scene registries} {x : Exchange surroundings}

/-- Two chains show what the endpoints' chains hold, and what was handed in to them. -/
structure Chains.Shows (chains : Chains) (scene : Scene registries) : Prop where
  holds : ∀ side, (registries side).Holds (scene.state side) (chains.held side)
  handedIn : ∀ side, chains.handedIn side = (scene.handedIn side).map Prod.snd
  /-- Every transaction registers what it was handed in for. -/
  registers : ∀ {side signed foreign address}, (signed, foreign, address) ∈ scene.handedIn side →
    foreign ∈ (registries side).ids ∧ address ≠ Address.zero ∧
      (registries side).Registers signed foreign address

/-- Two chains show this when some of what was handed in to them has landed. -/
def Chains.Pictures (chains : Chains) (scene : Scene registries) : Prop :=
  ∃ landed, Relation.ReflTransGen Chains.Lands chains landed ∧ landed.Shows scene

/-- What the chains hold, when the chain of one side has changed. -/
theorem holds_update {state : ∀ side, (registries side).State}
    {held : Side → ChainId → Option Address} {changed : (registries side).State}
    (hside : (registries side).Holds changed (held side))
    (hothers : ∀ other, other ≠ side → (registries other).Holds (state other) (held other)) :
    ∀ other, (registries other).Holds (Function.update state side changed other) (held other) := by
  intro other
  by_cases hother : other = side
  · subst hother
    rw [Function.update_self]
    exact hside
  · rw [Function.update_of_ne hother]
    exact hothers other hother

/-- What lands shows. -/
theorem Chains.Shows.land (h : chains.Shows scene) (hland : Scene.Lands scene later) :
    ∃ landed, Chains.Lands chains landed ∧ landed.Shows later := by
  cases hland with
  | @land side tx signed foreign address changed hmem hstep =>
      obtain ⟨hforeign, haddress, hregisters⟩ := h.registers hmem
      have law := (registries side).lawful
      have hchanged := law.holds_step hstep (h.holds side) fun other hother => by
        obtain rfl := Option.some.inj (law.landing?_landed.symm.trans hother)
        exact ⟨foreign, hforeign, address, haddress, hregisters⟩
      refine ⟨chains.store side foreign address, .land ?_, ?_, h.handedIn, h.registers⟩
      · rw [h.handedIn]
        exact List.mem_map_of_mem hmem
      · refine holds_update ?_ fun other hother => ?_
        · rw [Chains.held_store]
          convert hchanged using 2 with other
          rw [Registering.landed?, law.landing?_landed, Option.bind_some,
            law.carried?_eq hregisters, Option.bind_some]
          by_cases hchain : foreign = other <;> simp [hchain]
        · rw [Chains.held_store_of_ne hother]
          exact h.holds other

/-- What lands meanwhile shows. -/
theorem Chains.Shows.lands (h : chains.Shows scene)
    (hlands : Relation.ReflTransGen Scene.Lands scene later) :
    ∃ landed, Relation.ReflTransGen Chains.Lands chains landed ∧ landed.Shows later := by
  induction hlands with
  | refl => exact ⟨chains, .refl, h⟩
  | tail _ hland ih =>
      obtain ⟨middle, hmiddle, hshows⟩ := ih
      obtain ⟨landed, hlanded, hshows'⟩ := hshows.land hland
      exact ⟨landed, hmiddle.tail hlanded, hshows'⟩

/-- What an exchange comes to shows, when what it handed in has landed. -/
theorem Chains.Shows.answer
    (hchains : ∀ side, endpoints.chainOf side = (registries side).endpoint.chain)
    (h : chains.Shows scene) (hanswers : scene.Answers x later) :
    ∃ answered, Answers endpoints chains x answered ∧ answered.Pictures later := by
  cases hanswers with
  | @register side attempt changed hforeign hmakes hown =>
      have law := (registries side).lawful
      obtain ⟨answered, landed, hanswered, hlands, hholds, hhanded, hbeside⟩ :=
        answers_of_makes law (hchains side) hmakes hown hforeign (h.holds side)
      refine ⟨answered, hanswered, landed, hlands, ?_, fun other => ?_, ?_⟩
      · exact holds_update hholds fun other hother => (hbeside other hother).1 ▸ h.holds other
      · by_cases hother : other = side
        · subst hother
          simp [hhanded, h.handedIn, Function.comp_def]
        · simp [Function.update_of_ne hother, (hbeside other hother).2, h.handedIn]
      · intro other signed foreign address hmem
        by_cases hother : other = side
        · subst hother
          simp only [Function.update_self, List.mem_append, List.mem_map, Prod.mk.injEq] at hmem
          obtain hmem | ⟨signed, hsigned, rfl, rfl, rfl⟩ := hmem
          · exact h.registers hmem
          · exact ⟨hforeign, law.registers_of_mem_submissions hmakes hsigned⟩
        · simp only [Function.update_of_ne hother] at hmem
          exact h.registers hmem
  | @registered side foreign asked reply changed hforeign hruns hsteps =>
      obtain ⟨rfl, hanswered⟩ : changed = scene.state side ∧
          Answers endpoints chains ⟨.registered side foreign, reply⟩ chains :=
        answers_of_reads (registries side).lawful hruns hsteps hforeign (h.holds side)
      refine ⟨chains, hanswered, chains, .refl, ?_⟩
      rw [Function.update_eq_self]
      exact h

/-- **A step on the endpoints' chains** is one on the chains that picture them. -/
theorem Scene.Step.pictured
    (hchains : ∀ side, endpoints.chainOf side = (registries side).endpoint.chain)
    (h : scene.Step x later) (hpictures : chains.Pictures scene) :
    ∃ answered, Pairing.Step endpoints chains x answered ∧ answered.Pictures later := by
  obtain ⟨landed, hlands, hshows⟩ := hpictures
  obtain ⟨middle, hmiddle, hanswers⟩ := h
  obtain ⟨before, hbefore, hshows⟩ := hshows.lands hmiddle
  obtain ⟨answered, hanswered, hafter⟩ := hshows.answer hchains hanswers
  exact ⟨answered, ⟨before, hlands.trans hbefore, hanswered⟩, hafter⟩

/-- **An attempt on the endpoints' chains** is one on the chains that picture them. -/
theorem Scene.Makes.pictured
    (hchains : ∀ side, endpoints.chainOf side = (registries side).endpoint.chain)
    {attempt : Attempt} (h : Scene.Makes endpoints remoteChain remoteAddress scene attempt later)
    (hpictures : chains.Pictures scene) :
    ∃ answered, Pairing.Makes endpoints remoteChain remoteAddress chains attempt answered ∧
      answered.Pictures later := by
  obtain ⟨answered, hsteps, hlater⟩ := h.steps.simulates
    (R := fun (scene : Scene registries) (chains : Chains) => chains.Pictures scene)
    (fun hstep hpictures => hstep.pictured hchains hpictures) hpictures
  exact ⟨answered, ⟨h.runs, hsteps⟩, hlater⟩

/-! ### What a pairing leaves -/

/-- Chains on which nothing was ever registered picture the beginning. -/
theorem Chains.shows_empty :
    nothing.Shows (Scene.empty registries) where
  holds side := (registries side).lawful.holds_empty
  handedIn _ := rfl
  registers hmem := absurd hmem List.not_mem_nil

/-- **What a pairing leaves on the chains of two endpoints.** After any attempts, of which each may
have failed anywhere, an attempt in which nothing fails succeeds. Each endpoint reads on its chain
the address of the other one, and on a chain where it read this before nothing was handed in. -/
theorem pair_registers
    (hchains : ∀ side, endpoints.chainOf side = (registries side).endpoint.chain)
    (hchain : endpoints.remoteChain = remoteChain) (haddress : endpoints.address = .ok address)
    {attempts : List Attempt} {attempt : Attempt}
    (hattempts : Steps (Scene.Makes endpoints remoteChain remoteAddress) (.empty registries)
      attempts scene)
    (hmakes : Scene.Makes endpoints remoteChain remoteAddress scene attempt later)
    (hanswered : ∀ x ∈ attempt.exchanges, failure? x = none) :
    (∃ registrations, attempt.outcome = .ok registrations) ∧
    ∀ side foreign wanted, endpoints.Wants remoteAddress side foreign wanted →
      foreign ∈ (registries side).ids →
      (registries side).endpoint.Reads (later.state side) foreign (some wanted) ∧
        ((registries side).endpoint.Reads (scene.state side) foreign (some wanted) →
          (later.handedIn side).length = (scene.handedIn side).length) := by
  have hempty : nothing.Clean endpoints remoteAddress :=
    fun _ _ _ hmem => absurd hmem List.not_mem_nil
  obtain ⟨tried, htried, before, hbefore, hshows⟩ := hattempts.simulates
    (R := fun (scene : Scene registries) (chains : Chains) => chains.Pictures scene)
    (fun hstep hpictures => hstep.pictured hchains hpictures) ⟨_, .refl, Chains.shows_empty⟩
  have hclean := (leads_of_lands (leads_of_attempts htried hempty).clean hbefore).clean
  -- what is handed in before the attempt may have landed when it begins
  obtain ⟨done, hdone, after, hafter, hshows'⟩ := hmakes.pictured hchains ⟨before, .refl, hshows⟩
  have hleads := hdone.leads hclean
  have hlate := leads_of_lands hleads.clean hafter
  obtain ⟨registrations, houtcome, -⟩ := hdone.completes hclean hchain haddress hanswered
  refine ⟨⟨registrations, houtcome⟩, fun side foreign wanted hwants hforeign => ?_⟩
  have hheld : done.held side foreign = some wanted :=
    hdone.held_of_wants hclean hchain haddress hanswered hwants
  have law := (registries side).lawful
  refine ⟨?_, fun hreads => ?_⟩
  · rw [← (hlate.held_and_handedIn hwants hheld).1]
    exact law.reads (hshows'.holds side) hforeign
  · have hheldBefore : before.held side foreign = some wanted :=
      (law.reads (hshows.holds side) hforeign).unique hreads
    have hsame : after.handedIn side = before.handedIn side :=
      (hlate.held_and_handedIn hwants hheld).2.trans
        (hleads.held_and_handedIn hwants hheldBefore).2
    rw [hshows'.handedIn, hshows.handedIn] at hsame
    simpa using congrArg List.length hsame

/-- An endpoint on an account-model chain that pairing starts from, and one on a contract-model
chain. -/
def bothKinds (evm : Evm.Endpoint) {svm : Svm.Endpoint} {ids : Set ChainId}
    {record : ChainId → Address} (hseparates : svm.Separates ids record) : Side → Registry
  | .here => .ofSvm hseparates
  | .remote => .ofEvm evm

/-- **What a pairing leaves between the two kinds of chains**: each endpoint reads the address of the
other one. -/
theorem pair_registers_bothKinds (evm : Evm.Endpoint) {svm : Svm.Endpoint} {ids : Set ChainId}
    {record : ChainId → Address} (hseparates : svm.Separates ids record)
    (hforeign : evm.chain ∈ ids) {attempts : List Attempt} {attempt : Attempt}
    {scene later : Scene (bothKinds evm hseparates)}
    (hattempts : Steps
      (Scene.Makes ⟨svm.chain, .ok svm.address, evm.chain⟩ evm.chain evm.address) (.empty _)
      attempts scene)
    (hmakes : Scene.Makes ⟨svm.chain, .ok svm.address, evm.chain⟩ evm.chain evm.address scene
      attempt later)
    (hanswered : ∀ x ∈ attempt.exchanges, failure? x = none) :
    (∃ registrations, attempt.outcome = .ok registrations) ∧
    svm.registering.Reads (later.state .here) evm.chain (some evm.address) ∧
    evm.registering.Reads (later.state .remote) svm.chain (some svm.address) := by
  obtain ⟨hok, hleft⟩ := pair_registers (fun side => by cases side <;> rfl) rfl rfl hattempts
    hmakes hanswered
  exact ⟨hok, (hleft .here _ _ ⟨rfl, rfl⟩ hforeign).1,
    (hleft .remote _ _ ⟨rfl, rfl⟩ (Set.mem_univ svm.chain)).1⟩

end GuardianRelay.Pairing
