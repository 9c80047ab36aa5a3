import GuardianRelay.Proofs.Evm.Redemption
import Mathlib.Data.Finset.Insert

/-!
# Races for Attestations

Any number of redemptions, of any number of endpoints, drive one contract at the same time. This
module models the chain on which they meet: which digests are redeemed, and what became of the
transactions that were handed in. A node answers from the state of the chain; a transaction that
delivers an attestation succeeds when it is mined exactly if its digest is not redeemed yet, and
redeems it. The steps of the redemptions and of the chain follow each other in any order
(`Race`).

Whoever comes second learns it in one of four ways, depending on when the first one's transaction
was mined: before the first probe, before the simulation, before the second one's transaction was
mined (which then fails, without a reason), or before the probe after that. In each of them the
redemption says that the attestation was redeemed already.

A node takes a transaction once: each one that is taken has a name of its own. Two endpoints that
share an account may sign the same transaction; the node refuses it the second time, which is a
failure of another kind.

## Main results

* `Chain.Step.grows`, `Chain.Step.sound`: what one step keeps, `Race.grows`, `Race.sound`: what a
  whole race keeps.
* `Race.settles`: what a redemption in a race ends with.
* `race_settles`: at most one redemption of a digest succeeds, every other one says that it was
  redeemed already, and it is.
-/

namespace GuardianRelay.Evm

/-! ### Deliveries as the contract reads them -/

namespace Contract

/-- The signature of the function that redeems. -/
def deliverySignature (contract : Contract) : String := (contract.deliveryCall []).signature

/-- The digest of the attestation that a call with this target and this data delivers, if it is a
delivery to the contract. -/
def delivered? (contract : Contract) (target : Address) (data : Bytes) : Option Hash256 :=
  if target = Address.ofEvm contract.address ∧
      data.take selectorLength = selector contract.deliverySignature then
    (Call.bytes? data).bind fun b => (Attestation.decode b).toOption.map Attestation.digest
  else none

/-- A delivery delivers the attestation that was written. -/
theorem delivered?_deliveryCall (contract : Contract) {a : Attestation} {encoded : Bytes}
    (hencode : a.encode = .ok encoded) (hfits : a.encodedLength < 256 ^ wordLength) :
    contract.delivered? (Address.ofEvm contract.address)
      (contract.deliveryCall encoded).encode = some a.digest := by
  have hsignature : (contract.deliveryCall encoded).signature = contract.deliverySignature := by
    rw [deliverySignature, deliveryCall, deliveryCall]
    cases contract.role <;> rfl
  have hlength : encoded.length < 256 ^ wordLength := by
    obtain ⟨-, rfl⟩ := Attestation.encode_eq_ok_iff.mp hencode
    exact a.length_written ▸ hfits
  have hbytes := Call.bytes?_encode (contract.arguments_deliveryCall encoded) hlength
  have hdecode := Attestation.decode_eq_ok_iff_encode.mpr hencode
  rw [delivered?, Call.selector_encode, hsignature, if_pos ⟨rfl, rfl⟩, hbytes]
  simp [hdecode, Except.toOption]

end Contract

/-! ### The chain -/

/-- What a chain knows of a transaction that was handed in. -/
structure Entry where
  /-- The digest of the attestation that it delivers, if it is a delivery. -/
  delivers : Option Hash256
  /-- Whether it succeeded, once it is mined. -/
  status : Option Bool

/-- The state of a chain, as far as redemptions can see it. -/
structure Chain where
  /-- The digests of the attestations that the contract has redeemed. -/
  redeemed : Finset Hash256
  /-- The transactions that were handed in. -/
  entries : TxId → Option Entry

/-- What happens: a redemption asks something and is answered, or a transaction is mined. -/
inductive Event (ι : Type) where
  | asked (caller : ι) (exchange : Exchange surroundings)
  | mined (tx : TxId)

namespace Chain

/-- A chain on which no transaction waits. -/
def idle (redeemed : Finset Hash256) : Chain := ⟨redeemed, fun _ => none⟩

/-- The chain with what became of a transaction. -/
def record (chain : Chain) (tx : TxId) (entry : Entry) : Chain :=
  { chain with entries := Function.update chain.entries tx (some entry) }

/-- A delivery is mined: it succeeds exactly if the digest is not redeemed, which it then is. -/
def deliver (chain : Chain) (tx : TxId) (digest : Hash256) : Chain where
  redeemed := insert digest chain.redeemed
  entries := (chain.record tx ⟨some digest, some (decide (digest ∉ chain.redeemed))⟩).entries

/-- An exchange in which a node answers from the state of the chain. Probes are answered with
what is redeemed; the simulation of a delivery is refused, for whatever reason the node gives,
exactly if the digest is redeemed; receipts are there for the transactions that are mined. Other
questions may be answered in any way. -/
def Answers (contract : Contract) (chain : Chain) : Exchange surroundings → Prop
  | ⟨.node (.call target data), reply⟩ =>
    ∀ digest, target = contract.recorder → data = (contract.recordCall digest).encode →
      Endpoint.found reply = .ok (decide (digest ∈ chain.redeemed))
  | ⟨.node (.estimateGas _ target data _), reply⟩ =>
    ∀ digest, contract.delivered? (Address.ofEvm target) data = some digest →
      if digest ∈ chain.redeemed then ∃ error, reply = .error error else ∃ gas, reply = .ok gas
  | ⟨.node (.receipt tx), reply⟩ =>
    match (chain.entries tx).bind Entry.status with
    | none => reply = .ok none
    | some succeeded => ∃ receipt : Receipt, reply = .ok (some receipt) ∧ receipt.hash = tx ∧
        receipt.succeeded = succeeded
  | _ => True

/-- One step of a race. -/
inductive Step {ι : Type} (contract : Contract) : Chain → Event ι → Chain → Prop
  /-- Something is asked that hands nothing in. -/
  | asked {chain : Chain} {caller : ι} {x : Exchange surroundings} :
      submission? x = none →
      chain.Answers contract x →
      Step contract chain (.asked caller x) chain
  /-- A transaction is taken, under a name of its own. -/
  | taken {chain : Chain} {caller : ι} {signed : SignedTransaction} {tx : TxId} :
      chain.entries tx = none →
      Step contract chain (.asked caller ⟨.node (.submit signed), .ok tx⟩)
        (chain.record tx
          ⟨contract.delivered? signed.transaction.target signed.transaction.data, none⟩)
  /-- A transaction is not taken. -/
  | refused {chain : Chain} {caller : ι} (signed : SignedTransaction) (error : RelayError) :
      Step contract chain (.asked caller ⟨.node (.submit signed), .error error⟩) chain
  /-- A delivery is mined. -/
  | delivered {chain : Chain} {tx : TxId} {digest : Hash256} :
      chain.entries tx = some ⟨some digest, none⟩ →
      Step contract chain (.mined tx) (chain.deliver tx digest)
  /-- A transaction is mined that delivers nothing. -/
  | other {chain : Chain} {tx : TxId} (succeeded : Bool) :
      chain.entries tx = some ⟨none, none⟩ →
      Step contract chain (.mined tx) (chain.record tx ⟨none, some succeeded⟩)

end Chain

/-- A race: steps that follow each other. -/
inductive Race {ι : Type} (contract : Contract) : Chain → List (Event ι) → Chain → Prop
  | nil (chain : Chain) : Race contract chain [] chain
  | cons {start next finish : Chain} {event : Event ι} {events : List (Event ι)} :
      start.Step contract event next →
      Race contract next events finish →
      Race contract start (event :: events) finish

variable {ι : Type} {contract : Contract}

/-! ### What a step keeps -/

/-- What never gets lost: redeemed digests stay redeemed, and a transaction that was taken keeps
what it delivers, and what became of it. -/
structure Chain.Grows (chain later : Chain) : Prop where
  redeemed : chain.redeemed ⊆ later.redeemed
  entries : ∀ tx entry, chain.entries tx = some entry → ∃ entry', later.entries tx = some entry' ∧
    entry'.delivers = entry.delivers ∧
      ∀ succeeded, entry.status = some succeeded → entry'.status = some succeeded

/-- Deliveries that are mined have their digests redeemed, and at most one of a digest has
succeeded. -/
structure Chain.Sound (chain : Chain) : Prop where
  redeemed : ∀ tx digest succeeded, chain.entries tx = some ⟨some digest, some succeeded⟩ →
    digest ∈ chain.redeemed
  unique : ∀ tx tx' digest, chain.entries tx = some ⟨some digest, some true⟩ →
    chain.entries tx' = some ⟨some digest, some true⟩ → tx = tx'

namespace Chain

theorem Grows.refl (chain : Chain) : chain.Grows chain where
  redeemed := Finset.Subset.refl _
  entries _ entry h := ⟨entry, h, rfl, fun _ hstatus => hstatus⟩

theorem Grows.trans {chain next later : Chain} (h : chain.Grows next) (h' : next.Grows later) :
    chain.Grows later where
  redeemed := h.redeemed.trans h'.redeemed
  entries tx entry hentry := by
    obtain ⟨entry', hentry', hdelivers, hstatus⟩ := h.entries tx entry hentry
    obtain ⟨entry'', hentry'', hdelivers', hstatus'⟩ := h'.entries tx entry' hentry'
    exact ⟨entry'', hentry'', hdelivers'.trans hdelivers,
      fun succeeded hs => hstatus' succeeded (hstatus succeeded hs)⟩

/-- What became of a transaction is recorded for good. -/
theorem Grows.entries_mined {chain later : Chain} (h : chain.Grows later) {tx : TxId}
    {delivers : Option Hash256} {succeeded : Bool}
    (hentry : chain.entries tx = some ⟨delivers, some succeeded⟩) :
    later.entries tx = some ⟨delivers, some succeeded⟩ := by
  obtain ⟨⟨delivers', status'⟩, hentry', hdelivers, hstatus⟩ := h.entries tx _ hentry
  obtain rfl : delivers' = delivers := hdelivers
  obtain rfl : status' = some succeeded := hstatus succeeded rfl
  exact hentry'

/-- A chain without transactions is sound, whatever is redeemed on it. -/
theorem sound_idle (redeemed : Finset Hash256) : (idle redeemed).Sound where
  redeemed := nofun
  unique := nofun

/-- What a record changes, and what it leaves. -/
theorem entries_record_eq_some_iff {chain : Chain} {tx tx' : TxId} {entry entry' : Entry} :
    (chain.record tx entry).entries tx' = some entry' ↔
      (tx' = tx ∧ entry = entry') ∨ (tx' ≠ tx ∧ chain.entries tx' = some entry') := by
  by_cases htx : tx' = tx
  · subst htx
    simp [record]
  · simp [record, htx]

/-- Recording what becomes of a transaction that waits loses nothing. -/
theorem grows_record {chain : Chain} {tx : TxId} {entry : Entry}
    (h : ∀ old, chain.entries tx = some old → old.status = none ∧ entry.delivers = old.delivers) :
    chain.Grows (chain.record tx entry) where
  redeemed := Finset.Subset.refl _
  entries tx' old hold := by
    by_cases htx : tx' = tx
    · subst htx
      obtain ⟨hwaiting, hdelivers⟩ := h old hold
      exact ⟨entry, by simp [record], hdelivers, by simp [hwaiting]⟩
    · exact ⟨old, by simp [record, htx, hold], rfl, fun _ hstatus => hstatus⟩

/-- A step loses nothing. -/
theorem Step.grows {chain next : Chain} {event : Event ι} (h : chain.Step contract event next) :
    chain.Grows next := by
  cases h with
  | asked | refused => exact .refl _
  | taken hfresh => exact grows_record fun old hold => by simp [hfresh] at hold
  | @delivered tx digest hwaiting =>
      have hrecord : chain.Grows
          (chain.record tx ⟨some digest, some (decide (digest ∉ chain.redeemed))⟩) :=
        grows_record fun old hold => by
          obtain rfl := Option.some.inj (hwaiting.symm.trans hold)
          exact ⟨rfl, rfl⟩
      exact ⟨Finset.subset_insert _ _, hrecord.entries⟩
  | other succeeded hwaiting =>
      exact grows_record fun old hold => by
        obtain rfl := Option.some.inj (hwaiting.symm.trans hold)
        exact ⟨rfl, rfl⟩

/-- Recording anything but a delivery that is mined keeps a chain sound. -/
theorem Sound.record {chain : Chain} (hsound : chain.Sound) {tx : TxId} {entry : Entry}
    (hentry : ∀ digest succeeded, entry ≠ ⟨some digest, some succeeded⟩) :
    (chain.record tx entry).Sound := by
  have hold : ∀ {tx' digest succeeded},
      (chain.record tx entry).entries tx' = some ⟨some digest, some succeeded⟩ →
      chain.entries tx' = some ⟨some digest, some succeeded⟩ := by
    intro tx' digest succeeded h
    obtain ⟨-, heq⟩ | ⟨-, hold⟩ := entries_record_eq_some_iff.mp h
    · exact absurd heq (hentry digest succeeded)
    · exact hold
  exact
    { redeemed := fun tx' digest succeeded h => hsound.redeemed tx' digest succeeded (hold h)
      unique := fun tx₁ tx₂ digest h₁ h₂ => hsound.unique tx₁ tx₂ digest (hold h₁) (hold h₂) }

/-- A delivery that is mined keeps a chain sound: it only succeeds if no other one of its digest
has. -/
theorem Sound.deliver {chain : Chain} (hsound : chain.Sound) (tx : TxId) (digest : Hash256) :
    (chain.deliver tx digest).Sound := by
  have hfirst : ∀ {tx'}, chain.entries tx' = some ⟨some digest, some true⟩ →
      ¬ (digest ∉ chain.redeemed) :=
    fun hold => not_not.mpr (hsound.redeemed _ _ _ hold)
  constructor
  · intro tx' digest' succeeded hentry
    obtain ⟨-, heq⟩ | ⟨-, hold⟩ := entries_record_eq_some_iff.mp hentry
    · obtain rfl := Option.some.inj (Entry.mk.inj heq).1
      exact Finset.mem_insert_self _ _
    · exact Finset.mem_insert_of_mem (hsound.redeemed tx' digest' succeeded hold)
  · intro tx₁ tx₂ digest' h₁ h₂
    obtain ⟨rfl, heq₁⟩ | ⟨-, hold₁⟩ := entries_record_eq_some_iff.mp h₁ <;>
      obtain ⟨rfl, heq₂⟩ | ⟨-, hold₂⟩ := entries_record_eq_some_iff.mp h₂
    · rfl
    · obtain ⟨hdigest, hstatus⟩ := Entry.mk.inj heq₁
      obtain rfl := Option.some.inj hdigest
      exact absurd (of_decide_eq_true (Option.some.inj hstatus)) (hfirst hold₂)
    · obtain ⟨hdigest, hstatus⟩ := Entry.mk.inj heq₂
      obtain rfl := Option.some.inj hdigest
      exact absurd (of_decide_eq_true (Option.some.inj hstatus)) (hfirst hold₁)
    · exact hsound.unique tx₁ tx₂ digest' hold₁ hold₂

/-- A step keeps a chain sound. -/
theorem Step.sound {chain next : Chain} {event : Event ι} (h : chain.Step contract event next)
    (hsound : chain.Sound) : next.Sound := by
  cases h with
  | asked | refused => exact hsound
  | taken => exact hsound.record fun _ _ => by simp
  | delivered => exact hsound.deliver _ _
  | other => exact hsound.record nofun

/-- A probe is answered from the state of the chain if the answer is whether the digest is
redeemed. -/
theorem answers_probe_iff {chain : Chain} {endpoint : Endpoint} {a : Attestation}
    {reply : Outcome Bytes} :
    chain.Answers endpoint.contract (endpoint.probe a reply) ↔
      Endpoint.found reply = .ok (decide (a.digest ∈ chain.redeemed)) := by
  constructor
  · intro h
    exact h a.digest rfl rfl
  · intro h digest _ hdata
    obtain rfl := endpoint.contract.encode_recordCall_inj hdata
    exact h

/-- A receipt that says what is recorded is an answer from the state of the chain. -/
theorem answers_receipt {chain : Chain} {receipt : Receipt} {delivers : Option Hash256}
    (h : chain.entries receipt.hash = some ⟨delivers, some receipt.succeeded⟩) :
    chain.Answers contract ⟨.node (.receipt receipt.hash), .ok (some receipt)⟩ := by
  rw [Answers, h]
  exact ⟨receipt, rfl, rfl, rfl⟩

/-- A question that hands nothing in is answered from the state of the chain, and leaves it. -/
theorem Step.of_asked {chain next : Chain} {caller : ι} {x : Exchange surroundings}
    (h : chain.Step contract (.asked caller x) next) (hx : submission? x = none) :
    next = chain ∧ chain.Answers contract x := by
  cases h with
  | asked _ hanswers => exact ⟨rfl, hanswers⟩
  | taken | refused => contradiction

/-- A transaction that was taken had a new name, and is recorded. -/
theorem Step.of_taken {chain next : Chain} {caller : ι} {signed : SignedTransaction} {tx : TxId}
    (h : chain.Step contract (.asked caller ⟨.node (.submit signed), .ok tx⟩) next) :
    chain.entries tx = none ∧ next.entries tx =
      some ⟨contract.delivered? signed.transaction.target signed.transaction.data, none⟩ := by
  cases h with
  | asked hx => contradiction
  | taken hfresh => exact ⟨hfresh, by simp [record]⟩

end Chain

/-! ### What a race keeps -/

namespace Race

variable {start finish : Chain} {events : List (Event ι)}

/-- A race loses nothing. -/
theorem grows (h : Race contract start events finish) : start.Grows finish := by
  induction h with
  | nil chain => exact .refl chain
  | cons hstep _ ih => exact hstep.grows.trans ih

/-- A race keeps a chain sound. -/
theorem sound (h : Race contract start events finish) (hsound : start.Sound) : finish.Sound := by
  induction h with
  | nil => exact hsound
  | cons hstep _ ih => exact ih (hstep.sound hsound)

/-- A race in two parts. -/
theorem append_iff {first second : List (Event ι)} :
    Race contract start (first ++ second) finish ↔
      ∃ middle, Race contract start first middle ∧ Race contract middle second finish := by
  induction first generalizing start with
  | nil =>
      constructor
      · intro h
        exact ⟨start, .nil start, h⟩
      · rintro ⟨_, ⟨⟩, h⟩
        exact h
  | cons event first ih =>
      constructor
      · rintro (_ | ⟨hstep, h⟩)
        obtain ⟨middle, hfirst, hsecond⟩ := ih.mp h
        exact ⟨middle, .cons hstep hfirst, hsecond⟩
      · rintro ⟨middle, _ | ⟨hstep, hfirst⟩, hsecond⟩
        exact .cons hstep (ih.mpr ⟨middle, hfirst, hsecond⟩)

/-- What happened is a step from a state that the race had come to. -/
theorem exists_step_of_mem {event : Event ι} (h : Race contract start events finish)
    (hmem : event ∈ events) : ∃ chain next, start.Grows chain ∧
      chain.Step contract event next ∧ next.Grows finish := by
  obtain ⟨before, after, rfl⟩ := List.append_of_mem hmem
  obtain ⟨chain, hbefore, _ | ⟨hstep, hafter⟩⟩ := append_iff.mp h
  exact ⟨chain, _, hbefore.grows, hstep, hafter.grows⟩

/-! ### What was answered in a race -/

/-- A transaction that was taken is recorded at the end. -/
theorem delivers_of_taken {caller : ι} {signed : SignedTransaction} {tx : TxId}
    (h : Race contract start events finish)
    (hmem : .asked caller ⟨.node (.submit signed), .ok tx⟩ ∈ events) :
    ∃ entry, finish.entries tx = some entry ∧ entry.delivers =
      contract.delivered? signed.transaction.target signed.transaction.data := by
  obtain ⟨chain, next, -, hstep, hgrows⟩ := h.exists_step_of_mem hmem
  obtain ⟨entry, hentry, hdelivers, -⟩ := hgrows.entries tx _ hstep.of_taken.2
  exact ⟨entry, hentry, hdelivers⟩

/-- A name that is in use is not given again. -/
theorem not_taken_of_entries {tx : TxId} {entry : Entry} (h : Race contract start events finish)
    (hentry : start.entries tx = some entry) (caller : ι) (signed : SignedTransaction) :
    .asked caller ⟨.node (.submit signed), .ok tx⟩ ∉ events := by
  intro hmem
  obtain ⟨chain, next, hgrows, hstep, -⟩ := h.exists_step_of_mem hmem
  obtain ⟨entry', hentry', -⟩ := hgrows.entries tx entry hentry
  rw [hstep.of_taken.1] at hentry'
  contradiction

/-- A name is given to one redemption only. -/
theorem caller_unique {caller caller' : ι} {signed signed' : SignedTransaction} {tx : TxId}
    (h : Race contract start events finish)
    (hmem : .asked caller ⟨.node (.submit signed), .ok tx⟩ ∈ events)
    (hmem' : .asked caller' ⟨.node (.submit signed'), .ok tx⟩ ∈ events) : caller = caller' := by
  induction h with
  | nil => contradiction
  | cons hstep hlater ih =>
      obtain rfl | hlate := List.mem_cons.mp hmem
      · obtain heq | hlate' := List.mem_cons.mp hmem'
        · exact (Event.asked.inj heq).1.symm
        · exact absurd hlate' (hlater.not_taken_of_entries hstep.of_taken.2 _ _)
      · obtain rfl | hlate' := List.mem_cons.mp hmem'
        · exact absurd hlate (hlater.not_taken_of_entries hstep.of_taken.2 _ _)
        · exact ih hlate hlate'

/-- A receipt that was given says what is recorded of the transaction. -/
theorem status_of_receipt {caller : ι} {tx : TxId} {receipt : Receipt}
    (h : Race contract start events finish)
    (hmem : .asked caller ⟨.node (.receipt tx), .ok (some receipt)⟩ ∈ events) :
    receipt.hash = tx ∧ ∃ entry, finish.entries tx = some entry ∧
      entry.status = some receipt.succeeded := by
  obtain ⟨chain, _, -, hstep, hgrows⟩ := h.exists_step_of_mem hmem
  obtain ⟨rfl, hanswers⟩ := hstep.of_asked rfl
  rw [Chain.Answers] at hanswers
  split at hanswers
  next => cases Except.ok.inj hanswers
  next succeeded hstatus =>
    obtain ⟨receipt', hreceipt, hhash, rfl⟩ := hanswers
    obtain rfl := Option.some.inj (Except.ok.inj hreceipt)
    obtain ⟨entry, hentry, hsome⟩ := Option.bind_eq_some_iff.mp hstatus
    obtain ⟨entry', hentry', -, hkept⟩ := hgrows.entries tx entry hentry
    exact ⟨hhash, entry', hentry', hkept _ hsome⟩

/-- A probe finds out what was redeemed at its time. -/
theorem found_of_probe {caller : ι} {endpoint : Endpoint} {a : Attestation}
    {reply : Outcome Bytes} (h : Race contract start events finish)
    (hcontract : endpoint.contract = contract)
    (hmem : .asked caller (endpoint.probe a reply) ∈ events) :
    ∃ chain, start.Grows chain ∧ chain.Grows finish ∧
      Endpoint.found reply = .ok (decide (a.digest ∈ chain.redeemed)) := by
  subst hcontract
  obtain ⟨chain, _, hbefore, hstep, hgrows⟩ := h.exists_step_of_mem hmem
  obtain ⟨rfl, hanswers⟩ := hstep.of_asked rfl
  exact ⟨_, hbefore, hgrows, Chain.answers_probe_iff.mp hanswers⟩

/-- The simulation of a delivery is only refused if the digest is redeemed. -/
theorem redeemed_of_refusal {caller : ι} {sender target : EvmAddress} {data : Bytes}
    {value : ℕ} {error : RelayError} {digest : Hash256} (h : Race contract start events finish)
    (hmem : .asked caller ⟨.node (.estimateGas sender target data value), .error error⟩ ∈ events)
    (hdelivers : contract.delivered? (Address.ofEvm target) data = some digest) :
    digest ∈ finish.redeemed := by
  obtain ⟨chain, _, -, hstep, hgrows⟩ := h.exists_step_of_mem hmem
  obtain ⟨rfl, hanswers⟩ := hstep.of_asked rfl
  have hrefused := hanswers digest hdelivers
  split at hrefused
  next hredeemed => exact hgrows.redeemed hredeemed
  next =>
    obtain ⟨gas, hgas⟩ := hrefused
    contradiction

end Race

/-! ### Redemptions in a race -/

/-- What a redemption in a race asked, and how it was answered. -/
def exchangesOf [DecidableEq ι] (caller : ι) (events : List (Event ι)) :
    List (Exchange surroundings) :=
  events.filterMap fun
    | .asked caller' x => if caller' = caller then some x else none
    | .mined _ => none

/-- An exchange of a redemption is one of the race. -/
theorem asked_mem_of_mem_exchangesOf [DecidableEq ι] {caller : ι} {events : List (Event ι)}
    {x : Exchange surroundings} (h : x ∈ exchangesOf caller events) :
    .asked caller x ∈ events := by
  obtain ⟨event, hmem, hevent⟩ := List.mem_filterMap.mp h
  cases event with
  | mined tx => contradiction
  | asked caller' x' =>
      dsimp only at hevent
      split at hevent
      next hcaller =>
        obtain rfl := Option.some.inj hevent
        exact hcaller ▸ hmem
      next => contradiction

/-- A redemption's exchanges in two parts are those of two parts of the race. -/
theorem exists_append_of_exchangesOf [DecidableEq ι] {caller : ι} {events : List (Event ι)}
    {first second : List (Exchange surroundings)}
    (h : exchangesOf caller events = first ++ second) :
    ∃ before after, events = before ++ after ∧ exchangesOf caller before = first ∧
      exchangesOf caller after = second :=
  List.filterMap_eq_append_iff.mp h

/-- A redemption that takes part in a race. -/
structure Redemption where
  endpoint : Endpoint
  attestation : Attestation

namespace Redemption

/-- The digest that the redemption is after. -/
def digest (redemption : Redemption) : Hash256 := redemption.attestation.digest

/-- The redemption has asked this, and has ended with this outcome. -/
def Ends (redemption : Redemption) (exchanges : List (Exchange surroundings))
    (outcome : Outcome TxId) : Prop :=
  (redemption.endpoint.redeem redemption.attestation).Runs exchanges outcome

/-- Nothing goes wrong with a redemption but that somebody else may be faster. -/
structure Undisturbed (redemption : Redemption) (exchanges : List (Exchange surroundings)) :
    Prop where
  /-- The attestation is for the contract. -/
  callable : ∃ call, redemption.endpoint.redeemCall redemption.attestation = .ok call
  /-- The length of its written form fits a word. -/
  fits : redemption.attestation.encodedLength < 256 ^ wordLength
  /-- The signer signs. -/
  signs : redemption.endpoint.signer.Recoverable
  /-- The node answers every question; only simulations are refused. -/
  answered : ∀ request error, ⟨.node request, .error error⟩ ∈ exchanges →
    request.isSimulation = true
  /-- The account can pay for all the gas of the call. -/
  funded : ∀ reply call (estimate : Endpoint.Estimate) limit later,
    exchanges = redemption.endpoint.probe redemption.attestation reply ::
      (estimate.asked redemption.endpoint call 0 ++ later) →
    redemption.endpoint.limitAfter estimate.simulation = .ok limit →
    limit.toNat * estimate.gasPrice ≤ estimate.held
  /-- The wait for the receipt does not run out. -/
  confirmed : ¬ redemption.endpoint.Expires exchanges

end Redemption

namespace Race

variable {start finish : Chain} {events : List (Event ι)} {caller : ι} {endpoint : Endpoint}
  {call : Call} {digest : Hash256} {exchanges : List (Exchange surroundings)}

/-- An execution of a delivery that has a receipt is recorded with its digest, and with what the
receipt says. -/
theorem entries_of_executes {result : Outcome Receipt} {signed : SignedTransaction} {tx : TxId}
    {receipt : Receipt} (h : Race contract start events finish)
    (hexecute : endpoint.Executes call 0 exchanges result)
    (hdelivers : contract.delivered? (Address.ofEvm endpoint.program) call.encode = some digest)
    (hevents : ∀ x ∈ exchanges, .asked caller x ∈ events)
    (hsigned : ⟨.node (.submit signed), .ok tx⟩ ∈ exchanges)
    (hreceipt : ⟨.node (.receipt tx), .ok (some receipt)⟩ ∈ exchanges) :
    receipt.hash = tx ∧ finish.entries tx = some ⟨some digest, some receipt.succeeded⟩ := by
  obtain ⟨limit, htransaction⟩ := hexecute.transaction_of_mem hsigned
  obtain ⟨entry, hentry, hdelivered⟩ := h.delivers_of_taken (hevents _ hsigned)
  obtain ⟨hhash, entry', hentry', hstatus⟩ := h.status_of_receipt (hevents _ hreceipt)
  obtain rfl := Option.some.inj (hentry.symm.trans hentry')
  have hdigest : entry.delivers = some digest := by
    rw [hdelivered, htransaction]
    exact hdelivers
  obtain ⟨delivers, status⟩ := entry
  subst hdigest hstatus
  exact ⟨hhash, hentry⟩

/-- An execution of a delivery only fails if the digest is redeemed. -/
theorem redeemed_of_executes {redemption : Redemption} {reply : Outcome Bytes}
    {later : List (Exchange surroundings)} {error : RelayError}
    (h : Race contract start events finish) (hsound : start.Sound)
    (hexecute : redemption.endpoint.Executes call 0 exchanges (.error error))
    (hdelivers : contract.delivered? (Address.ofEvm redemption.endpoint.program) call.encode =
      some digest)
    (hevents : ∀ x ∈ exchanges, .asked caller x ∈ events)
    (hundisturbed : redemption.Undisturbed
      (redemption.endpoint.probe redemption.attestation reply :: (exchanges ++ later))) :
    digest ∈ finish.redeemed := by
  have hmore : exchanges.Sublist
      (redemption.endpoint.probe redemption.attestation reply :: (exchanges ++ later)) :=
    (List.sublist_append_left _ _).cons _
  cases hexecute.failsBy with
  | refusal hrefused => exact h.redeemed_of_refusal (hevents _ hrefused) hdelivers
  | answer _ hrequest hanswer =>
      have hsimulation := hundisturbed.answered _ _ (hmore.subset hanswer)
      exact absurd (hrequest.symm.trans hsimulation) (by decide)
  | @funds estimate limit _ hasked hlimit hpoor =>
      have hfunded := hundisturbed.funded reply _ _ _ _
        (by rw [hasked, List.append_assoc]) hlimit
      have hcounted := Endpoint.callCost_le 0 estimate.gasPrice limit
      omega
  | signer hfault =>
      obtain ⟨signed, hsigned⟩ := exists_signLegacy_call hundisturbed.signs _ _ _ _ _ _
      cases hfault.symm.trans hsigned
  | revert _ _ hsigned hreceipt _ =>
      obtain ⟨-, hentry⟩ := h.entries_of_executes hexecute hdelivers hevents hsigned hreceipt
      exact (h.sound hsound).redeemed _ _ _ hentry
  | expiry _ hexpires => exact absurd (hexpires.mono hmore) hundisturbed.confirmed

/-- **One redemption in a race.** When it has ended, the digest is redeemed. Either its own
transaction did that, or it says that it was redeemed already. -/
theorem settles [DecidableEq ι] {redemption : Redemption} {outcome : Outcome TxId}
    (h : Race contract start events finish) (hsound : start.Sound)
    (hcontract : redemption.endpoint.contract = contract)
    (hundisturbed : redemption.Undisturbed (exchangesOf caller events))
    (hends : redemption.Ends (exchangesOf caller events) outcome) :
    redemption.digest ∈ finish.redeemed ∧
      (outcome = .error .alreadyRedeemed ∨ ∃ tx signed, outcome = .ok tx ∧
        .asked caller ⟨.node (.submit signed), .ok tx⟩ ∈ events ∧
        finish.entries tx = some ⟨some redemption.digest, some true⟩) := by
  subst hcontract
  generalize hexchanges : exchangesOf caller events = exchanges at hundisturbed hends
  have hevent : ∀ x ∈ exchanges, .asked caller x ∈ events := fun x hx =>
    asked_mem_of_mem_exchangesOf (hexchanges ▸ hx)
  cases Endpoint.runs_redeem_iff.mp hends with
  | known hfound =>
      obtain ⟨chain, -, hgrows, htold⟩ := h.found_of_probe rfl (hevent _ List.mem_cons_self)
      have hredeemed := of_decide_eq_true (Except.ok.inj (htold.symm.trans hfound))
      exact ⟨hgrows.redeemed hredeemed, .inl rfl⟩
  | unprobed herror =>
      obtain ⟨chain, -, -, htold⟩ := h.found_of_probe rfl (hevent _ List.mem_cons_self)
      cases htold.symm.trans herror
  | unfit _ herror =>
      obtain ⟨call, hcall⟩ := hundisturbed.callable
      cases hcall.symm.trans herror
  | @executed reply call result executing concluding _ _ hcall hexecute hconclude =>
      -- the race up to the end of the execution, and what came after
      rw [← List.cons_append] at hexchanges
      obtain ⟨first, second, rfl, hfirst, hsecond⟩ := exists_append_of_exchangesOf hexchanges
      obtain ⟨middle, hrace, hlater⟩ := append_iff.mp h
      have hdelivers : redemption.endpoint.contract.delivered?
          (Address.ofEvm redemption.endpoint.program) call.encode = some redemption.digest := by
        obtain ⟨encoded, hencode, -, rfl⟩ := Endpoint.redeemCall_eq_ok_iff.mp hcall
        exact Contract.delivered?_deliveryCall _ hencode hundisturbed.fits
      have hexecuting : ∀ x ∈ executing, .asked caller x ∈ first := fun x hx =>
        asked_mem_of_mem_exchangesOf (hfirst ▸ List.mem_cons_of_mem _ hx)
      cases hconclude with
      | success receipt =>
          obtain ⟨signed, tx, hsigned, hreceipt, hsucceeded⟩ := hexecute.of_ok
          obtain ⟨rfl, hentry⟩ :=
            hrace.entries_of_executes hexecute hdelivers hexecuting hsigned hreceipt
          rw [hsucceeded] at hentry
          have hend := hlater.grows.entries_mined hentry
          exact ⟨(h.sound hsound).redeemed _ _ _ hend, .inr ⟨_, signed, rfl,
            List.mem_append_left _ (hexecuting _ hsigned), hend⟩⟩
      | duplicate | overtaken =>
          have hredeemed := hrace.redeemed_of_executes hsound hexecute hdelivers hexecuting
            hundisturbed
          exact ⟨hlater.grows.redeemed hredeemed, .inl rfl⟩
      | @failure error repeated _ hunfound =>
          -- the probe that follows would have found it out
          have hredeemed := hrace.redeemed_of_executes hsound hexecute hdelivers hexecuting
            hundisturbed
          obtain ⟨chain, hgrows, -, htold⟩ := hlater.found_of_probe rfl
            (asked_mem_of_mem_exchangesOf (hsecond ▸ List.mem_cons_self))
          have htrue := decide_eq_true (hgrows.redeemed hredeemed)
          exact absurd (htold.trans (congrArg Except.ok htrue)) hunfound

end Race

/-- **Races.** Any number of redemptions, of any number of endpoints of one contract, take their
steps in any order, and so does the chain. At most one redemption of a digest succeeds; every
other one that ends says that it was redeemed already, and nothing else; and by then the digest is
redeemed. The race may be looked at at any time, so also when a redemption has just ended. -/
theorem race_settles [DecidableEq ι] {start finish : Chain} {events : List (Event ι)}
    (redemptions : ι → Redemption) (hrace : Race contract start events finish)
    (hsound : start.Sound) (hcontract : ∀ i, (redemptions i).endpoint.contract = contract)
    (hundisturbed : ∀ i, (redemptions i).Undisturbed (exchangesOf i events)) :
    (∀ i j tx tx', (redemptions i).digest = (redemptions j).digest →
      (redemptions i).Ends (exchangesOf i events) (.ok tx) →
      (redemptions j).Ends (exchangesOf j events) (.ok tx') → i = j) ∧
    (∀ i outcome, (redemptions i).Ends (exchangesOf i events) outcome →
      ((∃ tx, outcome = .ok tx) ∨ outcome = .error .alreadyRedeemed) ∧
        (redemptions i).digest ∈ finish.redeemed) := by
  constructor
  · intro i j tx tx' hdigest hi hj
    obtain ⟨-, hi | ⟨_, signed, ⟨⟩, hsigned, hentry⟩⟩ :=
      hrace.settles hsound (hcontract i) (hundisturbed i) hi
    · contradiction
    obtain ⟨-, hj | ⟨_, signed', ⟨⟩, hsigned', hentry'⟩⟩ :=
      hrace.settles hsound (hcontract j) (hundisturbed j) hj
    · contradiction
    obtain rfl := (hrace.sound hsound).unique _ _ _ hentry (hdigest ▸ hentry')
    exact hrace.caller_unique hsigned hsigned'
  · intro i outcome hends
    obtain ⟨hredeemed, halready | ⟨tx, -, hok, -⟩⟩ :=
      hrace.settles hsound (hcontract i) (hundisturbed i) hends
    · exact ⟨.inr halready, hredeemed⟩
    · exact ⟨.inl ⟨tx, hok⟩, hredeemed⟩

/-! ### A race of two -/

section RaceOfTwo

open Endpoint

/-- The redemption of the empty message by the open account. -/
def openRedemption : Redemption := ⟨openEndpoint, emptyMessage⟩

/-- A receipt that says that a transaction succeeded. -/
def firstReceipt : Receipt := ⟨"0x01", some "0x1", []⟩

/-- Two redemptions probe, and hand a transaction in. The first one's is mined first. -/
def raceOfTwo (first second : SignedTransaction) : List (Event Bool) :=
  [.asked true (told false), .asked false (told false)] ++
    (delivering 0 first firstReceipt.hash).map (.asked true) ++
    (delivering 1 second failedReceipt.hash).map (.asked false) ++
    [.mined firstReceipt.hash, .mined failedReceipt.hash, .asked true (mined firstReceipt),
      .asked false (mined failedReceipt), .asked false (told true)]

/-- The chain on which that race ends. -/
def afterRaceOfTwo : Chain :=
  ((((Chain.idle ∅).record firstReceipt.hash ⟨some emptyMessage.digest, none⟩).record
    failedReceipt.hash ⟨some emptyMessage.digest, none⟩).deliver
    firstReceipt.hash emptyMessage.digest).deliver failedReceipt.hash emptyMessage.digest

theorem delivered?_delivery : openEndpoint.contract.delivered?
    (Address.ofEvm openEndpoint.program) delivery.encode = some emptyMessage.digest :=
  Contract.delivered?_deliveryCall openEndpoint.contract
    (Attestation.encode_eq_ok_iff.mpr ⟨by decide, rfl⟩) (by decide)

/-- While the digest is not redeemed, an execution is answered from the state of the chain. -/
theorem race_delivering {chain : Chain} (caller : Bool) (nonce : UInt64)
    {signed : SignedTransaction} {tx : TxId} {limit : UInt64} (hredeemed : chain.redeemed = ∅)
    (hfresh : chain.entries tx = none)
    (hsigned : signed.transaction = openEndpoint.transaction delivery 0 limit) :
    Race openEndpoint.contract chain ((delivering nonce signed tx).map (.asked caller))
      (chain.record tx ⟨some emptyMessage.digest, none⟩) := by
  have htaken : Chain.Step openEndpoint.contract chain
      (.asked caller ⟨.node (.submit signed), .ok tx⟩) _ := .taken hfresh
  rw [hsigned, Endpoint.transaction, UnsignedTransaction.call, delivered?_delivery] at htaken
  have hsimulation : chain.Answers openEndpoint.contract
      ⟨.node (.estimateGas openEndpoint.sender openEndpoint.program delivery.encode 0),
        cheapGas.simulation⟩ := by
    intro digest _
    rw [hredeemed, if_neg (Finset.notMem_empty digest)]
    exact ⟨_, rfl⟩
  exact .cons (.asked rfl hsimulation) <| .cons (.asked rfl trivial) <|
    .cons (.asked rfl trivial) <| .cons (.asked rfl trivial) <| .cons (.asked rfl trivial) <|
    .cons (.asked rfl trivial) <| .cons htaken <| .cons (.asked rfl trivial) <|
    .cons (.asked rfl trivial) <| .nil _

/-- The race can go like this. -/
theorem race_raceOfTwo {first second : SignedTransaction} {limit : UInt64}
    (hfirst : first.transaction = openEndpoint.transaction delivery 0 limit)
    (hsecond : second.transaction = openEndpoint.transaction delivery 0 limit) :
    Race openEndpoint.contract (.idle ∅) (raceOfTwo first second) afterRaceOfTwo := by
  have hdistinct : failedReceipt.hash ≠ firstReceipt.hash := by decide
  have hstart : Race openEndpoint.contract (.idle ∅)
      [.asked true (told false), .asked false (told false)] (.idle ∅) := by
    have htold : (Chain.idle ∅).Answers openEndpoint.contract (told false) :=
      Chain.answers_probe_iff.mpr rfl
    exact .cons (.asked rfl htold) (.cons (.asked rfl htold) (.nil _))
  have hone : Race openEndpoint.contract (.idle ∅)
      ((delivering 0 first firstReceipt.hash).map (.asked true)) _ :=
    race_delivering true 0 rfl rfl hfirst
  have htwo : Race openEndpoint.contract
      ((Chain.idle ∅).record firstReceipt.hash ⟨some emptyMessage.digest, none⟩)
      ((delivering 1 second failedReceipt.hash).map (.asked false)) _ :=
    race_delivering false 1 rfl (by simp [Chain.record, Chain.idle, hdistinct]) hsecond
  have hone_mined : afterRaceOfTwo.entries firstReceipt.hash =
      some ⟨some emptyMessage.digest, some true⟩ := by
    simp [afterRaceOfTwo, Chain.deliver, Chain.record, Chain.idle, hdistinct.symm]
  have htwo_mined : afterRaceOfTwo.entries failedReceipt.hash =
      some ⟨some emptyMessage.digest, some false⟩ := by
    simp [afterRaceOfTwo, Chain.deliver, Chain.record]
  have hend : Race openEndpoint.contract
      (((Chain.idle ∅).record firstReceipt.hash ⟨some emptyMessage.digest, none⟩).record
        failedReceipt.hash ⟨some emptyMessage.digest, none⟩)
      [.mined firstReceipt.hash, .mined failedReceipt.hash, .asked true (mined firstReceipt),
        .asked false (mined failedReceipt), .asked false (told true)] afterRaceOfTwo := by
    refine .cons (.delivered ?_) (.cons (.delivered ?_) (.cons (.asked rfl ?_)
      (.cons (.asked rfl ?_) (.cons (.asked rfl ?_) (.nil _)))))
    · simp [Chain.record, hdistinct.symm]
    · simp [Chain.deliver, Chain.record, hdistinct]
    · exact Chain.answers_receipt hone_mined
    · exact Chain.answers_receipt htwo_mined
    · exact Chain.answers_probe_iff.mpr
        (congrArg Except.ok (decide_eq_true (Finset.mem_insert_self _ _)).symm)
  exact Race.append_iff.mpr
    ⟨_, Race.append_iff.mpr ⟨_, Race.append_iff.mpr ⟨_, hstart, hone⟩, htwo⟩, hend⟩

/-- What one of them asks: it probes, executes, and may probe again. -/
def racing (nonce : UInt64) (signed : SignedTransaction) (receipt : Receipt) (again : Bool) :
    List (Exchange surroundings) :=
  told false :: ((delivering nonce signed receipt.hash ++ [mined receipt]) ++
    if again then [told true] else [])

/-- Nothing goes wrong for either of them. -/
theorem undisturbed_racing {nonce : UInt64} {signed : SignedTransaction} {receipt : Receipt}
    {again : Bool} : openRedemption.Undisturbed (racing nonce signed receipt again) where
  callable := ⟨delivery, redeemCall_emptyMessage⟩
  fits := by decide
  signs := recoverable_openSigner
  answered request error hanswer := by
    have hnone : Action.failures (racing nonce signed receipt again) = [] := by
      cases again <;> rfl
    have herror := Action.mem_failures hanswer
    rw [hnone] at herror
    contradiction
  funded reply call estimate limit later hasked hlimit := by
    obtain ⟨simulation, gasPrice, held⟩ := estimate
    obtain ⟨-, hestimate⟩ := List.cons.inj hasked
    obtain ⟨hsimulation, hpricing⟩ := List.cons.inj hestimate
    obtain ⟨hprice, hweighing⟩ := List.cons.inj hpricing
    obtain ⟨hheld, -⟩ := List.cons.inj hweighing
    obtain rfl : cheapGas.simulation = simulation := eq_of_heq (Exchange.mk.inj hsimulation).2
    obtain rfl : cheapGas.gasPrice = gasPrice :=
      Except.ok.inj (eq_of_heq (Exchange.mk.inj hprice).2)
    obtain rfl : cheapGas.held = held := Except.ok.inj (eq_of_heq (Exchange.mk.inj hheld).2)
    obtain rfl := Except.ok.inj hlimit
    decide
  confirmed := by
    rintro (⟨start, now, htimes, -⟩ | hpolls)
    · -- the time is read once
      have htwice := htimes.countP_le (p := fun x => decide (x.request = .now))
      have honce : (racing nonce signed receipt again).countP
          (fun x => decide (x.request = .now)) = 1 := by
        cases again <;> rfl
      rw [honce] at htwice
      exact absurd (show 2 ≤ 1 from htwice) (by decide)
    · have hnone : (racing nonce signed receipt again).countP isPending = 0 := by
        cases again <;> rfl
      rw [hnone] at hpolls
      exact absurd hpolls (by decide)

/-- Of two redemptions the one succeeds whose transaction is mined first; the other one, whose
transaction fails, says that the digest was redeemed already, as it was. -/
theorem race_settles_raceOfTwo : ∃ first second,
    Race openEndpoint.contract (.idle ∅) (raceOfTwo first second) afterRaceOfTwo ∧
    openRedemption.Ends (exchangesOf true (raceOfTwo first second)) (.ok firstReceipt.hash) ∧
    openRedemption.Ends (exchangesOf false (raceOfTwo first second))
      (.error .alreadyRedeemed) ∧
    (∀ tx, ¬ openRedemption.Ends (exchangesOf false (raceOfTwo first second)) (.ok tx)) ∧
    openRedemption.digest ∈ afterRaceOfTwo.redeemed := by
  obtain ⟨first, hfirst⟩ := exists_signLegacy_call recoverable_openSigner
    openEndpoint.chain openEndpoint.program delivery.encode 0 (scaledGas 100000) ⟨0, 1, 5⟩
  obtain ⟨second, hsecond⟩ := exists_signLegacy_call recoverable_openSigner
    openEndpoint.chain openEndpoint.program delivery.encode 0 (scaledGas 100000) ⟨1, 1, 5⟩
  have hrace := race_raceOfTwo (transaction_eq_of_signLegacy hfirst)
    (transaction_eq_of_signLegacy hsecond)
  have hwinner : exchangesOf true (raceOfTwo first second) =
      racing 0 first firstReceipt false := rfl
  have hloser : exchangesOf false (raceOfTwo first second) =
      racing 1 second failedReceipt true := rfl
  have hwins : openRedemption.Ends (exchangesOf true (raceOfTwo first second))
      (.ok firstReceipt.hash) :=
    runs_redeem_iff.mpr (.executed (by decide) redeemCall_emptyMessage
      (executes_delivering firstReceipt hfirst) (.success firstReceipt))
  have hloses : openRedemption.Ends (exchangesOf false (raceOfTwo first second))
      (.error .alreadyRedeemed) :=
    runs_redeem_iff.mpr (.executed (by decide) redeemCall_emptyMessage
      (executes_delivering failedReceipt hsecond)
      (.overtaken (by decide) (by decide)))
  obtain ⟨hunique, hsettled⟩ := race_settles (fun _ => openRedemption) hrace
    (Chain.sound_idle ∅) (fun _ => rfl) fun caller => by
      cases caller
      · exact hloser ▸ undisturbed_racing
      · exact hwinner ▸ undisturbed_racing
  refine ⟨first, second, hrace, hwins, hloses, fun tx htx => ?_,
    (hsettled false _ hloses).2⟩
  exact absurd (hunique true false _ _ rfl hwins htx) (by decide)

end RaceOfTwo

end GuardianRelay.Evm
