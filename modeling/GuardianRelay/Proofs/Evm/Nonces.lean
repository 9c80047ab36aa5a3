import GuardianRelay.Proofs.Evm.Race
import GuardianRelay.Proofs.Evm.Signing
import GuardianRelay.Proofs.Steps

/-!
# Transactions That Share an Account

An endpoint executes any number of calls at the same time, and one account pays for all of them and
signs them. The chain takes the transactions of an account in the order of their numbers, without a
gap, so each of them needs the number that comes next. To learn it is one question, and to hand the
transaction in is another; in between anything may be asked by anybody, so the endpoint holds the
lock of the account from before the first to after the second.

This module lets the exchanges of the executions follow each other in any order (`Queue.Runs`). The
state on which they meet is who holds the lock, and which transactions the node has taken from the
account. The node counts these, it takes a transaction or refuses it, and it may fail to answer,
also when it has taken one. Everything else may be answered in any way.

What an execution has asked determines whether it holds the lock, and which number it has been told
since then (`Phase`). A step keeps three things (`Queue.Fair.step`): who has been given the lock is
its holder until it is given back, a number that was told is still the next one, and what the node
has taken is numbered in order.

## Main results

* `nonce?_of_signLegacy`: the number of a transaction can be read from what is handed in.
* `Endpoint.Executes.follows`: an execution hands in under the lock, with the number that it was
  told.
* `Queue.Fair.step`, `Queue.Fair.run`: what a step and what a run keep.
* `nonces_consecutive`: the node takes the numbers one after the other.
-/

namespace GuardianRelay.Evm

/-! ### The number of a transaction -/

/-- The number that octets which are handed in carry: the first of their items. -/
def nonce? (raw : Bytes) : Option ℕ :=
  match Rlp.Item.decode? raw with
  | some (.list (nonce :: _)) => number? 64 nonce
  | _ => none

/-- A signed call carries the number with which it was signed. -/
theorem nonce?_of_signLegacy {signer : Signer} {transaction : UnsignedTransaction}
    {fields : Fields} {signed : SignedTransaction}
    (h : signLegacy signer transaction fields = .ok signed)
    (hlength : signed.raw.length < 256 ^ 8) : nonce? signed.raw = some fields.nonce.toNat := by
  obtain ⟨items, signature, identifier, hitems, -, -, -, rfl⟩ := signLegacy_eq_ok_iff.mp h
  obtain ⟨target, gasLimit, -, -, rfl⟩ := envelopeItems_eq_ok_iff.mp hitems
  rw [nonce?, signedForm, Rlp.Item.decode?_encode hlength]
  exact number?_ofNat fields.nonce.toNat_lt

/-! ### What an execution has come to -/

/-- Where an execution is. -/
inductive Phase where
  /-- It does not hold the lock. -/
  | outside
  /-- It holds the lock, and has no number, or has used it. -/
  | inside
  /-- It holds the lock, and was told the next number. -/
  | counted (nonce : UInt64)

namespace Phase

/-- Where an execution is after an exchange. -/
def next : Phase → Exchange surroundings → Phase
  | _, ⟨.lock, _⟩ => .inside
  | _, ⟨.unlock, _⟩ => .outside
  | _, ⟨.node (.transactionCount _), .ok nonce⟩ => .counted nonce
  | _, ⟨.node (.submit _), _⟩ => .inside
  | phase, _ => phase

/-- What an execution may ask where it is: for the lock if it does not hold it; for a number, and to
give the lock back, if it does; and to take a transaction that is signed with the number it was
told. -/
def Allows (endpoint : Endpoint) : Phase → Exchange surroundings → Prop
  | phase, ⟨.lock, _⟩ => phase = .outside
  | phase, ⟨.unlock, _⟩ => phase ≠ .outside
  | phase, ⟨.node (.transactionCount sender), _⟩ => phase ≠ .outside ∧ sender = endpoint.sender
  | phase, ⟨.node (.submit signed), _⟩ => ∃ transaction fields,
      phase = .counted fields.nonce ∧ signLegacy endpoint.signer transaction fields = .ok signed
  | _, _ => True

/-- Where an execution is after some exchanges. -/
def after (phase : Phase) (exchanges : List (Exchange surroundings)) : Phase :=
  exchanges.foldl next phase

/-- From where it is, an execution only asks what it may. -/
def Follows (endpoint : Endpoint) : Phase → List (Exchange surroundings) → Prop
  | _, [] => True
  | phase, x :: later => phase.Allows endpoint x ∧ (phase.next x).Follows endpoint later

end Phase

/-- A question that concerns neither the lock nor the transactions of an account. -/
def Request.isOrdinary : Request → Bool
  | lock | unlock | node (.transactionCount _) | node (.submit _) => false
  | _ => true

namespace Phase

variable {endpoint : Endpoint} {phase : Phase} {exchanges : List (Exchange surroundings)}

/-- An ordinary question may be asked anywhere, and changes nothing. -/
theorem of_isOrdinary {x : Exchange surroundings} (h : x.request.isOrdinary = true) :
    phase.Allows endpoint x ∧ phase.next x = phase := by
  obtain ⟨request, reply⟩ := x
  cases request with
  | lock | unlock => contradiction
  | now | sleep | knownNetwork | keepNetwork => exact ⟨trivial, rfl⟩
  | node request =>
      cases request with
      | transactionCount | submit => contradiction
      | call | balance | gasPrice | networkId | estimateGas | receipt => exact ⟨trivial, rfl⟩

/-- Exchanges in two parts. -/
theorem follows_append_iff {first second : List (Exchange surroundings)} :
    phase.Follows endpoint (first ++ second) ↔
      phase.Follows endpoint first ∧ (phase.after first).Follows endpoint second := by
  induction first generalizing phase with
  | nil => exact ⟨fun h => ⟨trivial, h⟩, fun h => h.2⟩
  | cons x first ih =>
      rw [List.cons_append, Follows, Follows, ih, and_assoc]
      rfl

/-- Ordinary questions change nothing. -/
theorem of_forall_isOrdinary (h : ∀ x ∈ exchanges, x.request.isOrdinary = true) :
    phase.Follows endpoint exchanges ∧ phase.after exchanges = phase := by
  induction exchanges with
  | nil => exact ⟨trivial, rfl⟩
  | cons x later ih =>
      obtain ⟨hx, hlater⟩ := List.forall_mem_cons.mp h
      obtain ⟨hallows, hnext⟩ := @of_isOrdinary endpoint phase x hx
      rw [Follows, after, List.foldl_cons, hnext]
      exact ⟨⟨hallows, (ih hlater).1⟩, (ih hlater).2⟩

/-- Ordinary questions may come first. -/
theorem follows_append_of_isOrdinary {later : List (Exchange surroundings)}
    (h : ∀ x ∈ exchanges, x.request.isOrdinary = true) (hlater : phase.Follows endpoint later) :
    phase.Follows endpoint (exchanges ++ later) := by
  obtain ⟨hfollows, hafter⟩ := of_forall_isOrdinary h
  exact follows_append_iff.mpr ⟨hfollows, by rwa [hafter]⟩

end Phase

/-! ### Executions -/

variable {exchanges : List (Exchange surroundings)}

/-- To learn the number of the network is ordinary. -/
theorem Action.Learns.isOrdinary {outcome : Outcome UInt64}
    (h : Action.Learns exchanges outcome) : ∀ x ∈ exchanges, x.request.isOrdinary = true := by
  cases h <;> simp [Request.isOrdinary]

namespace Endpoint

variable {endpoint : Endpoint} {call : Call} {value : ℕ}

/-- What is asked before a call is submitted is ordinary. -/
theorem Estimate.isOrdinary (estimate : Estimate) :
    ∀ x ∈ estimate.asked endpoint call value, x.request.isOrdinary = true := by
  simp [Estimate.asked, Request.isOrdinary]

/-- To wait for a receipt is ordinary. -/
theorem Polls.isOrdinary {tx : TxId} {start polls : ℕ} {outcome : Outcome Receipt}
    (h : Polls endpoint tx start polls exchanges outcome) :
    ∀ x ∈ exchanges, x.request.isOrdinary = true := by
  induction h with
  | again _ _ ih =>
      simp only [List.forall_mem_cons]
      exact ⟨rfl, rfl, rfl, ih⟩
  | _ => simp [Request.isOrdinary]

/-- A transaction is handed in under the lock, with the number that the node told under the lock. -/
theorem Submits.follows {transaction : UnsignedTransaction} {gasPrice : ℕ} {networkId : UInt64}
    {outcome : Outcome TxId}
    (h : Submits endpoint transaction gasPrice networkId exchanges outcome) :
    Phase.outside.Follows endpoint exchanges ∧ Phase.outside.after exchanges = .outside := by
  cases h with
  | uncounted | unsigned => exact ⟨⟨rfl, ⟨nofun, rfl⟩, nofun, trivial⟩, rfl⟩
  | handedIn _ hsigned => exact ⟨⟨rfl, ⟨nofun, rfl⟩, ⟨_, _, rfl, hsigned⟩, nofun, trivial⟩, rfl⟩

/-- An execution only asks what it may. -/
theorem Executes.follows {outcome : Outcome Receipt}
    (h : Executes endpoint call value exchanges outcome) :
    Phase.outside.Follows endpoint exchanges := by
  cases h with
  | refused | unpriced | unweighed =>
      exact (Phase.of_forall_isOrdinary (by simp [Request.isOrdinary])).1
  | unaffordable => exact (Phase.of_forall_isOrdinary (Estimate.isOrdinary _)).1
  | unnamed _ hlearning =>
      exact Phase.follows_append_of_isOrdinary (Estimate.isOrdinary _)
        (Phase.of_forall_isOrdinary hlearning.isOrdinary).1
  | unsubmitted _ hlearning hsubmitting =>
      exact Phase.follows_append_of_isOrdinary (Estimate.isOrdinary _)
        (Phase.follows_append_of_isOrdinary hlearning.isOrdinary hsubmitting.follows.1)
  | @submitted _ _ _ _ start _ _ waiting _ _ hlearning hsubmitting hwaiting =>
      obtain ⟨hsubmits, hend⟩ := hsubmitting.follows
      have hordinary : ∀ x ∈ (⟨.now, start⟩ :: waiting : List (Exchange surroundings)),
          x.request.isOrdinary = true :=
        List.forall_mem_cons.mpr ⟨rfl, hwaiting.isOrdinary⟩
      refine Phase.follows_append_of_isOrdinary (Estimate.isOrdinary _)
        (Phase.follows_append_of_isOrdinary hlearning.isOrdinary ?_)
      refine Phase.follows_append_iff.mpr ⟨hsubmits, ?_⟩
      rw [hend]
      exact (Phase.of_forall_isOrdinary hordinary).1

/-- An execution that has begun has only asked what it may. -/
theorem follows_of_begins (h : (endpoint.execute call value).Begins exchanges) :
    Phase.outside.Follows endpoint exchanges := by
  obtain ⟨later, outcome, hruns⟩ := h
  exact (Phase.follows_append_iff.mp (runs_execute_iff.mp hruns).follows).1

end Endpoint

/-! ### The account -/

variable {ι : Type}

/-- The state on which executions of an account meet. -/
structure Queue (ι : Type) where
  /-- Who holds the lock. -/
  holder : Option ι
  /-- The transactions that the node has taken from the account, in this order. -/
  taken : List SignedTransaction

namespace Queue

/-- Nobody holds the lock, and nothing was taken yet. -/
def idle : Queue ι := ⟨none, []⟩

/-- One step: an exchange of an execution, or something that the chain does. The transactions of the
account are counted from `first`. -/
inductive Step (endpoint : Endpoint) (first : ℕ) : Queue ι → Event ι → Queue ι → Prop
  /-- The lock is given to somebody when nobody holds it. -/
  | lock {queue : Queue ι} (caller : ι) :
      queue.holder = none →
      Step endpoint first queue (.asked caller ⟨.lock, ()⟩) { queue with holder := some caller }
  /-- The lock is given back. -/
  | unlock {queue : Queue ι} (caller : ι) :
      Step endpoint first queue (.asked caller ⟨.unlock, ()⟩) { queue with holder := none }
  /-- The node counts what it has taken from the account. -/
  | counted {queue : Queue ι} {caller : ι} {sender : EvmAddress} {nonce : UInt64} :
      (sender = endpoint.sender → nonce.toNat = first + queue.taken.length) →
      Step endpoint first queue (.asked caller ⟨.node (.transactionCount sender), .ok nonce⟩) queue
  /-- The node does not say how many it has taken. -/
  | uncounted {queue : Queue ι} (caller : ι) (sender : EvmAddress) (error : RelayError) :
      Step endpoint first queue (.asked caller ⟨.node (.transactionCount sender), .error error⟩)
        queue
  /-- The node takes a transaction, whatever becomes of its answer. -/
  | taken {queue : Queue ι} (caller : ι) (signed : SignedTransaction) (answer : Outcome TxId) :
      Step endpoint first queue (.asked caller ⟨.node (.submit signed), answer⟩)
        { queue with taken := queue.taken ++ [signed] }
  /-- The node refuses a transaction. -/
  | refused {queue : Queue ι} (caller : ι) (signed : SignedTransaction) (error : RelayError) :
      Step endpoint first queue (.asked caller ⟨.node (.submit signed), .error error⟩) queue
  /-- Something else is asked. -/
  | ordinary {queue : Queue ι} {caller : ι} {x : Exchange surroundings} :
      x.request.isOrdinary = true →
      Step endpoint first queue (.asked caller x) queue
  /-- A transaction is mined. -/
  | mined (queue : Queue ι) (tx : TxId) : Step endpoint first queue (.mined tx) queue

/-- Steps that follow each other. -/
abbrev Runs (endpoint : Endpoint) (first : ℕ) : Queue ι → List (Event ι) → Queue ι → Prop :=
  Steps (Step endpoint first)

/-- A transaction is signed with a number. -/
def Numbered (endpoint : Endpoint) (signed : SignedTransaction) (n : ℕ) : Prop :=
  ∃ transaction fields, signLegacy endpoint.signer transaction fields = .ok signed ∧
    fields.nonce.toNat = n

/-- A transaction carries a number: it is signed with it, and the number is read from its octets,
unless these are too many to be counted with 64 bits. -/
structure Carries (endpoint : Endpoint) (signed : SignedTransaction) (n : ℕ) : Prop where
  numbered : Numbered endpoint signed n
  nonce : signed.raw.length < 256 ^ 8 → nonce? signed.raw = some n

/-- What is signed with a number carries it. -/
theorem Numbered.carries {endpoint : Endpoint} {signed : SignedTransaction} {n : ℕ}
    (h : Numbered endpoint signed n) : Carries endpoint signed n := by
  refine ⟨h, fun hlength => ?_⟩
  obtain ⟨transaction, fields, hsigned, rfl⟩ := h
  exact nonce?_of_signLegacy hsigned hlength

/-- What holds of the account, and of where the executions are. -/
structure Fair (endpoint : Endpoint) (first : ℕ) (queue : Queue ι) (phases : ι → Phase) : Prop where
  /-- Who is past asking for the lock holds it, and nobody else. -/
  held : ∀ i, phases i ≠ .outside ↔ queue.holder = some i
  /-- The number that was told is the next one. -/
  counted : ∀ i nonce, phases i = .counted nonce → nonce.toNat = first + queue.taken.length
  /-- What was taken is numbered in order. -/
  numbered : ∀ k signed, queue.taken[k]? = some signed → Numbered endpoint signed (first + k)

variable {endpoint : Endpoint} {first : ℕ} {queue next start finish : Queue ι}
  {phases : ι → Phase} {events : List (Event ι)}

namespace Fair

/-- Before anything happens. -/
theorem idle : Fair endpoint first (idle : Queue ι) fun _ => .outside where
  held _ := ⟨fun h => absurd rfl h, nofun⟩
  counted := nofun
  numbered := nofun

/-- There is one holder. -/
theorem holder_unique (h : Fair endpoint first queue phases) {i j : ι}
    (hi : phases i ≠ .outside) (hj : phases j ≠ .outside) : i = j := by
  have hholder := (h.held i).mp hi
  rw [(h.held j).mp hj] at hholder
  exact (Option.some.inj hholder).symm

variable {caller : ι}

/-- What was handed in with the next number is numbered in order when it is taken. -/
theorem numbered_append (h : Fair endpoint first queue phases) {signed : SignedTransaction}
    (hsigned : Numbered endpoint signed (first + queue.taken.length)) :
    ∀ k other, (queue.taken ++ [signed])[k]? = some other →
      Numbered endpoint other (first + k) := by
  intro k other hother
  obtain hold | ⟨hlast, rfl⟩ : queue.taken[k]? = some other ∨
      k = queue.taken.length ∧ other = signed := by
    rw [List.getElem?_append] at hother
    split at hother
    next => exact .inl hother
    next hk =>
      right
      obtain ⟨hzero, heq⟩ := List.getElem?_eq_some_iff.mp hother
      rw [List.length_singleton] at hzero
      exact ⟨by omega, by simpa using heq.symm⟩
  · exact h.numbered k other hold
  · exact hlast ▸ hsigned

/-- A transaction that may be handed in has the next number. -/
theorem numbered_of_allows (h : Fair endpoint first queue phases) {signed : SignedTransaction}
    {answer : Outcome TxId}
    (hallows : (phases caller).Allows endpoint ⟨.node (.submit signed), answer⟩) :
    phases caller ≠ .outside ∧ Numbered endpoint signed (first + queue.taken.length) := by
  obtain ⟨transaction, fields, hphase, hsigned⟩ := hallows
  have hnumber := h.counted caller fields.nonce hphase
  refine ⟨?_, transaction, fields, hsigned, hnumber⟩
  rw [hphase]
  nofun

variable [DecidableEq ι]

/-- If nobody held the lock, the one to whom it is given is the only holder. -/
theorem lock (h : Fair endpoint first queue phases) (hfree : queue.holder = none) :
    Fair endpoint first { queue with holder := some caller }
      (Function.update phases caller .inside) := by
  have houtside : ∀ i, phases i = .outside := by
    intro i
    by_contra hi
    have hholder := (h.held i).mp hi
    rw [hfree] at hholder
    contradiction
  refine ⟨fun i => ?_, fun i nonce hi => ?_, h.numbered⟩
  · by_cases hcaller : i = caller
    · subst hcaller
      simp
    · rw [Function.update_of_ne hcaller, houtside i]
      simp [Ne.symm hcaller]
  · by_cases hcaller : i = caller
    · subst hcaller
      rw [Function.update_self] at hi
      contradiction
    · rw [Function.update_of_ne hcaller, houtside i] at hi
      contradiction

/-- When the holder gives the lock back, nobody holds it. -/
theorem unlock (h : Fair endpoint first queue phases) (hcaller : phases caller ≠ .outside) :
    Fair endpoint first { queue with holder := none }
      (Function.update phases caller .outside) := by
  have houtside : ∀ i, Function.update phases caller .outside i = .outside := by
    intro i
    by_cases hi : i = caller
    · rw [hi, Function.update_self]
    · rw [Function.update_of_ne hi]
      by_contra hheld
      exact hi (h.holder_unique hheld hcaller)
  refine ⟨fun i => ?_, fun i nonce hi => ?_, h.numbered⟩
  · rw [houtside i]
    simp
  · rw [houtside i] at hi
    contradiction

/-- While the holder has no number, or has used it, nobody has one. The holder may be told the next
one, and what it hands in with the next one may be taken. -/
theorem move (h : Fair endpoint first queue phases) (hcaller : phases caller ≠ .outside)
    {phase : Phase} (hphase : phase ≠ .outside) {taken : List SignedTransaction}
    (hcounted : ∀ nonce, phase = .counted nonce → nonce.toNat = first + taken.length)
    (hnumbered : ∀ k signed, taken[k]? = some signed → Numbered endpoint signed (first + k)) :
    Fair endpoint first { queue with taken } (Function.update phases caller phase) := by
  refine ⟨fun i => ?_, fun i nonce hi => ?_, hnumbered⟩
  · by_cases hi : i = caller
    · subst hi
      rw [Function.update_self]
      exact ⟨fun _ => (h.held i).mp hcaller, fun _ => hphase⟩
    · rw [Function.update_of_ne hi]
      exact h.held i
  · by_cases hcaller' : i = caller
    · subst hcaller'
      rw [Function.update_self] at hi
      exact hcounted nonce hi
    · rw [Function.update_of_ne hcaller'] at hi
      have hheld : phases i ≠ .outside := by
        rw [hi]
        nofun
      exact absurd (h.holder_unique hheld hcaller) hcaller'

/-- A step in which an execution asks what it may keeps the account fair. -/
theorem step {x : Exchange surroundings} (h : Fair endpoint first queue phases)
    (hallows : (phases caller).Allows endpoint x)
    (hstep : queue.Step endpoint first (.asked caller x) next) :
    Fair endpoint first next (Function.update phases caller ((phases caller).next x)) := by
  cases hstep with
  | lock _ hfree => exact h.lock hfree
  | unlock => exact h.unlock hallows
  | @counted _ _ nonce hcount =>
      obtain ⟨hheld, hsender⟩ := hallows
      have hphase : Phase.counted nonce ≠ .outside := nofun
      refine h.move hheld hphase (fun other hother => ?_) h.numbered
      obtain rfl := Phase.counted.inj hother
      exact hcount hsender
  | uncounted _ sender error =>
      have hnext : (phases caller).next ⟨.node (.transactionCount sender), .error error⟩ =
          phases caller := rfl
      rw [hnext, Function.update_eq_self]
      exact h
  | taken _ signed answer =>
      obtain ⟨hheld, hsigned⟩ := h.numbered_of_allows hallows
      have hphase : Phase.inside ≠ .outside := nofun
      exact h.move hheld hphase nofun (h.numbered_append hsigned)
  | refused _ signed error =>
      obtain ⟨hheld, -⟩ := h.numbered_of_allows hallows
      have hphase : Phase.inside ≠ .outside := nofun
      exact h.move hheld hphase nofun h.numbered
  | ordinary hordinary =>
      have hnext : (phases caller).next x = phases caller :=
        (@Phase.of_isOrdinary endpoint (phases caller) x hordinary).2
      rw [hnext, Function.update_eq_self]
      exact h

/-- Steps in which executions ask what they may keep the account fair. -/
theorem run (hruns : Runs endpoint first start events finish)
    (h : Fair endpoint first start phases)
    (hfollows : ∀ i, (phases i).Follows endpoint (exchangesOf i events)) :
    Fair endpoint first finish fun i => (phases i).after (exchangesOf i events) := by
  induction hruns generalizing phases with
  | nil => exact h
  | @cons start next finish event events hstep _ ih =>
      cases event with
      | mined tx =>
          cases hstep
          exact ih h hfollows
      | asked caller x =>
          have hself : exchangesOf caller (.asked caller x :: events) =
              x :: exchangesOf caller events := by
            simp [exchangesOf]
          have hothers : ∀ i, i ≠ caller →
              exchangesOf i (.asked caller x :: events) = exchangesOf i events := by
            intro i hi
            simp [exchangesOf, hi.symm]
          have hcaller := hfollows caller
          rw [hself, Phase.Follows] at hcaller
          have hend := ih (h.step hcaller.1 hstep) fun i => by
            by_cases hi : i = caller
            · rw [hi, Function.update_self]
              exact hcaller.2
            · rw [Function.update_of_ne hi, ← hothers i hi]
              exact hfollows i
          have hphases : (fun i => (phases i).after (exchangesOf i (.asked caller x :: events))) =
              fun i => (Function.update phases caller ((phases caller).next x) i).after
                (exchangesOf i events) := by
            funext i
            by_cases hi : i = caller
            · rw [hi, Function.update_self, hself]
              rfl
            · rw [Function.update_of_ne hi, hothers i hi]
          rw [hphases]
          exact hend

end Fair

end Queue

/-- **The numbers of transactions.** Any number of executions of an endpoint take their steps in
any order; some may have ended, and others not. Then the transactions that the node has taken carry
the numbers from the first one on, in the order in which they were taken, and each number once. If
the node refuses a transaction, it carried the number that comes next, and so does the next one that
the node takes. -/
theorem nonces_consecutive [DecidableEq ι] {endpoint : Endpoint} {first : ℕ}
    {calls : ι → Call × ℕ} {events : List (Event ι)} {finish : Queue ι}
    (h : Queue.Runs endpoint first .idle events finish)
    (hbegins : ∀ i, (endpoint.execute (calls i).1 (calls i).2).Begins (exchangesOf i events)) :
    (∀ k signed, finish.taken[k]? = some signed → Queue.Carries endpoint signed (first + k)) ∧
    ∀ before i signed error after (middle : Queue ι),
      events = before ++ .asked i ⟨.node (.submit signed), .error error⟩ :: after →
      Queue.Runs endpoint first .idle before middle →
      Queue.Runs endpoint first middle after finish →
      Queue.Carries endpoint signed (first + middle.taken.length) ∧
      ∀ next later, finish.taken = middle.taken ++ next :: later →
        Queue.Carries endpoint next (first + middle.taken.length) := by
  have hfollows (i : ι) := Endpoint.follows_of_begins (hbegins i)
  have hfair := Queue.Fair.run h .idle hfollows
  have hcarries : ∀ k signed, finish.taken[k]? = some signed →
      Queue.Carries endpoint signed (first + k) :=
    fun k signed hsigned => (hfair.numbered k signed hsigned).carries
  refine ⟨hcarries, ?_⟩
  rintro before i signed error after middle rfl hbefore hafter
  -- the execution whose transaction was refused had asked this before
  have hexchanges : exchangesOf i
      (before ++ .asked i ⟨.node (.submit signed), .error error⟩ :: after) =
        exchangesOf i before ++
          ⟨.node (.submit signed), .error error⟩ :: exchangesOf i after := by
    simp [exchangesOf]
  have hi := hfollows i
  rw [hexchanges, Phase.follows_append_iff] at hi
  have hmiddle := Queue.Fair.run hbefore .idle fun j => by
    have hj := hfollows j
    rw [exchangesOf, List.filterMap_append] at hj
    exact (Phase.follows_append_iff.mp hj).1
  obtain ⟨-, hsigned⟩ := hmiddle.numbered_of_allows hi.2.1
  refine ⟨hsigned.carries, fun next later htaken => ?_⟩
  exact hcarries _ next (by simp [htaken])

/-! ### Three executions -/

section ThreeExecutions

open Endpoint

/-- Gas costs 2, which the account can also pay. -/
def dearGas : Estimate := ⟨.ok 100000, 2, 1000000⟩

/-- The node is too busy. -/
def busy : RelayError := .rpc (.nodeError "busy")

/-- What an execution of the delivery asks before it asks for the lock. -/
def prepared (estimate : Estimate) : List (Exchange surroundings) :=
  estimate.asked openEndpoint delivery 0 ++ [⟨.knownNetwork, some 5⟩]

/-- What an execution asks to learn the next number. -/
def counting (nonce : UInt64) : List (Exchange surroundings) :=
  [⟨.lock, ()⟩, ⟨.node (.transactionCount openEndpoint.sender), .ok nonce⟩]

/-- Three executions prepare themselves at the same time. The first one's transaction is taken, and
the second one is told the next number. -/
def beforeRefusal (first : SignedTransaction) : List (Event (Fin 3)) :=
  (prepared cheapGas).map (.asked 0) ++ ((prepared dearGas).map (.asked 1) ++
    ((prepared cheapGas).map (.asked 2) ++ ((counting 0).map (.asked 0) ++
      (.asked 0 ⟨.node (.submit first), .ok firstReceipt.hash⟩ :: .asked 0 ⟨.unlock, ()⟩ ::
        (counting 1).map (.asked 1)))))

/-- The third one's transaction is taken, after the first one has begun to wait. -/
def afterRefusal (second : SignedTransaction) : List (Event (Fin 3)) :=
  .asked 1 ⟨.unlock, ()⟩ :: .asked 0 ⟨.now, (0 : ℕ)⟩ :: ((counting 1).map (.asked 2) ++
    [.asked 2 ⟨.node (.submit second), .ok failedReceipt.hash⟩, .asked 2 ⟨.unlock, ()⟩])

/-- In between the second one's transaction is refused. -/
def threeExecutions (first refused second : SignedTransaction) : List (Event (Fin 3)) :=
  beforeRefusal first ++
    .asked 1 ⟨.node (.submit refused), .error busy⟩ :: afterRefusal second

namespace Queue

/-- To prepare an execution changes nothing. -/
theorem runs_prepared (estimate : Estimate) (queue : Queue ι) (caller : ι) :
    Runs openEndpoint 0 queue ((prepared estimate).map (.asked caller)) queue :=
  .cons (.ordinary rfl) <| .cons (.ordinary rfl) <| .cons (.ordinary rfl) <|
    .cons (.ordinary rfl) <| .nil queue

/-- The next number is how many transactions were taken. -/
theorem runs_counting {taken : List SignedTransaction} {nonce : UInt64} (caller : ι)
    (hnonce : nonce.toNat = 0 + taken.length) :
    Runs openEndpoint 0 ⟨none, taken⟩ ((counting nonce).map (.asked caller))
      ⟨some caller, taken⟩ :=
  .cons (.lock caller rfl) <| .cons (.counted fun _ => hnonce) <| .nil _

theorem runs_beforeRefusal (first : SignedTransaction) :
    Runs openEndpoint 0 .idle (beforeRefusal first) ⟨some 1, [first]⟩ := by
  refine (runs_prepared cheapGas idle 0).append ?_
  refine (runs_prepared dearGas idle 1).append ?_
  refine (runs_prepared cheapGas idle 2).append ?_
  refine (runs_counting 0 rfl).append ?_
  exact .cons (.taken 0 first _) (.cons (.unlock 0) (runs_counting 1 rfl))

theorem runs_afterRefusal (first second : SignedTransaction) :
    Runs openEndpoint 0 ⟨some 1, [first]⟩ (afterRefusal second) ⟨none, [first, second]⟩ := by
  refine .cons (.unlock 1) (.cons (.ordinary rfl) ?_)
  refine (runs_counting 2 rfl).append ?_
  exact .cons (.taken 2 second _) (.cons (.unlock 2) (.nil _))

end Queue

/-- The transaction of the delivery, signed with a number and a gas price. -/
def IsDelivery (nonce : UInt64) (gasPrice : ℕ) (signed : SignedTransaction) : Prop :=
  signLegacy openSigner (openEndpoint.transaction delivery 0 (scaledGas 100000))
    ⟨nonce, gasPrice, 5⟩ = .ok signed

/-- The open account signs it. -/
theorem exists_isDelivery (nonce : UInt64) (gasPrice : ℕ) :
    ∃ signed, IsDelivery nonce gasPrice signed :=
  exists_signLegacy_call recoverable_openSigner openEndpoint.chain openEndpoint.program
    delivery.encode 0 (scaledGas 100000) ⟨nonce, gasPrice, 5⟩

/-- It is short. -/
theorem IsDelivery.length_raw_lt {nonce : UInt64} {gasPrice : ℕ} {signed : SignedTransaction}
    (h : IsDelivery nonce gasPrice signed) (hprice : gasPrice < 2 ^ 128) :
    signed.raw.length < 256 ^ 8 := by
  have hwidths : Representable (openEndpoint.transaction delivery 0 (scaledGas 100000))
      ⟨nonce, gasPrice, 5⟩ :=
    { value := by decide
      data := by decide +kernel
      gasPrice := hprice
      network := show 2 * (5 : UInt64).toNat + 36 < 2 ^ 64 by decide }
  exact Evm.length_raw_lt hwidths rfl rfl h

/-- Each of the three is an execution of the delivery. -/
theorem begins_threeExecutions {first refused second : SignedTransaction}
    (hfirst : IsDelivery 0 1 first) (hrefused : IsDelivery 1 2 refused)
    (hsecond : IsDelivery 1 1 second) (i : Fin 3) :
    (openEndpoint.execute delivery 0).Begins
      (exchangesOf i (threeExecutions first refused second)) := by
  have hafford : dearGas.Affords openEndpoint 0 (scaledGas 100000) := ⟨rfl, by decide⟩
  have hbusy : Executes openEndpoint delivery 0
      (dearGas.asked openEndpoint delivery 0 ++ ([⟨.knownNetwork, some 5⟩] ++
        (counting 1 ++ [⟨.node (.submit refused), .error busy⟩, ⟨.unlock, ()⟩])))
      (.error busy) :=
    .unsubmitted hafford (.known 5) (.handedIn (.error busy) hrefused)
  match i with
  | 0 => exact ⟨_, _, runs_execute_iff.mpr (executes_delivering firstReceipt hfirst)⟩
  | 1 => exact (runs_execute_iff.mpr hbusy).begins
  | 2 => exact ⟨⟨.now, (0 : ℕ)⟩ :: _, _,
      runs_execute_iff.mpr (executes_delivering failedReceipt hsecond)⟩

/-- The first transaction that is taken has the number 0, and the second one the number 1, which the
one that was refused had before. -/
theorem nonces_consecutive_threeExecutions : ∃ first refused second,
    (∀ i, (openEndpoint.execute delivery 0).Begins
      (exchangesOf i (threeExecutions first refused second))) ∧
    Queue.Runs openEndpoint 0 .idle (threeExecutions first refused second)
      ⟨none, [first, second]⟩ ∧
    Queue.Carries openEndpoint first 0 ∧ Queue.Carries openEndpoint refused 1 ∧
    Queue.Carries openEndpoint second 1 ∧
    nonce? first.raw = some 0 ∧ nonce? refused.raw = some 1 ∧ nonce? second.raw = some 1 := by
  obtain ⟨first, hfirst⟩ := exists_isDelivery 0 1
  obtain ⟨refused, hrefused⟩ := exists_isDelivery 1 2
  obtain ⟨second, hsecond⟩ := exists_isDelivery 1 1
  have hbegins := begins_threeExecutions hfirst hrefused hsecond
  have hbefore := Queue.runs_beforeRefusal first
  have hafter := Queue.runs_afterRefusal first second
  have hruns : Queue.Runs openEndpoint 0 .idle (threeExecutions first refused second)
      ⟨none, [first, second]⟩ :=
    hbefore.append (.cons (.refused 1 refused busy) hafter)
  obtain ⟨hcarries, hreused⟩ :=
    @nonces_consecutive _ _ _ _ (fun _ => (delivery, 0)) _ _ hruns hbegins
  have hzero : Queue.Carries openEndpoint first 0 := hcarries 0 first rfl
  obtain ⟨hone, hnext⟩ := hreused _ 1 refused busy _ ⟨some 1, [first]⟩ rfl hbefore hafter
  have hagain := hnext second [] rfl
  exact ⟨first, refused, second, hbegins, hruns, hzero, hone, hagain,
    hzero.nonce (hfirst.length_raw_lt (by decide)),
    hone.nonce (hrefused.length_raw_lt (by decide)),
    hagain.nonce (hsecond.length_raw_lt (by decide))⟩

end ThreeExecutions

end GuardianRelay.Evm
