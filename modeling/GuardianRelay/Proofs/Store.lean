import GuardianRelay.Proofs.Latest
import GuardianRelay.Proofs.Relay
import GuardianRelay.Store
import Mathlib.Data.Set.Card

/-!
# Histories of Stores

A store begins empty, and from then on attestations and plain bytes are stored in it, in any order
and any number. An operation writes one entry or none: an attestation whose signatures cannot be
counted has no written form, and storing it changes nothing. What a store holds is read off its
history, without the way in which it keeps its entries: for each message, what was written last.

A store that only attestations went into gives back attestations. They are kept under their own
chain, emitter and sequence, and their written form decodes to what was written, so a relay that
awaits a message accepts what it finds for it.

## Main results

* `Store.get?_perform`, `Store.nodup_keys_perform`: what one operation does.
* `Store.get?_after`, `Store.mem_keys_after_iff`, `Store.encard_written`: what a history leaves.
* `Store.after_spec`: lookups, the number of messages, refused attestations, and stores of
  attestations only.
-/

namespace GuardianRelay.Store

variable {store : Store} {key : MessageKey} {b : Bytes} {operations : List Operation}

/-! ### Operations -/

/-- What is done to a store. -/
inductive Operation where
  /-- An attestation is stored for its message. -/
  | attestation (a : Attestation)
  /-- Bytes are stored for a message as they are. -/
  | plain (key : MessageKey) (b : Bytes)

/-- What an operation makes of a store, unless it is refused. -/
def attempt (store : Store) : Operation → Except ParseError Store
  | .attestation a => store.insertAttestation a
  | .plain key b => .ok (store.insert key b)

/-- The store after an operation; a refused one leaves the store that there was. -/
def perform (store : Store) (operation : Operation) : Store :=
  match store.attempt operation with
  | .ok next => next
  | .error _ => store

/-- The store that operations make of an empty one. -/
def after (operations : List Operation) : Store := operations.foldl perform empty

/-- What an operation writes, and for which message. -/
def Operation.written? : Operation → Option (MessageKey × Bytes)
  | attestation a => a.encode.toOption.map fun b => (keyOf a, b)
  | plain key b => some (key, b)

/-- What an operation writes for a message. -/
def Operation.bytes? (key : MessageKey) (operation : Operation) : Option Bytes :=
  operation.written?.bind fun entry => if entry.1 = key then some entry.2 else none

/-- What is written for a message is written with its key. -/
theorem Operation.bytes?_eq_some_iff {operation : Operation} :
    operation.bytes? key = some b ↔ operation.written? = some (key, b) := by
  rw [bytes?]
  cases operation.written? with
  | none => simp
  | some entry =>
      obtain ⟨key', b'⟩ := entry
      by_cases hkey : key' = key <;> simp [hkey]

/-- Nothing is written for a message if nothing is written with its key. -/
theorem Operation.bytes?_eq_none_iff {operation : Operation} :
    operation.bytes? key = none ↔ ∀ b, operation.written? ≠ some (key, b) := by
  simp only [Option.eq_none_iff_forall_ne_some, ne_eq, bytes?_eq_some_iff]

/-- An attestation is written as it is encoded, with the key of its message. -/
theorem Operation.written?_attestation_eq_some_iff {a : Attestation} :
    (attestation a).written? = some (key, b) ↔ keyOf a = key ∧ a.encode = .ok b := by
  rw [written?]
  cases a.encode with
  | error fault => simp [Except.toOption]
  | ok encoded => simp [Except.toOption]

/-- An operation stores what it writes, and nothing else. -/
theorem perform_eq (operation : Operation) :
    store.perform operation =
      (operation.written?.map fun entry => store.insert entry.1 entry.2).getD store := by
  cases operation with
  | plain key b => rfl
  | attestation a =>
      rw [perform, attempt, insertAttestation, Operation.written?]
      cases a.encode <;> rfl

/-! ### Entries -/

/-- The messages that something is stored for. -/
def keys (store : Store) : List MessageKey := store.entries.map Prod.fst

/-- Nothing is found for the messages that nothing is stored for. -/
theorem get?_eq_none_iff : store.get? key = none ↔ key ∉ store.keys := by
  rw [get?, List.lookup_eq_none_iff, keys]
  constructor
  · intro h hmem
    obtain ⟨entry, hentry, rfl⟩ := List.mem_map.mp hmem
    simpa using h entry hentry
  · intro h entry hentry
    have hne : key ≠ entry.1 := fun heq => h (heq ▸ List.mem_map_of_mem hentry)
    simpa using hne

/-- The messages after storing for one more: that one, and the others that there were. -/
theorem keys_insert : (store.insert key b).keys = key :: store.keys.filter (· ≠ key) := by
  rw [keys, insert, List.map_cons, keys, List.filter_map]
  rfl

/-- What is not removed is found where it was. -/
theorem lookup_filter_ne {entries : List (MessageKey × Bytes)} {removed : MessageKey}
    (h : key ≠ removed) :
    (entries.filter fun entry => entry.1 ≠ removed).lookup key = entries.lookup key := by
  induction entries with
  | nil => rfl
  | cons entry later ih =>
      obtain ⟨first, b⟩ := entry
      by_cases hfirst : first = removed
      · have hne : (key == first) = false := by simpa [hfirst] using h
        rw [List.filter_cons_of_neg (by simpa using hfirst), ih, List.lookup_cons, hne]
      · rw [List.filter_cons_of_pos (by simpa using hfirst), List.lookup_cons, List.lookup_cons,
          ih]

/-- Storing for a message changes what is found for that one only. -/
theorem get?_insert (key' : MessageKey) :
    (store.insert key b).get? key' = if key' = key then some b else store.get? key' := by
  rw [get?, insert, List.lookup_cons]
  by_cases hkey : key' = key
  · simp [hkey]
  · have hne : (key' == key) = false := by simpa using hkey
    rw [hne, if_neg hkey]
    exact lookup_filter_ne hkey

/-! ### One operation -/

/-- **What is found after an operation**: what it wrote for the message, or what was found
before. -/
theorem get?_perform (operation : Operation) :
    (store.perform operation).get? key = (operation.bytes? key).or (store.get? key) := by
  rw [perform_eq, Operation.bytes?]
  cases operation.written? with
  | none => rfl
  | some entry =>
      obtain ⟨written, b⟩ := entry
      change (store.insert written b).get? key = _
      rw [get?_insert]
      by_cases hkey : written = key
      · simp [hkey]
      · simp [hkey, Ne.symm hkey]

/-- No message is kept twice by an operation. -/
theorem nodup_keys_perform (operation : Operation) (h : store.keys.Nodup) :
    (store.perform operation).keys.Nodup := by
  rw [perform_eq]
  cases operation.written? with
  | none => exact h
  | some entry =>
      change (store.insert entry.1 entry.2).keys.Nodup
      rw [keys_insert, List.nodup_cons]
      exact ⟨by simp, h.filter _⟩

/-! ### Histories -/

/-- What operations leave is reached by performing one after the other. -/
theorem steps_after (operations : List Operation) :
    Steps (fun store operation next => next = store.perform operation) empty operations
      (after operations) :=
  Steps.of_foldl perform empty operations

/-- **What is found after a history**: what was written last for the message. -/
theorem get?_after (operations : List Operation) (key : MessageKey) :
    (after operations).get? key = latest? (Operation.bytes? key) operations := by
  have hheld : ∀ key, (after operations).get? key =
      (latest? (Operation.bytes? key) operations).or none :=
    Steps.holds (fun store held => ∀ key, store.get? key = held key) Operation.bytes?
      (steps_after operations)
      (fun _ hstep hholds key => by rw [hstep, get?_perform, hholds key]) fun _ => rfl
  rw [hheld key]
  exact Option.or_none

/-- No message is kept twice. -/
theorem nodup_keys_after (operations : List Operation) : (after operations).keys.Nodup :=
  (steps_after operations).keeps (fun hstep h => hstep ▸ nodup_keys_perform _ h) List.nodup_nil

/-- Something is kept for the messages that something was written for. -/
theorem mem_keys_after_iff :
    key ∈ (after operations).keys ↔
      ∃ operation ∈ operations, ∃ b, operation.written? = some (key, b) := by
  rw [← not_iff_not, ← get?_eq_none_iff, get?_after, latest?_eq_none_iff]
  simp only [Operation.bytes?_eq_none_iff]
  push Not
  rfl

/-- The messages that something was written for are as many as the store says. -/
theorem encard_written (operations : List Operation) :
    {key | ∃ operation ∈ operations, ∃ b, operation.written? = some (key, b)}.encard =
      (after operations).size := by
  have hset : {key | ∃ operation ∈ operations, ∃ b, operation.written? = some (key, b)} =
      ((after operations).keys.toFinset : Set MessageKey) := by
    ext key
    simp only [Set.mem_ofPred_eq, List.coe_toFinset, mem_keys_after_iff]
  rw [hset, Set.encard_coe_eq_coe_finsetCard,
    List.toFinset_card_of_nodup (nodup_keys_after operations), keys, List.length_map, size]

/-- An attestation with more signatures than can be counted is refused. -/
theorem insertAttestation_tooMany {a : Attestation} (h : 255 < a.signatures.length) :
    store.insertAttestation a = .error (.tooManySignatures a.signatures.length) := by
  rw [insertAttestation, (Attestation.encode_decode_inverse a).2.1 h]
  rfl

/-- A refused attestation leaves what there is. -/
theorem after_append_refused {a : Attestation} (h : 255 < a.signatures.length) :
    after (operations ++ [.attestation a]) = after operations := by
  rw [after, List.foldl_concat, ← after, perform, attempt, insertAttestation_tooMany h]

/-- What is found where only attestations were stored is the written form of one that is of the
message. -/
theorem encode_of_get?_after (honly : ∀ operation ∈ operations, ∃ a, operation = .attestation a)
    (h : (after operations).get? key = some b) : ∃ a, keyOf a = key ∧ a.encode = .ok b := by
  rw [get?_after, latest?_eq_some_iff] at h
  obtain ⟨before, operation, later, rfl, hbytes, -⟩ := h
  obtain ⟨a, rfl⟩ := honly operation (List.mem_append_right before List.mem_cons_self)
  exact ⟨a, Operation.written?_attestation_eq_some_iff.mp (Operation.bytes?_eq_some_iff.mp hbytes)⟩

/-- A lookup finds what is stored. -/
theorem lookup_eq_found_iff : store.lookup key = .found b ↔ store.get? key = some b := by
  rw [lookup]
  cases store.get? key <;> simp

/-- A lookup finds nothing where nothing is stored. -/
theorem lookup_eq_notFound_iff : store.lookup key = .notFound ↔ store.get? key = none := by
  rw [lookup]
  cases store.get? key <;> simp

/-- **What a store is after any history**, from an empty one. A lookup finds what the last operation
that wrote for the message wrote, and nothing if none did. The size is the number of messages that
something was written for. An attestation with more than 255 signatures is refused for their number,
and the store stays as it was. If only attestations were stored, then what is found for a message
decodes to an attestation of that message, which a relay that awaits the message accepts. -/
theorem after_spec (operations : List Operation) :
    (∀ key b, (after operations).lookup key = .found b ↔
      ∃ before operation later, operations = before ++ operation :: later ∧
        operation.written? = some (key, b) ∧
        ∀ other ∈ later, ∀ b', other.written? ≠ some (key, b')) ∧
    (∀ key, (after operations).lookup key = .notFound ↔
      ∀ operation ∈ operations, ∀ b, operation.written? ≠ some (key, b)) ∧
    {key | ∃ operation ∈ operations, ∃ b, operation.written? = some (key, b)}.encard =
      (after operations).size ∧
    (∀ a : Attestation, 255 < a.signatures.length →
      (after operations).insertAttestation a = .error (.tooManySignatures a.signatures.length) ∧
      after (operations ++ [.attestation a]) = after operations) ∧
    ((∀ operation ∈ operations, ∃ a, operation = .attestation a) →
      ∀ key b, (after operations).lookup key = .found b →
        ∃ a, Attestation.decode b = .ok a ∧ a.emitterChain = key.chain ∧
          a.emitter = key.emitter ∧ a.sequence = key.sequence ∧
          Relay.checkAttestation a key = .ok ()) := by
  refine ⟨fun key b => ?_, fun key => ?_, encard_written operations, fun a hcount => ?_,
    fun honly key b hfound => ?_⟩
  · rw [lookup_eq_found_iff, get?_after, latest?_eq_some_iff]
    simp only [Operation.bytes?_eq_some_iff, Operation.bytes?_eq_none_iff]
  · rw [lookup_eq_notFound_iff, get?_after, latest?_eq_none_iff]
    simp only [Operation.bytes?_eq_none_iff]
  · exact ⟨insertAttestation_tooMany hcount, after_append_refused hcount⟩
  · obtain ⟨a, rfl, hencode⟩ := encode_of_get?_after honly (lookup_eq_found_iff.mp hfound)
    exact ⟨a, Attestation.decode_eq_ok_iff_encode.mpr hencode, rfl, rfl, rfl,
      Relay.checkAttestation_eq_ok_iff.mpr ⟨rfl, rfl, rfl⟩⟩

/-- A message is attested, its entry is written again, and bytes are stored for another message. -/
def rewritten : List Operation :=
  [.attestation (Attestation.signedTimes 1), .attestation (Attestation.signedTimes 2),
    .plain ⟨2, Address.zero, 7⟩ [0xff]]

/-- The entry that was written again is the one that is found, two messages are stored, 256
signatures are too many, and without the plain bytes a relay accepts what is found. -/
theorem after_spec_rewritten :
    (after rewritten).lookup (keyOf (Attestation.signedTimes 2)) =
      .found (Attestation.signedTimes 2).written ∧
    (after rewritten).size = 2 ∧
    (255 < (Attestation.signedTimes 256).signatures.length ∧
      after (rewritten ++ [.attestation (Attestation.signedTimes 256)]) = after rewritten) ∧
    ∃ a, Attestation.decode (Attestation.signedTimes 2).written = .ok a ∧
      Relay.checkAttestation a (keyOf (Attestation.signedTimes 2)) = .ok () := by
  have hmany : 255 < (Attestation.signedTimes 256).signatures.length := by
    rw [Attestation.signedTimes, List.length_replicate]
    decide
  have hwritten : (Operation.attestation (Attestation.signedTimes 2)).written? =
      some (keyOf (Attestation.signedTimes 2), (Attestation.signedTimes 2).written) :=
    Operation.written?_attestation_eq_some_iff.mpr
      ⟨rfl, Attestation.encode_eq_ok_iff.mpr ⟨by decide, rfl⟩⟩
  have hfound : (after rewritten).lookup (keyOf (Attestation.signedTimes 2)) =
      .found (Attestation.signedTimes 2).written := by
    refine ((after_spec rewritten).1 _ _).mpr
      ⟨[.attestation (Attestation.signedTimes 1)], _, _, rfl, hwritten, ?_⟩
    intro other hother b' hother'
    rw [List.mem_singleton.mp hother, Operation.written?, Option.some_inj, Prod.mk.injEq] at hother'
    exact absurd (congrArg MessageKey.chain hother'.1) (by decide)
  have honly : ∀ operation ∈ rewritten.take 2, ∃ a, operation = .attestation a := by
    simp [rewritten]
  have hfound' : (after (rewritten.take 2)).lookup (keyOf (Attestation.signedTimes 2)) =
      .found (Attestation.signedTimes 2).written :=
    ((after_spec (rewritten.take 2)).1 _ _).mpr
      ⟨[.attestation (Attestation.signedTimes 1)], _, [], rfl, hwritten, by simp⟩
  obtain ⟨a, hdecode, -, -, -, hcheck⟩ :=
    (after_spec (rewritten.take 2)).2.2.2.2 honly _ _ hfound'
  exact ⟨hfound, by decide, ⟨hmany, ((after_spec rewritten).2.2.2.1 _ hmany).2⟩, a, hdecode, hcheck⟩

end GuardianRelay.Store
