import GuardianRelay.Error

/-!
# Outcomes

When steps that may fail follow each other, the last value is there exactly when every step had
one, and the error is the one of the first step that failed. An outcome that is made of the
result of a part has its value or its fault. An attempt that may have come second is settled by
what the node said of it.

## Main results

* `Outcome.bind_eq_ok_iff`, `Outcome.bind_eq_error_iff`: outcomes of steps that follow each other.
* `Outcome.mapError_eq_ok_iff`, `Outcome.mapError_eq_error_iff`: outcomes that are made of the
  result of a part.
* `Outcome.bind_ne_error`, `Outcome.mapError_ne_error`: errors that do not occur, step by step.
* `Outcome.Yields`: properties of all values that there may be, step by step.
* `Outcome.settle`: attempts of which a failure may say that somebody else was first.
-/

namespace GuardianRelay.Outcome

variable {ε φ α β : Type}

/-- Two steps have a value exactly when both have one. -/
theorem bind_eq_ok_iff {x : Except ε α} {f : α → Except ε β} {b : β} :
    (x >>= f) = .ok b ↔ ∃ a, x = .ok a ∧ f a = .ok b := by
  cases x <;> simp [bind, Except.bind]

/-- Two steps that have one value each, or none, have what is made of the two values, or nothing. -/
theorem bind_bind_eq_ok_iff {γ : Type} {x : Except ε α} {y : Except ε β} {f : α → β → γ}
    {p q : Prop} {a : α} {b : β} {c : γ} (hx : ∀ {a'}, x = .ok a' ↔ p ∧ a' = a)
    (hy : ∀ {b'}, y = .ok b' ↔ q ∧ b' = b) :
    (x >>= fun a => y >>= fun b => .ok (f a b)) = .ok c ↔ (p ∧ q) ∧ c = f a b := by
  simp only [bind_eq_ok_iff, hx, hy]
  constructor
  · rintro ⟨_, ⟨hp, rfl⟩, _, ⟨hq, rfl⟩, hc⟩
    exact ⟨⟨hp, hq⟩, (Except.ok.inj hc).symm⟩
  · rintro ⟨⟨hp, hq⟩, rfl⟩
    exact ⟨a, ⟨hp, rfl⟩, b, ⟨hq, rfl⟩, rfl⟩

/-- Two steps fail if the first one does, or the second one after it. -/
theorem bind_eq_error_iff {x : Except ε α} {f : α → Except ε β} {e : ε} :
    (x >>= f) = .error e ↔ x = .error e ∨ ∃ a, x = .ok a ∧ f a = .error e := by
  cases x <;> simp [bind, Except.bind]

/-- A value that is changed afterwards was there before. -/
theorem map_eq_ok_iff {x : Except ε α} {f : α → β} {b : β} :
    x.map f = .ok b ↔ ∃ a, x = .ok a ∧ f a = b := by
  cases x <;> simp [Except.map]

/-- What fails has no value. -/
theorem exists_eq_error_iff {x : Except ε α} : (∃ e, x = .error e) ↔ ¬ ∃ a, x = .ok a := by
  cases x <;> simp

/-- Two steps of which neither has some error do not have it together. -/
theorem bind_ne_error {x : Except ε α} {f : α → Except ε β} {e : ε} (hx : x ≠ .error e)
    (hf : ∀ a, f a ≠ .error e) : (x >>= f) ≠ .error e := by
  rw [Ne, bind_eq_error_iff]
  rintro (h | ⟨a, -, h⟩)
  · exact hx h
  · exact hf a h

/-- If every element of a list has a value, so has the list. -/
theorem exists_mapM_eq_ok {f : α → Except ε β} {l : List α} (h : ∀ a ∈ l, ∃ b, f a = .ok b) :
    ∃ bs, l.mapM f = .ok bs := by
  induction l with
  | nil => exact ⟨[], rfl⟩
  | cons a l ih =>
      obtain ⟨⟨b, hb⟩, hl⟩ := List.forall_mem_cons.mp h
      obtain ⟨bs, hbs⟩ := ih hl
      refine ⟨b :: bs, ?_⟩
      rw [List.mapM_cons, hb, hbs]
      rfl

/-- A list does not have an error that none of its elements has. -/
theorem mapM_ne_error {f : α → Except ε β} {l : List α} {e : ε} (h : ∀ a ∈ l, f a ≠ .error e) :
    l.mapM f ≠ .error e := by
  induction l with
  | nil => nofun
  | cons a l ih =>
      obtain ⟨ha, hl⟩ := List.forall_mem_cons.mp h
      rw [List.mapM_cons]
      exact bind_ne_error ha fun _ => bind_ne_error (ih hl) fun _ => nofun

/-- If a list has a value, so has every element of it. -/
theorem exists_of_mapM_eq_ok {f : α → Except ε β} {l : List α} {bs : List β}
    (h : l.mapM f = .ok bs) : ∀ a ∈ l, ∃ b, f a = .ok b := by
  induction l generalizing bs with
  | nil => nofun
  | cons a l ih =>
      rw [List.mapM_cons] at h
      obtain ⟨b, hb, h⟩ := bind_eq_ok_iff.mp h
      obtain ⟨bs, hbs, -⟩ := bind_eq_ok_iff.mp h
      exact List.forall_mem_cons.mpr ⟨⟨b, hb⟩, ih hbs⟩

/-- If a list has a value, its elements have the values that the list's value holds, so what is the
same of each element and its value is the same of the lists. -/
theorem map_eq_of_mapM_eq_ok {γ : Type} {f : α → Except ε β} {g : β → γ} {h : α → γ} {l : List α}
    {bs : List β} (hmapM : l.mapM f = .ok bs) (hf : ∀ a ∈ l, ∀ b, f a = .ok b → g b = h a) :
    bs.map g = l.map h := by
  induction l generalizing bs with
  | nil =>
      obtain rfl := Except.ok.inj hmapM
      rfl
  | cons a l ih =>
      obtain ⟨ha, hl⟩ := List.forall_mem_cons.mp hf
      rw [List.mapM_cons] at hmapM
      obtain ⟨b, hb, hmapM⟩ := bind_eq_ok_iff.mp hmapM
      obtain ⟨bs, hbs, hcons⟩ := bind_eq_ok_iff.mp hmapM
      obtain rfl := Except.ok.inj hcons
      rw [List.map_cons, List.map_cons, ha b hb, ih hbs hl]

/-- The value of a list has as many elements as the list. -/
theorem length_eq_of_mapM_eq_ok {f : α → Except ε β} {l : List α} {bs : List β}
    (h : l.mapM f = .ok bs) : bs.length = l.length := by
  have hunits : bs.map (fun _ => ()) = l.map fun _ => () :=
    map_eq_of_mapM_eq_ok h fun _ _ _ _ => rfl
  simpa using congrArg List.length hunits

/-- The value of a list of which elements may be left out holds, in their order, the values of the
elements that are not. -/
theorem eq_filterMap_of_filterMapM_eq_ok {f : α → Except ε (Option β)} {l : List α} {bs : List β}
    (h : l.filterMapM f = .ok bs) : bs = l.filterMap fun a => (f a).toOption.join := by
  induction l generalizing bs with
  | nil => exact (Except.ok.inj h).symm
  | cons a l ih =>
      rw [List.filterMapM_cons] at h
      obtain ⟨found, ha, hrest⟩ := bind_eq_ok_iff.mp h
      cases found with
      | none =>
          rw [List.filterMap_cons_none (by rw [ha]; rfl)]
          exact ih hrest
      | some b =>
          obtain ⟨later, hlater, heq⟩ := bind_eq_ok_iff.mp hrest
          obtain rfl := Except.ok.inj heq
          rw [List.filterMap_cons_some (b := b) (by rw [ha]; rfl), ← ih hlater]

/-- Renaming the faults of a part leaves its values. -/
@[simp] theorem mapError_eq_ok_iff {x : Except φ α} {f : φ → ε} {a : α} :
    x.mapError f = .ok a ↔ x = .ok a := by
  cases x with
  | ok b => constructor <;> rintro ⟨⟩ <;> rfl
  | error fault => exact ⟨nofun, nofun⟩

/-- An error that is made of a fault has a fault behind it. -/
@[simp] theorem mapError_eq_error_iff {x : Except φ α} {f : φ → ε} {e : ε} :
    x.mapError f = .error e ↔ ∃ fault, x = .error fault ∧ f fault = e := by
  cases x with
  | ok a => exact ⟨nofun, nofun⟩
  | error fault =>
      constructor
      · intro h
        exact ⟨fault, rfl, Except.error.inj h⟩
      · rintro ⟨_, ⟨⟩, rfl⟩
        rfl

/-- An error that is made of no fault is not among the renamed ones. -/
theorem mapError_ne_error {x : Except φ α} {f : φ → ε} {e : ε} (h : ∀ fault, f fault ≠ e) :
    x.mapError f ≠ .error e := by
  rw [Ne, mapError_eq_error_iff]
  rintro ⟨fault, -, hfault⟩
  exact h fault hfault

/-! ### Properties of values -/

/-- Every value that there may be has a property. -/
def Yields (p : α → Prop) (x : Except ε α) : Prop := ∀ a, x = .ok a → p a

/-- What the first step yields may be used for the second. -/
theorem Yields.bind {p : β → Prop} {q : α → Prop} {x : Except ε α} {f : α → Except ε β}
    (hx : Yields q x) (hf : ∀ a, q a → Yields p (f a)) : Yields p (x >>= f) := by
  intro b hb
  obtain ⟨a, ha, hb⟩ := bind_eq_ok_iff.mp hb
  exact hf a (hx a ha) b hb

/-- If it does not matter what the first step yields, it matters what the second does. -/
theorem yields_bind {p : β → Prop} {x : Except ε α} {f : α → Except ε β}
    (hf : ∀ a, Yields p (f a)) : Yields p (x >>= f) :=
  Yields.bind (q := fun _ => True) (fun _ _ => trivial) fun a _ => hf a

/-- A value yields its properties. -/
theorem yields_ok {p : α → Prop} {a : α} (h : p a) : Yields p (.ok a : Except ε α) := by
  rintro _ ⟨⟩
  exact h

/-! ### Attempts that may come second -/

/-- What becomes of an attempt that may have come second: its value, if it has one, is changed; a
failure of which a node says that somebody else was first counts as `instead`; any other failure
stays. -/
def settle (second : String → Bool) (value : α → β) (instead : Outcome β) :
    Outcome α → Outcome β
  | .ok a => .ok (value a)
  | .error error => if error.rpcText?.any second then instead else .error error

variable {second : String → Bool} {value : α → β} {instead : Outcome β} {error : RelayError}

/-- A failure that says that somebody else was first. -/
theorem settle_of_second (h : error.rpcText?.any second = true) :
    settle second value instead (.error error) = instead := if_pos h

/-- A failure that does not say so. -/
theorem settle_of_clear (h : error.rpcText?.any second = false) :
    settle second value instead (.error error) = .error error :=
  if_neg (Bool.eq_false_iff.mp h)

end GuardianRelay.Outcome
