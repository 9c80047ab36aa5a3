import GuardianRelay.Bytes.Cursor
import GuardianRelay.Proofs.Bytes

/-!
# Decoders and Written Forms

A decoder and a writer fit together when the decoder reads a value at a cursor exactly where
the bytes go on with the written form of that value. `Decoder.Reads` states this as one
equivalence, so it holds both laws of a codec: reading what was written gives the value back,
and what was read is what would have been written. Fields fit their decoders, and whatever is
read from fields that fit does so too, which is how the laws of whole messages are put
together.

## Main results

* `Decoder.Reads.run_bind`: a field that is read first stands in front of what is read after
  it.
* `Decoder.Reads.map`, `Decoder.Reads.bind_pure`: a value that is made from a field is read where
  the field is.
* `Decoder.reads_fixed`, `Decoder.reads_take`, `Decoder.reads_uint8`, `Decoder.reads_uint16`,
  `Decoder.reads_uint32`, `Decoder.reads_uint64`: the fields.
* `Decoder.reads_tagged`: a value of one of several types is read behind its type byte.
* `Decoder.Reads.times`: a counted repetition is read where the written forms of its values
  follow each other.
* `Decoder.decode_eq_ok_iff`: decoding is reading from the start.
* `Decoder.Reads.decode_eq_ok_iff_prefix`: what is decoded is what the bytes start with.
-/

namespace GuardianRelay.Decoder

variable {α β : Type}

/-- The decoder `d` reads a value exactly where its written form stands, and only values that
are valid. -/
def Reads (d : Decoder α) (valid : α → Prop) (write : α → Bytes) : Prop :=
  ∀ (c : Cursor) (v : α) (c' : Cursor), d.run c = .ok (v, c') ↔
    valid v ∧ c.rest = write v ++ c'.rest ∧ c'.offset = c.offset + (write v).length

/-! ### Sequencing -/

/-- Two decoders in sequence succeed when the first does and the second does from where the
first stopped. -/
theorem run_bind_eq_ok {d : Decoder α} {f : α → Decoder β} {c : Cursor} {r : β × Cursor} :
    (d >>= f).run c = .ok r ↔ ∃ v c₁, d.run c = .ok (v, c₁) ∧ (f v).run c₁ = .ok r := by
  rw [StateT.run_bind]
  cases h : d.run c with
  | error e => simp [bind, Except.bind]
  | ok first =>
      obtain ⟨v, c₁⟩ := first
      simp [bind, Except.bind]

/-- Returning a value reads nothing. -/
theorem run_pure_eq_ok {v w : α} {c c' : Cursor} :
    (pure v : Decoder α).run c = .ok (w, c') ↔ v = w ∧ c = c' := by
  rw [StateT.run_pure]
  simp [pure, Except.pure]

section Reads

variable {d : Decoder α} {valid : α → Prop} {write : α → Bytes}

/-- A field that is read first stands in front of what is read after it. -/
theorem Reads.run_bind (hd : d.Reads valid write) {f : α → Decoder β} {c : Cursor}
    {r : β × Cursor} :
    (d >>= f).run c = .ok r ↔ ∃ v rest, valid v ∧ c.rest = write v ++ rest ∧
      (f v).run ⟨c.offset + (write v).length, rest⟩ = .ok r := by
  rw [run_bind_eq_ok]
  constructor
  · rintro ⟨v, ⟨offset, rest⟩, hv, hf⟩
    obtain ⟨hvalid, hrest, rfl⟩ := (hd _ _ _).mp hv
    exact ⟨v, rest, hvalid, hrest, hf⟩
  · rintro ⟨v, rest, hvalid, hrest, hf⟩
    exact ⟨v, _, (hd _ _ _).mpr ⟨hvalid, hrest, rfl⟩, hf⟩

/-- A value that is made from a field is read where the field is, if the field can be told from
the value. -/
theorem Reads.map (hd : d.Reads valid write) {f : α → β} {valid' : β → Prop}
    {write' : β → Bytes} (hvalid : ∀ b, valid' b ↔ ∃ a, valid a ∧ f a = b)
    (hwrite : ∀ a, write' (f a) = write a) :
    (d >>= fun a => pure (f a)).Reads valid' write' := by
  intro c b c'
  rw [hd.run_bind, hvalid]
  simp only [run_pure_eq_ok]
  constructor
  · rintro ⟨a, rest, ha, hrest, rfl, rfl⟩
    rw [hwrite]
    exact ⟨⟨a, ha, rfl⟩, hrest, rfl⟩
  · rintro ⟨⟨a, ha, rfl⟩, hrest, hoffset⟩
    rw [hwrite] at hrest hoffset
    exact ⟨a, c'.rest, ha, hrest, rfl, by rw [← hoffset]⟩

/-- A value that is in a bijection with a field is read where the field is. -/
theorem Reads.bind_pure (hd : d.Reads valid write) {f : α → β} {g : β → α}
    (hgf : ∀ a, g (f a) = a) (hfg : ∀ b, f (g b) = b) :
    Reads (d >>= fun a => pure (f a)) (fun b => valid (g b)) (fun b => write (g b)) := by
  refine hd.map (fun b => ⟨fun hb => ⟨g b, hb, hfg b⟩, ?_⟩) fun a => congrArg write (hgf a)
  rintro ⟨a, ha, rfl⟩
  rwa [hgf]

/-- A counted repetition is read where the written forms of that many values follow each
other. -/
theorem Reads.times (hd : d.Reads valid write) (n : ℕ) :
    (d.times n).Reads (fun vs => vs.length = n ∧ ∀ v ∈ vs, valid v) (List.flatMap write) := by
  induction n with
  | zero =>
      rintro ⟨offset, rest⟩ vs ⟨offset', rest'⟩
      rw [Decoder.times, run_pure_eq_ok]
      constructor
      · rintro ⟨rfl, ⟨⟩⟩
        simp
      · rintro ⟨⟨hlength, -⟩, hrest, hoffset⟩
        obtain rfl : vs = [] := List.length_eq_zero_iff.mp hlength
        exact ⟨rfl, congrArg₂ Cursor.mk hoffset.symm hrest⟩
  | succ n ih =>
      intro c vs c'
      rw [Decoder.times, hd.run_bind]
      simp only [ih.run_bind, run_pure_eq_ok]
      constructor
      · rintro ⟨v, _, hv, hrest, rest, _, ⟨rfl, hvalid⟩, rfl, rfl, rfl⟩
        refine ⟨⟨rfl, List.forall_mem_cons.mpr ⟨hv, hvalid⟩⟩, ?_, ?_⟩
        · rw [hrest, List.flatMap_cons, List.append_assoc]
        · simp [Nat.add_assoc]
      · rintro ⟨⟨hlength, hvalid⟩, hrest, hoffset⟩
        obtain ⟨v, vs, rfl⟩ := List.exists_cons_of_length_eq_add_one hlength
        obtain ⟨hv, hvs⟩ := List.forall_mem_cons.mp hvalid
        rw [List.flatMap_cons, List.append_assoc] at hrest
        rw [List.flatMap_cons, List.length_append, ← Nat.add_assoc] at hoffset
        have hvlength : vs.length = n := by simpa using hlength
        exact ⟨v, _, hv, hrest, vs, _, ⟨hvlength, hvs⟩, rfl, rfl, by rw [← hoffset]⟩

end Reads

/-- Checking for room reads nothing, and stops a decoder that has not enough of it. -/
theorem run_ensure_bind {n : ℕ} {f : Unit → Decoder β} {c : Cursor} {r : β × Cursor} :
    (ensure n >>= f).run c = .ok r ↔ n ≤ c.rest.length ∧ (f ()).run c = .ok r := by
  rw [run_bind_eq_ok]
  constructor
  · rintro ⟨⟨⟩, c₁, hensure, hf⟩
    simp only [ensure, StateT.run] at hensure
    split at hensure
    · contradiction
    · obtain rfl : c = c₁ := by simpa using hensure
      exact ⟨by omega, hf⟩
  · rintro ⟨hroom, hf⟩
    exact ⟨(), c, if_neg (by omega), hf⟩

/-- Reading the rest takes all of it. -/
theorem run_rest_bind {f : Bytes → Decoder β} {c : Cursor} {r : β × Cursor} :
    (rest >>= f).run c = .ok r ↔
      (f c.rest).run ⟨c.offset + c.rest.length, []⟩ = .ok r := by
  rw [run_bind_eq_ok]
  simp [rest, StateT.run]

/-! ### Fields -/

/-- A field of `n` bytes is read wherever there are `n` bytes. -/
theorem reads_fixed (n : ℕ) : (fixed n).Reads (fun _ => True) FixedBytes.toList := by
  rintro ⟨offset, rest⟩ v ⟨offset', rest'⟩
  simp only [fixed, StateT.run, true_and, FixedBytes.length_toList]
  constructor
  · intro h
    split at h
    · contradiction
    · obtain ⟨rfl, rfl, rfl⟩ : _ ∧ _ ∧ _ := by simpa using h
      exact ⟨(List.take_append_drop n rest).symm, rfl⟩
  · rintro ⟨rfl, rfl⟩
    have hroom : ¬ (v.toList ++ rest').length < n := by simp
    rw [dif_neg hroom]
    simp

/-- So many bytes are read wherever there are as many. -/
theorem reads_take (n : ℕ) : (take n).Reads (fun b => b.length = n) id := by
  intro c b c'
  rw [take, (reads_fixed n).run_bind]
  simp only [run_pure_eq_ok, true_and]
  constructor
  · rintro ⟨field, rest, hrest, rfl, rfl⟩
    exact ⟨field.length_toList, hrest, rfl⟩
  · rintro ⟨hlength, hrest, hoffset⟩
    refine ⟨⟨b, hlength⟩, c'.rest, hrest, rfl, ?_⟩
    rw [show (⟨b, hlength⟩ : FixedBytes n).toList = id b from rfl, ← hoffset]

/-- A number of `n` bytes is read where its octets stand, most significant first. -/
theorem reads_number {n : ℕ} {ofNat : ℕ → α} {toNat : α → ℕ}
    (hlt : ∀ a, toNat a < 256 ^ n) (hofNat : ∀ a, ofNat (toNat a) = a)
    (htoNat : ∀ v < 256 ^ n, toNat (ofNat v) = v) :
    Reads (fixed n >>= fun b => pure (ofNat b.toNat)) (fun _ => True)
      (fun a => Bytes.bigEndian n (toNat a)) := by
  refine (reads_fixed n).bind_pure (g := fun a => FixedBytes.ofNat (toNat a))
    (fun b => ?_) (fun a => ?_)
  · rw [htoNat _ b.toNat_lt, FixedBytes.ofNat_toNat]
  · rw [FixedBytes.toNat_ofNat, Nat.mod_eq_of_lt (hlt a), hofNat]

/-- One byte is read where it stands. -/
theorem reads_uint8 : uint8.Reads (fun _ => True) (fun v => [v]) := by
  have h : uint8.Reads (fun _ => True) (fun v => Bytes.bigEndian 1 v.toNat) :=
    reads_number UInt8.toNat_lt (fun _ => UInt8.ofNat_toNat)
      fun _ hv => UInt8.toNat_ofNat_of_lt hv
  simpa [Bytes.bigEndian, Bytes.littleEndian] using h

/-- A value of one of several types is read where its type byte stands in front of what is written
for the type. -/
theorem reads_tagged {f : UInt8 → Decoder α} {tag : α → UInt8} {valid : α → Prop}
    {write : α → Bytes} (h : ∀ type, (f type).Reads (fun v => valid v ∧ tag v = type) write) :
    (uint8 >>= f).Reads valid (fun v => tag v :: write v) := by
  intro c v c'
  have hlength : (tag v :: write v).length = 1 + (write v).length := by
    rw [List.length_cons, Nat.add_comm]
  rw [reads_uint8.run_bind]
  dsimp only
  rw [hlength, ← Nat.add_assoc]
  constructor
  · rintro ⟨type, rest, -, hrest, hrun⟩
    obtain ⟨⟨hvalid, rfl⟩, hlater, hoffset⟩ := (h _ _ _ _).mp hrun
    dsimp only at hlater
    refine ⟨hvalid, ?_, hoffset⟩
    rw [hrest, hlater]
    rfl
  · rintro ⟨hvalid, hrest, hoffset⟩
    exact ⟨tag v, write v ++ c'.rest, trivial, hrest,
      (h _ _ _ _).mpr ⟨⟨hvalid, rfl⟩, rfl, hoffset⟩⟩

/-- A decoder that refuses everything reads no value. -/
theorem reads_throw {error : ParseError} {valid : α → Prop} {write : α → Bytes}
    (h : ∀ v, ¬ valid v) : (throw error : Decoder α).Reads valid write :=
  fun _ v _ => iff_of_false nofun fun hv => h v hv.1

/-- A 16-bit number is read where its two octets stand. -/
theorem reads_uint16 : uint16.Reads (fun _ => True) (fun v => Bytes.bigEndian 2 v.toNat) :=
  reads_number UInt16.toNat_lt (fun _ => UInt16.ofNat_toNat)
    fun _ hv => UInt16.toNat_ofNat_of_lt hv

/-- A 32-bit number is read where its four octets stand. -/
theorem reads_uint32 : uint32.Reads (fun _ => True) (fun v => Bytes.bigEndian 4 v.toNat) :=
  reads_number UInt32.toNat_lt (fun _ => UInt32.ofNat_toNat)
    fun _ hv => UInt32.toNat_ofNat_of_lt hv

/-- A 64-bit number is read where its eight octets stand. -/
theorem reads_uint64 : uint64.Reads (fun _ => True) (fun v => Bytes.bigEndian 8 v.toNat) :=
  reads_number UInt64.toNat_lt (fun _ => UInt64.ofNat_toNat)
    fun _ hv => UInt64.toNat_ofNat_of_lt hv

/-! ### Whole byte strings -/

section Decode

variable {d : Decoder α} {b : Bytes}

/-- A value is decoded if it is read from the start. -/
theorem decode_eq_ok_iff {v : α} :
    d.decode b = .ok v ↔ ∃ c', d.run (Cursor.start b) = .ok (v, c') := by
  rw [decode]
  cases d.run (Cursor.start b) with
  | error e => simp [Except.map]
  | ok r => simp [Except.map, Prod.ext_iff]

/-- A value is decoded from the bytes that start with its written form. -/
theorem Reads.decode_eq_ok_iff_prefix {valid : α → Prop} {write : α → Bytes}
    (hd : d.Reads valid write) {v : α} : d.decode b = .ok v ↔ valid v ∧ write v <+: b := by
  rw [decode_eq_ok_iff]
  constructor
  · rintro ⟨c', hrun⟩
    obtain ⟨hvalid, hrest, -⟩ := (hd _ _ _).mp hrun
    exact ⟨hvalid, c'.rest, hrest.symm⟩
  · rintro ⟨hvalid, rest, hrest⟩
    exact ⟨⟨_, rest⟩, (hd _ _ _).mpr ⟨hvalid, hrest.symm, rfl⟩⟩

/-- Decoding fails as reading from the start does. -/
theorem decode_eq_error_iff {error : ParseError} :
    d.decode b = .error error ↔ d.run (Cursor.start b) = .error error := by
  rw [decode]
  cases d.run (Cursor.start b) with
  | error e => simp [Except.map]
  | ok r => simp [Except.map]

end Decode

end GuardianRelay.Decoder
