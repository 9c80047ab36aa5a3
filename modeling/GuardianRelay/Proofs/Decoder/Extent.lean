import GuardianRelay.Proofs.Decoder

/-!
# How Far Decoders Read

`Decoder.Reads` says where a decoder succeeds by what stands there. Most decoders can be judged
with less: they take a certain number of bytes, whatever those are, and if fewer are left they say
where the input ends. `Decoder.Field` holds of a decoder that takes its bytes at once, so it names
its own start and width when it fails; `Decoder.Spans` holds of one that takes them in parts, so
it fails in some part, whose start and width it names.

## Main results

* `Decoder.Spans.bind`, `Decoder.Spans.times`: decoders in sequence span what they span together.
* `Decoder.Spans.bind_enough`, `Decoder.Spans.bind_short`: a decoder with an open end, after one
  that spans its bytes.
* `Decoder.field_fixed`, `Decoder.field_take`, `Decoder.field_uint8`, `Decoder.field_uint16`,
  `Decoder.field_uint32`, `Decoder.field_uint64`: the fields.
-/

namespace GuardianRelay

/-- The cursor, `n` bytes further. -/
def Cursor.advance (c : Cursor) (n : ℕ) : Cursor := ⟨c.offset + n, c.rest.drop n⟩

/-- The error names a part that starts after some of the bytes that are left and does not end
among them. -/
def Cursor.Ends (c : Cursor) (error : ParseError) : Prop :=
  ∃ before needed, before ≤ c.rest.length ∧ c.rest.length < before + needed ∧
    error = .truncated (c.offset + before) needed (c.rest.length - before)

namespace Cursor

variable {c : Cursor} {m n : ℕ}

@[simp] theorem rest_start (b : Bytes) : (start b).rest = b := rfl

@[simp] theorem offset_start (b : Bytes) : (start b).offset = 0 := rfl

/-- So many bytes fewer are left. -/
@[simp] theorem length_rest_advance : (c.advance n).rest.length = c.rest.length - n :=
  List.length_drop

@[simp] theorem offset_advance : (c.advance n).offset = c.offset + n := rfl

/-- A cursor may move in two steps. -/
theorem advance_advance : (c.advance m).advance n = c.advance (m + n) := by
  simp only [advance, List.drop_drop, Nat.add_assoc]

/-- What ends further on ends here. -/
theorem Ends.of_advance {error : ParseError} (hn : n ≤ c.rest.length)
    (h : (c.advance n).Ends error) : c.Ends error := by
  obtain ⟨before, needed, hbefore, hneeded, rfl⟩ := h
  rw [length_rest_advance] at hbefore hneeded
  refine ⟨n + before, needed, by omega, by omega, ?_⟩
  rw [length_rest_advance, Nat.sub_sub, advance, Nat.add_assoc]

/-- From the start, the part that does not end is found where the error says. -/
theorem ends_start_iff {b : Bytes} {error : ParseError} :
    (start b).Ends error ↔ ∃ offset needed, offset ≤ b.length ∧ b.length < offset + needed ∧
      error = .truncated offset needed (b.length - offset) := by
  simp only [Ends, rest_start, offset_start, Nat.zero_add]

end Cursor

namespace Decoder

variable {α β : Type}

/-- With `n` bytes or more, the decoder succeeds. -/
def Enough (d : Decoder α) (n : ℕ) : Prop :=
  ∀ c : Cursor, n ≤ c.rest.length → ∃ v c', d.run c = .ok (v, c')

/-- With fewer than `n` bytes, the decoder says where they end. -/
def Short (d : Decoder α) (n : ℕ) : Prop :=
  ∀ c : Cursor, c.rest.length < n → ∃ error, d.run c = .error error ∧ c.Ends error

/-- The decoder takes `n` bytes, whatever they are. -/
structure Spans (d : Decoder α) (n : ℕ) : Prop where
  exists_run : ∀ c : Cursor, n ≤ c.rest.length → ∃ v, d.run c = .ok (v, c.advance n)
  short : d.Short n

/-- The decoder takes `n` bytes at once, whatever they are. -/
structure Field (d : Decoder α) (n : ℕ) : Prop where
  exists_run : ∀ c : Cursor, n ≤ c.rest.length → ∃ v, d.run c = .ok (v, c.advance n)
  run_short : ∀ c : Cursor, c.rest.length < n →
    d.run c = .error (.truncated c.offset n c.rest.length)

/-! ### Sequencing -/

section Sequence

variable {d : Decoder α} {f : α → Decoder β} {m n : ℕ} {c : Cursor}

/-- A decoder that has succeeded is followed by the next. -/
theorem run_bind_of_ok {v : α} {c' : Cursor} (h : d.run c = .ok (v, c')) :
    (d >>= f).run c = (f v).run c' := by
  rw [StateT.run_bind, h]
  rfl

/-- A decoder that has failed is followed by nothing. -/
theorem run_bind_of_error {error : ParseError} (h : d.run c = .error error) :
    (d >>= f).run c = .error error := by
  rw [StateT.run_bind, h]
  rfl

/-- What takes its bytes at once takes them. -/
theorem Field.spans (h : d.Field n) : d.Spans n where
  exists_run := h.exists_run
  short c hshort := ⟨_, h.run_short c hshort, 0, n, Nat.zero_le _, by omega, rfl⟩

/-- With too few bytes for a field that is read first, the field's error is that of the whole. -/
theorem Field.run_bind_short (h : d.Field n) (hshort : c.rest.length < n) :
    (d >>= f).run c = .error (.truncated c.offset n c.rest.length) :=
  run_bind_of_error (h.run_short c hshort)

/-- With enough bytes, what spans them is followed by the next decoder behind them. -/
theorem Spans.exists_run_bind (h : d.Spans n) (hroom : n ≤ c.rest.length) :
    ∃ v, d.run c = .ok (v, c.advance n) ∧ (d >>= f).run c = (f v).run (c.advance n) := by
  obtain ⟨v, hv⟩ := h.exists_run c hroom
  exact ⟨v, hv, run_bind_of_ok hv⟩

/-- Changing a value does not keep it from being read. -/
theorem Enough.map (h : d.Enough n) (g : α → β) : (d >>= fun v => pure (g v)).Enough n := by
  intro c hroom
  obtain ⟨v, c', hv⟩ := h c hroom
  exact ⟨g v, c', run_bind_of_ok hv⟩

/-- If there are too few bytes for what is read first, that says where they end. -/
theorem Short.bind (h : d.Short n) : (d >>= f).Short n := by
  intro c hshort
  obtain ⟨error, herror, hends⟩ := h c hshort
  exact ⟨error, run_bind_of_error herror, hends⟩

/-- What comes after what spans `n` bytes succeeds if there are enough for both. -/
theorem Spans.bind_enough (h : d.Spans n) (hf : ∀ v, (f v).Enough m) :
    (d >>= f).Enough (n + m) := by
  intro c hroom
  obtain ⟨v, -, hrun⟩ := h.exists_run_bind (f := f) (Nat.le_of_add_right_le hroom)
  obtain ⟨w, c', hw⟩ := hf v (c.advance n) (by rw [Cursor.length_rest_advance]; omega)
  exact ⟨w, c', hrun.trans hw⟩

/-- If there are too few bytes for both, one of both says where they end. -/
theorem Spans.bind_short (h : d.Spans n) (hf : ∀ v, (f v).Short m) :
    (d >>= f).Short (n + m) := by
  intro c hshort
  rcases Nat.lt_or_ge c.rest.length n with hfirst | hroom
  · exact h.short.bind c hfirst
  · obtain ⟨v, -, hrun⟩ := h.exists_run_bind (f := f) hroom
    obtain ⟨error, herror, hends⟩ :=
      hf v (c.advance n) (by rw [Cursor.length_rest_advance]; omega)
    exact ⟨error, hrun.trans herror, hends.of_advance hroom⟩

/-- Decoders in sequence span what they span together. -/
theorem Spans.bind (h : d.Spans n) (hf : ∀ v, (f v).Spans m) : (d >>= f).Spans (n + m) where
  exists_run c hroom := by
    obtain ⟨v, -, hrun⟩ := h.exists_run_bind (f := f) (Nat.le_of_add_right_le hroom)
    obtain ⟨w, hw⟩ := (hf v).exists_run (c.advance n) (by rw [Cursor.length_rest_advance]; omega)
    exact ⟨w, by rw [hrun, hw, Cursor.advance_advance]⟩
  short := h.bind_short fun v => (hf v).short

/-- Returning a value takes nothing. -/
theorem spans_pure (v : α) : (pure v : Decoder α).Spans 0 where
  exists_run _ _ := ⟨v, rfl⟩
  short _ hshort := absurd hshort (Nat.not_lt_zero _)

/-- A counted repetition spans as many times the bytes. -/
theorem Spans.times (h : d.Spans n) (count : ℕ) : (d.times count).Spans (count * n) := by
  induction count with
  | zero =>
      rw [Nat.zero_mul]
      exact spans_pure []
  | succ count ih =>
      rw [Nat.succ_mul, Nat.add_comm (count * n)]
      exact h.bind fun first => ih.bind fun others => spans_pure (first :: others)

/-- Reading the rest succeeds wherever it is done. -/
theorem enough_rest_bind {f : Bytes → α} : (rest >>= fun b => pure (f b)).Enough 0 :=
  fun _ _ => ⟨_, _, rfl⟩

/-- Checking for room succeeds where there is room, and stays there. -/
theorem run_ensure_of_le (h : n ≤ c.rest.length) : (ensure n).run c = .ok ((), c) :=
  if_neg (Nat.not_lt.mpr h)

/-- Checking for room says that there is not enough. -/
theorem run_ensure_of_lt (h : c.rest.length < n) :
    (ensure n).run c = .error (.truncated c.offset n c.rest.length) := if_pos h

end Sequence

/-! ### Fields -/

/-- With enough bytes, a field is read whose written form is what stands there. -/
theorem Field.exists_read {d : Decoder α} {valid : α → Prop} {write : α → Bytes} {n : ℕ}
    {c : Cursor} (h : d.Field n) (hd : d.Reads valid write) (hroom : n ≤ c.rest.length) :
    ∃ v, d.run c = .ok (v, c.advance n) ∧ valid v ∧ write v = c.rest.take n := by
  obtain ⟨v, hv⟩ := h.exists_run c hroom
  obtain ⟨hvalid, hrest, -⟩ := (hd _ _ _).mp hv
  refine ⟨v, hv, hvalid, ?_⟩
  rw [Cursor.advance] at hrest
  exact (List.append_cancel_right (hrest.symm.trans (List.take_append_drop n c.rest).symm))

/-- A field takes its bytes at once. -/
theorem field_fixed (n : ℕ) : (fixed n).Field n where
  exists_run _ hroom := ⟨_, dif_neg (Nat.not_lt.mpr hroom)⟩
  run_short _ hshort := dif_pos hshort

/-- A value that is made from a field takes the field's bytes. -/
theorem Field.map {d : Decoder α} {n : ℕ} (h : d.Field n) (f : α → β) :
    (d >>= fun v => pure (f v)).Field n where
  exists_run c hroom := by
    obtain ⟨v, hv⟩ := h.exists_run c hroom
    exact ⟨f v, run_bind_of_ok hv⟩
  run_short c hshort := run_bind_of_error (h.run_short c hshort)

theorem field_take (n : ℕ) : (take n).Field n := (field_fixed n).map _

theorem field_uint8 : uint8.Field 1 := (field_fixed 1).map _

theorem field_uint16 : uint16.Field 2 := (field_fixed 2).map _

theorem field_uint32 : uint32.Field 4 := (field_fixed 4).map _

theorem field_uint64 : uint64.Field 8 := (field_fixed 8).map _

end Decoder
end GuardianRelay
