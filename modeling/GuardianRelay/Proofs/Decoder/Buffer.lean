import GuardianRelay.Proofs.Decoder.Extent

/-!
# Reading From a Buffer

A cursor holds what is left of a byte string, so whatever it reads is there. A reader that holds
the whole string and a position in it has to work out how much is left, and to cut fields out, and
both can go wrong: behind the end less than nothing is left, and a field may reach out of the
string. A reader may also have moved by the time it refuses.

This module gives such a reader and what it can be asked for. In whatever order it is asked, also
behind the end of the string and after it has refused, it never goes out of range, and it does what
the decoder does at the cursor that stands at its position. What it has read is the string up to
its position: nothing is skipped and nothing is read twice.

## Main results

* `Reader.Operation.follows`: what a reader is asked for is what a decoder reads at its cursor.
* `Reader.Operation.run_of_le`, `Reader.Operation.run_of_lt`: what is read where enough is left, and
  what is said where it is not.
* `Reader.exists_next`, `Reader.exists_run`: one operation, and operations that follow each other.
* `Reader.stays_in_range`: what holds after any operations.
-/

namespace GuardianRelay

/-! ### Readers -/

/-- A byte string that is read, and how far. -/
@[ext]
structure Reader where
  buffer : Bytes
  /-- How many bytes have been read. -/
  position : ℕ

/-- What a reader is asked for. It has no outcome at all where it goes out of range; where it
refuses, the reader goes on from where it is by then. -/
abbrev Reading := ExceptT ParseError (StateT Reader Option)

namespace Reading

/-- A value that has to be there. -/
def checked {α : Type} (value? : Option α) : Reading α :=
  ExceptT.lift (StateT.lift value?)

/-- How many bytes are left; the position must not be behind the end. -/
def remaining : Reading ℕ := do
  let reader ← get
  checked (if reader.position ≤ reader.buffer.length then
    some (reader.buffer.length - reader.position) else none)

/-- Checks that `n` bytes are left, and reads none. -/
def ensure (n : ℕ) : Reading Unit := do
  if (← remaining) < n then throw (.truncated (← get).position n (← remaining))

/-- Reads up to another position, which must not be before the reader's or behind the end. -/
def advance (position : ℕ) : Reading Bytes := do
  let reader ← get
  let bytes ← checked (if reader.position ≤ position ∧ position ≤ reader.buffer.length then
    some (reader.buffer.extract reader.position position) else none)
  set { reader with position }
  return bytes

/-- Reads `n` bytes. -/
def take (n : ℕ) : Reading Bytes := do
  ensure n
  advance ((← get).position + n)

/-- Reads a field of `n` bytes, which has to be filled. -/
def fixed (n : ℕ) : Reading (FixedBytes n) := do checked (FixedBytes.ofList? (← take n))

/-- Reads one byte, which has to be there. -/
def uint8 : Reading UInt8 := do checked (← take 1)[0]?

/-- Reads a 16-bit number. -/
def uint16 : Reading UInt16 := do return UInt16.ofNat (← fixed 2).toNat

/-- Reads a 32-bit number. -/
def uint32 : Reading UInt32 := do return UInt32.ofNat (← fixed 4).toNat

/-- Reads a 64-bit number. -/
def uint64 : Reading UInt64 := do return UInt64.ofNat (← fixed 8).toNat

/-- Reads all that is left. -/
def rest : Reading Bytes := do advance (← get).buffer.length

end Reading

namespace Reader

/-- The reader of a byte string, before it has read anything. -/
def start (b : Bytes) : Reader := ⟨b, 0⟩

/-- The cursor that stands where the reader does. -/
def cursor (r : Reader) : Cursor := ⟨r.position, r.buffer.drop r.position⟩

/-- What has been read. -/
def past (r : Reader) : Bytes := r.buffer.take r.position

/-- The reader is not behind the end. -/
def InRange (r : Reader) : Prop := r.position ≤ r.buffer.length

/-- The reader, `n` bytes further. -/
def advance (r : Reader) (n : ℕ) : Reader := { r with position := r.position + n }

/-- What a decoder does where the reader stands: the reader goes on where it stops, or stays where
it is. -/
def follow {α : Type} (r : Reader) (d : Decoder α) : Except ParseError α × Reader :=
  match d.run r.cursor with
  | .ok (v, c) => (.ok v, { r with position := c.offset })
  | .error error => (.error error, r)

variable {r : Reader} {n : ℕ}

/-- What is left is what has not been read. -/
theorem length_rest_cursor : r.cursor.rest.length = r.buffer.length - r.position :=
  List.length_drop

/-- Where a decoder succeeds and takes `n` bytes, the reader is `n` bytes further. -/
theorem follow_of_ok {α : Type} {d : Decoder α} {v : α}
    (h : d.run r.cursor = .ok (v, r.cursor.advance n)) : r.follow d = (.ok v, r.advance n) := by
  rw [follow, h]
  rfl

/-- Where a decoder fails, the reader stays. -/
theorem follow_of_error {α : Type} {d : Decoder α} {error : ParseError}
    (h : d.run r.cursor = .error error) : r.follow d = (.error error, r) := by
  rw [follow, h]

end Reader

/-! ### Readers and cursors -/

namespace Reading

variable {α β : Type} {x : Reading α} {f : α → Reading β} {d : Decoder α} {r r' : Reader} {n : ℕ}

/-- What has succeeded is followed by what comes next. -/
theorem run_bind_of_ok {v : α} (h : x.run r = some (.ok v, r')) :
    (x >>= f).run r = (f v).run r' := by
  change (x.run r >>= fun p => ExceptT.bindCont f p.1 p.2) = _
  rw [h]
  rfl

/-- What was refused is followed by nothing. -/
theorem run_bind_of_error {error : ParseError} (h : x.run r = some (.error error, r')) :
    (x >>= f).run r = some (.error error, r') := by
  change (x.run r >>= fun p => ExceptT.bindCont f p.1 p.2) = _
  rw [h]
  rfl

/-- As long as the reader is not behind the end, it is asked for what a decoder reads at its
cursor. -/
def Follows (x : Reading α) (d : Decoder α) : Prop :=
  ∀ r : Reader, r.InRange → x.run r = some (r.follow d)

/-- In range, it can be worked out how much is left. -/
theorem run_remaining (h : r.InRange) :
    remaining.run r = some (.ok r.cursor.rest.length, r) := by
  have hfits : r.position ≤ r.buffer.length := h
  rw [Reader.length_rest_cursor, remaining, run_bind_of_ok rfl, if_pos hfits]
  rfl

/-- In range, a reader gets as far as there are bytes. -/
theorem run_advance (h : r.InRange) (hn : n ≤ r.cursor.rest.length) :
    (advance (r.position + n)).run r = some (.ok (r.cursor.rest.take n), r.advance n) := by
  rw [Reader.length_rest_cursor] at hn
  have hfits : r.position ≤ r.position + n ∧ r.position + n ≤ r.buffer.length := by
    rw [Reader.InRange] at h
    omega
  rw [advance, run_bind_of_ok rfl, if_pos hfits, run_bind_of_ok rfl, run_bind_of_ok rfl,
    List.extract_eq_take_drop, Nat.add_sub_cancel_left]
  rfl

/-- In range, there is found to be enough where there is. -/
theorem run_ensure_of_le (h : r.InRange) (hn : n ≤ r.cursor.rest.length) :
    (ensure n).run r = some (.ok (), r) := by
  rw [ensure, run_bind_of_ok (run_remaining h), if_neg (Nat.not_lt.mpr hn)]
  rfl

/-- In range, a reader says where it stands, what it was asked for and how much is left, if that is
less. -/
theorem run_ensure_of_lt (h : r.InRange) (hn : r.cursor.rest.length < n) :
    (ensure n).run r = some (.error (.truncated r.position n r.cursor.rest.length), r) := by
  rw [ensure, run_bind_of_ok (run_remaining h), if_pos hn, run_bind_of_ok rfl,
    run_bind_of_ok (run_remaining h)]
  rfl

/-- Checking for room is what the decoder does. -/
theorem follows_ensure (n : ℕ) : (ensure n).Follows (Decoder.ensure n) := by
  intro r h
  obtain hshort | hroom := Nat.lt_or_ge r.cursor.rest.length n
  · rw [run_ensure_of_lt h hshort, Reader.follow_of_error (Decoder.run_ensure_of_lt hshort)]
    rfl
  · rw [run_ensure_of_le h hroom, Reader.follow, Decoder.run_ensure_of_le hroom]
    rfl

/-- Bytes of which something is made are taken as by a decoder of a field, if it is made of the
field's written form. -/
theorem follows_take_bind {valid : α → Prop} {write : α → Bytes} {f : Bytes → Option α}
    (hfield : d.Field n) (hreads : d.Reads valid write)
    (hf : ∀ v, valid v → f (write v) = some v) :
    (take n >>= fun b => checked (f b)).Follows d := by
  intro r h
  obtain hshort | hroom := Nat.lt_or_ge r.cursor.rest.length n
  · have hrefused : (take n).run r = _ := run_bind_of_error (run_ensure_of_lt h hshort)
    rw [run_bind_of_error hrefused, Reader.follow_of_error (hfield.run_short _ hshort)]
    rfl
  · obtain ⟨v, hrun, hvalid, hwrite⟩ := hfield.exists_read hreads hroom
    have htaken : (take n).run r = some (.ok (write v), r.advance n) := by
      rw [hwrite, ← run_advance h hroom, take, run_bind_of_ok (run_ensure_of_le h hroom)]
      rfl
    rw [run_bind_of_ok htaken, hf v hvalid, Reader.follow_of_ok hrun]
    rfl

/-- Bytes are taken as by the decoder. -/
theorem follows_take (n : ℕ) : (take n).Follows (Decoder.take n) := by
  have h := follows_take_bind (f := some) (Decoder.field_take n) (Decoder.reads_take n)
    fun _ _ => rfl
  have hpure : (take n >>= fun b => checked (some b)) = take n := bind_pure (take n)
  rwa [hpure] at h

/-- A field is filled as by the decoder. -/
theorem follows_fixed (n : ℕ) : (fixed n).Follows (Decoder.fixed n) :=
  follows_take_bind (Decoder.field_fixed n) (Decoder.reads_fixed n)
    fun v _ => FixedBytes.ofList?_toList v

/-- One byte is read as by the decoder. -/
theorem follows_uint8 : uint8.Follows Decoder.uint8 :=
  follows_take_bind (f := fun b => b[0]?) Decoder.field_uint8 Decoder.reads_uint8
    fun _ _ => rfl

/-- What is made of something that is read as by a decoder is read as by that decoder. -/
theorem Follows.map (h : x.Follows d) (g : α → β) :
    (x >>= fun v => pure (g v)).Follows (d >>= fun v => pure (g v)) := by
  intro r hr
  have hx := h r hr
  rw [Reader.follow] at hx ⊢
  split at hx
  next v c hrun =>
    rw [Decoder.run_bind_of_ok hrun, run_bind_of_ok hx]
    rfl
  next error hrun => rw [Decoder.run_bind_of_error hrun, run_bind_of_error hx]

/-- The rest is read as by the decoder. -/
theorem follows_rest : rest.Follows Decoder.rest := by
  intro r h
  have hend : r.buffer.length = r.position + r.cursor.rest.length := by
    rw [Reader.length_rest_cursor, Nat.add_sub_cancel' h]
  rw [rest, run_bind_of_ok rfl, hend, run_advance h (Nat.le_refl _), List.take_length]
  rfl

end Reading

/-! ### Operations -/

namespace Reader

/-- What a reader can be asked for. -/
inductive Operation where
  | uint8
  | uint16
  | uint32
  | uint64
  | fixed (n : ℕ)
  | take (n : ℕ)
  | ensure (n : ℕ)
  | rest

namespace Operation

/-- What an operation gives. -/
abbrev Value : Operation → Type
  | uint8 => UInt8
  | uint16 => UInt16
  | uint32 => UInt32
  | uint64 => UInt64
  | fixed n => FixedBytes n
  | take _ => Bytes
  | ensure _ => Unit
  | rest => Bytes

/-- What a reader does. -/
def reading : (operation : Operation) → Reading operation.Value
  | uint8 => Reading.uint8
  | uint16 => Reading.uint16
  | uint32 => Reading.uint32
  | uint64 => Reading.uint64
  | fixed n => Reading.fixed n
  | take n => Reading.take n
  | ensure n => Reading.ensure n
  | rest => Reading.rest

/-- What a decoder does. -/
def decoder : (operation : Operation) → Decoder operation.Value
  | uint8 => Decoder.uint8
  | uint16 => Decoder.uint16
  | uint32 => Decoder.uint32
  | uint64 => Decoder.uint64
  | fixed n => Decoder.fixed n
  | take n => Decoder.take n
  | ensure n => Decoder.ensure n
  | rest => Decoder.rest

/-- How many bytes an operation asks for where some are left. -/
def width (left : ℕ) : Operation → ℕ
  | uint8 => 1
  | uint16 => 2
  | uint32 => 4
  | uint64 => 8
  | fixed n | take n | ensure n => n
  | rest => left

/-- How many of them it takes: a check takes none. -/
def taken (left : ℕ) : Operation → ℕ
  | ensure _ => 0
  | operation => operation.width left

/-- The bytes of which a value was read. -/
def bytes : (operation : Operation) → operation.Value → Bytes
  | uint8, v => [v]
  | uint16, v => Bytes.bigEndian 2 v.toNat
  | uint32, v => Bytes.bigEndian 4 v.toNat
  | uint64, v => Bytes.bigEndian 8 v.toNat
  | fixed _, v => v.toList
  | take _, v => v
  | ensure _, _ => []
  | rest, v => v

/-- **A reader reads as the decoders do.** -/
theorem follows (operation : Operation) : operation.reading.Follows operation.decoder := by
  cases operation with
  | uint8 => exact Reading.follows_uint8
  | uint16 | uint32 | uint64 => exact (Reading.follows_fixed _).map _
  | fixed n => exact Reading.follows_fixed n
  | take n => exact Reading.follows_take n
  | ensure n => exact Reading.follows_ensure n
  | rest => exact Reading.follows_rest

variable {operation : Operation} {c : Cursor}

/-- Where enough is left, the bytes that are read are the next ones. -/
theorem run_of_le (h : operation.width c.rest.length ≤ c.rest.length) :
    ∃ v, operation.decoder.run c = .ok (v, c.advance (operation.taken c.rest.length)) ∧
      operation.bytes v = c.rest.take (operation.taken c.rest.length) := by
  have hfield {α : Type} {d : Decoder α} {valid : α → Prop} {write : α → Bytes} {n : ℕ}
      (hd : d.Field n) (hreads : d.Reads valid write) (hn : n ≤ c.rest.length) :
      ∃ v, d.run c = .ok (v, c.advance n) ∧ write v = c.rest.take n := by
    obtain ⟨v, hrun, -, hwrite⟩ := hd.exists_read hreads hn
    exact ⟨v, hrun, hwrite⟩
  cases operation with
  | uint8 => exact hfield Decoder.field_uint8 Decoder.reads_uint8 h
  | uint16 => exact hfield Decoder.field_uint16 Decoder.reads_uint16 h
  | uint32 => exact hfield Decoder.field_uint32 Decoder.reads_uint32 h
  | uint64 => exact hfield Decoder.field_uint64 Decoder.reads_uint64 h
  | fixed n => exact hfield (Decoder.field_fixed n) (Decoder.reads_fixed n) h
  | take n => exact hfield (Decoder.field_take n) (Decoder.reads_take n) h
  | ensure n => exact ⟨(), Decoder.run_ensure_of_le h, rfl⟩
  | rest =>
      refine ⟨c.rest, ?_, List.take_length.symm⟩
      change _ = Except.ok (c.rest, c.advance c.rest.length)
      rw [Cursor.advance, List.drop_length]
      rfl

/-- Where too little is left, it is said how much was asked for, and where. -/
theorem run_of_lt (h : c.rest.length < operation.width c.rest.length) :
    operation.decoder.run c =
      .error (.truncated c.offset (operation.width c.rest.length) c.rest.length) := by
  cases operation with
  | uint8 => exact Decoder.field_uint8.run_short c h
  | uint16 => exact Decoder.field_uint16.run_short c h
  | uint32 => exact Decoder.field_uint32.run_short c h
  | uint64 => exact Decoder.field_uint64.run_short c h
  | fixed n => exact (Decoder.field_fixed n).run_short c h
  | take n => exact (Decoder.field_take n).run_short c h
  | ensure n => exact Decoder.run_ensure_of_lt h
  | rest => exact absurd h (Nat.lt_irrefl _)

end Operation

/-- An operation, and what came of it. -/
structure Attempt where
  operation : Operation
  result : Except ParseError operation.Value

/-- The bytes that were read in an attempt; there are none if it was refused. -/
def Attempt.bytes (attempt : Attempt) : Bytes :=
  match attempt.result with
  | .ok v => attempt.operation.bytes v
  | .error _ => []

/-- Asks a reader for something, whatever comes of it. -/
def Operation.attempt (operation : Operation) : StateT Reader Option Attempt := do
  return ⟨operation, ← operation.reading.run⟩

variable {r : Reader}

/-- **One operation.** In range, a reader does what the decoder does. If as much is left as it is
asked for, it gives the next bytes and moves behind them; if not, it stays and says so. -/
theorem exists_next (h : r.InRange) (operation : Operation) :
    ∃ result next, operation.reading.run r = some (result, next) ∧
      r.follow operation.decoder = (result, next) ∧
      ((∃ v, result = .ok v) ↔ operation.width r.cursor.rest.length ≤ r.cursor.rest.length) ∧
      (∀ v, result = .ok v → next = r.advance (operation.taken r.cursor.rest.length) ∧
        operation.bytes v = r.cursor.rest.take (operation.taken r.cursor.rest.length)) ∧
      ∀ error, result = .error error → next = r ∧
        error = .truncated r.position (operation.width r.cursor.rest.length)
          r.cursor.rest.length := by
  have hreading := operation.follows r h
  obtain hshort | hroom := Nat.lt_or_ge r.cursor.rest.length (operation.width r.cursor.rest.length)
  · have hfollow := follow_of_error (Operation.run_of_lt hshort)
    refine ⟨_, r, hreading.trans (congrArg some hfollow), hfollow, ?_, nofun, ?_⟩
    · exact iff_of_false nofun (Nat.not_le.mpr hshort)
    · rintro _ ⟨⟩
      exact ⟨rfl, rfl⟩
  · obtain ⟨v, hrun, hbytes⟩ := Operation.run_of_le hroom
    have hfollow := follow_of_ok hrun
    refine ⟨.ok v, _, hreading.trans (congrArg some hfollow), hfollow, ?_, ?_, nofun⟩
    · exact iff_of_true ⟨v, rfl⟩ hroom
    · rintro _ ⟨⟩
      exact ⟨rfl, hbytes⟩

/-- An operation takes no more than is left. -/
theorem Operation.taken_le {operation : Operation} {left : ℕ} (h : operation.width left ≤ left) :
    operation.taken left ≤ left := by
  cases operation with
  | ensure n => exact Nat.zero_le left
  | _ => exact h

/-- What an operation reads comes behind what was read before it. -/
theorem exists_attempt (h : r.InRange) (operation : Operation) :
    ∃ attempt next, operation.attempt.run r = some (attempt, next) ∧
      attempt.operation = operation ∧ next.buffer = r.buffer ∧ next.InRange ∧
      next.past = r.past ++ attempt.bytes := by
  obtain ⟨result, next, hrun, -, hiff, hok, herror⟩ := exists_next h operation
  refine ⟨⟨operation, result⟩, next, ?_, rfl, ?_⟩
  · rw [Operation.attempt, StateT.run_bind]
    change (operation.reading.run r >>= _) = _
    rw [hrun]
    rfl
  · cases result with
    | ok v =>
        obtain ⟨rfl, hbytes⟩ := hok v rfl
        have hle := Operation.taken_le (hiff.mp ⟨v, rfl⟩)
        refine ⟨rfl, ?_, ?_⟩
        · rw [length_rest_cursor] at hle ⊢
          rw [InRange] at h ⊢
          exact Nat.add_le_of_le_sub' h hle
        · exact List.take_add.trans (congrArg (r.past ++ ·) hbytes.symm)
    | error error =>
        obtain ⟨rfl, -⟩ := herror error rfl
        exact ⟨rfl, h, (List.append_nil _).symm⟩

/-- **Operations that follow each other.** -/
theorem exists_run (h : r.InRange) (operations : List Operation) :
    ∃ attempts last, (operations.mapM Operation.attempt).run r = some (attempts, last) ∧
      attempts.map Attempt.operation = operations ∧ last.buffer = r.buffer ∧ last.InRange ∧
      last.past = r.past ++ attempts.flatMap Attempt.bytes := by
  induction operations generalizing r with
  | nil => exact ⟨[], r, rfl, rfl, rfl, h, (List.append_nil _).symm⟩
  | cons operation operations ih =>
      obtain ⟨attempt, next, hfirst, rfl, hbuffer, hnext, hpast⟩ := exists_attempt h operation
      obtain ⟨attempts, last, hrest, hoperations, hbuffer', hlast, hpast'⟩ := ih hnext
      refine ⟨attempt :: attempts, last, ?_, ?_, hbuffer'.trans hbuffer, hlast, ?_⟩
      · rw [List.mapM_cons, StateT.run_bind, hfirst]
        change ((operations.mapM Operation.attempt).run next >>= _) = _
        rw [hrest]
        rfl
      · rw [List.map_cons, hoperations]
      · rw [hpast', hpast, List.flatMap_cons, List.append_assoc]

/-- **A reader stays in range.** Whatever a reader of a byte string has been asked for, in any order
and also where it had to refuse, it is not behind the end, and how much is left can be worked out.
The bytes that were read, in their order, are the string up to its position. What it is asked for
next, it does as the decoder does at its cursor: it succeeds exactly if as many bytes are left as
it is asked for, and moves by as many as it takes; otherwise it stays, and says where it stands,
what it was asked for and how much is left. -/
theorem stays_in_range (b : Bytes) (operations : List Operation) :
    ∃ attempts r, (operations.mapM Operation.attempt).run (start b) = some (attempts, r) ∧
      attempts.map Attempt.operation = operations ∧
      r.buffer = b ∧ r.position ≤ b.length ∧
      Reading.remaining.run r = some (.ok (b.length - r.position), r) ∧
      attempts.flatMap Attempt.bytes = b.take r.position ∧
      ∀ operation : Operation, ∃ result next,
        operation.reading.run r = some (result, next) ∧
        r.follow operation.decoder = (result, next) ∧
        ((∃ v, result = .ok v) ↔
          operation.width (b.length - r.position) ≤ b.length - r.position) ∧
        (∀ v, result = .ok v →
          next = r.advance (operation.taken (b.length - r.position)) ∧
          operation.bytes v = (b.drop r.position).take (operation.taken (b.length - r.position))) ∧
        ∀ error, result = .error error → next = r ∧
          error = .truncated r.position (operation.width (b.length - r.position))
            (b.length - r.position) := by
  have hstart : (start b).InRange := Nat.zero_le _
  obtain ⟨attempts, r, hrun, hoperations, hbuffer, hr, hpast⟩ := exists_run hstart operations
  obtain rfl : r.buffer = b := hbuffer
  have hremaining := Reading.run_remaining hr
  have hnext := exists_next hr
  rw [length_rest_cursor] at hremaining
  simp only [length_rest_cursor] at hnext
  exact ⟨attempts, r, hrun, hoperations, rfl, hr, hremaining, hpast.symm, hnext⟩

/-- Four bytes do not fit the three, so none is taken, and the next operation goes on where the
first one stopped. -/
example : (([.uint16, .uint32, .rest, .uint8] : List Operation).mapM Operation.attempt
      |>.run (start [1, 2, 3])).map
        (fun (attempts, r) => (attempts.map Attempt.bytes, r.position)) =
    some ([[1, 2], [], [3], []], 3) := rfl

end Reader

end GuardianRelay
