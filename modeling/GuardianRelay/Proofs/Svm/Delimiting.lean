import GuardianRelay.Proofs.Svm.Layout

/-!
# What Ends by Itself

A list in a message stands behind its length, and other fields follow it, so the length has to end
by itself and so has the list. This module looks at the written form of a length from three sides:
how it comes about group by group, what is read where nothing is known but that a mark says that
more groups follow, and that no other form is as short. Then lists behind their lengths, and the
messages that are made of them, can be told apart whatever follows them.

## Main results

* `appendLength_eq`: a length is written group by group, or nothing is.
* `plainGroups?_append`, `eq_or_length_lt_of_plainGroups?`: groups are read as the number for which
  they are written, and other groups of that number are more.
* `SelfDelimiting.list`: lists behind their lengths end by themselves.
* `eq_of_compile_append`: the lists of a message can be told from those of another one.
* `length_delimits`: lengths, and what stands behind them.
-/

namespace GuardianRelay.Svm

variable {n : ℕ} {b rest : Bytes}

/-! ### Writing group by group -/

section Append

variable {number : UInt16}

/-- What is left of a number when its lowest group is taken off. -/
theorem toNat_later : (number >>> 7).toNat = number.toNat / 128 := by
  rw [UInt16.toNat_shiftRight]
  exact Nat.shiftRight_eq_div_pow number.toNat 7

/-- Nothing is left of a number that fits one group. -/
theorem later_eq_zero_iff : number >>> 7 = 0 ↔ number.toNat < 128 := by
  rw [← UInt16.toNat_inj, toNat_later, UInt16.toNat_zero]
  omega

/-- The lowest group of a number. -/
theorem toNat_group : (number &&& 0x7f).toUInt8.toNat = number.toNat % 128 := by
  have hlow : (number &&& 0x7f).toNat = number.toNat % 2 ^ 7 := by
    rw [UInt16.toNat_and]
    exact Nat.and_two_pow_sub_one_eq_mod number.toNat 7
  rw [UInt16.toNat_toUInt8, hlow]
  omega

/-- A group that is marked. -/
theorem toNat_mark {group : UInt8} (h : group.toNat < 128) :
    (group ||| 0x80).toNat = group.toNat + 128 := by
  rw [UInt8.toNat_or, Nat.or_comm, Nat.add_comm]
  exact (Nat.two_pow_add_eq_or_of_lt (i := 7) h 1).symm

/-- Writes the groups of a number of 16 bits behind what was written before. Whether a group is the
last one is known when it has been taken off, and if it is not, it is marked. -/
def appendGroups (written : Bytes) (number : UInt16) : Bytes :=
  let group := (number &&& 0x7f).toUInt8
  let later := number >>> 7
  if later = 0 then written ++ [group] else appendGroups (written ++ [group ||| 0x80]) later
termination_by number.toNat
decreasing_by
  rename_i hlater
  have hlarge : ¬ number.toNat < 128 := later_eq_zero_iff.not.mp hlater
  rw [toNat_later]
  omega

/-- Writes a length behind what was written before, if it has 16 bits. -/
def appendLength (written : Bytes) (n : ℕ) : Except SigningFault Unit × Bytes :=
  if n < UInt16.size then (.ok (), appendGroups written (UInt16.ofNat n))
  else (.error (.tooManyItems n), written)

/-- The groups of a number are written one after the other. -/
theorem appendGroups_eq (written : Bytes) (number : UInt16) :
    appendGroups written number = written ++ groups number.toNat := by
  fun_induction appendGroups written number with
  | case1 written number group later hlast =>
      have hsmall : number.toNat < 128 := later_eq_zero_iff.mp hlast
      have hgroup : group = UInt8.ofNat number.toNat := by
        rw [← UInt8.toNat_inj, toNat_group, UInt8.toNat_ofNat']
        omega
      rw [groups_of_lt hsmall, hgroup]
  | case2 written number group later hmore ih =>
      have hlarge : ¬ number.toNat < 128 := later_eq_zero_iff.not.mp hmore
      have hgroup : group.toNat = number.toNat % 128 := toNat_group
      have hmark : group ||| 0x80 = UInt8.ofNat (number.toNat % 128 + 128) := by
        rw [← UInt8.toNat_inj, toNat_mark (by omega), hgroup, UInt8.toNat_ofNat']
        omega
      rw [ih, toNat_later, groups_of_ge (Nat.le_of_not_lt hlarge), hmark, List.append_assoc]
      rfl

/-- A length is too long exactly if it has no 16 bits. -/
theorem encodeLength_eq_error_iff {fault : SigningFault} :
    encodeLength n = .error fault ↔ maxItems < n ∧ fault = .tooManyItems n := by
  rw [encodeLength]
  split
  next h => simp [h, eq_comm]
  next h => simp [h]

/-- **A length is written group by group**, and if it is too long, nothing is written. -/
theorem appendLength_eq (written : Bytes) (n : ℕ) :
    appendLength written n = match encodeLength n with
      | .ok b => (.ok (), written ++ b)
      | .error fault => (.error fault, written) := by
  have hsize : n < UInt16.size ↔ ¬ maxItems < n := by
    rw [Nat.not_lt]
    exact Nat.lt_succ_iff
  rw [appendLength, encodeLength]
  by_cases h : maxItems < n
  · rw [if_neg (hsize.not.mpr (not_not_intro h)), if_pos h]
  · rw [if_pos (hsize.mpr h), if_neg h, appendGroups_eq, UInt16.toNat_ofNat_of_lt' (hsize.mpr h)]

end Append

/-! ### Reading groups -/

/-- Reads a number from its groups, as many as are marked and one more. -/
def plainGroups? : Bytes → Option (ℕ × Bytes)
  | [] => none
  | x :: rest =>
    if x.toNat < 128 then some (x.toNat, rest)
    else (plainGroups? rest).map fun (high, rest) => (x.toNat % 128 + 128 * high, rest)

/-- The groups of a number are read as the number, whatever follows them. -/
theorem plainGroups?_append (n : ℕ) (rest : Bytes) :
    plainGroups? (groups n ++ rest) = some (n, rest) := by
  induction n using groups.induct with
  | case1 n hsmall =>
      have hread : (UInt8.ofNat n).toNat = n :=
        UInt8.toNat_ofNat_of_lt (Nat.lt_trans hsmall (by decide))
      rw [groups_of_lt hsmall, List.singleton_append, plainGroups?, hread, if_pos hsmall]
  | case2 n hlarge ih =>
      have hread : (UInt8.ofNat (n % 128 + 128)).toNat = n % 128 + 128 :=
        UInt8.toNat_ofNat_of_lt (show n % 128 + 128 < 256 by omega)
      rw [groups_of_ge (Nat.le_of_not_lt hlarge), List.cons_append, plainGroups?, hread,
        if_neg (by omega), ih, Option.map_some, Option.some.injEq, Prod.mk.injEq]
      exact ⟨by omega, rfl⟩

/-- There is at least one group. -/
theorem length_groups_pos (n : ℕ) : 0 < (groups n).length := by
  rw [groups]
  split <;> exact Nat.succ_pos _

/-- There are no more groups than are needed for seven bits each. -/
theorem length_groups_le {most : ℕ} (h : n < 128 ^ (most + 1)) :
    (groups n).length ≤ most + 1 := by
  induction most generalizing n with
  | zero => rw [groups_of_lt (by omega), List.length_singleton]
  | succ most ih =>
      obtain hsmall | hlarge := Nat.lt_or_ge n 128
      · rw [groups_of_lt hsmall, List.length_singleton]
        omega
      · rw [groups_of_ge hlarge, List.length_cons]
        refine Nat.succ_le_succ (ih ?_)
        rwa [Nat.div_lt_iff_lt_mul (by decide), ← Nat.pow_succ]

/-- A number is read from its groups, or from more than these. -/
theorem exists_of_plainGroups? (h : plainGroups? b = some (n, rest)) :
    ∃ form, b = form ++ rest ∧ (form = groups n ∨ (groups n).length < form.length) := by
  fun_induction plainGroups? b generalizing n with
  | case1 => contradiction
  | case2 x tail hlast =>
      obtain ⟨rfl, rfl⟩ : x.toNat = n ∧ tail = rest := by simpa using h
      refine ⟨[x], rfl, .inl ?_⟩
      rw [groups_of_lt hlast, UInt8.ofNat_toNat]
  | case3 x tail hmore ih =>
      obtain ⟨⟨high, later⟩, hhigh, heq⟩ := Option.map_eq_some_iff.mp h
      obtain ⟨rfl, rfl⟩ : x.toNat % 128 + 128 * high = n ∧ later = rest := by simpa using heq
      obtain ⟨form, rfl, hform⟩ := ih hhigh
      have hx : x.toNat < 256 := x.toNat_lt
      refine ⟨x :: form, rfl, ?_⟩
      obtain rfl | hpos := Nat.eq_zero_or_pos high
      · -- the groups behind the first one add nothing, so they could be left out
        refine .inr ?_
        have hsome : 0 < form.length := by
          obtain rfl | hlonger := hform
          · exact length_groups_pos 0
          · omega
        rw [groups_of_lt (by omega), List.length_singleton, List.length_cons]
        omega
      · have hfirst : UInt8.ofNat ((x.toNat % 128 + 128 * high) % 128 + 128) = x := by
          rw [← UInt8.toNat_inj, UInt8.toNat_ofNat']
          omega
        have hhigher : (x.toNat % 128 + 128 * high) / 128 = high := by omega
        rw [groups_of_ge (by omega), hfirst, hhigher]
        obtain rfl | hlonger := hform
        · exact .inl rfl
        · exact .inr (Nat.succ_lt_succ hlonger)

/-- **The written form is the shortest**: any other that is read as the number is longer. -/
theorem eq_or_length_lt_of_plainGroups? {form : Bytes}
    (h : plainGroups? (form ++ rest) = some (n, rest)) :
    form = groups n ∨ (groups n).length < form.length := by
  obtain ⟨other, hother, hshortest⟩ := exists_of_plainGroups? h
  obtain rfl := List.append_cancel_right hother
  exact hshortest

/-! ### Told apart -/

section SelfDelimiting

variable {α : Type} {write : α → Bytes}

/-- What is written for a value ends by itself: whatever follows it, nothing else could have been
written there. -/
def SelfDelimiting (write : α → Bytes) : Prop :=
  ∀ ⦃v v' : α⦄ ⦃rest rest' : Bytes⦄, write v ++ rest = write v' ++ rest' → v = v' ∧ rest = rest'

/-- What is read where it stands ends by itself. -/
theorem SelfDelimiting.of_read {read : Bytes → Option (α × Bytes)}
    (h : ∀ v rest, read (write v ++ rest) = some (v, rest)) : SelfDelimiting write := by
  intro v v' rest rest' heq
  have hread : some (v, rest) = some (v', rest') := by rw [← h v rest, heq, h v' rest']
  exact Prod.mk.inj (Option.some.inj hread)

/-- The groups of a number end by themselves. -/
theorem selfDelimiting_groups : SelfDelimiting groups := .of_read plainGroups?_append

/-- An address ends by itself. -/
theorem selfDelimiting_address : SelfDelimiting Address.toList := .of_read key?_append

/-- As many values as there are on the other side end by themselves, if each of them does. -/
theorem SelfDelimiting.flatMap (h : SelfDelimiting write) {values values' : List α}
    {rest rest' : Bytes} (hlength : values.length = values'.length)
    (heq : values.flatMap write ++ rest = values'.flatMap write ++ rest') :
    values = values' ∧ rest = rest' := by
  induction values generalizing values' with
  | nil =>
      obtain rfl := List.length_eq_zero_iff.mp hlength.symm
      exact ⟨rfl, heq⟩
  | cons first later ih =>
      obtain ⟨first', later', rfl⟩ := List.exists_cons_of_length_eq_add_one hlength.symm
      rw [List.flatMap_cons, List.flatMap_cons, List.append_assoc, List.append_assoc] at heq
      obtain ⟨rfl, hlater⟩ := h heq
      obtain ⟨rfl, hrest⟩ := ih (Nat.succ.inj hlength) hlater
      exact ⟨rfl, hrest⟩

/-- **A list behind its length ends by itself**, if each of its values does. -/
theorem SelfDelimiting.list (h : SelfDelimiting write) :
    SelfDelimiting fun values : List α => groups values.length ++ values.flatMap write := by
  intro values values' rest rest' heq
  dsimp only at heq
  rw [List.append_assoc, List.append_assoc] at heq
  obtain ⟨hlength, hvalues⟩ := selfDelimiting_groups heq
  exact h.flatMap hlength hvalues

end SelfDelimiting

/-- **The lists of a message can be told from those of another one**: where two messages start and
whatever follows them, they name the same accounts in the same order, the same block and the same
call, and what follows them is the same. -/
theorem eq_of_compile_append {transaction transaction' : UnsignedTransaction}
    {payer payer' : Address} {block block' : FixedBytes 32} {message message' rest rest' : Bytes}
    (h : compile transaction payer block = .ok message)
    (h' : compile transaction' payer' block' = .ok message')
    (heq : message ++ rest = message' ++ rest') :
    keys (accountTable transaction payer) = keys (accountTable transaction' payer') ∧
      block = block' ∧ transaction.target = transaction'.target ∧
      transaction.accounts.map (·.key) = transaction'.accounts.map (·.key) ∧
      transaction.data = transaction'.data ∧ rest = rest' := by
  obtain ⟨-, call, hprogram, haccounts, hdata, hfits, rfl⟩ := exists_written_of_compile h
  obtain ⟨-, call', hprogram', haccounts', hdata', hfits', rfl⟩ := exists_written_of_compile h'
  -- both messages are read from the same bytes
  have hread := Message.read?_append hfits rest
  rw [heq, Message.read?_append hfits' rest', Option.some.injEq, Prod.mk.injEq] at hread
  obtain ⟨hmessage, rfl⟩ := hread
  have hkeys := congrArg Message.keys hmessage
  obtain rfl : call' = call := List.singleton_inj.mp (congrArg Message.instructions hmessage)
  have hcalls : (messageOf (accountTable transaction payer) block call').Calls call' transaction :=
    calls_of_positions hprogram haccounts hdata
  have hcalls' : (messageOf (accountTable transaction' payer') block' call').Calls call'
      transaction' := calls_of_positions hprogram' haccounts' hdata'
  rw [hmessage] at hcalls'
  have htarget := hcalls.program.symm.trans hcalls'.program
  have huses := hcalls.accounts.symm.trans hcalls'.accounts
  refine ⟨hkeys.symm, (congrArg Message.recentBlock hmessage).symm, Option.some.inj htarget, ?_,
    hcalls.data.symm.trans hcalls'.data, rfl⟩
  have hsome : Function.Injective (List.map (some (α := Address))) :=
    List.map_injective_iff.mpr (Option.some_injective _)
  refine hsome ?_
  rw [List.map_map, List.map_map]
  exact huses

/-! ### Lengths -/

/-- What has to be said of bytes that are written for a length. -/
structure Delimits (n : ℕ) (b : Bytes) : Prop where
  /-- They are all that is added to what was written before. -/
  appended (written : Bytes) : appendLength written n = (.ok (), written ++ b)
  length_pos : 1 ≤ b.length
  length_le : b.length ≤ 3
  /-- They are read as the length, and nothing behind them is read. -/
  read (rest : Bytes) : plainGroups? (b ++ rest) = some (n, rest)
  /-- Whatever else is read as the length is longer. -/
  shortest {form rest : Bytes} :
    plainGroups? (form ++ rest) = some (n, rest) → form = b ∨ b.length < form.length
  /-- A reader that refuses longer forms reads the length exactly where they stand. -/
  canonical {input rest : Bytes} : length? input = some (n, rest) ↔ input = b ++ rest
  /-- Where they start, nothing is written for another length. -/
  told_apart {m : ℕ} {c rest rest' : Bytes} :
    encodeLength m = .ok c → b ++ rest = c ++ rest' → n = m ∧ rest = rest'

/-- What is written for a length delimits it. -/
theorem delimits_of_encodeLength (h : encodeLength n = .ok b) : Delimits n b := by
  obtain ⟨hn, rfl⟩ := encodeLength_eq_ok_iff.mp h
  exact {
    appended := fun written => by rw [appendLength_eq, h]
    length_pos := length_groups_pos n
    length_le := length_groups_le (Nat.lt_of_le_of_lt hn (by decide))
    read := plainGroups?_append n
    shortest := eq_or_length_lt_of_plainGroups?
    canonical := length?_eq_some_iff.trans (and_iff_right hn)
    told_apart := fun hc heq => by
      obtain ⟨-, rfl⟩ := encodeLength_eq_ok_iff.mp hc
      exact selfDelimiting_groups heq }

/-- **Lengths end by themselves, and so does what stands behind them.** A length fails exactly if it
is above 65535, and then nothing is written. Otherwise it is written in one to three bytes that are
read as the length whatever follows them, no other form of it is as short, and no two lengths can be
taken for each other. So lists behind their lengths can be told apart, whatever their values are,
and so can the messages that are made of them. -/
theorem length_delimits :
    (∀ n, (∃ fault, encodeLength n = .error fault) ↔ 65535 < n) ∧
    (∀ n fault, encodeLength n = .error fault →
      ∀ written, appendLength written n = (.error fault, written)) ∧
    (∀ n ≤ 65535, ∃ b, encodeLength n = .ok b ∧ Delimits n b) ∧
    (∀ (α : Type) (write : α → Bytes), SelfDelimiting write →
      ∀ (values values' : List α) b b' rest rest',
        encodeLength values.length = .ok b → encodeLength values'.length = .ok b' →
        b ++ values.flatMap write ++ rest = b' ++ values'.flatMap write ++ rest' →
        values = values' ∧ rest = rest') ∧
    (∀ transaction transaction' payer payer' block block' message message' rest rest',
      compile transaction payer block = .ok message →
      compile transaction' payer' block' = .ok message' →
      message ++ rest = message' ++ rest' →
      keys (accountTable transaction payer) = keys (accountTable transaction' payer') ∧
        block = block' ∧ transaction.target = transaction'.target ∧
        transaction.accounts.map (·.key) = transaction'.accounts.map (·.key) ∧
        transaction.data = transaction'.data ∧ rest = rest') := by
  refine ⟨fun n => ?_, fun n fault h written => ?_, fun n hn => ?_, ?_, ?_⟩
  · simp [encodeLength_eq_error_iff, maxItems]
  · rw [appendLength_eq, h]
  · have h : encodeLength n = .ok (groups n) := encodeLength_eq_ok_iff.mpr ⟨hn, rfl⟩
    exact ⟨groups n, h, delimits_of_encodeLength h⟩
  · intro α write hwrite values values' b b' rest rest' hb hb' heq
    obtain ⟨-, rfl⟩ := encodeLength_eq_ok_iff.mp hb
    obtain ⟨-, rfl⟩ := encodeLength_eq_ok_iff.mp hb'
    exact hwrite.list heq
  · intro _ _ _ _ _ _ _ _ _ _ h h' heq
    exact eq_of_compile_append h h' heq

/-- A length that is too long, one of three groups, a list of keys with another list behind it, and
a message with some bytes behind it. -/
theorem length_delimits_aliased :
    (∃ fault, encodeLength 65536 = .error fault) ∧
    appendLength [7] 65536 = (.error (.tooManyItems 65536), [7]) ∧
    encodeLength 0x4000 = .ok [0x80, 0x80, 0x01] ∧ Delimits 0x4000 [0x80, 0x80, 0x01] ∧
    (∃ b, encodeLength 2 = .ok b ∧
      ∀ keys rest, keys.length = 2 →
        b ++ keys.flatMap Address.toList ++ rest =
          b ++ [aliased.target, openSigner.address].flatMap Address.toList ++ [1, 5] →
        keys = [aliased.target, openSigner.address] ∧ rest = [1, 5]) ∧
    ∃ message, compile aliased openSigner.address FixedBytes.zero = .ok message ∧
      ∀ transaction message' rest,
        compile transaction openSigner.address FixedBytes.zero = .ok message' →
        message' ++ rest = message ++ [1, 5] →
        transaction.target = aliased.target ∧ transaction.data = [7] ∧ rest = [1, 5] := by
  obtain ⟨hfails, hnothing, hdelimits, hlists, hmessages⟩ := length_delimits
  have htwo : encodeLength 2 = .ok [2] := by simp [encodeLength, groups, maxItems]
  have hthree : encodeLength 0x4000 = .ok [0x80, 0x80, 0x01] := by
    simp [encodeLength, groups, maxItems]
  obtain ⟨b, hb, hdelimited⟩ := hdelimits 0x4000 (by decide)
  obtain rfl : b = [0x80, 0x80, 0x01] := Except.ok.inj (hb.symm.trans hthree)
  refine ⟨(hfails 65536).mpr (by decide), hnothing 65536 _ rfl [7], hthree, hdelimited,
    ⟨[2], htwo, fun keys rest hlength => ?_⟩, ?_⟩
  · exact hlists Address Address.toList selfDelimiting_address keys _ _ _ rest _
      (hlength ▸ htwo) htwo
  · obtain ⟨message, hmessage⟩ : ∃ message,
        compile aliased openSigner.address FixedBytes.zero = .ok message :=
      exists_compile (by decide) (by decide) (by decide) FixedBytes.zero
    refine ⟨message, hmessage, fun transaction message' rest h heq => ?_⟩
    obtain ⟨-, -, htarget, -, hdata, hrest⟩ := hmessages _ _ _ _ _ _ _ _ _ _ h hmessage heq
    exact ⟨htarget, hdata, hrest⟩

end GuardianRelay.Svm
