import GuardianRelay.Proofs.Bytes
import GuardianRelay.Proofs.Octets
import GuardianRelay.Text.Base64

/-!
# Base 64 Texts

What is written in base 64 is read back. The writer takes a byte string in groups of three octets,
and the reader takes a text in groups of four symbols, so the proof goes by groups: those in front,
each of which is complete (`Base64.exists_values`), and the last one, which may be completed with
pads and is read on its own (`Base64.exists_lastValues`). The bits that the last group leaves unused
are zero, since they stand below the octets of the group in one number of 24 bits.

## Main result

* `Base64.decode_encode`: what is written is read back.
-/

namespace GuardianRelay.Base64

/-! ### Symbols -/

/-- A symbol is worth the value that it is written for. -/
theorem value?_symbol {v : ℕ} (h : v < 64) : value? (Bytes.octetOf (symbol v)) = some v := by
  revert v
  decide +kernel

/-- A symbol is no pad. -/
theorem octetOf_symbol_ne {v : ℕ} (h : v < 64) : Bytes.octetOf (symbol v) ≠ pad := by
  revert v
  decide +kernel

/-- A symbol is shown. -/
theorem isGraphic_symbol {v : ℕ} (h : v < 64) : Text.Percent.isGraphic (symbol v) = true := by
  revert v
  decide +kernel

/-- The octets that write a byte string. -/
def written (b : Bytes) : Bytes := (encodeChars b).map Bytes.octetOf

/-- The symbols of some values. -/
def symbols (found : List ℕ) : Bytes := found.map fun v => Bytes.octetOf (symbol v)

/-- Symbols are read as their values. -/
theorem values_symbols {found : List ℕ} (h : ∀ v ∈ found, v < 64) (offset : ℕ) :
    values offset (symbols found) = .ok found := by
  induction found generalizing offset with
  | nil => rfl
  | cons v found ih =>
      obtain ⟨hv, hfound⟩ := List.forall_mem_cons.mp h
      rw [symbols, List.map_cons, values, value?_symbol hv]
      change (values (offset + 1) (symbols found) >>= fun tail => pure (v :: tail)) = _
      rw [ih hfound]
      rfl

/-- The values that a byte string is written with. -/
def valuesOf : Bytes → List ℕ
  | [] => []
  | [a] => [a.toNat / 4, a.toNat % 4 * 16]
  | [a, b] => [a.toNat / 4, a.toNat % 4 * 16 + b.toNat / 16, b.toNat % 16 * 4]
  | a :: b :: c :: rest =>
    a.toNat / 4 :: (a.toNat % 4 * 16 + b.toNat / 16) :: (b.toNat % 16 * 4 + c.toNat / 64)
      :: c.toNat % 64 :: valuesOf rest

/-- The values have six bits. -/
theorem lt_of_mem_valuesOf {b : Bytes} : ∀ v ∈ valuesOf b, v < 64 := by
  fun_induction valuesOf b with
  | case1 => nofun
  | case2 a =>
      have ha := a.toNat_lt
      simp only [List.forall_mem_cons]
      exact ⟨by omega, by omega, nofun⟩
  | case3 a b =>
      have ha := a.toNat_lt
      have hb := b.toNat_lt
      simp only [List.forall_mem_cons]
      exact ⟨by omega, by omega, by omega, nofun⟩
  | case4 a b c rest ih =>
      have ha := a.toNat_lt
      have hb := b.toNat_lt
      have hc := c.toNat_lt
      simp only [List.forall_mem_cons]
      exact ⟨by omega, by omega, by omega, by omega, ih⟩

/-! ### Groups in front -/

/-- Complete groups are written by their symbols, and what comes behind them by itself. -/
theorem written_append {front last : Bytes} {k : ℕ} (h : front.length = 3 * k) :
    written (front ++ last) = symbols (valuesOf front) ++ written last := by
  fun_induction valuesOf front generalizing k with
  | case1 => rfl
  | case2 | case3 =>
      simp only [List.length_cons, List.length_nil] at h
      omega
  | case4 a b c rest ih =>
      have hrest : rest.length = 3 * (k - 1) := by
        simp only [List.length_cons] at h
        omega
      have hwritten := ih hrest
      simp only [written, symbols] at hwritten
      simp only [written, symbols, List.cons_append, encodeChars, List.map_cons, hwritten]

/-- The values of complete groups make the octets of the groups. -/
theorem join_valuesOf {front : Bytes} {k : ℕ} (h : front.length = 3 * k) :
    join (valuesOf front) = front ∧ (valuesOf front).length = 4 * k := by
  fun_induction valuesOf front generalizing k with
  | case1 =>
      simp only [List.length_nil] at h ⊢
      exact ⟨rfl, by omega⟩
  | case2 | case3 =>
      simp only [List.length_cons, List.length_nil] at h
      omega
  | case4 a b c rest ih =>
      have ha := a.toNat_lt
      have hb := b.toNat_lt
      have hc := c.toNat_lt
      have hrest : rest.length = 3 * (k - 1) := by
        simp only [List.length_cons] at h
        omega
      obtain ⟨hjoin, hlength⟩ := ih hrest
      have hfirst : UInt8.ofNat (a.toNat / 4 * 4 + (a.toNat % 4 * 16 + b.toNat / 16) / 16) = a := by
        rw [show a.toNat / 4 * 4 + (a.toNat % 4 * 16 + b.toNat / 16) / 16 = a.toNat by omega,
          UInt8.ofNat_toNat]
      have hsecond : UInt8.ofNat ((a.toNat % 4 * 16 + b.toNat / 16) * 16 +
          (b.toNat % 16 * 4 + c.toNat / 64) / 4) = b := by
        apply UInt8.toNat_inj.mp
        rw [UInt8.toNat_ofNat']
        omega
      have hthird : UInt8.ofNat ((b.toNat % 16 * 4 + c.toNat / 64) * 64 + c.toNat % 64) = c := by
        apply UInt8.toNat_inj.mp
        rw [UInt8.toNat_ofNat']
        omega
      refine ⟨?_, ?_⟩
      · rw [join, hfirst, hsecond, hthird, hjoin]
      · simp only [List.length_cons, hlength] at h ⊢
        omega

/-! ### The last group -/

/-- The last group has one octet, or two, or three. -/
inductive IsLast : Bytes → Prop
  | one (a : UInt8) : IsLast [a]
  | two (a b : UInt8) : IsLast [a, b]
  | three (a b c : UInt8) : IsLast [a, b, c]

/-- What is not empty has a last group. -/
theorem exists_isLast {b : Bytes} (h : b ≠ []) :
    ∃ front last k, b = front ++ last ∧ front.length = 3 * k ∧ IsLast last := by
  fun_induction encodeChars b with
  | case1 => contradiction
  | case2 a => exact ⟨[], [a], 0, rfl, rfl, .one a⟩
  | case3 a b => exact ⟨[], [a, b], 0, rfl, rfl, .two a b⟩
  | case4 a b c rest ih =>
      by_cases hrest : rest = []
      · exact ⟨[], [a, b, c], 0, by rw [hrest]; rfl, rfl, .three a b c⟩
      · obtain ⟨front, last, k, rfl, hfront, hlast⟩ := ih hrest
        refine ⟨a :: b :: c :: front, last, k + 1, rfl, ?_, hlast⟩
        simp only [List.length_cons, hfront]
        omega

namespace IsLast

variable {last : Bytes}

/-- The last group has an octet, and no more than three. -/
theorem length_bounds (h : IsLast last) : 0 < last.length ∧ last.length ≤ 3 := by
  cases h with
  | one | two | three => simp

/-- There is one value more than there are octets. -/
theorem length_valuesOf (h : IsLast last) : (valuesOf last).length = last.length + 1 := by
  cases h with
  | one | two | three => rfl

/-- The symbols are completed with pads. -/
theorem written_eq (h : IsLast last) :
    written last = symbols (valuesOf last) ++ List.replicate (3 - last.length) pad := by
  cases h with
  | one | two | three => rfl

/-- The values, completed with zeros, make the number of the octets, completed with zeros. -/
theorem foldl_valuesOf (h : IsLast last) :
    (valuesOf last ++ List.replicate (3 - last.length) 0).foldl (fun acc v => acc * 64 + v) 0 =
      Bytes.toNatBE (last ++ Bytes.zeros (3 - last.length)) := by
  cases h with
  | one | two | three =>
      simp only [valuesOf, Bytes.toNatBE, Bytes.zeros, List.length_cons, List.length_nil,
        Nat.reduceAdd, Nat.reduceSub, List.replicate_succ, List.replicate_zero, List.cons_append,
        List.nil_append, List.foldl_cons, List.foldl_nil, UInt8.toNat_zero]
      omega

/-- Nothing is left of the number behind the octets. -/
theorem toNatBE_mod (h : IsLast last) :
    Bytes.toNatBE (last ++ Bytes.zeros (3 - last.length)) % Nat.pow 256 (3 - last.length) = 0 := by
  cases h with
  | one | two | three =>
      simp only [Bytes.toNatBE, Bytes.zeros, List.length_cons, List.length_nil, Nat.reduceAdd,
        Nat.reduceSub, List.replicate_succ, List.replicate_zero, List.cons_append,
        List.nil_append, List.foldl_cons, List.foldl_nil, UInt8.toNat_zero, Nat.pow_eq,
        Nat.reducePow]
      omega

/-- The values are read, and the pads behind them are allowed. -/
theorem lastValues_eq (h : IsLast last) (offset : ℕ) :
    lastValues offset (written last) = .ok (valuesOf last) := by
  have hsymbols : ∀ x ∈ symbols (valuesOf last), (x != pad) = true := by
    intro x hx
    obtain ⟨v, hv, rfl⟩ := List.mem_map.mp hx
    exact bne_iff_ne.mpr (octetOf_symbol_ne (lt_of_mem_valuesOf v hv))
  have hpads : (List.replicate (3 - last.length) pad).takeWhile (· != pad) = [] := by
    cases 3 - last.length with
    | zero | succ => rfl
  have htake : (written last).takeWhile (· != pad) = symbols (valuesOf last) := by
    rw [h.written_eq, List.takeWhile_append_of_pos hsymbols, hpads, List.append_nil]
  have hdrop : (written last).drop (symbols (valuesOf last)).length =
      List.replicate (3 - last.length) pad := by
    rw [h.written_eq, List.drop_left]
  have hlength : ¬ (symbols (valuesOf last)).length < 2 := by
    have hpos := h.length_bounds.1
    rw [symbols, List.length_map, h.length_valuesOf]
    omega
  have hothers : ¬ (List.replicate (3 - last.length) pad).any (· != pad) = true := by
    rw [List.any_eq_true]
    rintro ⟨x, hx, hne⟩
    rw [List.eq_of_mem_replicate hx] at hne
    contradiction
  simp only [lastValues, htake, hdrop, values_symbols lt_of_mem_valuesOf]
  rw [if_neg (not_or.mpr ⟨hlength, hothers⟩), ite_self]

/-- The octets are read from the values. -/
theorem lastOctets_eq (h : IsLast last) (offset : ℕ) :
    lastOctets offset (written last) (valuesOf last) = .ok last := by
  obtain ⟨hpos, hle⟩ := h.length_bounds
  have hfound := h.length_valuesOf
  have hgroup : (written last).length = 4 := by
    rw [h.written_eq, List.length_append, symbols, List.length_map, List.length_replicate, hfound]
    omega
  have hmissing : 4 - (valuesOf last).length = 3 - last.length := by omega
  have hcount : (valuesOf last).length * 6 / 8 = last.length := by omega
  have hnumber : Bytes.bigEndian 3 (Bytes.toNatBE (last ++ Bytes.zeros (3 - last.length))) =
      last ++ Bytes.zeros (3 - last.length) := by
    have hlength : (last ++ Bytes.zeros (3 - last.length)).length = 3 := by
      rw [List.length_append, Bytes.zeros, List.length_replicate]
      omega
    have hwritten := Bytes.bigEndian_toNatBE (last ++ Bytes.zeros (3 - last.length))
    rwa [hlength] at hwritten
  rw [lastOctets, if_neg (by omega), if_neg (by omega)]
  dsimp only
  rw [hmissing, hcount, h.foldl_valuesOf, h.toNatBE_mod, if_neg (by simp), hnumber,
    List.take_left]

end IsLast

/-! ### Whole texts -/

/-- A text in base 64 is shown. -/
theorem isGraphic_of_mem_encodeChars {b : Bytes} :
    ∀ c ∈ encodeChars b, Text.Percent.isGraphic c = true := by
  have hsymbol {v : ℕ} (hv : v < 64) := isGraphic_symbol hv
  have hpad : Text.Percent.isGraphic '=' = true := by decide
  fun_induction encodeChars b with
  | case1 => nofun
  | case2 a =>
      have ha := a.toNat_lt
      simp only [List.forall_mem_cons]
      exact ⟨hsymbol (by omega), hsymbol (by omega), hpad, hpad, nofun⟩
  | case3 a b =>
      have ha := a.toNat_lt
      have hb := b.toNat_lt
      simp only [List.forall_mem_cons]
      exact ⟨hsymbol (by omega), hsymbol (by omega), hsymbol (by omega), hpad, nofun⟩
  | case4 a b c rest ih =>
      have ha := a.toNat_lt
      have hb := b.toNat_lt
      have hc := c.toNat_lt
      simp only [List.forall_mem_cons]
      exact ⟨hsymbol (by omega), hsymbol (by omega), hsymbol (by omega), hsymbol (by omega), ih⟩

/-- What is written is taken apart before the last group, and put together again. -/
theorem decodeOctets_written (b : Bytes) : decodeOctets (written b) = .ok b := by
  by_cases hempty : b = []
  · rw [hempty]
    rfl
  obtain ⟨front, last, k, rfl, hfront, hlast⟩ := exists_isLast hempty
  obtain ⟨hjoin, hvalues⟩ := join_valuesOf hfront
  have hgroup : (written last).length = 4 := by
    have hbounds := hlast.length_bounds
    rw [hlast.written_eq, List.length_append, symbols, List.length_map, List.length_replicate,
      hlast.length_valuesOf]
    omega
  have hfrontLength : (symbols (valuesOf front)).length = 4 * k := by
    rw [symbols, List.length_map, hvalues]
  have hlength : (written (front ++ last)).length = 4 * k + 4 := by
    rw [written_append hfront, List.length_append, hfrontLength, hgroup]
  have hstart : (4 * k + 4 - 1) / 4 * 4 = 4 * k := by omega
  have htake : (written (front ++ last)).take (4 * k) = symbols (valuesOf front) := by
    rw [written_append hfront, ← hfrontLength, List.take_left]
  have hdrop : (written (front ++ last)).drop (4 * k) = written last := by
    rw [written_append hfront, ← hfrontLength, List.drop_left]
  have hsome : (written last).isEmpty = false := by
    rw [List.isEmpty_eq_false_iff, ← List.length_pos_iff]
    omega
  rw [decodeOctets]
  simp only [hlength, hstart, htake, hdrop, values_symbols lt_of_mem_valuesOf, hsome,
    hlast.lastValues_eq]
  rw [if_neg fun hbad => by omega]
  change (lastOctets (4 * k) (written last) (valuesOf last) >>= fun tail =>
    pure (join (valuesOf front) ++ tail)) = _
  rw [hlast.lastOctets_eq, hjoin]
  rfl

/-- **What is written is read back.** -/
theorem decode_encode (b : Bytes) : decode (encode b) = .ok b := by
  rw [decode, encode, Text.ofText_graphic isGraphic_of_mem_encodeChars]
  exact decodeOctets_written b

end GuardianRelay.Base64
