import GuardianRelay.Svm.Message
import Mathlib.Algebra.Order.Group.Nat
import Mathlib.Data.Nat.Notation

/-!
# Lengths as the Chain Reads Them

The chain reads a length group by group until a group comes that says that it is the last. It
takes at most three groups, no last group that adds nothing, and no number above 65535. This
module gives the reader and shows that it accepts exactly what is written for a length, so a
length ends by itself and has one written form.

## Main results

* `groups?_eq_some_iff`: a number is read from the groups that are written for it, and from no
  others.
* `length?_eq_some_iff`: the same of lengths.
-/

namespace GuardianRelay.Svm

/-- Reads a number from at most so many groups, the lowest group first. -/
def groups? : ℕ → Bytes → Option (ℕ × Bytes)
  | 0, _ => none
  | _ + 1, [] => none
  | most + 1, x :: rest =>
    if x.toNat < 128 then some (x.toNat, rest)
    else
      -- a last group of zero behind others would be another form of a smaller number
      (groups? most rest).bind fun (high, rest) =>
        if high = 0 then none else some (x.toNat - 128 + 128 * high, rest)

/-- Reads a length. -/
def length? (b : Bytes) : Option (ℕ × Bytes) :=
  (groups? 3 b).filter fun (n, _) => n ≤ maxItems

variable {b rest : Bytes} {n : ℕ}

/-- A number that fits one group is that group. -/
theorem groups_of_lt (h : n < 128) : groups n = [UInt8.ofNat n] := by
  rw [groups, if_pos h]

/-- A number that does not fit one group is its lowest group and the groups of the rest. -/
theorem groups_of_ge (h : 128 ≤ n) :
    groups n = UInt8.ofNat (n % 128 + 128) :: groups (n / 128) := by
  rw [groups, if_neg (Nat.not_lt.mpr h)]

/-- The first group of a number is all of it, or says that more groups follow. -/
theorem cons_eq_groups_append_iff {x : UInt8} {tail : Bytes} :
    x :: tail = groups n ++ rest ↔
      (n = x.toNat ∧ x.toNat < 128 ∧ tail = rest) ∨
      (128 ≤ x.toNat ∧ 128 ≤ n ∧ n % 128 = x.toNat - 128 ∧ tail = groups (n / 128) ++ rest) := by
  have hx : x.toNat < 256 := x.toNat_lt
  obtain hn | hn := Nat.lt_or_ge n 128
  · have hread : (UInt8.ofNat n).toNat = n :=
      UInt8.toNat_ofNat_of_lt (Nat.lt_trans hn (by decide))
    rw [groups_of_lt hn, List.singleton_append, List.cons.injEq, ← UInt8.toNat_inj, hread]
    constructor
    · rintro ⟨hxn, htail⟩
      exact .inl ⟨hxn.symm, by omega, htail⟩
    · rintro (⟨hnx, -, htail⟩ | ⟨-, hge, -⟩)
      · exact ⟨hnx.symm, htail⟩
      · omega
  · have hread : (UInt8.ofNat (n % 128 + 128)).toNat = n % 128 + 128 :=
      UInt8.toNat_ofNat_of_lt (show n % 128 + 128 < 256 by omega)
    rw [groups_of_ge hn, List.cons_append, List.cons.injEq, ← UInt8.toNat_inj, hread]
    constructor
    · rintro ⟨hxn, htail⟩
      exact .inr ⟨by omega, hn, by omega, htail⟩
    · rintro (⟨hnx, hlt, -⟩ | ⟨hge, -, hmod, htail⟩)
      · omega
      · exact ⟨by omega, htail⟩

/-- A number is read exactly where its groups stand, if there are not too many of them. -/
theorem groups?_eq_some_iff {most : ℕ} :
    groups? most b = some (n, rest) ↔ 0 < most ∧ n < 128 ^ most ∧ b = groups n ++ rest := by
  induction most generalizing b n rest with
  | zero => simp [groups?]
  | succ most ih =>
      cases b with
      | nil =>
          rw [groups?, groups]
          split <;> simp
      | cons x tail =>
          rw [groups?, cons_eq_groups_append_iff]
          split
          next hx =>
            rw [Option.some.injEq, Prod.mk.injEq]
            constructor
            · rintro ⟨rfl, rfl⟩
              have hpow : 128 ^ 1 ≤ 128 ^ (most + 1) := Nat.pow_le_pow_right (by decide) (by omega)
              exact ⟨by omega, by omega, .inl ⟨rfl, hx, rfl⟩⟩
            · rintro ⟨-, -, ⟨hn, -, htail⟩ | ⟨hge, -⟩⟩
              · exact ⟨hn.symm, htail⟩
              · omega
          next hx =>
            have hpow : n < 128 ^ (most + 1) ↔ n / 128 < 128 ^ most := by
              rw [Nat.div_lt_iff_lt_mul (by decide), Nat.pow_succ]
            rw [Option.bind_eq_some_iff, hpow]
            constructor
            · rintro ⟨⟨high, later⟩, hhigh, hn⟩
              obtain ⟨hmost, hlt, htail⟩ := ih.mp hhigh
              dsimp only at hn
              split at hn
              next => contradiction
              next hne =>
                obtain ⟨hvalue, rfl⟩ : x.toNat - 128 + 128 * high = n ∧ later = rest := by
                  simpa using hn
                have hx' : x.toNat < 256 := x.toNat_lt
                obtain rfl : high = n / 128 := by omega
                exact ⟨by omega, hlt, .inr ⟨by omega, by omega, by omega, htail⟩⟩
            · rintro ⟨-, hlt, ⟨-, hlt', -⟩ | ⟨hge, hn, hmod, htail⟩⟩
              · omega
              · have hmost : 0 < most := by
                  refine Nat.pos_of_ne_zero fun hzero => ?_
                  rw [hzero, Nat.pow_zero] at hlt
                  omega
                refine ⟨(n / 128, rest), ih.mpr ⟨hmost, hlt, htail⟩, ?_⟩
                dsimp only
                rw [if_neg (by omega), show x.toNat - 128 + 128 * (n / 128) = n by omega]

/-- A length is read exactly where its groups stand. -/
theorem length?_eq_some_iff : length? b = some (n, rest) ↔ n ≤ maxItems ∧ b = groups n ++ rest := by
  rw [length?, Option.filter_eq_some_iff, groups?_eq_some_iff, decide_eq_true_eq]
  constructor
  · rintro ⟨⟨-, -, hb⟩, hn⟩
    exact ⟨hn, hb⟩
  · rintro ⟨hn, hb⟩
    exact ⟨⟨by decide, Nat.lt_of_le_of_lt hn (by decide), hb⟩, hn⟩

end GuardianRelay.Svm
