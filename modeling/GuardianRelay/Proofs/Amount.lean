import GuardianRelay.Amount
import Mathlib.Algebra.Group.Nat.Defs
import Mathlib.Order.Bounds.Basic
import Mathlib.Order.Nat

/-!
# Truncated Amounts

A bridge carries a native amount without its surplus decimals, and what comes back is the amount
rounded down to a multiple of the scale: the largest amount that nothing is lost of. This is so as
long as the scale is a native amount itself, which is up to 27 decimals. With more decimals nothing
is carried, zero too comes back as the largest native amount, and truncating raises every other
amount to it.

## Main results

* `Amount.toNat_normalize`, `Amount.toNat_denormalize`: what is carried, and what comes back.
* `Amount.toNat_truncate`, `Amount.truncate_eq_largest`: what is left on the other side, on either
  side of the limit.
* `Amount.truncate_greatest`: which amount this is, for all amounts and all decimals.
* `Amount.truncate_raises`: an amount that truncating raises.
-/

namespace GuardianRelay.Amount

variable {amount : UInt64} {decimals : UInt8}

/-- The largest native amount. -/
def largest : UInt64 := UInt64.ofNat (UInt64.size - 1)

@[simp] theorem toNat_largest : largest.toNat = UInt64.size - 1 := rfl

/-- No native amount exceeds the largest. -/
theorem le_largest (amount : UInt64) : amount.toNat ≤ largest.toNat :=
  Nat.le_pred_of_lt amount.toNat_lt

/-! ### Scales -/

theorem scale_pos : 0 < scale decimals := Nat.pow_pos (by decide)

/-- Up to eight decimals there is no surplus. -/
theorem scale_eq_one (h : decimals.toNat ≤ 8) : scale decimals = 1 := by
  rw [scale, maxBridgedDecimals, Nat.sub_eq_zero_of_le h, Nat.pow_eq, Nat.pow_zero]

/-- The scale of up to 27 decimals is a native amount: `10 ^ 19` is one and `10 ^ 20` is not. -/
theorem scale_lt_size_iff : scale decimals < UInt64.size ↔ decimals.toNat ≤ 27 := by
  have hlast : 10 ^ 19 < UInt64.size := by decide
  have hfirst : UInt64.size ≤ 10 ^ 20 := by decide
  constructor
  · intro h
    have hsurplus : decimals.toNat - 8 < 20 :=
      (Nat.pow_lt_pow_iff_right (by decide)).mp (h.trans_le hfirst)
    omega
  · intro h
    have hsurplus : scale decimals ≤ 10 ^ 19 :=
      Nat.pow_le_pow_right (by decide) (by rw [maxBridgedDecimals]; omega)
    omega

/-! ### What is carried and what comes back -/

/-- What is carried is the amount without its surplus decimals. -/
theorem toNat_normalize : (normalize amount decimals).toNat = amount.toNat / scale decimals :=
  UInt64.toNat_ofNat_of_lt' ((Nat.div_le_self _ _).trans_lt amount.toNat_lt)

/-- If the scale is a native amount, what comes back is the carried amount at that scale, at most
the largest. -/
theorem toNat_denormalize (h : decimals.toNat ≤ 27) :
    (denormalize amount decimals).toNat =
      min (amount.toNat * scale decimals) (UInt64.size - 1) := by
  have hscale := scale_lt_size_iff.mpr h
  rw [denormalize, if_neg (Nat.not_le.mpr hscale)]
  exact UInt64.toNat_ofNat_of_lt' ((Nat.min_le_right _ _).trans_lt (by decide))

/-- If the scale is no native amount, the largest comes back. -/
theorem denormalize_eq_largest (h : 27 < decimals.toNat) : denormalize amount decimals = largest :=
  if_pos (Nat.not_lt.mp fun hscale => Nat.not_le.mpr h (scale_lt_size_iff.mp hscale))

/-! ### What is left -/

/-- Rounding down to a multiple of the scale leaves no amount that is too large. -/
theorem toNat_truncate (h : decimals.toNat ≤ 27) :
    (truncate amount decimals).toNat = amount.toNat / scale decimals * scale decimals := by
  have hle : amount.toNat / scale decimals * scale decimals ≤ UInt64.size - 1 :=
    (Nat.div_mul_le_self _ _).trans (le_largest amount)
  rw [truncate, toNat_denormalize h, toNat_normalize, Nat.min_eq_left hle]

/-- If the scale is no native amount, the largest is left of every amount. -/
theorem truncate_eq_largest (h : 27 < decimals.toNat) : truncate amount decimals = largest :=
  denormalize_eq_largest h

/-- Up to eight decimals nothing is lost. -/
theorem truncate_eq_self (h : decimals.toNat ≤ 8) : truncate amount decimals = amount := by
  apply UInt64.toNat_inj.mp
  rw [toNat_truncate (by omega), scale_eq_one h, Nat.div_one, Nat.mul_one]

/-- Of an amount below the scale nothing is left. -/
theorem truncate_eq_zero (h : decimals.toNat ≤ 27) (hlt : amount.toNat < scale decimals) :
    truncate amount decimals = 0 := by
  apply UInt64.toNat_inj.mp
  rw [toNat_truncate h, Nat.div_eq_of_lt hlt, Nat.zero_mul]
  rfl

/-- What is left is the largest multiple of the scale that does not exceed the amount. -/
theorem isGreatest_truncate (h : decimals.toNat ≤ 27) :
    IsGreatest {t : ℕ | t ≤ amount.toNat ∧ scale decimals ∣ t}
      (truncate amount decimals).toNat := by
  rw [toNat_truncate h]
  constructor
  · exact ⟨Nat.div_mul_le_self _ _, Nat.dvd_mul_left _ _⟩
  · rintro t ⟨hle, hdvd⟩
    rw [← Nat.div_mul_cancel hdvd]
    exact Nat.mul_le_mul_right _ (Nat.div_le_div_right hle)

/-- What is left is carried as the amount itself is. -/
theorem normalize_truncate : normalize (truncate amount decimals) decimals =
    normalize amount decimals := by
  apply UInt64.toNat_inj.mp
  rcases Nat.lt_or_ge 27 decimals.toNat with h | h
  · -- Of no amount is anything carried, not even of the largest.
    have hnone (t : UInt64) : t.toNat / scale decimals = 0 :=
      Nat.div_eq_of_lt (t.toNat_lt.trans_le (Nat.not_lt.mp fun hscale =>
        Nat.not_le.mpr h (scale_lt_size_iff.mp hscale)))
    rw [toNat_normalize, toNat_normalize, hnone, hnone]
  · rw [toNat_normalize, toNat_normalize, toNat_truncate h, Nat.mul_div_cancel _ scale_pos]

/-- What is left of an amount is left of what is left. -/
theorem truncate_truncate : truncate (truncate amount decimals) decimals =
    truncate amount decimals := by
  rw [truncate, normalize_truncate, truncate]

/-- Truncating raises an amount exactly if the scale is no native amount, and then every one but the
largest. -/
theorem truncate_le_iff :
    (truncate amount decimals).toNat ≤ amount.toNat ↔
      decimals.toNat ≤ 27 ∨ amount = largest := by
  constructor
  · intro hle
    refine (Nat.lt_or_ge 27 decimals.toNat).symm.imp_right fun h => ?_
    rw [truncate_eq_largest h] at hle
    exact UInt64.toNat_inj.mp ((le_largest amount).antisymm hle)
  · rintro (h | rfl)
    · exact (isGreatest_truncate h).1.1
    · exact le_largest _

/-- **What is left of an amount on the other side of a bridge.** Up to 27 decimals it is the largest
amount, not exceeding the given one, that is a multiple of `10` to the surplus decimals: the given
amount if there is no surplus, and zero if the amount is below that power. With more decimals it is
the largest native amount, whatever was given. In both cases truncating again changes nothing, and
the bridge carries of what is left as much as it does of the given amount. -/
theorem truncate_greatest (amount : UInt64) (decimals : UInt8) :
    (decimals.toNat ≤ 27 →
      IsGreatest {t : ℕ | t ≤ amount.toNat ∧ 10 ^ (decimals.toNat - 8) ∣ t}
        (truncate amount decimals).toNat ∧
      (decimals.toNat ≤ 8 → truncate amount decimals = amount) ∧
      (amount.toNat < 10 ^ (decimals.toNat - 8) → truncate amount decimals = 0)) ∧
    (27 < decimals.toNat → (truncate amount decimals).toNat = 2 ^ 64 - 1) ∧
    ((truncate amount decimals).toNat ≤ amount.toNat ↔
      decimals.toNat ≤ 27 ∨ amount.toNat = 2 ^ 64 - 1) ∧
    truncate (truncate amount decimals) decimals = truncate amount decimals ∧
    normalize (truncate amount decimals) decimals = normalize amount decimals := by
  refine ⟨fun h => ⟨isGreatest_truncate h, truncate_eq_self, truncate_eq_zero h⟩, fun h => ?_, ?_,
    truncate_truncate, normalize_truncate⟩
  · rw [truncate_eq_largest h]
    rfl
  · rw [truncate_le_iff, ← UInt64.toNat_inj]
    rfl

/-- With nine decimals the last digit is lost; with 27 an amount below `10 ^ 19` is lost as a whole,
and with 28 the largest amount is left of it. -/
theorem truncate_greatest_lastDigit :
    (9 ≤ 27 ∧ (truncate 1234567891 9).toNat = 1234567890 ∧
      IsGreatest {t : ℕ | t ≤ 1234567891 ∧ 10 ^ 1 ∣ t} 1234567890) ∧
    (5 < 10 ^ 19 ∧ truncate 5 27 = 0) ∧
    (27 < 28 ∧ (truncate 5 28).toNat = 2 ^ 64 - 1) := by
  have hnine : (truncate 1234567891 9).toNat = 1234567890 := by decide
  refine ⟨⟨by decide, hnine, ?_⟩, ⟨by decide, ?_⟩, by decide, ?_⟩
  · exact hnine ▸ ((truncate_greatest 1234567891 9).1 (by decide)).1
  · exact ((truncate_greatest 5 27).1 (by decide)).2.2 (by decide)
  · exact (truncate_greatest 5 28).2.1 (by decide)

/-- **Truncating may raise an amount.** With 28 decimals nothing but zero is a multiple of the scale
that does not exceed 5, but the largest native amount is left of it. -/
theorem truncate_raises :
    IsGreatest {t : ℕ | t ≤ (5 : UInt64).toNat ∧ 10 ^ ((28 : UInt8).toNat - 8) ∣ t} 0 ∧
    (truncate 5 28).toNat ≠ 0 ∧
    ¬ (truncate 5 28).toNat ≤ (5 : UInt64).toNat := by
  refine ⟨⟨⟨by decide, Nat.dvd_zero _⟩, ?_⟩, by decide, by decide⟩
  rintro t ⟨hle, hdvd⟩
  have hlt : t < 10 ^ ((28 : UInt8).toNat - 8) := hle.trans_lt (by decide)
  exact (Nat.eq_zero_of_dvd_of_lt hdvd hlt).le

end GuardianRelay.Amount
