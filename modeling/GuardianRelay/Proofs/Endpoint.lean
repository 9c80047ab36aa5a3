import GuardianRelay.Endpoint
import GuardianRelay.Proofs.Bytes
import Mathlib.Tactic.Tauto

/-!
# What an Endpoint Accepts

The rules that the endpoints of all chains share, and apply before they ask their chain anything:
which recipients can be sent to, and which addresses can be registered. Both have to be on another
chain, and neither may be the zero address.

## Main results

* `checkRecipient_eq_ok_iff`: who can be sent to.
* `checkForeignEndpoint_eq_ok_iff`: what can be registered.
-/

namespace GuardianRelay

/-- The zero address is the only one that is zero. -/
theorem Address.isZero_iff {address : Address} :
    address.isZero = true ↔ address = Address.zero := by
  rw [isZero, FixedBytes.isZero_iff, zero, Address.ext_iff]

/-- What can be registered: another chain's address that is not the zero address. -/
theorem checkForeignEndpoint_eq_ok_iff {here foreign : ChainId} {address : Address} :
    checkForeignEndpoint here foreign address = .ok () ↔
      foreign ≠ 0 ∧ foreign ≠ here ∧ address ≠ Address.zero := by
  rw [checkForeignEndpoint]
  by_cases hforeign : foreign = 0 ∨ foreign = here
  · rw [if_pos hforeign]
    simp only [reduceCtorEq, false_iff]
    tauto
  · rw [if_neg hforeign]
    obtain ⟨hzero, hhere⟩ := not_or.mp hforeign
    obtain rfl | hne := eq_or_ne address Address.zero
    · have hisZero : Address.zero.isZero = true := Address.isZero_iff.mpr rfl
      simp [hisZero]
    · have hisNot : address.isZero = false :=
        Bool.eq_false_iff.mpr fun h => hne (Address.isZero_iff.mp h)
      simp [hisNot, hzero, hhere, hne]

/-- Who can be sent to: somebody on another chain. -/
theorem checkRecipient_eq_ok_iff {source chain : ChainId} {recipient : Address} :
    checkRecipient source chain recipient = .ok () ↔
      chain ≠ 0 ∧ chain ≠ source ∧ recipient ≠ Address.zero := by
  simp only [checkRecipient, Address.isZero_iff]
  split
  next hzero => simp [hzero]
  next hzero =>
    split
    next hsource => simp [hsource]
    next hsource => split <;> simp_all

end GuardianRelay
