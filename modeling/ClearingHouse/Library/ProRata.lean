import Mathlib.Algebra.BigOperators.Group.List.Lemmas
import Mathlib.Algebra.Order.BigOperators.Group.List
import Mathlib.Algebra.Order.Field.Basic
import Mathlib.Tactic

/-!
# Capped pro-rata allocation

An amount is spread over weights in proportion, and no weight takes more than a fixed multiple of
itself.  Over a field the allocation is exact: together the weights take the amount, or all their
caps when these do not suffice.
-/

namespace ProRata

variable {K : Type*} [Field K] [LinearOrder K] [IsStrictOrderedRing K]

/-- The part of `amount` that falls to `weight` out of `total`. -/
def share (total amount weight : K) : K := weight / total * amount

omit [LinearOrder K] [IsStrictOrderedRing K] in
theorem sum_map_mul_const (ws : List K) (factor : K) :
    (ws.map fun w => w * factor).sum = ws.sum * factor := by
  rw [List.sum_map_mul_right, List.map_id']

/-- All caps bind together or none does: every weight takes the same fraction of itself. -/
theorem min_share_cap {weight : K} (weight_nonneg : 0 ≤ weight) (total amount rate : K) :
    min (share total amount weight) (weight * rate) = weight * min (amount / total) rate := by
  rw [share, div_mul_eq_mul_div, mul_div_assoc, mul_min_of_nonneg _ _ weight_nonneg]

/-- Capped shares of weights add up to the amount or to all the caps. -/
theorem sum_min_share_cap {ws : List K} (nonneg : ∀ w ∈ ws, 0 ≤ w) (total_pos : 0 < ws.sum)
    (amount rate : K) :
    (ws.map fun w => min (share ws.sum amount w) (w * rate)).sum = min amount (ws.sum * rate) := by
  rw [List.map_congr_left fun w member => min_share_cap (nonneg w member) ws.sum amount rate,
    sum_map_mul_const, mul_min_of_nonneg _ _ total_pos.le, mul_div_cancel₀ _ total_pos.ne']

end ProRata
