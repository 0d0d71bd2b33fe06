import Mathlib.Algebra.BigOperators.Group.List.Lemmas
import Mathlib.Tactic

/-!
# Profit of lots on two sides

Lots are bought or sold, each at its own price.  Their profit at a mark is linear in the mark, so
net quantity and net cost determine it.  Net quantity and the average price over both sides do not:
they give the profit exactly when both sides trade at the same average.
-/

namespace Lots

variable {ρ K : Type*} [Field K]

/-- Total of a column. -/
def total (quantity : ρ → K) (lots : List ρ) : K := (lots.map quantity).sum

/-- Quantity, negative for lots sold. -/
def signed (sold : ρ → Bool) (quantity : ρ → K) (lot : ρ) : K :=
  if sold lot then -quantity lot else quantity lot

/-- Net cost of the lots. -/
def cost (sold : ρ → Bool) (quantity price : ρ → K) (lots : List ρ) : K :=
  total (signed sold fun lot => quantity lot * price lot) lots

/-- Profit of the lots at a mark. -/
def profit (sold : ρ → Bool) (quantity price : ρ → K) (lots : List ρ) (mark : K) : K :=
  total (fun lot => signed sold quantity lot * (mark - price lot)) lots

variable {sold : ρ → Bool} {quantity price : ρ → K}

theorem total_cons (lot : ρ) (lots : List ρ) :
    total quantity (lot :: lots) = quantity lot + total quantity lots := by
  simp [total]

/-- The signed total is what is bought less what is sold. -/
theorem total_signed (sold : ρ → Bool) (quantity : ρ → K) (lots : List ρ) :
    total (signed sold quantity) lots =
      total quantity (lots.filter fun lot => !sold lot) - total quantity (lots.filter sold) := by
  induction lots with
  | nil => simp [total]
  | cons lot lots induction =>
      rw [total_cons, induction]
      cases side : sold lot with
      | true =>
          simp only [side, signed, List.filter_cons, total_cons, if_true, Bool.not_true,
            Bool.false_eq_true, if_false]
          ring
      | false =>
          simp only [side, signed, List.filter_cons, total_cons, if_true, Bool.not_false,
            Bool.false_eq_true, if_false]
          ring

/-- Selected and other rows make up the total. -/
theorem total_eq_add (selects : ρ → Bool) (quantity : ρ → K) (lots : List ρ) :
    total quantity lots =
      total quantity (lots.filter fun lot => !selects lot) +
        total quantity (lots.filter selects) := by
  induction lots with
  | nil => simp [total]
  | cons lot lots induction =>
      rw [total_cons, induction]
      cases side : selects lot with
      | true =>
          simp only [side, List.filter_cons, total_cons, if_true, Bool.not_true,
            Bool.false_eq_true, if_false]
          ring
      | false =>
          simp only [side, List.filter_cons, total_cons, if_true, Bool.not_false,
            Bool.false_eq_true, if_false]
          ring

theorem profit_eq (lots : List ρ) (mark : K) :
    profit sold quantity price lots mark =
      total (signed sold quantity) lots * mark - cost sold quantity price lots := by
  induction lots with
  | nil => simp [profit, cost, total]
  | cons lot lots induction =>
      simp only [profit, cost, total_cons] at induction ⊢
      rw [induction, signed, signed]
      split <;> ring

/-- Profit from the average price over both sides is right exactly when the sides have one average
price. -/
theorem average_profit_iff [CharZero K] {long short longCost shortCost : K}
    (whole : long + short ≠ 0) (mark : K) :
    (mark - (longCost + shortCost) / (long + short)) * (long - short) =
        (long - short) * mark - (longCost - shortCost) ↔
      long * shortCost = short * longCost := by
  have expand : ((long - short) * mark - (longCost - shortCost) -
      (mark - (longCost + shortCost) / (long + short)) * (long - short)) * (long + short) =
        2 * (long * shortCost - short * longCost) := by
    field_simp
    ring
  constructor
  · intro equal
    rw [equal, sub_self, zero_mul] at expand
    have apart := (mul_eq_zero.mp expand.symm).resolve_left two_ne_zero
    exact sub_eq_zero.mp apart
  · intro balanced
    rw [balanced, sub_self, mul_zero] at expand
    have apart := (mul_eq_zero.mp expand).resolve_right whole
    exact (sub_eq_zero.mp apart).symm

end Lots
