import Mathlib.Algebra.BigOperators.Group.List.Lemmas
import Mathlib.Algebra.Order.BigOperators.Group.List
import Mathlib.Tactic

/-!
# Tiers that absorb a loss

A loss passes through an ordered list of tiers.  Each tier takes a part of the loss that reaches
it, and the next tier is asked only while a positive loss is left.  The subtraction is a parameter,
so that rounded arithmetic fits.
-/

namespace LossTiers

variable {ι K : Type*}

/-- A tier: what it reports as available, what it can bear, and what it takes of a loss. -/
structure Tier (ι K : Type*) where
  label : ι
  available : K
  capacity : K
  take : K → K

/-- Record of one tier that was asked. -/
structure Step (ι K : Type*) where
  label : ι
  available : K
  applied : K
  remaining : K

section Runs

variable [Zero K] [LT K] [DecidableLT K]

/-- Steps of the tiers that are asked. -/
def absorb (subtract : K → K → K) : List (Tier ι K) → K → List (Step ι K)
  | [], _ => []
  | tier :: tiers, loss =>
      let applied := tier.take loss
      let remaining := subtract loss applied
      ⟨tier.label, tier.available, applied, remaining⟩ ::
        if 0 < remaining then absorb subtract tiers remaining else []

/-- The loss left in the end. -/
def left (subtract : K → K → K) : List (Tier ι K) → K → K
  | [], loss => loss
  | tier :: tiers, loss =>
      let remaining := subtract loss (tier.take loss)
      if 0 < remaining then left subtract tiers remaining else remaining

theorem absorb_cons (subtract : K → K → K) (tier : Tier ι K) (tiers : List (Tier ι K)) (loss : K) :
    absorb subtract (tier :: tiers) loss =
      ⟨tier.label, tier.available, tier.take loss, subtract loss (tier.take loss)⟩ ::
        if 0 < subtract loss (tier.take loss) then
          absorb subtract tiers (subtract loss (tier.take loss))
        else [] := rfl

theorem left_cons (subtract : K → K → K) (tier : Tier ι K) (tiers : List (Tier ι K)) (loss : K) :
    left subtract (tier :: tiers) loss =
      if 0 < subtract loss (tier.take loss) then
        left subtract tiers (subtract loss (tier.take loss))
      else subtract loss (tier.take loss) := rfl

theorem label_mem_of_absorb {subtract : K → K → K} {tiers : List (Tier ι K)} {loss : K}
    {step : Step ι K} (asked : step ∈ absorb subtract tiers loss) :
    step.label ∈ tiers.map Tier.label := by
  induction tiers generalizing loss with
  | nil => cases asked
  | cons tier tiers induction =>
      rw [absorb_cons] at asked
      rcases List.mem_cons.mp asked with rfl | later
      · exact List.mem_cons_self
      · split at later
        · exact List.mem_cons_of_mem _ (induction later)
        · cases later

end Runs

variable [AddCommGroup K] [LinearOrder K] [IsOrderedAddMonoid K]

omit [IsOrderedAddMonoid K] in
/-- With exact subtraction the steps account for the whole loss. -/
theorem sum_applied (tiers : List (Tier ι K)) (loss : K) :
    ((absorb (· - ·) tiers loss).map Step.applied).sum + left (· - ·) tiers loss = loss := by
  induction tiers generalizing loss with
  | nil => simp [absorb, left]
  | cons tier tiers induction =>
      rw [absorb_cons, left_cons]
      split
      · rw [List.map_cons, List.sum_cons, add_assoc, induction, add_sub_cancel]
      · simp

/-- Every tier that is reached leaves exactly what exceeds its capacity. -/
def Exact (subtract : K → K → K) : List (Tier ι K) → K → Prop
  | [], _ => True
  | tier :: tiers, loss =>
      subtract loss (tier.take loss) = max (loss - tier.capacity) 0 ∧
        (tier.capacity < loss → Exact subtract tiers (loss - tier.capacity))

/-- Exact tiers leave what exceeds their capacities together. -/
theorem left_of_exact {subtract : K → K → K} {tiers : List (Tier ι K)} {loss : K}
    (capacity_nonneg : ∀ tier ∈ tiers, 0 ≤ tier.capacity) (loss_nonneg : 0 ≤ loss)
    (exact : Exact subtract tiers loss) :
    left subtract tiers loss = max (loss - (tiers.map Tier.capacity).sum) 0 := by
  induction tiers generalizing loss with
  | nil => simp [left, loss_nonneg]
  | cons tier tiers induction =>
      obtain ⟨here, further⟩ := exact
      have rest_nonneg := fun t inside => capacity_nonneg t (List.mem_cons_of_mem tier inside)
      rw [left_cons, here, List.map_cons, List.sum_cons]
      rcases lt_or_ge tier.capacity loss with exceeds | covers
      · have positive : 0 < loss - tier.capacity := sub_pos.mpr exceeds
        rw [max_eq_left positive.le, if_pos positive,
          induction rest_nonneg positive.le (further exceeds), sub_add_eq_sub_sub]
      · have sum_nonneg : 0 ≤ (tiers.map Tier.capacity).sum :=
          List.sum_nonneg (by simpa using rest_nonneg)
        have none_left : loss - tier.capacity ≤ 0 := sub_nonpos.mpr covers
        have none_later : loss - (tier.capacity + (tiers.map Tier.capacity).sum) ≤ 0 :=
          sub_nonpos.mpr (covers.trans (le_add_of_nonneg_right sum_nonneg))
        rw [max_eq_right none_left, if_neg (lt_irrefl 0), max_eq_right none_later]

/-- The steps take non-negative parts within what is available, the loss never grows, and a later
step follows only one that took all it had. -/
def InOrder : K → List (Step ι K) → Prop
  | _, [] => True
  | loss, step :: steps =>
      (0 ≤ step.applied ∧ step.applied ≤ max step.available 0) ∧
        (step.remaining = loss - step.applied ∧ 0 ≤ step.remaining ∧ step.remaining ≤ loss) ∧
        (steps ≠ [] → step.applied = step.available) ∧ InOrder step.remaining steps

/-- What a tier has to do at a loss to keep the order, `more` telling whether tiers follow. -/
def Orderly (tier : Tier ι K) (more : Prop) (loss : K) : Prop :=
  (0 ≤ tier.take loss ∧ tier.take loss ≤ max tier.available 0) ∧ tier.take loss ≤ loss ∧
    (more → tier.take loss < loss → tier.take loss = tier.available)

omit [IsOrderedAddMonoid K] in
private theorem absorb_ne_nil {subtract : K → K → K} {tiers : List (Tier ι K)} {loss : K} :
    absorb subtract tiers loss ≠ [] ↔ tiers ≠ [] := by
  cases tiers <;> simp [absorb]

/-- Order step by step: the first tier keeps it, and so do the others on what it leaves. -/
theorem inOrder_absorb_cons {tier : Tier ι K} {tiers : List (Tier ι K)} {loss : K} :
    InOrder loss (absorb (· - ·) (tier :: tiers) loss) ↔
      Orderly tier (tiers ≠ []) loss ∧
        (tier.take loss < loss →
          InOrder (loss - tier.take loss) (absorb (· - ·) tiers (loss - tier.take loss))) := by
  rw [absorb_cons, InOrder, Orderly]
  rcases lt_or_ge (tier.take loss) loss with leaves | takes
  · have positive : 0 < loss - tier.take loss := sub_pos.mpr leaves
    simp only [if_pos positive, absorb_ne_nil, sub_nonneg, sub_le_self_iff, true_and]
    constructor
    · rintro ⟨bounds, ⟨below, -⟩, all, rest⟩
      exact ⟨⟨bounds, below, fun more _ => all more⟩, fun _ => rest⟩
    · rintro ⟨⟨bounds, below, all⟩, rest⟩
      exact ⟨bounds, ⟨below, bounds.1⟩, fun more => all more leaves, rest leaves⟩
  · have stops : ¬0 < loss - tier.take loss := by simpa using takes
    simp only [if_neg stops, sub_nonneg, sub_le_self_iff, true_and, ne_eq, not_true_eq_false,
      false_implies, InOrder, and_true, takes.not_gt, implies_true]
    constructor
    · rintro ⟨bounds, below, -⟩
      exact ⟨bounds, below⟩
    · rintro ⟨bounds, below⟩
      exact ⟨bounds, below, bounds.1⟩

omit [IsOrderedAddMonoid K] in
theorem InOrder.applied_nonneg {loss : K} {steps : List (Step ι K)} (order : InOrder loss steps) :
    ∀ step ∈ steps, 0 ≤ step.applied := by
  induction steps generalizing loss with
  | nil => simp
  | cons step steps induction =>
      obtain ⟨bounds, -, -, rest⟩ := order
      simp only [List.forall_mem_cons]
      exact ⟨bounds.1, induction rest⟩

end LossTiers
