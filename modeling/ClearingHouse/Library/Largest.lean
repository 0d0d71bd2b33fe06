import Mathlib.Algebra.BigOperators.Group.Finset.Basic
import Mathlib.Algebra.Order.BigOperators.Group.Finset
import Mathlib.Data.List.Sort
import Mathlib.Order.Bounds.Basic
import Mathlib.Tactic

/-!
# The largest weights

Of items in descending order of their weights, the first ones weigh as much together as any choice
of that many, ties or not.
-/

namespace Largest

variable {ι K : Type*} [DecidableEq ι] [AddCommMonoid K] [LinearOrder K] [IsOrderedAddMonoid K]

/-- What some items weigh together, when at most a number of them is chosen. -/
def choices (weight : ι → K) (candidates : Set ι) (number : ℕ) : Set K :=
  {total | ∃ chosen : Finset ι, chosen.card ≤ number ∧ ↑chosen ⊆ candidates ∧
    ∑ i ∈ chosen, weight i = total}

/-- The first items weigh at least as much as any others, no more in number. -/
theorem sum_le_sum_take {weight : ι → K} {items : List ι} {number : ℕ}
    (descending : items.Pairwise fun i j => weight j ≤ weight i)
    (nonneg : ∀ i ∈ items, 0 ≤ weight i) {chosen : Finset ι} (few : chosen.card ≤ number)
    (listed : ∀ i ∈ chosen, i ∈ items) :
    ∑ i ∈ chosen, weight i ≤ ((items.take number).map weight).sum := by
  induction items generalizing number chosen with
  | nil =>
      have none : chosen = ∅ :=
        Finset.eq_empty_of_forall_notMem fun i member => List.not_mem_nil (listed i member)
      simp [none]
  | cons head tail induction =>
      obtain ⟨heaviest, descending⟩ := List.pairwise_cons.mp descending
      obtain ⟨head_nonneg, nonneg⟩ := List.forall_mem_cons.mp nonneg
      cases number with
      | zero => simp [Finset.card_eq_zero.mp (Nat.le_zero.mp few)]
      | succ number =>
          rw [List.take_succ_cons, List.map_cons, List.sum_cons]
          rcases chosen.eq_empty_or_nonempty with rfl | nonempty
          · refine add_nonneg head_nonneg (List.sum_nonneg fun value member => ?_)
            obtain ⟨i, inside, rfl⟩ := List.mem_map.mp member
            exact nonneg i (List.mem_of_mem_take inside)
          -- The head takes the place of itself, or of any item if it is not chosen.
          obtain ⟨i, member, at_most, others⟩ : ∃ i ∈ chosen, weight i ≤ weight head ∧
              ∀ j ∈ chosen.erase i, j ∈ tail := by
            by_cases first : head ∈ chosen
            · refine ⟨head, first, le_rfl, fun j inside => ?_⟩
              obtain ⟨apart, inside⟩ := Finset.mem_erase.mp inside
              exact (List.mem_cons.mp (listed j inside)).resolve_left apart
            · have later : ∀ j ∈ chosen, j ∈ tail := fun j inside =>
                (List.mem_cons.mp (listed j inside)).resolve_left fun same => first (same ▸ inside)
              obtain ⟨i, member⟩ := nonempty
              exact ⟨i, member, heaviest i (later i member),
                fun j inside => later j (Finset.mem_of_mem_erase inside)⟩
          rw [← Finset.add_sum_erase _ _ member]
          refine add_le_add at_most (induction descending nonneg ?_ others)
          rw [Finset.card_erase_of_mem member]
          exact Nat.sub_le_of_le_add few

/-- The first items of a list without duplicates are the best choice among candidates, if all
candidates that are not listed weigh nothing. -/
theorem isGreatest_take {weight : ι → K} {candidates : Set ι} {items : List ι}
    (distinct : items.Nodup) (descending : items.Pairwise fun i j => weight j ≤ weight i)
    (nonneg : ∀ i ∈ items, 0 ≤ weight i) (inside : ∀ i ∈ items, i ∈ candidates)
    (idle : ∀ i ∈ candidates, i ∉ items → weight i = 0) (number : ℕ) :
    IsGreatest (choices weight candidates number) ((items.take number).map weight).sum := by
  constructor
  · have taken : (items.take number).Nodup := distinct.sublist (List.take_sublist number items)
    refine ⟨(items.take number).toFinset, ?_, fun i member => ?_, ?_⟩
    · rw [List.toFinset_card_of_nodup taken]
      exact List.length_take_le number items
    · exact inside i (List.mem_of_mem_take (List.mem_toFinset.mp member))
    · exact List.sum_toFinset weight taken
  · rintro total ⟨chosen, few, allowed, rfl⟩
    have weighed : ∑ i ∈ chosen.filter (· ∈ items), weight i = ∑ i ∈ chosen, weight i := by
      apply Finset.sum_filter_of_ne
      intro i member heavy
      by_contra unlisted
      exact heavy (idle i (allowed member) unlisted)
    rw [← weighed]
    exact sum_le_sum_take descending nonneg ((Finset.card_filter_le _ _).trans few)
      fun i member => (Finset.mem_filter.mp member).2

/-- Lists in descending order with the same elements are the same list. -/
theorem eq_of_descending {L : Type*} [PartialOrder L] {values others : List L}
    (descending : values.Pairwise fun x y => y ≤ x) (descending' : others.Pairwise fun x y => y ≤ x)
    (same : values.Perm others) : values = others :=
  same.eq_of_pairwise (fun _ _ _ _ first second => le_antisymm second first) descending descending'

end Largest
