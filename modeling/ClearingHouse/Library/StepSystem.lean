import Mathlib.Tactic

/-!
# Labelled step systems

A system starts in an initial state and takes labelled steps.  A condition on steps restricts its
runs; an invariant that every permitted step preserves holds wherever such a run arrives.
-/

namespace StepSystem

variable {σ α : Type}

/-- Runs of a step relation in which every step meets `allowed`. -/
inductive Run (step : σ → α → σ → Prop) (allowed : σ → α → Prop) : σ → σ → Prop
  | refl (state : σ) : Run step allowed state state
  | snoc {first middle last : σ} {label : α} (run : Run step allowed first middle)
      (permitted : allowed middle label) (taken : step middle label last) :
      Run step allowed first last

/-- No condition on the steps of a run. -/
def unrestricted : σ → α → Prop := fun _ _ => True

variable {step : σ → α → σ → Prop} {allowed : σ → α → Prop}

theorem Run.trans {first middle last : σ} (head : Run step allowed first middle)
    (tail : Run step allowed middle last) : Run step allowed first last := by
  induction tail with
  | refl => exact head
  | snoc _ permitted taken induction => exact .snoc induction permitted taken

theorem Run.mono {allowed' : σ → α → Prop}
    (weaker : ∀ state label, allowed state label → allowed' state label) {first last : σ}
    (run : Run step allowed first last) : Run step allowed' first last := by
  induction run with
  | refl => exact .refl _
  | snoc _ permitted taken induction => exact .snoc induction (weaker _ _ permitted) taken

/-- The run rule: what every permitted step preserves, a run preserves. -/
theorem Run.invariant {invariant : σ → Prop}
    (preserved : ∀ before label after, invariant before → allowed before label →
      step before label after → invariant after)
    {first last : σ} (run : Run step allowed first last) (holds : invariant first) :
    invariant last := by
  induction run with
  | refl => exact holds
  | snoc _ permitted taken induction => exact preserved _ _ _ induction permitted taken

/-- Under an invariant, what every step relates its ends by a preorder relates the run's ends. -/
theorem Run.related {invariant : σ → Prop} {relation : σ → σ → Prop} [Std.Refl relation]
    [IsTrans σ relation]
    (preserved : ∀ before label after, invariant before → allowed before label →
      step before label after → invariant after)
    (related : ∀ before label after, invariant before → allowed before label →
      step before label after → relation before after)
    {first last : σ} (run : Run step allowed first last) (holds : invariant first) :
    relation first last := by
  induction run with
  | refl => exact Std.Refl.refl first
  | snoc run permitted taken induction =>
      have middle := run.invariant preserved holds
      exact IsTrans.trans _ _ _ induction (related _ _ _ middle permitted taken)

/-- Of the parties at their positions one is replaced. -/
theorem forall_replaced {holds : σ → Prop} {front back : List σ} {old new : σ}
    (all : ∀ party ∈ front ++ old :: back, holds party) (replaced : holds new) :
    ∀ party ∈ front ++ new :: back, holds party := by
  intro party member
  simp only [List.mem_append, List.mem_cons] at member
  rcases member with ahead | rfl | behind
  · exact all party (by simp [ahead])
  · exact replaced
  · exact all party (by simp [behind])

/-- One party leaves. -/
theorem forall_removed {holds : σ → Prop} {front back : List σ} {old : σ}
    (all : ∀ party ∈ front ++ old :: back, holds party) :
    ∀ party ∈ front ++ back, holds party := fun party member =>
  all party ((List.Sublist.append_left (List.sublist_cons_self _ _) front).subset member)

end StepSystem
