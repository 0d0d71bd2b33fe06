import Mathlib.Data.Nat.Notation
import Mathlib.Order.Defs.Unbundled

/-!
# Tables

A table that is only appended to, and whose rows stay in their places and change only as a relation
allows.
-/

namespace Tables

/-- Every row stays in its place, up to an allowed change, and new rows follow. -/
inductive Retains {ρ : Type*} (allows : ρ → ρ → Prop) : List ρ → List ρ → Prop
  | appended (added : List ρ) : Retains allows [] added
  | row {row row' : ρ} {rows after : List ρ} (allowed : allows row row')
      (rest : Retains allows rows after) : Retains allows (row :: rows) (row' :: after)

/-- Rows that agree on some columns. -/
def Same {ρ κ : Type*} (columns : ρ → κ) (row row' : ρ) : Prop := columns row' = columns row

instance {ρ κ : Type*} (columns : ρ → κ) : Std.Refl (Same columns) := ⟨fun _ => rfl⟩

instance {ρ κ : Type*} (columns : ρ → κ) : IsTrans ρ (Same columns) :=
  ⟨fun _ _ _ first second => Eq.trans second first⟩

variable {ρ κ : Type*} {allows : ρ → ρ → Prop} {rows middle after : List ρ}

namespace Retains

theorem trans [IsTrans ρ allows] (first : Retains allows rows middle)
    (second : Retains allows middle after) : Retains allows rows after := by
  induction first generalizing after with
  | appended added => exact .appended after
  | row allowed _ induction =>
      cases second with
      | row allowed' rest => exact .row (IsTrans.trans _ _ _ allowed allowed') (induction rest)

/-- Rows that change where they stand. -/
theorem of_map {change : ρ → ρ} (allowed : ∀ row ∈ rows, allows row (change row)) :
    Retains allows rows (rows.map change) := by
  induction rows with
  | nil => exact .appended []
  | cons row rows induction =>
      obtain ⟨head, tail⟩ := List.forall_mem_cons.mp allowed
      exact .row head (induction tail)

theorem of_append [Std.Refl allows] (rows added : List ρ) :
    Retains allows rows (rows ++ added) := by
  induction rows with
  | nil => exact .appended added
  | cons row rows induction => exact .row (refl row) induction

theorem of_same [Std.Refl allows] (rows : List ρ) : Retains allows rows rows := by
  have appended : Retains allows rows (rows ++ []) := of_append rows []
  rwa [List.append_nil] at appended

theorem length_le (retained : Retains allows rows after) : rows.length ≤ after.length := by
  induction retained with
  | appended added => simp
  | row _ _ induction => simpa using induction

/-- A row was there or is new. -/
theorem mem_or_new {row' : ρ} (retained : Retains allows rows after) (member : row' ∈ after) :
    (∃ row ∈ rows, allows row row') ∨ row' ∈ after.drop rows.length := by
  induction retained with
  | appended added => exact .inr member
  | @row head head' rows after allowed _ induction =>
      rcases List.mem_cons.mp member with rfl | inside
      · exact .inl ⟨head, List.mem_cons_self, allowed⟩
      · rcases induction inside with ⟨old, there, allowed'⟩ | new
        · exact .inl ⟨old, List.mem_cons_of_mem _ there, allowed'⟩
        · exact .inr new

/-- Without new rows every row was there. -/
theorem mem_of_length {row' : ρ} (retained : Retains allows rows after)
    (count : after.length = rows.length) (member : row' ∈ after) :
    ∃ row ∈ rows, allows row row' := by
  apply (retained.mem_or_new member).resolve_right
  intro new
  rw [← count, List.drop_length] at new
  cases new

theorem drop (retained : Retains allows rows after) (n : ℕ) :
    Retains allows (rows.drop n) (after.drop n) := by
  induction retained generalizing n with
  | appended added => simpa using appended (added.drop n)
  | row allowed rest induction =>
      cases n with
      | zero => exact .row allowed rest
      | succ n => exact induction n

end Retains

end Tables
