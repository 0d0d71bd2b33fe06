import Mathlib.Data.List.Dedup
import Mathlib.Data.List.ReduceOption
import Mathlib.Tactic

/-!
# Queries

Inner and outer joins of lists of rows, groups by a key, and sums over a column that may be null.
A join on a unique key keeps the rows of its first table.
-/

namespace Queries

variable {ρ σ κ : Type*}

/-- `FROM left JOIN right ON matches`. -/
def innerJoin (joins : ρ → σ → Bool) (left : List ρ) (right : List σ) : List (ρ × σ) :=
  left.flatMap fun row => (right.filter (joins row)).map (Prod.mk row)

/-- `FROM left LEFT JOIN right ON matches`. -/
def leftJoin (joins : ρ → σ → Bool) (left : List ρ) (right : List σ) : List (ρ × Option σ) :=
  left.flatMap fun row =>
    match right.filter (joins row) with
    | [] => [(row, none)]
    | found => found.map fun other => (row, some other)

variable {joins : ρ → σ → Bool} {left : List ρ} {right : List σ}

theorem mem_innerJoin {row : ρ} {other : σ} :
    (row, other) ∈ innerJoin joins left right ↔
      row ∈ left ∧ other ∈ right ∧ joins row other = true := by
  simp only [innerJoin, List.mem_flatMap, List.mem_map, List.mem_filter, Prod.mk.injEq]
  constructor
  · rintro ⟨row', inside, other', ⟨found, matched⟩, rfl, rfl⟩
    exact ⟨inside, found, matched⟩
  · rintro ⟨inside, found, matched⟩
    exact ⟨row, inside, other, ⟨found, matched⟩, rfl, rfl⟩

/-- No row of the first table has two matches. -/
def SingleMatch (joins : ρ → σ → Bool) (left : List ρ) (right : List σ) : Prop :=
  ∀ row ∈ left, (right.filter (joins row)).length ≤ 1

/-- Rows with different keys have at most one match by key. -/
theorem singleMatch_of_nodup [DecidableEq κ] {key : σ → κ} (distinct : (right.map key).Nodup)
    (unique : ∀ row other other', joins row other = true → joins row other' = true →
      key other = key other') : SingleMatch joins left right := by
  intro row _
  have nodup : ((right.filter (joins row)).map key).Nodup :=
    distinct.sublist (List.filter_sublist.map key)
  generalize found : right.filter (joins row) = matched at nodup
  match matched, found, nodup with
  | [], _, _ => exact Nat.zero_le 1
  | [_], _, _ => exact le_rfl
  | other :: other' :: rest, found, nodup =>
      have matchedBoth : ∀ o ∈ other :: other' :: rest, joins row o = true := fun o inside =>
        (List.mem_filter.mp (found ▸ inside)).2
      have same := unique row other other' (matchedBoth other List.mem_cons_self)
        (matchedBoth other' (List.mem_cons_of_mem _ List.mem_cons_self))
      simp [same] at nodup

/-- An inner join with single matches selects the rows that have one. -/
theorem map_fst_innerJoin (single : SingleMatch joins left right) :
    (innerJoin joins left right).map Prod.fst = left.filter fun row => right.any (joins row) := by
  induction left with
  | nil => rfl
  | cons row rows induction =>
      have tail := induction fun other inside => single other (List.mem_cons_of_mem row inside)
      have head := single row List.mem_cons_self
      rw [innerJoin, List.flatMap_cons, List.map_append, ← innerJoin, tail, List.map_map]
      match found : right.filter (joins row) with
      | [] =>
          have none : right.any (joins row) = false := by
            rw [List.any_eq_false]
            exact fun other inside => by simpa using List.filter_eq_nil_iff.mp found other inside
          simp [none]
      | [other] =>
          have some : right.any (joins row) = true := by
            have inside := List.mem_filter.mp (found ▸ List.mem_singleton_self other)
            exact List.any_eq_true.mpr ⟨other, inside⟩
          simp [some]
      | _ :: _ :: _ =>
          rw [found] at head
          simp at head

/-- A condition on the first table can be checked before an inner join. -/
theorem filter_fst_innerJoin (selects : ρ → Bool) :
    (innerJoin joins left right).filter (fun pair => selects pair.1) =
      innerJoin joins (left.filter selects) right := by
  induction left with
  | nil => rfl
  | cons row rows induction =>
      rw [innerJoin, List.flatMap_cons, List.filter_append, ← innerJoin, induction,
        List.filter_map]
      cases selected : selects row <;> simp [innerJoin, selected, Function.comp_def]

/-- A condition on the second table can be part of the condition of an inner join. -/
theorem filter_snd_innerJoin (selects : σ → Bool) :
    (innerJoin joins left right).filter (fun pair => selects pair.2) =
      innerJoin (fun row other => joins row other && selects other) left right := by
  rw [innerJoin, innerJoin, List.filter_flatMap]
  apply List.flatMap_congr
  intro row _
  rw [List.filter_map, List.filter_filter]
  simp only [Function.comp_def, Bool.and_comm]

/-- One row has a key that no two rows share. -/
theorem filter_key_eq_singleton [DecidableEq κ] {key : ρ → κ} (distinct : (left.map key).Nodup)
    {row : ρ} (member : row ∈ left) : left.filter (fun other => key other = key row) = [row] := by
  induction left with
  | nil => cases member
  | cons head rows induction =>
      obtain ⟨fresh, distinct⟩ := List.nodup_cons.mp distinct
      rcases List.mem_cons.mp member with rfl | later
      · have others : rows.filter (fun other => key other = key row) = [] := by
          rw [List.filter_eq_nil_iff]
          intro other inside same
          exact fresh (List.mem_map.mpr ⟨other, inside, by simpa using same⟩)
        simp [others]
      · have other : key head ≠ key row := fun same =>
          fresh (same ▸ List.mem_map_of_mem later)
        simpa [other] using induction distinct later

/-- A left join with single matches keeps the rows of its first table. -/
theorem map_fst_leftJoin (single : SingleMatch joins left right) :
    (leftJoin joins left right).map Prod.fst = left := by
  induction left with
  | nil => rfl
  | cons row rows induction =>
      have tail := induction fun other inside => single other (List.mem_cons_of_mem row inside)
      have head := single row List.mem_cons_self
      rw [leftJoin, List.flatMap_cons, List.map_append, ← leftJoin, tail]
      match found : right.filter (joins row) with
      | [] => rfl
      | [_] => rfl
      | _ :: _ :: _ =>
          rw [found] at head
          simp at head

/-- A left join drops no row of its first table and invents none. -/
theorem mem_map_fst_leftJoin {row : ρ} :
    row ∈ (leftJoin joins left right).map Prod.fst ↔ row ∈ left := by
  simp only [leftJoin, List.map_flatMap, List.mem_flatMap]
  constructor
  · rintro ⟨row', inside, member⟩
    split at member
    · rw [List.map_singleton, List.mem_singleton] at member
      exact member ▸ inside
    · rw [List.map_map, List.mem_map] at member
      obtain ⟨other, -, rfl⟩ := member
      exact inside
  · intro inside
    refine ⟨row, inside, ?_⟩
    split
    · exact List.mem_singleton_self row
    · next found nonempty =>
        obtain ⟨other, rest, cons⟩ := List.exists_cons_of_ne_nil nonempty
        rw [cons]
        exact List.mem_cons_self

/-- The matches of one row of the first table. -/
theorem filter_leftJoin [DecidableEq ρ] (distinct : left.Nodup) {row : ρ} (member : row ∈ left) :
    (leftJoin joins left right).filter (fun pair => pair.1 = row) =
      match right.filter (joins row) with
      | [] => [(row, none)]
      | found => found.map fun other => (row, some other) := by
  have own : ∀ head : ρ, ∀ pair ∈ (match right.filter (joins head) with
      | [] => [(head, none)]
      | found => found.map fun other => (head, some other) : List (ρ × Option σ)),
      pair.1 = head := by
    intro head pair inside
    split at inside
    · rw [List.mem_singleton.mp inside]
    · obtain ⟨other, -, rfl⟩ := List.mem_map.mp inside
      rfl
  induction left with
  | nil => cases member
  | cons head rows induction =>
      obtain ⟨fresh, distinct⟩ := List.nodup_cons.mp distinct
      rw [leftJoin, List.flatMap_cons, List.filter_append, ← leftJoin]
      rcases List.mem_cons.mp member with rfl | later
      · have others : (leftJoin joins rows right).filter (fun pair => pair.1 = row) = [] := by
          rw [List.filter_eq_nil_iff]
          intro pair inside same
          refine fresh (mem_map_fst_leftJoin.mp (?_ : row ∈ (leftJoin joins rows right).map _))
          exact List.mem_map.mpr ⟨pair, inside, by simpa using same⟩
        rw [others, List.append_nil, List.filter_eq_self]
        exact fun pair inside => by simpa using own row pair inside
      · have other : head ≠ row := fun same => fresh (same ▸ later)
        rw [induction distinct later, List.filter_eq_nil_iff.mpr, List.nil_append]
        exact fun pair inside same =>
          other ((own head pair inside).symm.trans (by simpa using same))

/-- `GROUP BY key`: every key with its rows. -/
def groupBy [DecidableEq κ] (key : ρ → κ) (rows : List ρ) : List (κ × List ρ) :=
  (rows.map key).dedup.map fun k => (k, rows.filter fun row => key row = k)

theorem map_fst_groupBy [DecidableEq κ] (key : ρ → κ) (rows : List ρ) :
    (groupBy key rows).map Prod.fst = (rows.map key).dedup := by
  simp [groupBy, Function.comp_def]

/-- `SUM(column)`, which is null without a value. -/
def sumColumn (values : List (Option ℚ)) : Option ℚ :=
  if values.reduceOption = [] then none else some values.reduceOption.sum

/-- `COALESCE(SUM(debit) - SUM(credit), 0)`. -/
def netSum (debits credits : List (Option ℚ)) : ℚ :=
  ((sumColumn debits).bind fun debit => (sumColumn credits).map fun credit => debit - credit).getD 0

theorem sum_map_sub (debit credit : σ → ℚ) (rows : List σ) :
    (rows.map fun row => debit row - credit row).sum =
      (rows.map debit).sum - (rows.map credit).sum := by
  induction rows with
  | nil => simp
  | cons row rest induction =>
      simp only [List.map_cons, List.sum_cons, induction]
      ring

theorem sumColumn_map_some (column : σ → ℚ) (rows : List σ) :
    sumColumn (rows.map fun row => some (column row)) =
      if rows = [] then none else some (rows.map column).sum := by
  have values : (rows.map fun row => some (column row)).reduceOption = rows.map column := by
    induction rows with
    | nil => rfl
    | cons row rest induction =>
        rw [List.map_cons, List.reduceOption_cons_of_some, induction, List.map_cons]
  rw [sumColumn, values]
  simp

theorem netSum_map_some (debit credit : σ → ℚ) (rows : List σ) :
    netSum (rows.map fun row => some (debit row)) (rows.map fun row => some (credit row)) =
      (rows.map fun row => debit row - credit row).sum := by
  rw [netSum, sumColumn_map_some, sumColumn_map_some, sum_map_sub]
  cases rows with
  | nil => simp
  | cons row rest => simp

end Queries
