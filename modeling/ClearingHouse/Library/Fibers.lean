import Mathlib.Algebra.BigOperators.Group.List.Lemmas
import Mathlib.Tactic

/-!
# Sums over keyed rows

Rows are attributed to keys.  Summing the rows key by key counts every row once when the keys are
distinct and cover the rows; an insertion-ordered dictionary that accumulates the rows has the same
sum.
-/

namespace Fibers

variable {κ ρ M : Type*} [DecidableEq κ] [AddCommMonoid M]

/-- Sum of the rows attributed to one key. -/
def fiberSum (key : ρ → κ) (value : ρ → M) (rows : List ρ) (k : κ) : M :=
  ((rows.filter fun row => key row = k).map value).sum

@[simp] theorem fiberSum_nil (key : ρ → κ) (value : ρ → M) (k : κ) :
    fiberSum key value [] k = 0 := rfl

theorem fiberSum_cons (key : ρ → κ) (value : ρ → M) (row : ρ) (rows : List ρ) (k : κ) :
    fiberSum key value (row :: rows) k =
      (if key row = k then value row else 0) + fiberSum key value rows k := by
  by_cases hit : key row = k <;> simp [fiberSum, hit]

theorem fiberSum_append (key : ρ → κ) (value : ρ → M) (left right : List ρ) (k : κ) :
    fiberSum key value (left ++ right) k =
      fiberSum key value left k + fiberSum key value right k := by
  simp [fiberSum]

theorem fiberSum_perm {left right : List ρ} (perm : left.Perm right) (key : ρ → κ) (value : ρ → M)
    (k : κ) : fiberSum key value left k = fiberSum key value right k :=
  ((perm.filter _).map _).sum_eq

/-- Rows of one key count under that key with all they have. -/
theorem fiberSum_of_key {key : ρ → κ} {rows : List ρ} {k : κ} (same : ∀ row ∈ rows, key row = k)
    (value : ρ → M) (k' : κ) :
    fiberSum key value rows k' = if k = k' then (rows.map value).sum else 0 := by
  by_cases hit : k = k'
  · subst hit
    rw [if_pos rfl, fiberSum, List.filter_eq_self.mpr fun row inside => by simp [same row inside]]
  · rw [if_neg hit, fiberSum, List.filter_eq_nil_iff.mpr fun row inside => by
      simpa [same row inside] using hit]
    rfl

section Order

variable [PartialOrder M] [AddLeftMono M] {key : ρ → κ} {value : ρ → M}
  {rows : List ρ} {k : κ}

theorem fiberSum_nonneg (each : ∀ row ∈ rows, key row = k → 0 ≤ value row) :
    0 ≤ fiberSum key value rows k := by
  apply List.sum_nonneg
  intro amount member
  obtain ⟨row, own, rfl⟩ := List.mem_map.mp member
  obtain ⟨inside, hit⟩ := List.mem_filter.mp own
  exact each row inside (by simpa using hit)

theorem fiberSum_nonpos [AddRightMono M] (each : ∀ row ∈ rows, key row = k → value row ≤ 0) :
    fiberSum key value rows k ≤ 0 := by
  have bounded := List.sum_le_card_nsmul ((rows.filter fun row => key row = k).map value) 0
    fun amount member => by
      obtain ⟨row, own, rfl⟩ := List.mem_map.mp member
      obtain ⟨inside, hit⟩ := List.mem_filter.mp own
      exact each row inside (by simpa using hit)
  rwa [nsmul_zero] at bounded

end Order

/-- A factor that depends on the key alone comes out of the sum. -/
theorem fiberSum_mul {R : Type*} [NonUnitalNonAssocSemiring R] (key : ρ → κ) (value : ρ → R)
    (weight : κ → R) (rows : List ρ) (k : κ) :
    fiberSum key (fun row => value row * weight (key row)) rows k =
      fiberSum key value rows k * weight k := by
  induction rows with
  | nil => simp
  | cons row rows induction =>
      rw [fiberSum_cons, fiberSum_cons, induction, add_mul]
      by_cases hit : key row = k
      · rw [if_pos hit, if_pos hit, hit]
      · rw [if_neg hit, if_neg hit, zero_mul]

/-- The sum of one key, over all rows. -/
theorem fiberSum_eq_sum_ite (key : ρ → κ) (value : ρ → M) (rows : List ρ) (k : κ) :
    fiberSum key value rows k = (rows.map fun row => if key row = k then value row else 0).sum := by
  induction rows with
  | nil => rfl
  | cons row rows induction => rw [fiberSum_cons, induction, List.map_cons, List.sum_cons]

/-- Rows that a filter drops do not count if their value is zero. -/
theorem sum_map_filter_of_zero {rows : List ρ} {selects : ρ → Bool} {value : ρ → M}
    (zero : ∀ row ∈ rows, selects row = false → value row = 0) :
    ((rows.filter selects).map value).sum = (rows.map value).sum := by
  induction rows with
  | nil => rfl
  | cons row rows induction =>
      have tail := induction fun other inside => zero other (List.mem_cons_of_mem row inside)
      rw [List.map_cons, List.sum_cons, ← tail]
      cases selected : selects row with
      | true => rw [List.filter_cons_of_pos selected, List.map_cons, List.sum_cons]
      | false =>
          rw [List.filter_cons_of_neg (by simp [selected]), zero row List.mem_cons_self selected,
            zero_add]

/-- A value under one of distinct keys sums to that value. -/
theorem sum_map_single {keys : List κ} (distinct : keys.Nodup) {k : κ} (member : k ∈ keys)
    (m : M) : (keys.map fun k' => if k = k' then m else 0).sum = m := by
  induction keys with
  | nil => cases member
  | cons head tail induction =>
      obtain ⟨head_fresh, tail_distinct⟩ := List.nodup_cons.mp distinct
      by_cases hit : k = head
      · subst hit
        have rest_zero : (tail.map fun k' => if k = k' then m else 0) = tail.map fun _ => 0 :=
          List.map_congr_left fun k' inside => if_neg (ne_of_mem_of_not_mem inside head_fresh).symm
        simp [rest_zero]
      · have inside : k ∈ tail := (List.mem_cons.mp member).resolve_left hit
        simp [hit, induction tail_distinct inside]

/-- Rows written one a key: a condition that tells the rows of different keys apart finds the row of
every key that is written, and none of any other. -/
theorem filter_of_forall₂ {writes : κ → ρ → Prop} {finds : κ → ρ → Bool}
    (apart : ∀ k k' row, writes k row → (finds k' row = true ↔ k' = k)) {keys : List κ}
    {rows : List ρ}
    (distinct : keys.Nodup) (written : List.Forall₂ writes keys rows) (k : κ) :
    (k ∈ keys → ∃ row, rows.filter (finds k) = [row] ∧ writes k row) ∧
      (k ∉ keys → rows.filter (finds k) = []) := by
  induction written with
  | nil => simp
  | @cons head row keys rows write _ induction =>
      obtain ⟨fresh, tail_distinct⟩ := List.nodup_cons.mp distinct
      obtain ⟨listed, missing⟩ := induction tail_distinct
      by_cases hit : k = head
      · subst hit
        have found : finds k row = true := (apart k k row write).mpr rfl
        refine ⟨fun _ => ⟨row, ?_, write⟩, fun absent => absurd List.mem_cons_self absent⟩
        rw [List.filter_cons_of_pos found, missing fresh]
      · have passed : ¬finds k row = true := fun found => hit ((apart head k row write).mp found)
        rw [List.filter_cons_of_neg passed, List.mem_cons, or_iff_right hit]
        exact ⟨listed, missing⟩

/-- Distinct keys that cover the rows count every row once. -/
theorem sum_fiberSum {keys : List κ} (distinct : keys.Nodup) (key : ρ → κ) (value : ρ → M)
    {rows : List ρ} (covered : ∀ row ∈ rows, key row ∈ keys) :
    (keys.map fun k => fiberSum key value rows k).sum = (rows.map value).sum := by
  induction rows with
  | nil => simp [fiberSum]
  | cons row rows induction =>
      have head := sum_map_single distinct (covered row List.mem_cons_self) (value row)
      have tail := induction fun r inside => covered r (List.mem_cons_of_mem row inside)
      simp only [fiberSum_cons, List.sum_map_add, head, tail, List.map_cons, List.sum_cons]

/-- Change the value under a key, a missing key starting from `start` at the end. -/
def update {ν : Type*} (k : κ) (start : ν) (change : ν → ν) : List (κ × ν) → List (κ × ν)
  | [] => [(k, change start)]
  | (k', v) :: rest =>
      if k' = k then (k', change v) :: rest else (k', v) :: update k start change rest

variable {ν : Type*}

theorem keys_update (k : κ) (start : ν) (change : ν → ν) (dict : List (κ × ν)) :
    (update k start change dict).map Prod.fst =
      if k ∈ dict.map Prod.fst then dict.map Prod.fst else dict.map Prod.fst ++ [k] := by
  induction dict with
  | nil => simp [update]
  | cons entry rest induction =>
      obtain ⟨k', v⟩ := entry
      by_cases hit : k' = k
      · simp [update, hit]
      · have miss : k ≠ k' := fun same => hit same.symm
        simp only [update, hit, if_false, List.map_cons, induction, List.mem_cons, miss, false_or]
        split <;> rfl

theorem nodup_keys_update {k : κ} {start : ν} {change : ν → ν} {dict : List (κ × ν)}
    (distinct : (dict.map Prod.fst).Nodup) : ((update k start change dict).map Prod.fst).Nodup := by
  rw [keys_update]
  split
  · exact distinct
  · next fresh =>
      refine List.nodup_append.mpr ⟨distinct, by simp, fun k' inside last member => ?_⟩
      rw [List.mem_singleton.mp member]
      exact ne_of_mem_of_not_mem inside fresh

/-- Fold rows into a dictionary, row by row under the key of the row. -/
def collect (key : ρ → κ) (start : ρ → ν) (change : ρ → ν → ν) (rows : List ρ) : List (κ × ν) :=
  rows.foldl (fun dict row => update (key row) (start row) (change row) dict) []

/-- The value under a key. -/
def valueAt (k : κ) : List (κ × ν) → Option ν
  | [] => none
  | entry :: rest => if k = entry.1 then some entry.2 else valueAt k rest

section Collect

variable {key : ρ → κ} {start : ρ → ν} {change : ρ → ν → ν}

theorem valueAt_update (k k' : κ) (start : ν) (change : ν → ν) (dict : List (κ × ν)) :
    valueAt k' (update k start change dict) =
      if k' = k then some (change ((valueAt k dict).getD start)) else valueAt k' dict := by
  induction dict with
  | nil => rw [update, valueAt]; rfl
  | cons entry rest induction =>
      obtain ⟨head, v⟩ := entry
      rw [update]
      split
      · next hit =>
          subst hit
          simp only [valueAt, if_true, Option.getD_some]
          split <;> rfl
      · next hit =>
          have miss : ¬k = head := fun same => hit same.symm
          simp only [valueAt, if_neg miss, induction]
          by_cases same : k' = head
          · subst same
            rw [if_pos rfl, if_pos rfl, if_neg hit]
          · rw [if_neg same]
            simp [same]

/-- The value under a key is built from the rows of that key alone. -/
theorem valueAt_collect (rows : List ρ) (k : κ) :
    valueAt k (collect key start change rows) =
      (rows.filter fun row => key row = k).foldl
        (fun value row => some (change row (value.getD (start row)))) none := by
  have general : ∀ dict : List (κ × ν),
      valueAt k
          (rows.foldl (fun dict row => update (key row) (start row) (change row) dict) dict) =
        (rows.filter fun row => key row = k).foldl
          (fun value row => some (change row (value.getD (start row)))) (valueAt k dict) := by
    induction rows with
    | nil => intro dict; rfl
    | cons row rows induction =>
        intro dict
        rw [List.foldl_cons, induction, valueAt_update]
        by_cases hit : key row = k
        · simp [hit]
        · have miss : ¬k = key row := fun same => hit same.symm
          simp [hit, miss]
  exact general []

theorem nodup_keys_collect (rows : List ρ) :
    ((collect key start change rows).map Prod.fst).Nodup := by
  have general : ∀ dict : List (κ × ν), (dict.map Prod.fst).Nodup →
      ((rows.foldl (fun dict row => update (key row) (start row) (change row) dict) dict).map
        Prod.fst).Nodup := by
    induction rows with
    | nil => exact fun dict distinct => distinct
    | cons row rows induction =>
        exact fun dict distinct => induction _ (nodup_keys_update distinct)
  exact general [] List.nodup_nil

theorem mem_keys_collect (rows : List ρ) (k : κ) :
    k ∈ (collect key start change rows).map Prod.fst ↔ k ∈ rows.map key := by
  have general : ∀ dict : List (κ × ν),
      k ∈ (rows.foldl (fun dict row => update (key row) (start row) (change row) dict) dict).map
        Prod.fst ↔ k ∈ dict.map Prod.fst ∨ k ∈ rows.map key := by
    induction rows with
    | nil => simp
    | cons row rows induction =>
        intro dict
        rw [List.foldl_cons, induction, keys_update, List.map_cons, List.mem_cons]
        split <;> grind
  exact (general []).trans (by simp)

end Collect

/-- Distinct keys determine the value of an entry. -/
theorem valueAt_of_mem {dict : List (κ × ν)} (distinct : (dict.map Prod.fst).Nodup)
    {entry : κ × ν} (member : entry ∈ dict) : valueAt entry.1 dict = some entry.2 := by
  induction dict with
  | nil => cases member
  | cons head rest induction =>
      rw [List.map_cons, List.nodup_cons] at distinct
      rw [valueAt]
      rcases List.mem_cons.mp member with rfl | inside
      · exact if_pos rfl
      · have miss : entry.1 ≠ head.1 := fun same =>
          distinct.1 (same ▸ List.mem_map_of_mem inside)
        rw [if_neg miss]
        exact induction distinct.2 inside

/-- A list without repetitions of two items. -/
theorem eq_of_nodup_pair {a b : ρ} {items : List ρ} (distinct : items.Nodup)
    (two : ∀ item ∈ items, item = a ∨ item = b) :
    items = [] ∨ items = [a] ∨ items = [b] ∨ items = [a, b] ∨ items = [b, a] := by
  match items with
  | [] => exact .inl rfl
  | [x] =>
      rcases two x List.mem_cons_self with rfl | rfl
      · exact .inr (.inl rfl)
      · exact .inr (.inr (.inl rfl))
  | x :: y :: rest =>
      have x_fresh := (List.nodup_cons.mp distinct).1
      have tail_distinct := (List.nodup_cons.mp distinct).2
      have y_fresh := (List.nodup_cons.mp tail_distinct).1
      have no_more : rest = [] := by
        rw [List.eq_nil_iff_forall_not_mem]
        intro z inside
        have at_z := two z (by simp [inside])
        have at_x := two x (by simp)
        have at_y := two y (by simp)
        grind
      subst no_more
      have at_x := two x (by simp)
      have at_y := two y (by simp)
      grind

end Fibers
