import Mathlib.Data.List.Nodup
import Mathlib.Tactic

/-!
# Workers on deduplicated keys

Workers handle keys, and a table holds the keys that have been processed.  A worker marks its key in
the transaction that it opens first.  The table has one row for a key, and an insert waits while
another transaction has the same key inserted, so a key has at most one worker: before its mark is
committed the one that has inserted it, afterwards the one that has committed it.
-/

namespace Deduplication

variable {κ : Type*}

/-- A worker on a key; `opened` until its mark is committed. -/
structure Worker (κ : Type*) where
  key : κ
  opened : Bool

/-- Every key has at most one worker, whose mark is open exactly if the key is not processed. -/
structure Exclusive (processed : κ → Prop) (workers : List (Worker κ)) : Prop where
  apart : (workers.map Worker.key).Nodup
  opened : ∀ worker ∈ workers, worker.opened = true ↔ ¬processed worker.key

namespace Exclusive

variable {processed processed' : κ → Prop} {workers front back : List (Worker κ)} {key : κ}

theorem nil : Exclusive processed [] := ⟨by simp, by simp⟩

/-- A worker marks a key that is not processed and that nobody else has open. -/
theorem claim (exclusive : Exclusive processed workers) (new : ¬processed key)
    (free : ∀ worker ∈ workers, worker.opened = true → worker.key ≠ key) :
    Exclusive processed (workers ++ [⟨key, true⟩]) := by
  refine ⟨?_, fun worker member => ?_⟩
  · rw [List.map_append, List.nodup_append]
    refine ⟨exclusive.apart, by simp, fun used old marked last => ?_⟩
    obtain ⟨worker, member, rfl⟩ := List.mem_map.mp old
    rw [List.map_singleton, List.mem_singleton] at last
    rintro rfl
    exact free worker member ((exclusive.opened worker member).mpr (last ▸ new)) last
  · rcases List.mem_append.mp member with old | last
    · exact exclusive.opened worker old
    · rw [List.mem_singleton.mp last]
      simpa using new

/-- Other workers have other keys. -/
theorem ne_of_mem (worker : Worker κ) {other : Worker κ}
    (exclusive : Exclusive processed (front ++ worker :: back))
    (member : other ∈ front ∨ other ∈ back) : other.key ≠ worker.key := by
  have apart := exclusive.apart
  simp only [List.map_append, List.map_cons, List.nodup_append, List.nodup_cons, List.mem_map,
    List.mem_cons] at apart
  rcases member with ahead | behind
  · exact apart.2.2 _ ⟨other, ahead, rfl⟩ _ (.inl rfl)
  · exact fun same => apart.2.1.1 ⟨other, behind, same⟩

/-- A worker commits its mark. -/
theorem commit (exclusive : Exclusive processed (front ++ ⟨key, true⟩ :: back))
    (added : ∀ other, processed' other ↔ processed other ∨ other = key) :
    Exclusive processed' (front ++ ⟨key, false⟩ :: back) := by
  refine ⟨by simpa using exclusive.apart, fun worker member => ?_⟩
  have others : worker ∈ front ∨ worker ∈ back →
      (worker.opened = true ↔ ¬processed' worker.key) := by
    intro other
    rw [exclusive.opened worker (by
      simp only [List.mem_append, List.mem_cons]
      exact other.imp_right .inr), added]
    have apart := ne_of_mem _ exclusive other
    tauto
  simp only [List.mem_append, List.mem_cons] at member
  rcases member with ahead | rfl | behind
  · exact others (.inl ahead)
  · simp [added]
  · exact others (.inr behind)

/-- Workers leave. -/
theorem sublist {remaining : List (Worker κ)} (exclusive : Exclusive processed workers)
    (left : remaining.Sublist workers) : Exclusive processed remaining :=
  ⟨exclusive.apart.sublist (left.map _),
    fun worker member => exclusive.opened worker (left.subset member)⟩

/-- The table changes elsewhere. -/
theorem congr (exclusive : Exclusive processed workers)
    (same : ∀ worker ∈ workers, processed' worker.key ↔ processed worker.key) :
    Exclusive processed' workers :=
  ⟨exclusive.apart, fun worker member => by rw [exclusive.opened worker member, same worker member]⟩

end Exclusive

end Deduplication
