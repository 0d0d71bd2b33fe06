import ClearingHouse.Settlement.Commits

/-!
# The status log of a settlement

The records of an instruction in `state_transitions` should spell a path of allowed steps from
`pending` to its status.  Every transaction of a settlement extends the path it starts from, save
one: the `except` block of `_settle_dvp` writes `approved` as the old status wherever it is reached
from.
-/

namespace ClearingHouse

namespace Settlement

/-- The records of an instruction, oldest first. -/
def logOf (db : Database) (instructionId : Uuid) : List StateTransition :=
  db.stateTransitions.filter fun transition =>
    transition.entityType = .settlementInstruction ∧ transition.entityId = instructionId

/-- Records that lead from one status to another by allowed steps, each from where the last one
ended. -/
def IsPath : InstructionStatus → List StateTransition → InstructionStatus → Prop
  | status, [], final => status = final
  | status, record :: rest, final =>
      record.fromStatus = some (.settlementInstruction status) ∧
        ∃ next ∈ validTransitions status, record.toStatus = .settlementInstruction next ∧
          IsPath next rest final

instance decidableIsPath : ∀ (status : InstructionStatus) (log : List StateTransition)
    (final : InstructionStatus), Decidable (IsPath status log final)
  | status, [], final => inferInstanceAs (Decidable (status = final))
  | status, record :: rest, final =>
      have := fun next => decidableIsPath next rest final
      inferInstanceAs (Decidable (record.fromStatus = some (.settlementInstruction status) ∧
        ∃ next ∈ validTransitions status, record.toStatus = .settlementInstruction next ∧
          IsPath next rest final))

/-- Steps that lead from one status to another by allowed transitions. -/
def StepPath : InstructionStatus → List StatusStep → InstructionStatus → Prop
  | status, [], final => status = final
  | status, step :: rest, final =>
      step.1 = status ∧ step.2 ∈ validTransitions status ∧ StepPath step.2 rest final

theorem IsPath.append {status middle final : InstructionStatus}
    {first second : List StateTransition} (head : IsPath status first middle)
    (tail : IsPath middle second final) : IsPath status (first ++ second) final := by
  induction first generalizing status with
  | nil => exact head ▸ tail
  | cons record rest induction =>
      obtain ⟨fromStatus, next, allowed, toStatus, path⟩ := head
      exact ⟨fromStatus, next, allowed, toStatus, induction path⟩

/-- A log ends in one status. -/
theorem IsPath.unique {status final final' : InstructionStatus} {log : List StateTransition}
    (path : IsPath status log final) (path' : IsPath status log final') : final = final' := by
  induction log generalizing status with
  | nil => exact path.symm.trans path'
  | cons record rest induction =>
      obtain ⟨-, next, -, toStatus, path⟩ := path
      obtain ⟨-, next', -, toStatus', path'⟩ := path'
      rw [toStatus, EntityStatus.settlementInstruction.injEq] at toStatus'
      subst toStatus'
      exact induction path path'

/-- Records that say the steps of a path are one. -/
theorem isPath_of_records {instructionId : Uuid} {status final : InstructionStatus}
    {steps : List StatusStep} {added : List StateTransition} (path : StepPath status steps final)
    (records : added.map transitionKey = steps.map (recordOf instructionId)) :
    IsPath status added final := by
  induction steps generalizing status added with
  | nil =>
      rw [List.map_nil, List.map_eq_nil_iff] at records
      rw [records]
      exact path
  | cons step rest induction =>
      obtain ⟨fromStatus, allowed, path⟩ := path
      cases added with
      | nil => cases records
      | cons record added =>
          rw [List.map_cons, List.map_cons, List.cons.injEq] at records
          obtain ⟨key, records⟩ := records
          simp only [transitionKey, recordOf, Prod.mk.injEq] at key
          obtain ⟨-, -, from_eq, to_eq⟩ := key
          exact ⟨fromStatus ▸ from_eq, step.2, allowed, to_eq, induction path records⟩

theorem StepPath.statusAfter {status final : InstructionStatus} {steps : List StatusStep}
    (path : StepPath status steps final) : statusAfter steps status = final := by
  induction steps generalizing status with
  | nil => exact path
  | cons step rest induction =>
      obtain ⟨-, -, path⟩ := path
      exact (statusAfter_append [step] rest status).trans (induction path)

/-- The log of every instruction is a path from `pending` to its status. -/
def Logged (db : Database) : Prop :=
  ∀ row ∈ db.settlementInstructions, IsPath .pending (logOf db row.id) row.status

instance (db : Database) : Decidable (Logged db) :=
  inferInstanceAs (Decidable (∀ row ∈ _, _))

/-- Logs are paths, and that of one instruction has arrived at a status. -/
structure LoggedAt (instructionId : Uuid) (status : InstructionStatus) (db : Database) : Prop where
  logged : Logged db
  arrived : IsPath .pending (logOf db instructionId) status

private theorem logOf_of_records {instructionId : Uuid} {steps : List StatusStep}
    {added : List StateTransition} {db after : Database}
    (extended : after.stateTransitions = db.stateTransitions ++ added)
    (records : added.map transitionKey = steps.map (recordOf instructionId)) (id : Uuid) :
    logOf after id = logOf db id ++ if id = instructionId then added else [] := by
  have entity : ∀ record ∈ added,
      record.entityType = .settlementInstruction ∧ record.entityId = instructionId := by
    intro record member
    have inside := List.mem_map_of_mem (f := transitionKey) member
    rw [records] at inside
    obtain ⟨step, -, key⟩ := List.mem_map.mp inside
    simp only [transitionKey, recordOf, Prod.mk.injEq] at key
    exact ⟨key.1.symm, key.2.1.symm⟩
  rw [logOf, extended, List.filter_append, logOf]
  congr 1
  split
  · next same =>
      rw [List.filter_eq_self]
      intro record member
      simp [entity record member, same]
  · next other =>
      rw [List.filter_eq_nil_iff]
      intro record member
      simp [entity record member, Ne.symm other]

/-- A transaction whose steps go on from where the log has arrived keeps every log a path. -/
theorem LoggedAt.of_writes {instructionId : Uuid} {status final : InstructionStatus}
    {steps : List StatusStep} {payment : Option Payment} {db after : Database}
    (logged : LoggedAt instructionId status db) (path : StepPath status steps final)
    (writes : Writes instructionId steps payment db after) :
    LoggedAt instructionId final after := by
  obtain ⟨change, moved, rows⟩ := writes.rows
  obtain ⟨added, extended, records⟩ := writes.transitions
  have arrived : IsPath .pending (logOf after instructionId) final := by
    rw [logOf_of_records extended records, if_pos rfl]
    exact logged.arrived.append (isPath_of_records path records)
  refine ⟨fun row member => ?_, arrived⟩
  rw [rows] at member
  obtain ⟨old, inside, rfl⟩ := List.mem_map.mp member
  have same_id : (change old).id = old.id := congrArg Prod.fst (moved.terms old)
  rw [same_id]
  by_cases same : old.id = instructionId
  · have old_status : old.status = status :=
      IsPath.unique (logged.logged old inside) (same ▸ logged.arrived)
    rw [moved.status old same, old_status, path.statusAfter, same]
    exact arrived
  · rw [moved.other old same, logOf_of_records extended records, if_neg same, List.append_nil]
    exact logged.logged old inside

/-- A transaction leaves the logs of other instructions alone. -/
theorem Writes.logOf_other {instructionId id : Uuid} {steps : List StatusStep}
    {payment : Option Payment} {db after : Database}
    (writes : Writes instructionId steps payment db after) (other : id ≠ instructionId) :
    logOf after id = logOf db id := by
  obtain ⟨added, extended, records⟩ := writes.transitions
  rw [logOf_of_records extended records, if_neg other, List.append_nil]

end Settlement

end ClearingHouse
