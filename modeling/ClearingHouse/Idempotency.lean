import ClearingHouse.Statements

/-!
# Deduplication of events

A consumer inserts the identifier of an event in the transaction that handles it, and skips the
event if the row is there already.
-/

namespace ClearingHouse

open Transactions

namespace Consumers

/-- `UUID(text)`, and what the server makes of a text in a `uuid` column. -/
def uuid? : Text → Option Uuid
  | [.uuid id] => some id
  | _ => none

end Consumers

/-- `process_if_new`: whether the row was inserted.  The column of the identifier is a `uuid`. -/
def processIfNew (serviceName : String) (eventId : Text) : Sql Bool := do
  require ((Consumers.uuid? eventId).isSome = true) (.server (.invalidTextRepresentation eventId))
  let db ← Transaction.read
  if ⟨serviceName, eventId⟩ ∈ db.processedEvents then pure false
  else do
    Transaction.write fun db =>
      { db with processedEvents := db.processedEvents ++ [⟨serviceName, eventId⟩] }
    pure true

/-- A database with the row of an event. -/
def Database.marked (db : Database) (event : ProcessedEvent) : Database :=
  { db with processedEvents := db.processedEvents ++ [event] }

theorem processIfNew_of_mem {serviceName : String} {eventId : Text} {db : Database}
    (identified : (Consumers.uuid? eventId).isSome = true)
    (processed : ⟨serviceName, eventId⟩ ∈ db.processedEvents) :
    processIfNew serviceName eventId db = .ok (false, db) := by
  rw [processIfNew, Transaction.bind_of_ok (Transaction.require_of_true _ db identified),
    Transaction.bind_of_ok (Transaction.read_apply db), if_pos processed]
  rfl

theorem processIfNew_of_not_mem {serviceName : String} {eventId : Text} {db : Database}
    (identified : (Consumers.uuid? eventId).isSome = true)
    (new : ⟨serviceName, eventId⟩ ∉ db.processedEvents) :
    processIfNew serviceName eventId db = .ok (true, db.marked ⟨serviceName, eventId⟩) := by
  rw [processIfNew, Transaction.bind_of_ok (Transaction.require_of_true _ db identified),
    Transaction.bind_of_ok (Transaction.read_apply db), if_neg new]
  rfl

/-- A text that is no uuid raises. -/
theorem processIfNew_of_unidentified {eventId : Text}
    (unidentified : Consumers.uuid? eventId = none) (serviceName : String) (db : Database) :
    processIfNew serviceName eventId db =
      .error (.server (.invalidTextRepresentation eventId)) := by
  have refused : ¬(Consumers.uuid? eventId).isSome = true := by simp [unidentified]
  exact Transaction.bind_of_error (by rw [Transaction.require_apply, if_neg refused])

/-- What a call that returns has done. -/
theorem processIfNew_cases {serviceName : String} {eventId : Text} {isNew : Bool}
    {db after : Database} (ran : processIfNew serviceName eventId db = .ok (isNew, after)) :
    (Consumers.uuid? eventId).isSome = true ∧
      ((⟨serviceName, eventId⟩ ∈ db.processedEvents ∧ isNew = false ∧ after = db) ∨
        (⟨serviceName, eventId⟩ ∉ db.processedEvents ∧ isNew = true ∧
          after = db.marked ⟨serviceName, eventId⟩)) := by
  cases identified : Consumers.uuid? eventId with
  | none =>
      rw [processIfNew_of_unidentified identified] at ran
      cases ran
  | some id =>
      have known : (Consumers.uuid? eventId).isSome = true := by simp [identified]
      refine ⟨rfl, ?_⟩
      by_cases processed : ⟨serviceName, eventId⟩ ∈ db.processedEvents
      · rw [processIfNew_of_mem known processed] at ran
        cases ran
        exact .inl ⟨processed, rfl, rfl⟩
      · rw [processIfNew_of_not_mem known processed] at ran
        cases ran
        exact .inr ⟨processed, rfl, rfl⟩

/-- The rule: a relation that the mark respects. -/
theorem respects_processIfNew {relation : Database → Database → Prop} [Std.Refl relation]
    {serviceName : String} {eventId : Text}
    (marked : ∀ db : Database, relation db (db.marked ⟨serviceName, eventId⟩)) :
    Transaction.Respects relation (processIfNew serviceName eventId) := by
  intro db isNew after ran
  obtain ⟨-, ⟨-, -, rfl⟩ | ⟨-, -, rfl⟩⟩ := processIfNew_cases ran
  · exact refl _
  · exact marked _

theorem processIfNew_new {serviceName : String} {eventId : Text} {db after : Database}
    (ran : processIfNew serviceName eventId db = .ok (true, after)) :
    ⟨serviceName, eventId⟩ ∉ db.processedEvents ∧ after = db.marked ⟨serviceName, eventId⟩ := by
  obtain ⟨-, ⟨-, old, -⟩ | ⟨new, -, marked⟩⟩ := processIfNew_cases ran
  · cases old
  · exact ⟨new, marked⟩

/-- The body of a handler after the mark, skipped for an event that is processed. -/
def ifNew (serviceName : String) (eventId : Text) (body : Sql Unit) : Sql Unit := do
  let isNew ← processIfNew serviceName eventId
  runWhen (isNew = true) body

theorem ifNew_of_not_mem {serviceName : String} {eventId : Text} {body : Sql Unit} {db : Database}
    (identified : (Consumers.uuid? eventId).isSome = true)
    (new : ⟨serviceName, eventId⟩ ∉ db.processedEvents) :
    ifNew serviceName eventId body db = body (db.marked ⟨serviceName, eventId⟩) := by
  rw [ifNew, Transaction.bind_apply, processIfNew_of_not_mem identified new]
  rfl

end ClearingHouse
