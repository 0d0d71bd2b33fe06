import ClearingHouse.Events.Consumption
import ClearingHouse.Events.Publisher
import ClearingHouse.Ledger.Sessions

/-!
# Dispatch of events

Three services choose what to do with a message by the type that its payload names.  The type of an
outbox event is a column of its row, the publisher sends the payload alone, and no service writes
the type into the payload: whatever is emitted, no branch is selected.
-/

namespace ClearingHouse

namespace Dispatch

open Consumers Outbox StepSystem Transactions.Session

/-- The services whose `_handle_event` looks at the type of the event. -/
inductive Consumer
  | collateralManager
  | liquidationEngine
  | complianceMonitor
  deriving DecidableEq, Repr

/-- The topics that a service subscribes to. -/
def Consumer.topics : Consumer → List String
  | .collateralManager => ["collateral.deposit.requested", "margin.call.issued"]
  | .liquidationEngine => ["margin.call.breached", "settlement.failed"]
  | .complianceMonitor => ["trades.novated", "margin.requirement.updated", "default.declared"]

/-- The types for which `_handle_event` has a branch, in its order. -/
def Consumer.branches : Consumer → List String
  | .collateralManager => ["collateral.deposit.requested", "margin.call.issued"]
  | .liquidationEngine => ["margin.call.breached", "settlement.failed"]
  | .complianceMonitor => ["trade.novated", "margin.requirement.updated", "default.declared"]

/-- The branch that `_handle_event` selects, if not the last. -/
def Consumer.selected (consumer : Consumer) (event : Payload) : Option String :=
  consumer.branches.find? fun type => eventType event = [.literal type]

/-- `json.loads(msg.value())`. -/
def received (message : KafkaMessage) : Payload := message.value

theorem eventType_of_untyped {event : Payload} (untyped : event.get? "event_type" = none) :
    eventType event = [] := by
  rw [eventType, textOf, untyped]

theorem selected_of_untyped {event : Payload} (untyped : event.get? "event_type" = none)
    (consumer : Consumer) : consumer.selected event = none := by
  rw [Consumer.selected, eventType_of_untyped untyped]
  simp

variable {backend : Backend}

/-- Without a branch, the collateral manager leaves the event alone. -/
theorem handleCollateralEvent_of_unselected {event : Payload}
    (unselected : Consumer.collateralManager.selected event = none) :
    handleCollateralEvent backend event = pure () := by
  simp only [Consumer.selected, Consumer.branches, List.find?_eq_none, List.mem_cons,
    List.not_mem_nil, or_false, forall_eq_or_imp, forall_eq, decide_eq_true_eq] at unselected
  rw [handleCollateralEvent, if_neg unselected.1, if_neg unselected.2]

/-- Without a branch, the liquidation engine leaves the event alone. -/
theorem handleDefaultEvent_of_unselected {event : Payload} (trace : TraceContext)
    (unselected : Consumer.liquidationEngine.selected event = none) :
    handleDefaultEvent backend event trace = pure () := by
  simp only [Consumer.selected, Consumer.branches, List.find?_eq_none, List.mem_cons,
    List.not_mem_nil, or_false, forall_eq_or_imp, forall_eq, decide_eq_true_eq] at unselected
  rw [handleDefaultEvent, if_neg unselected.1, if_neg unselected.2]

/-- Without a branch, the compliance monitor runs no check. -/
theorem complianceChecks_of_unselected {event : Payload}
    (unselected : Consumer.complianceMonitor.selected event = none) :
    complianceChecks event = .ok [] := by
  simp only [Consumer.selected, Consumer.branches, List.find?_eq_none, List.mem_cons,
    List.not_mem_nil, or_false, forall_eq_or_imp, forall_eq, decide_eq_true_eq] at unselected
  rw [complianceChecks, if_neg unselected.1, if_neg unselected.2.1, if_neg unselected.2.2]

/-- The fields that the branch of an event reads, with the values of the row it is about. -/
structure Complete (db : Database) (row : OutboxEvent) (event : Payload) : Prop where
  marginCall : row.eventType = "margin.call.issued" → ∃ call ∈ db.marginCalls,
    call.id = row.aggregateId ∧ event.get? "member_id" = some (.uuid call.memberId) ∧
      event.get? "call_amount" = some (.decimal call.callAmount)
  failure : row.eventType = "settlement.failed" → ∃ instruction ∈ db.settlementInstructions,
    instruction.id = row.aggregateId ∧
      event.get? "instruction_id" = some (.uuid instruction.id) ∧
      event.get? "from_member_id" = some (.uuid instruction.fromMemberId) ∧
      event.get? "amount" = some (.decimal instruction.amount)
  novation : row.eventType = "trade.novated" → ∃ trade ∈ db.trades,
    trade.id = row.aggregateId ∧ ∃ listed, listed ≠ [] ∧
      event.get? "novated_trades" = some (.objects listed) ∧ ∀ fields ∈ listed,
        ("original_trade_id", [.uuid trade.id]) ∈ fields ∧
          ("quantity", [.decimal trade.quantity]) ∈ fields ∧
          ("price", [.decimal trade.price]) ∈ fields

/-- The message of a row reaches the branch of its type, with its identifiers and everything that
the branch reads. -/
structure RoundTrip (db : Database) (consumer : Consumer) (eventId : Uuid) (row : OutboxEvent)
    (message : KafkaMessage) : Prop where
  published : messageOf row = .ok message
  selected : consumer.selected (received message) = some row.eventType
  identified : (received message).get? "event_id" = some (.uuid eventId)
  traced : ∀ traceId, row.traceId = some traceId →
    (received message).get? "trace_id" = some (.uuid traceId)
  complete : Complete db row (received message)

theorem received_of_messageOf {row : OutboxEvent} {message : KafkaMessage}
    (published : messageOf row = .ok message) : received message = row.payload :=
  (carries_of_messageOf published).payload

/-- The identifiers do arrive. -/
theorem identified_of_announced {row : OutboxEvent} (announced : row.Announced)
    {message : KafkaMessage} (published : messageOf row = .ok message) :
    (∃ eventId : Uuid, (received message).get? "event_id" = some (.uuid eventId)) ∧
      ∀ traceId, row.traceId = some traceId →
        (received message).get? "trace_id" = some (.uuid traceId) := by
  rw [received_of_messageOf published]
  exact ⟨announced.identified, announced.traced⟩

/-- The type does not. -/
theorem not_selected_of_announced {row : OutboxEvent} (announced : row.Announced)
    {message : KafkaMessage} (published : messageOf row = .ok message) (consumer : Consumer) :
    consumer.selected (received message) = none := by
  rw [received_of_messageOf published]
  exact selected_of_untyped announced.untyped consumer

/-- Every row of the outbox was there before or has been announced. -/
def AnnouncedSince (db after : Database) : Prop :=
  ∀ row ∈ after.outboxEvents, row ∈ db.outboxEvents ∨ row.Announced

theorem survives_announcedSince (db : Database) : Survives backend (AnnouncedSince db) := by
  intro old new announced grows _ row member
  obtain ⟨added, appended, fresh⟩ := grows.outbox
  rw [appended] at member
  rcases List.mem_append.mp member with before | added
  · exact announced row before
  · exact .inr (fresh row added)

/-- Rows that the operations of the services commit. -/
inductive Emits (backend : Backend) (db : Database) (row : OutboxEvent) : Database → Prop
  | writer (writer : LedgerWriter)
      (emitted : row ∈ (commitAlone (server backend) (writer.body backend) db).outboxEvents)
      (new : row ∉ db.outboxEvents) :
      Emits backend db row (commitAlone (server backend) (writer.body backend) db)
  | session (operation : LedgerSession) {after : Database}
      (committed : after ∈ committedStates (operation.session backend) db)
      (emitted : row ∈ after.outboxEvents) (new : row ∉ db.outboxEvents) :
      Emits backend db row after

theorem announced_of_emits {db after : Database} {row : OutboxEvent}
    (emits : Emits backend db row after) : row.Announced := by
  have start : AnnouncedSince db db := fun _ member => .inl member
  cases emits with
  | writer writer emitted new =>
      exact (survives_commitAlone (survives_announcedSince db) start writer.growing_body row
        emitted).resolve_left new
  | session operation committed emitted new =>
      exact (committedStates_of_keeps
        (keepsLedger_session (survives_announcedSince db) operation) start after committed row
        emitted).resolve_left new

/-- No event that a service emits makes the round trip to any consumer. -/
theorem not_roundTrip_of_emits {backend : Backend} {db after : Database} {row : OutboxEvent}
    (emits : Emits backend db row after) (consumer : Consumer) (eventId : Uuid)
    (message : KafkaMessage) : ¬RoundTrip after consumer eventId row message := by
  intro trip
  have selected := trip.selected
  rw [not_selected_of_announced (announced_of_emits emits) trip.published consumer] at selected
  cases selected

/-- The novation of the submitted trade. -/
def novation : LedgerSession := .processTrade ⟨4, 2, 1, 3, 10, 9⟩ ⟨6, "alice", none⟩

/-- The row of its event. -/
def novatedEvent : OutboxEvent :=
  ⟨25, "trade", 4, "trade.novated", "trades.novated",
    [("trade_id", .uuid 4), ("buyer_novated_id", .uuid 20), ("seller_novated_id", .uuid 21),
      ("actor", .literal "alice"), ("event_id", .uuid 24), ("trace_id", .uuid 6)], 0, none, some 6⟩

/-- Its message. -/
def novatedMessage : KafkaMessage :=
  ⟨"trades.novated", [.uuid 4], novatedEvent.payload, [("event_id", [.uuid 24])]⟩

private theorem emits_novation : ∃ after, Emits decimalBackend tradeHouse novatedEvent after := by
  have facts : (committedStates (novation.session decimalBackend) tradeHouse).map
      (fun after => after.outboxEvents) = [[novatedEvent]] := by decide +kernel
  obtain ⟨after, committed, emitted⟩ : ∃ after ∈
      committedStates (novation.session decimalBackend) tradeHouse,
      after.outboxEvents = [novatedEvent] := by
    have listed : [novatedEvent] ∈ (committedStates (novation.session decimalBackend)
        tradeHouse).map (fun after => after.outboxEvents) := by
      rw [facts]
      exact List.mem_singleton_self _
    obtain ⟨after, committed, same⟩ := List.mem_map.mp listed
    exact ⟨after, committed, same⟩
  exact ⟨after, .session novation committed (by simp [emitted])
    (by simp [tradeHouse, Database.opening])⟩

/-- The compliance monitor subscribes to the topic of the novation and has a branch for it. -/
theorem not_roundTrip_of_emits_novation :
    ∃ after, Emits decimalBackend tradeHouse novatedEvent after ∧
      novatedEvent.topic ∈ Consumer.complianceMonitor.topics ∧
      novatedEvent.eventType ∈ Consumer.complianceMonitor.branches ∧
      messageOf novatedEvent = .ok novatedMessage ∧
      ¬RoundTrip after .complianceMonitor 24 novatedEvent novatedMessage := by
  obtain ⟨after, emits⟩ := emits_novation
  exact ⟨after, emits, by decide, by decide, rfl, not_roundTrip_of_emits emits _ _ _⟩

/-- The monitor finds no type in the message and runs no check. -/
theorem unchecked_novation :
    ∃ after, Emits decimalBackend tradeHouse novatedEvent after ∧
      novatedEvent.topic ∈ Consumer.complianceMonitor.topics ∧
      novatedEvent.eventType ∈ Consumer.complianceMonitor.branches ∧
      complianceChecks (received novatedMessage) = .ok [] ∧
      ∀ message, ¬RoundTrip after .complianceMonitor 24 novatedEvent message := by
  obtain ⟨after, emits⟩ := emits_novation
  have unselected : Consumer.complianceMonitor.selected (received novatedMessage) = none := by
    decide
  refine ⟨after, emits, by decide, by decide, complianceChecks_of_unselected unselected, ?_⟩
  intro message trip
  have selected := trip.selected
  rw [received_of_messageOf trip.published] at selected
  exact absurd (unselected.symm.trans selected) (by simp)

end Dispatch

end ClearingHouse
