import ClearingHouse.Collateral
import ClearingHouse.Margin
import ClearingHouse.Novation
import ClearingHouse.Seeding
import ClearingHouse.Settlement.Keeping
import ClearingHouse.Waterfall.Execute

/-!
# Growth of the ledger

Whatever a service writes, the ledger only grows: entries are appended, each on one side of an
existing account and within its column, and accounts, credit limits and the marks of processed
events stay.  The outbox grows by unpublished events, whose payloads do not name their types.  Every
function of the services respects this order.
-/

namespace ClearingHouse

open Transactions Transactions.Transaction

/-- The row checks of `journal_entries` and its column and account references. -/
structure JournalEntry.Valid (backend : Backend) (accounts : List Account)
    (entry : JournalEntry) : Prop where
  oneSided : entry.OneSided
  debit : entry.debit ∈ backend.grid
  credit : entry.credit ∈ backend.grid
  account : entry.accountId ∈ accounts.map Account.id

/-- An event as `insert_outbox_event` leaves it, with a payload that has no type of its own. -/
structure OutboxEvent.Announced (event : OutboxEvent) : Prop where
  unpublished : event.publishedAt = none
  identified : ∃ eventId : Uuid, event.payload.get? "event_id" = some (.uuid eventId)
  traced : ∀ traceId, event.traceId = some traceId →
    event.payload.get? "trace_id" = some (.uuid traceId)
  untyped : event.payload.get? "event_type" = none

/-- The ledger and the outbox after some statements extend those before them. -/
structure Grows (backend : Backend) (db after : Database) : Prop where
  entries : ∃ added, after.journalEntries = db.journalEntries ++ added ∧
    ∀ entry ∈ added, entry.Valid backend db.accounts
  accounts : after.accounts = db.accounts
  limits : after.members.map Member.creditLimit = db.members.map Member.creditLimit
  processed : after.processedEvents = db.processedEvents
  outbox : ∃ added, after.outboxEvents = db.outboxEvents ++ added ∧
    ∀ event ∈ added, event.Announced

variable {backend : Backend}

theorem Grows.of_same {db after : Database} (entries : after.journalEntries = db.journalEntries)
    (accounts : after.accounts = db.accounts) (members : after.members = db.members)
    (processed : after.processedEvents = db.processedEvents)
    (outbox : after.outboxEvents = db.outboxEvents) : Grows backend db after :=
  ⟨⟨[], by simp [entries]⟩, accounts, by rw [members], processed, ⟨[], by simp [outbox]⟩⟩

instance : Std.Refl (Grows backend) := ⟨fun _ => .of_same rfl rfl rfl rfl rfl⟩

instance : IsTrans Database (Grows backend) where
  trans db middle after first second := by
    obtain ⟨head, head_eq, head_valid⟩ := first.entries
    obtain ⟨tail, tail_eq, tail_valid⟩ := second.entries
    obtain ⟨sooner, sooner_eq, sooner_announced⟩ := first.outbox
    obtain ⟨later, later_eq, later_announced⟩ := second.outbox
    refine ⟨⟨head ++ tail, by rw [tail_eq, head_eq, List.append_assoc], ?_⟩,
      second.accounts.trans first.accounts, second.limits.trans first.limits,
      second.processed.trans first.processed,
      ⟨sooner ++ later, by rw [later_eq, sooner_eq, List.append_assoc], ?_⟩⟩
    · intro entry member
      rcases List.mem_append.mp member with old | new
      · exact head_valid entry old
      · exact first.accounts ▸ tail_valid entry new
    · intro event member
      rcases List.mem_append.mp member with old | new
      · exact sooner_announced event old
      · exact later_announced event new

/-- Code that only grows the ledger. -/
abbrev Growing {α : Type} (backend : Backend) (code : Sql α) : Prop := Respects (Grows backend) code

theorem growing_uuid4 : Growing backend uuid4 :=
  respects_bind respects_read fun _ =>
    respects_bind (respects_write fun _ => .of_same rfl rfl rfl rfl rfl) fun _ => respects_pure _

theorem growing_insertJournal (journalId : Uuid) (journalType : JournalType)
    (referenceType : String) (referenceId : Option Uuid) :
    Growing backend (insertJournal backend journalId journalType referenceType referenceId) :=
  respects_bind (respects_require _ _) fun _ => respects_write fun _ => .of_same rfl rfl rfl rfl rfl

theorem growing_insertJournalEntry (journalId accountId : Uuid) (debit credit : ℚ) :
    Growing backend (insertJournalEntry backend journalId accountId debit credit) := by
  intro db _ after ran
  obtain ⟨storedDebit, storedCredit, debited, credited, oneSided, -, known, rfl⟩ :=
    insertJournalEntry_eq_ok.mp ran
  refine ⟨⟨[⟨journalId, accountId, storedDebit, storedCredit⟩], rfl, ?_⟩, rfl, rfl, rfl,
    ⟨[], by simp⟩⟩
  intro entry member
  rw [List.mem_singleton.mp member]
  exact ⟨oneSided, backend.store_mem debited, backend.store_mem credited, known⟩

theorem growing_insertStateTransition (transition : StateTransition) :
    Growing backend (insertStateTransition transition) :=
  respects_write fun _ => .of_same rfl rfl rfl rfl rfl

theorem growing_insertOutboxEvent (aggregateType : String) (aggregateId : Uuid)
    (eventType topic : String) {payload : Payload} (traceId : Option Uuid)
    (untyped : payload.get? "event_type" = none) :
    Growing backend
      (insertOutboxEvent aggregateType aggregateId eventType topic payload traceId) := by
  refine respects_bind growing_uuid4 fun eventId => respects_bind growing_uuid4 fun rowId =>
    respects_bind (respects_write fun db => ?_) fun _ => respects_pure _
  refine ⟨⟨[], by simp⟩, rfl, rfl, rfl, ⟨_, rfl, fun event member => ?_⟩⟩
  rw [List.mem_singleton.mp member]
  cases traceId with
  | none =>
      refine ⟨rfl, ⟨eventId, Payload.get?_set_same _ _ _⟩, by simp, ?_⟩
      rw [Payload.get?_set_other _ (by decide), untyped]
  | some traceId =>
      refine ⟨rfl, ⟨eventId, ?_⟩, fun other same => ?_, ?_⟩
      · rw [Payload.get?_set_other _ (by decide), Payload.get?_set_same]
      · cases same
        exact Payload.get?_set_same _ _ _
      · rw [Payload.get?_set_other _ (by decide), Payload.get?_set_other _ (by decide), untyped]

theorem admitsPostings_grows : AdmitsPostings backend (Grows backend) where
  uuid4 := growing_uuid4
  journal := growing_insertJournal
  entry := growing_insertJournalEntry
  requirements := fun _ _ => .of_same rfl rfl rfl rfl rfl

namespace Novation

theorem growing_setTradeStatus (tradeId : Uuid) (status : TradeStatus) :
    Growing backend (setTradeStatus tradeId status) :=
  respects_write fun _ => .of_same rfl rfl rfl rfl rfl

theorem growing_createNovatedTrade (tradeId : Uuid) (data : TradeData) (side : Side)
    (memberId : Uuid) :
    Growing backend (createNovatedTrade backend tradeId data side memberId) :=
  respects_bind (respects_castNumeric _) fun _ => respects_bind (respects_castNumeric _) fun _ =>
    respects_bind respects_read fun _ => respects_bind (respects_require _ _) fun _ =>
      respects_bind (respects_requireMember _ _) fun _ =>
        respects_bind (respects_require _ _) fun _ => respects_bind growing_uuid4 fun _ =>
          respects_bind (respects_write fun _ => .of_same rfl rfl rfl rfl rfl) fun _ =>
            respects_pure _

theorem growing_novateTrade (tradeId : Uuid) (data : TradeData) (trace : TraceContext) :
    Growing backend (novateTrade backend tradeId data trace) :=
  respects_novateTrade admitsPostings_grows growing_setTradeStatus
    (fun tradeId => growing_createNovatedTrade tradeId data)
    (fun _ _ _ _ _ => growing_insertStateTransition _)
    (fun _ _ _ _ untyped => growing_insertOutboxEvent _ _ _ _ _ untyped) tradeId

theorem growing_rejectTrade (tradeId : Uuid) (reason : Text) (trace : TraceContext) :
    Growing backend (rejectTrade tradeId reason trace) :=
  respects_rejectTrade growing_setTradeStatus (fun _ _ _ _ _ => growing_insertStateTransition _)
    (fun _ _ _ _ untyped => growing_insertOutboxEvent _ _ _ _ _ untyped) tradeId reason

end Novation

namespace Collateral

theorem growing_announce (event : String) (memberId : Uuid) (amount : ℚ) (currency : String)
    (journalId : Uuid) : Growing backend (announce event memberId amount currency journalId) :=
  respects_bind (growing_insertOutboxEvent _ _ _ _ _ rfl) fun _ => respects_pure _

theorem growing_depositCollateral (memberId : Uuid) (amount : ℚ) (currency : String) :
    Growing backend (depositCollateral backend memberId amount currency) :=
  respects_depositCollateral admitsPostings_grows (growing_announce _ memberId amount currency)

theorem growing_withdrawCollateral (memberId : Uuid) (amount : ℚ) (currency : String) :
    Growing backend (withdrawCollateral backend memberId amount currency) :=
  respects_withdrawCollateral admitsPostings_grows (growing_announce _ memberId amount currency)

end Collateral

namespace Margin

theorem growing_issueMarginCall (deadline : Timestamp) (memberId instrumentId : Uuid)
    (shortfall : ℚ) (trace : TraceContext) :
    Growing backend (issueMarginCall backend deadline memberId instrumentId shortfall trace) :=
  respects_bind growing_uuid4 fun _ => respects_bind respects_read fun _ =>
    respects_bind (respects_castNumeric _) fun _ =>
      respects_bind (respects_write fun _ => .of_same rfl rfl rfl rfl rfl) fun _ =>
        respects_bind (growing_insertStateTransition _) fun _ =>
          respects_bind (growing_insertOutboxEvent _ _ _ _ _ rfl) fun _ => respects_pure _

theorem growing_recalculateMargins (deadline : Timestamp) (trace : TraceContext) :
    Growing backend (recalculateMargins backend deadline trace) :=
  respects_recalculateMargins admitsPostings_grows fun memberId instrumentId shortfall =>
    growing_issueMarginCall deadline memberId instrumentId shortfall trace

end Margin

namespace Settlement

theorem growing_updateInstruction (instructionId : Uuid)
    (change : SettlementInstruction → SettlementInstruction) :
    Growing backend (updateInstruction instructionId change) :=
  respects_write fun _ => .of_same rfl rfl rfl rfl rfl

theorem growing_emitSettlementEvent (instructionId : Uuid) (eventType : String)
    (aggregateId : Uuid) (trace : TraceContext) :
    Growing backend (emitSettlementEvent instructionId eventType aggregateId trace) :=
  respects_bind (growing_insertOutboxEvent _ _ _ _ _ rfl) fun _ => respects_pure _

theorem respected_grows : Respected backend (Grows backend) :=
  respected_of_traces fun trace => respectedFor_of admitsPostings_grows growing_updateInstruction
    (fun _ _ _ _ => growing_insertStateTransition _)
    fun instructionId eventType aggregateId =>
      growing_emitSettlementEvent instructionId eventType aggregateId trace

end Settlement

namespace Waterfall

theorem growing_createWaterfallJournal (eventId memberId : Uuid) (amount : ℚ)
    (sourceAccountType : AccountType) :
    Growing backend (createWaterfallJournal backend eventId memberId amount sourceAccountType) :=
  respects_createWaterfallJournal admitsPostings_grows
    (fun _ _ untyped => growing_insertOutboxEvent _ _ _ _ _ untyped) eventId memberId amount
    sourceAccountType

theorem admitsSteps_grows : AdmitsSteps backend (Grows backend) where
  journal := growing_createWaterfallJournal
  record := respects_recordStep growing_uuid4 fun _ _ => .of_same rfl rfl rfl rfl rfl
  status := fun _ _ _ => growing_insertStateTransition _

theorem growing_declareDefault (eventId memberId : Uuid) (triggerReason : Text)
    (totalExposure : ℚ) (trace : TraceContext) :
    Growing backend
      (declareDefault backend eventId memberId triggerReason totalExposure trace) := by
  refine respects_bind (respects_requireMember _ _) fun _ =>
    respects_bind (respects_castNumeric _) fun _ => respects_bind (respects_require _ _) fun _ =>
      respects_bind (respects_write fun _ => .of_same rfl rfl rfl rfl rfl) fun _ =>
        respects_bind (respects_write fun db => ?_) fun _ =>
          respects_bind (growing_insertOutboxEvent _ _ _ _ _ rfl) fun _ => respects_pure _
  refine ⟨⟨[], by simp [Database.updateMembers], by simp⟩, rfl, ?_, rfl,
    ⟨[], by simp [Database.updateMembers]⟩⟩
  rw [Database.updateMembers, List.map_map]
  apply List.map_congr_left
  intro member _
  simp only [Function.comp_apply]
  split <;> rfl

theorem growing_resolveDefault (eventId : Uuid) (finalStatus : DefaultEventStatus) (remaining : ℚ)
    (trace : TraceContext) :
    Growing backend (resolveDefault backend eventId finalStatus remaining trace) :=
  respects_bind (respects_require _ _) fun _ =>
    respects_bind (respects_write fun _ => .of_same rfl rfl rfl rfl rfl) fun _ =>
      respects_bind (growing_insertOutboxEvent _ _ _ _ _ rfl) fun _ => respects_pure _

theorem growing_executeWaterfall (memberId : Uuid) (triggerReason : Text) (totalExposure : ℚ)
    (trace : Option TraceContext) :
    Growing backend (executeWaterfall backend memberId triggerReason totalExposure trace) :=
  respects_bind (respects_traceOrSystem growing_uuid4 _ _) fun _ =>
    respects_bind growing_uuid4 fun _ =>
    respects_bind (growing_declareDefault _ _ _ _ _) fun _ =>
      respects_bind (respects_runSteps admitsSteps_grows ..) fun _ =>
        respects_bind (growing_resolveDefault _ _ _ _) fun _ => respects_pure _

end Waterfall

end ClearingHouse
