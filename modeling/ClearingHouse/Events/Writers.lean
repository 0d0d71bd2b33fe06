import ClearingHouse.Events.Register
import ClearingHouse.Gateway
import ClearingHouse.Idempotency
import ClearingHouse.Ledger.Growth
import ClearingHouse.Netting.Instructions
import ClearingHouse.Novation.Session
import ClearingHouse.Settlement.Effects

/-!
# Writers of the register

Most statements of the services change nothing that the register shows.  The others change it by
one of its steps: a row and the event that announces it are written in the same transaction.
-/

namespace ClearingHouse

open Transactions Transactions.Transaction

variable {backend : Backend} {db after : Database}

/-- The register shows the same, and identifiers only go up. -/
structure Unshown (db after : Database) : Prop where
  same : registerOf after = { registerOf db with next := after.nextUuid }
  later : db.nextUuid ≤ after.nextUuid

instance : Std.Refl Unshown := ⟨fun _ => ⟨rfl, le_rfl⟩⟩

instance : IsTrans Database Unshown where
  trans db middle after first second :=
    ⟨by rw [second.same, first.same], first.later.trans second.later⟩

/-- Code that changes nothing that the register shows. -/
abbrev Silent {α : Type} (code : Sql α) : Prop := Respects Unshown code

theorem silent_write {change : Database → Database}
    (same : ∀ db, registerOf (change db) = registerOf db) : Silent (write change) :=
  respects_write fun db => by
    have next : (change db).nextUuid = db.nextUuid := congrArg Register.next (same db)
    exact ⟨by rw [same, next]; rfl, next.ge⟩

theorem silent_uuid4 : Silent uuid4 := by
  intro db value after ran
  cases ran
  exact ⟨rfl, Nat.le_succ _⟩

theorem silent_insertJournal (journalId : Uuid) (journalType : JournalType)
    (referenceType : String) (referenceId : Option Uuid) :
    Silent (insertJournal backend journalId journalType referenceType referenceId) :=
  respects_bind (respects_require _ _) fun _ => silent_write fun _ => rfl

theorem silent_insertJournalEntry (journalId accountId : Uuid) (debit credit : ℚ) :
    Silent (insertJournalEntry backend journalId accountId debit credit) := by
  intro db _ after ran
  obtain ⟨storedDebit, storedCredit, -, -, -, -, -, rfl⟩ := insertJournalEntry_eq_ok.mp ran
  exact ⟨rfl, le_rfl⟩

theorem admitsPostings_unshown : AdmitsPostings backend Unshown where
  uuid4 := silent_uuid4
  journal := silent_insertJournal
  entry := silent_insertJournalEntry
  requirements := fun _ _ => ⟨rfl, le_rfl⟩

theorem silent_insertStateTransition (transition : StateTransition) :
    Silent (insertStateTransition transition) := silent_write fun _ => rfl

theorem silent_processIfNew (serviceName : String) (eventId : Text) :
    Silent (processIfNew serviceName eventId) :=
  respects_processIfNew fun _ => ⟨rfl, le_rfl⟩

theorem uuidAt_set_other (payload : Payload) {key other : String} (apart : other ≠ key)
    (value : Json) : (payload.set key value).uuidAt other = payload.uuidAt other := by
  rw [Payload.uuidAt, Payload.get?_set_other _ apart, Payload.uuidAt]

/-- The identifiers that `insert_outbox_event` adds to a payload are no names of rows. -/
theorem newsIn_set (eventType : String) (payload : Payload) {key : String}
    (added : key = "event_id" ∨ key = "trace_id") (value : Json) :
    newsIn eventType (payload.set key value) = newsIn eventType payload := by
  have other : ∀ kind : Announcement, ∀ name ∈ kind.keys, name ≠ key := by
    intro kind name member
    rcases added with rfl | rfl <;> cases kind <;>
      simp only [Announcement.keys, List.mem_cons, List.not_mem_nil, or_false] at member <;>
      rcases member with rfl | rfl | rfl <;> decide
  rw [newsIn]
  refine congrArg (fun read => (Announcement.ofType eventType).map read) (funext fun kind => ?_)
  refine congrArg (Prod.mk kind) (List.map_congr_left fun name member => ?_)
  exact uuidAt_set_other payload (other kind name member) value

theorem news_append (events : List OutboxEvent) (event : OutboxEvent) :
    (events ++ [event]).filterMap newsOf = events.filterMap newsOf ++ (newsOf event).toList := by
  rw [List.filterMap_append]
  cases told : newsOf event with
  | none => rw [List.filterMap_cons_none told, List.filterMap_nil, Option.toList]
  | some item => rw [List.filterMap_cons_some told, List.filterMap_nil, Option.toList]

/-- An event is told as its payload tells it. -/
theorem register_insertOutboxEvent {aggregateType : String} {aggregateId : Uuid}
    {eventType topic : String} {payload : Payload} {traceId : Option Uuid} {value : Uuid}
    (ran : insertOutboxEvent aggregateType aggregateId eventType topic payload traceId db =
      .ok (value, after)) :
    registerOf after =
      { registerOf db with
        news := (registerOf db).news ++ (newsIn eventType payload).toList
        next := db.nextUuid + 2 } ∧ after.nextUuid = db.nextUuid + 2 := by
  cases ran
  refine ⟨?_, rfl⟩
  unfold registerOf
  rw [news_append, newsOf]
  cases traceId with
  | none => rw [newsIn_set _ _ (.inl rfl)]
  | some traceId => rw [newsIn_set _ _ (.inr rfl), newsIn_set _ _ (.inl rfl)]

theorem newsIn_first (kind : Announcement) {key : String} (keys : kind.keys = [key]) (id : Uuid)
    (fields : Payload) :
    newsIn kind.eventType ((key, .uuid id) :: fields) = some (kind, [some id]) := by
  rw [newsIn, Announcement.ofType_eventType, Option.map_some, keys]
  simp [Payload.uuidAt, Payload.get?, Json.uuid, Consumers.uuid?]

/-- An announcement of one row, whose name comes first in the payload. -/
theorem register_tell (kind : Announcement) {key : String} (keys : kind.keys = [key])
    {aggregateType : String} {aggregateId id : Uuid} {topic : String} {fields : Payload}
    {traceId : Option Uuid} {value : Uuid}
    (ran : insertOutboxEvent aggregateType aggregateId kind.eventType topic
      ((key, .uuid id) :: fields) traceId db = .ok (value, after)) :
    registerOf after =
      { registerOf db with
        news := (registerOf db).news ++ [(kind, [some id])]
        next := db.nextUuid + 2 } := by
  rw [(register_insertOutboxEvent ran).1, newsIn_first kind keys, Option.toList]

theorem silent_insertOutboxEvent (aggregateType : String) (aggregateId : Uuid)
    {eventType : String} (topic : String) (payload : Payload) (traceId : Option Uuid)
    (unannounced : Announcement.ofType eventType = none) :
    Silent (insertOutboxEvent aggregateType aggregateId eventType topic payload traceId) := by
  intro db value after ran
  obtain ⟨register, next⟩ := register_insertOutboxEvent ran
  refine ⟨?_, by rw [next]; exact Nat.le_add_right _ 2⟩
  rw [register, next]
  simp [newsIn, unannounced]

namespace Collateral

theorem silent_announce {event : String} (memberId : Uuid) (amount : ℚ) (currency : String)
    (journalId : Uuid) (unannounced : Announcement.ofType event = none) :
    Silent (announce event memberId amount currency journalId) :=
  respects_bind (silent_insertOutboxEvent _ _ _ _ _ unannounced) fun _ => respects_pure _

theorem silent_depositCollateral (memberId : Uuid) (amount : ℚ) (currency : String) :
    Silent (depositCollateral backend memberId amount currency) :=
  respects_depositCollateral admitsPostings_unshown fun _ => silent_announce _ _ _ _ (by decide)

theorem silent_withdrawCollateral (memberId : Uuid) (amount : ℚ) (currency : String) :
    Silent (withdrawCollateral backend memberId amount currency) :=
  respects_withdrawCollateral admitsPostings_unshown fun _ => silent_announce _ _ _ _ (by decide)

end Collateral

theorem fresh_nextUuid {next : Uuid} (later : db.nextUuid < next) :
    (registerOf db).Fresh [db.nextUuid] next :=
  ⟨fun id member => by rw [List.mem_singleton.mp member]; exact ⟨le_rfl, later⟩,
    List.nodup_singleton _, later.le⟩

namespace Gateway

/-- The transaction of `submit_trade` for an idempotency key that was looked up in vain; it is empty
without the header. -/
def submitTrade (backend : Backend) (taken : List String) (key : Text)
    (request : TradeSubmitRequest) (trace : TraceContext) : Sql Trade := do
  let trade ← insertTrade backend taken request
  insertTradeOutboxEvent trade request.externalTradeId trace
  runWhen (key ≠ []) do let _ ← processIfNew "api-gateway" key
  pure trade

/-- The trade that is inserted. -/
theorem insertTrade_eq_ok {taken : List String} {request : TradeSubmitRequest} {trade : Trade}
    (ran : insertTrade backend taken request db = .ok (trade, after)) :
    trade.id = db.nextUuid ∧ trade.status = .submitted ∧
      after = { db with nextUuid := db.nextUuid + 1, trades := db.trades ++ [trade] } := by
  obtain ⟨id, numbered, number, ran⟩ := bind_eq_ok.mp ran
  cases number
  obtain ⟨quantity, _, cast, ran⟩ := bind_eq_ok.mp ran
  obtain ⟨-, rfl⟩ := castNumeric_eq_ok.mp cast
  obtain ⟨price, _, cast, ran⟩ := bind_eq_ok.mp ran
  obtain ⟨-, rfl⟩ := castNumeric_eq_ok.mp cast
  obtain ⟨⟨⟩, _, unique, ran⟩ := bind_eq_ok.mp ran
  obtain ⟨-, rfl⟩ := require_eq_ok.mp unique
  obtain ⟨_, _, reading, ran⟩ := bind_eq_ok.mp ran
  cases reading
  obtain ⟨⟨⟩, _, instrument, ran⟩ := bind_eq_ok.mp ran
  obtain ⟨-, rfl⟩ := require_eq_ok.mp instrument
  obtain ⟨⟨⟩, _, buyer, ran⟩ := bind_eq_ok.mp ran
  obtain ⟨-, rfl⟩ := requireMember_eq_ok.mp buyer
  obtain ⟨⟨⟩, _, seller, ran⟩ := bind_eq_ok.mp ran
  obtain ⟨-, rfl⟩ := requireMember_eq_ok.mp seller
  obtain ⟨⟨⟩, _, inserted, done⟩ := bind_eq_ok.mp ran
  cases inserted
  cases done
  exact ⟨rfl, rfl, rfl⟩

theorem step_submitTrade {taken : List String} {key : Text} {request : TradeSubmitRequest}
    {trace : TraceContext} {trade : Trade}
    (ran : submitTrade backend taken key request trace db = .ok (trade, after)) :
    Register.Step (registerOf db) (registerOf after) := by
  obtain ⟨inserted, middle, insert, ran⟩ := bind_eq_ok.mp ran
  obtain ⟨⟨⟩, announced, announce, ran⟩ := bind_eq_ok.mp ran
  obtain ⟨⟨⟩, marked, mark, done⟩ := bind_eq_ok.mp ran
  cases done
  obtain ⟨eventId, told, emit, done⟩ := bind_eq_ok.mp announce
  cases done
  have unshown : Unshown announced after := respects_runWhen _
    (respects_bind (silent_processIfNew _ _) fun _ => respects_pure _) mark
  obtain ⟨id, status, rfl⟩ := insertTrade_eq_ok insert
  have numbered := (register_insertOutboxEvent emit).2
  have later : db.nextUuid < after.nextUuid := by
    refine lt_of_lt_of_le ?_ unshown.later
    rw [numbered]
    exact Nat.lt_add_of_pos_right (by decide : 0 < 3)
  have step := Register.Step.submit (fresh_nextUuid later)
  rw [unshown.same, register_tell .tradeSubmitted rfl emit]
  simpa [registerOf, id, status] using step

end Gateway

namespace Novation

variable {tradeId : Uuid} {data : TradeData} {trace : TraceContext}

theorem register_setTradeStatus {status : TradeStatus} {value : Unit}
    (ran : setTradeStatus tradeId status db = .ok (value, after)) :
    registerOf after =
        { registerOf db with
          trades := (registerOf db).trades.map (Register.setStatus tradeId status) } ∧
      after.nextUuid = db.nextUuid := by
  cases ran
  refine ⟨?_, rfl⟩
  simp only [registerOf, List.map_map]
  refine congrArg (fun trades => Register.mk trades _ _ _ _ _ _)
    (List.map_congr_left fun trade _ => ?_)
  simp only [Function.comp_apply, Register.setStatus]
  split <;> rfl

theorem step_novateTrade {ids : Uuid × Uuid}
    (ran : novateTrade backend tradeId data trace db = .ok (ids, after)) :
    Register.Step (registerOf db) (registerOf after) := by
  obtain ⟨⟨⟩, guarded, guard, ran⟩ := bind_eq_ok.mp ran
  obtain ⟨⟨trade, found, status⟩, rfl⟩ := requireSubmitted_eq_ok guard
  obtain ⟨⟨⟩, updated, update, ran⟩ := bind_eq_ok.mp ran
  obtain ⟨register, next⟩ := register_setTradeStatus update
  obtain ⟨buyerNovId, bought, buy, ran⟩ := bind_eq_ok.mp ran
  obtain ⟨sellerNovId, sold, sell, ran⟩ := bind_eq_ok.mp ran
  have legs : registerOf sold =
      { registerOf updated with
        legs := (registerOf updated).legs ++ [(tradeId, buyerNovId), (tradeId, sellerNovId)]
        next := sold.nextUuid } ∧ updated.nextUuid ≤ sold.nextUuid := by
    obtain ⟨_, _, -, -, rfl, rfl⟩ := createNovatedTrade_apply buy
    obtain ⟨_, _, -, -, rfl, rfl⟩ := createNovatedTrade_apply sell
    exact ⟨by simp [registerOf, legOf], Nat.le_add_right _ 2⟩
  obtain ⟨marginRate, rated, rate, ran⟩ := bind_eq_ok.mp ran
  obtain ⟨⟨⟩, lockedBuyer, lockBuyer, ran⟩ := bind_eq_ok.mp ran
  obtain ⟨⟨⟩, lockedSeller, lockSeller, ran⟩ := bind_eq_ok.mp ran
  obtain ⟨⟨⟩, notedTrade, noteTrade, ran⟩ := bind_eq_ok.mp ran
  obtain ⟨⟨⟩, notedBuyer, noteBuyer, ran⟩ := bind_eq_ok.mp ran
  obtain ⟨⟨⟩, notedSeller, noteSeller, ran⟩ := bind_eq_ok.mp ran
  obtain ⟨eventId, announced, announce, done⟩ := bind_eq_ok.mp ran
  cases done
  have locked : Unshown sold lockedSeller :=
    IsTrans.trans _ _ _ (respects_fetchMarginRate _ rate)
      (IsTrans.trans _ _ _ (respects_lockMargin admitsPostings_unshown _ _ _ lockBuyer)
        (respects_lockMargin admitsPostings_unshown _ _ _ lockSeller))
  have noted : Unshown sold notedSeller :=
    IsTrans.trans _ _ _ locked (IsTrans.trans _ _ _ (silent_insertStateTransition _ noteTrade)
      (IsTrans.trans _ _ _ (silent_insertStateTransition _ noteBuyer)
        (silent_insertStateTransition _ noteSeller)))
  have submitted : (tradeId, TradeStatus.submitted) ∈ (registerOf db).trades := by
    have id : trade.id = tradeId := by simpa using List.find?_some found
    exact List.mem_map.mpr ⟨trade, List.mem_of_find?_eq_some found, by rw [id, status]⟩
  have named : newsIn "trade.novated"
      [("trade_id", .uuid tradeId), ("buyer_novated_id", .uuid buyerNovId),
        ("seller_novated_id", .uuid sellerNovId), ("actor", .literal trace.actor)] =
      some (.tradeNovated, [some tradeId, some buyerNovId, some sellerNovId]) := rfl
  have later : db.nextUuid ≤ notedSeller.nextUuid + 2 :=
    (next.ge.trans (legs.2.trans noted.later)).trans (Nat.le_add_right _ 2)
  rw [(register_insertOutboxEvent announce).1, named, noted.same, legs.1, register]
  exact .novate submitted later

theorem step_rejectTrade {reason : Text} {value : Unit}
    (ran : rejectTrade tradeId reason trace db = .ok (value, after)) :
    Register.Step (registerOf db) (registerOf after) := by
  obtain ⟨⟨⟩, updated, update, ran⟩ := bind_eq_ok.mp ran
  obtain ⟨register, next⟩ := register_setTradeStatus update
  obtain ⟨⟨⟩, noted, note, ran⟩ := bind_eq_ok.mp ran
  obtain ⟨eventId, _, announce, done⟩ := bind_eq_ok.mp ran
  cases done
  have unannounced : Announcement.ofType "trade.rejected" = none := by decide
  have silent : Unshown updated after :=
    IsTrans.trans _ _ _ (silent_insertStateTransition _ note)
      (silent_insertOutboxEvent _ _ _ _ _ unannounced announce)
  have later : db.nextUuid ≤ after.nextUuid := next.ge.trans silent.later
  rw [silent.same, register]
  exact .reject later

end Novation

namespace Netting

variable {cycleId ccpMemberId : Uuid}

theorem silent_advanceCycle (cycleId : Uuid) (fromStatus toStatus : NettingCycleStatus)
    (trace : TraceContext) : Silent (advanceCycle cycleId fromStatus toStatus trace) :=
  respects_bind (silent_insertStateTransition _) fun _ => silent_write fun _ => rfl

theorem silent_openCycle (cycleId : Uuid) (cycleType : NettingCycleType) (cutOffTime : Timestamp)
    (trace : TraceContext) : Silent (openCycle cycleId cycleType cutOffTime trace) :=
  respects_bind (silent_write fun _ => rfl) fun _ => silent_advanceCycle ..

theorem silent_insertNetObligation (cycleId : Uuid) (obligation : Obligation) :
    Silent (insertNetObligation backend cycleId obligation) :=
  respects_bind silent_uuid4 fun _ => respects_bind (respects_castNumeric _) fun _ =>
    respects_bind (respects_castNumeric _) fun _ => respects_bind (respects_castNumeric _) fun _ =>
      respects_bind respects_read fun _ => respects_bind (respects_require _ _) fun _ =>
        respects_bind (respects_requireMember ..) fun _ => respects_bind (respects_require _ _)
          fun _ => silent_write fun _ => rfl

theorem silent_getCcpMemberId : Silent getCcpMemberId := by
  refine respects_bind respects_read fun db => ?_
  split
  · exact respects_pure _
  · exact respects_raise _

theorem silent_markLegs (selected : NovatedTrade → Bool) : Silent (markLegs selected) := by
  refine respects_bind respects_read fun _ => respects_bind (silent_write fun db => ?_)
    fun _ => respects_pure _
  simp [registerOf, Function.comp_def]

/-- The register shows other instructions and nothing else. -/
def ShowsInstructions (db after : Database) : Prop :=
  registerOf after =
    { registerOf db with
      instructions := (registerOf after).instructions
      next := after.nextUuid }

instance : Std.Refl ShowsInstructions := ⟨fun _ => rfl⟩

instance : IsTrans Database ShowsInstructions where
  trans _ _ _ first second := by
    rw [ShowsInstructions] at *
    rw [second, first]

theorem showsInstructions_of_unshown (unshown : Unshown db after) :
    ShowsInstructions db after := by
  rw [ShowsInstructions, unshown.same]

theorem showsInstructions_insertInstruction (cycleId : Uuid) (obligation : Obligation)
    (ccpMemberId : Uuid) :
    Respects ShowsInstructions (insertInstruction backend cycleId obligation ccpMemberId) := by
  have silent : ∀ {α : Type} {code : Sql α}, Silent code → Respects ShowsInstructions code :=
    fun silent _ _ _ ran => showsInstructions_of_unshown (silent ran)
  exact respects_bind (silent silent_uuid4) fun _ =>
    respects_bind (respects_castNumeric _) fun _ =>
      respects_bind (respects_castNumeric _) fun _ => respects_bind respects_read fun _ =>
        respects_bind (respects_require _ _) fun _ =>
          respects_bind (respects_requireMember ..) fun _ =>
            respects_bind (respects_requireMember ..) fun _ =>
              respects_bind (respects_require _ _) fun _ =>
                respects_bind (respects_write fun _ => rfl) fun _ => respects_pure _

theorem showsInstructions_insertObligationsAndInstructions (cycleId : Uuid)
    (obligations : List Obligation) (ccpMemberId : Uuid) :
    Respects ShowsInstructions
      (insertObligationsAndInstructions backend cycleId obligations ccpMemberId) := by
  have noted : ∀ obligation, Respects ShowsInstructions
      (insertNetObligation backend cycleId obligation) := fun obligation _ _ _ ran =>
    showsInstructions_of_unshown (silent_insertNetObligation _ obligation ran)
  exact respects_mapM (fun obligation => respects_bind (noted obligation) fun _ =>
    showsInstructions_insertInstruction ..) _

/-- The instructions of a cycle are pending. -/
theorem register_insertObligationsAndInstructions {obligations : List Obligation}
    {instructionIds : List Uuid}
    (ran : insertObligationsAndInstructions backend cycleId obligations ccpMemberId db =
      .ok (instructionIds, after)) :
    registerOf after =
      { registerOf db with
        instructions := (registerOf db).instructions ++ instructionIds.map fun id => (id, .pending)
        next := after.nextUuid } := by
  have shows := showsInstructions_insertObligationsAndInstructions _ _ _ ran
  obtain ⟨rows, instructs, numbered, appended⟩ :=
    (instructed_insertObligationsAndInstructions ran).rows
  have pending : rows.map (fun row => (row.id, row.status)) =
      instructionIds.map fun id => (id, .pending) := by
    rw [← numbered, List.map_map]
    have statuses : List.Forall₂ (fun row _ => row.status = .pending ∧ True) rows obligations :=
      (instructs.imp fun _ _ instructed => ⟨instructed.status, trivial⟩).flip
    apply List.map_congr_left
    intro row member
    rw [Function.comp_apply, ((List.forall₂_and_left _ _).mp statuses).1 row member]
  have instructions : (registerOf after).instructions =
      (registerOf db).instructions ++ instructionIds.map fun id => (id, .pending) := by
    simp only [registerOf, appended, List.map_append, pending]
  rw [shows, instructions]

/-- The events of the instructions. -/
theorem register_announceInstructions {cycleId : Uuid} {trace : TraceContext}
    {instructionIds : List Uuid} {value : Unit}
    (ran : (instructionIds.forM fun instructionId => do
      let _ ← insertOutboxEvent "settlement_instruction" instructionId
        "settlement.instruction.created" "settlement.instructions.created"
        [("instruction_id", .uuid instructionId), ("cycle_id", .uuid cycleId)]
        (some trace.traceId) : Sql Unit) db = .ok (value, after)) :
    registerOf after =
        { registerOf db with
          news := (registerOf db).news ++
            instructionIds.map fun id => (.instructionCreated, [some id])
          next := after.nextUuid } ∧ db.nextUuid ≤ after.nextUuid := by
  induction instructionIds generalizing db with
  | nil =>
      cases ran
      exact ⟨by simp [registerOf], le_rfl⟩
  | cons instructionId rest induction =>
      obtain ⟨⟨⟩, middle, first, others⟩ := bind_eq_ok.mp ran
      obtain ⟨eventId, announced, announce, done⟩ := bind_eq_ok.mp first
      cases done
      have told := register_tell .instructionCreated rfl announce
      have next := (register_insertOutboxEvent announce).2
      obtain ⟨register, later⟩ := induction others
      refine ⟨by rw [register, told]; simp, ?_⟩
      rw [next] at later
      exact (Nat.le_add_right _ 2).trans later

theorem step_runNettingCycle {cycleType : NettingCycleType} {cutOffTime : Timestamp}
    {trace : TraceContext} {result : CycleResult}
    (ran : runNettingCycle backend cycleType cutOffTime trace db = .ok (result, after)) :
    Register.Step (registerOf db) (registerOf after) := by
  obtain ⟨_, -, instructed⟩ := instructed_runNettingCycle ran
  obtain ⟨cycleId, numbered, number, ran⟩ := bind_eq_ok.mp ran
  obtain ⟨⟨⟩, opened, opening, ran⟩ := bind_eq_ok.mp ran
  obtain ⟨ccpMemberId, found, find, ran⟩ := bind_eq_ok.mp ran
  obtain ⟨positions, priced, pricing, ran⟩ := bind_eq_ok.mp ran
  obtain ⟨ids, inserted, insert, ran⟩ := bind_eq_ok.mp ran
  obtain ⟨tradesNetted, marked, marking, ran⟩ := bind_eq_ok.mp ran
  obtain ⟨⟨⟩, closed, closing, done⟩ := bind_eq_ok.mp ran
  cases done
  cases pricing
  obtain ⟨⟨⟩, advanced, advance, closing⟩ := bind_eq_ok.mp closing
  obtain ⟨completedId, completed, complete, announce⟩ := bind_eq_ok.mp closing
  have unannounced : Announcement.ofType "netting.cycle.completed" = none := by decide
  have before : Unshown db found :=
    IsTrans.trans _ _ _ (silent_uuid4 number)
      (IsTrans.trans _ _ _ (silent_openCycle _ _ _ _ opening)
      (silent_getCcpMemberId find))
  have between : Unshown inserted completed :=
    IsTrans.trans _ _ _ (silent_markLegs _ marking)
      (IsTrans.trans _ _ _ (silent_advanceCycle _ _ _ _ advance)
        (silent_insertOutboxEvent _ _ _ _ _ unannounced complete))
  rw [(register_announceInstructions announce).1, between.same,
    register_insertObligationsAndInstructions insert, before.same]
  exact .instruct ⟨instructed.fresh, instructed.distinct, instructed.uuids⟩

end Netting

/-- The register goes through some steps. -/
def Recorded (db after : Database) : Prop :=
  Relation.ReflTransGen Register.Step (registerOf db) (registerOf after)

instance : Std.Refl Recorded := ⟨fun _ => .refl⟩

instance : IsTrans Database Recorded := ⟨fun _ _ _ first second => first.trans second⟩

theorem recorded_of_unshown (unshown : Unshown db after) : Recorded db after := by
  rw [Recorded, unshown.same]
  exact .single (.quiet unshown.later)

theorem recorded_of_silent {α : Type} {code : Sql α} (silent : Silent code) :
    Respects Recorded code := fun _ _ _ ran => recorded_of_unshown (silent ran)

namespace Margin

theorem step_issueMarginCall {deadline : Timestamp} {memberId instrumentId : Uuid}
    {shortfall : ℚ} {trace : TraceContext} {payload : Payload}
    (ran : issueMarginCall backend deadline memberId instrumentId shortfall trace db =
      .ok (payload, after)) : Register.Step (registerOf db) (registerOf after) := by
  obtain ⟨callId, numbered, number, ran⟩ := bind_eq_ok.mp ran
  cases number
  obtain ⟨_, _, reading, ran⟩ := bind_eq_ok.mp ran
  cases reading
  obtain ⟨callAmount, _, cast, ran⟩ := bind_eq_ok.mp ran
  obtain ⟨-, rfl⟩ := castNumeric_eq_ok.mp cast
  obtain ⟨⟨⟩, inserted, insert, ran⟩ := bind_eq_ok.mp ran
  cases insert
  obtain ⟨⟨⟩, noted, note, ran⟩ := bind_eq_ok.mp ran
  cases note
  obtain ⟨eventId, announced, announce, done⟩ := bind_eq_ok.mp ran
  cases done
  have step := Register.Step.issue (fresh_nextUuid (Nat.lt_add_of_pos_right (by decide) :
    db.nextUuid < db.nextUuid + 3))
  rw [register_tell .marginCallIssued rfl announce]
  simpa [registerOf] using step

theorem recorded_recalculateMargins (deadline : Timestamp) (trace : TraceContext) :
    Respects Recorded (recalculateMargins backend deadline trace) :=
  respects_recalculateMargins (admitsPostings_unshown.mono recorded_of_unshown)
    fun _ _ _ _ _ _ ran => .single (step_issueMarginCall ran)

end Margin

namespace Waterfall

theorem silent_createWaterfallJournal (eventId memberId : Uuid) (amount : ℚ)
    (sourceAccountType : AccountType) :
    Silent (createWaterfallJournal backend eventId memberId amount sourceAccountType) :=
  respects_createWaterfallJournal admitsPostings_unshown
    (fun _ _ _ => silent_insertOutboxEvent _ _ _ _ _ (by decide)) ..

theorem admitsSteps_unshown : AdmitsSteps backend Unshown where
  journal := silent_createWaterfallJournal
  record := respects_recordStep silent_uuid4 fun _ _ => ⟨rfl, le_rfl⟩
  status := fun _ _ _ => silent_insertStateTransition _

theorem register_declareDefault {eventId memberId : Uuid} {triggerReason : Text}
    {totalExposure : ℚ} {trace : TraceContext} {value : Unit}
    (ran : declareDefault backend eventId memberId triggerReason totalExposure trace db =
      .ok (value, after)) :
    registerOf after =
        { registerOf db with
          defaultEvents := (registerOf db).defaultEvents ++ [eventId]
          news := (registerOf db).news ++ [(.defaultDeclared, [some eventId])]
          next := after.nextUuid } ∧ db.nextUuid ≤ after.nextUuid := by
  obtain ⟨⟨⟩, _, member, ran⟩ := bind_eq_ok.mp ran
  obtain ⟨-, rfl⟩ := requireMember_eq_ok.mp member
  obtain ⟨storedExposure, _, cast, ran⟩ := bind_eq_ok.mp ran
  obtain ⟨-, rfl⟩ := castNumeric_eq_ok.mp cast
  obtain ⟨⟨⟩, _, status, ran⟩ := bind_eq_ok.mp ran
  obtain ⟨-, rfl⟩ := require_eq_ok.mp status
  obtain ⟨⟨⟩, _, insert, ran⟩ := bind_eq_ok.mp ran
  cases insert
  obtain ⟨⟨⟩, _, update, ran⟩ := bind_eq_ok.mp ran
  cases update
  obtain ⟨_, announced, announce, done⟩ := bind_eq_ok.mp ran
  cases done
  have next := (register_insertOutboxEvent announce).2
  rw [register_tell .defaultDeclared rfl announce, next]
  exact ⟨by simp [registerOf, Database.updateMembers], Nat.le_add_right _ 2⟩

theorem register_resolveDefault {eventId : Uuid} {finalStatus : DefaultEventStatus}
    {remaining : ℚ} {trace : TraceContext} {value : Unit}
    (ran : resolveDefault backend eventId finalStatus remaining trace db = .ok (value, after)) :
    registerOf after =
        { registerOf db with
          news := (registerOf db).news ++ [(.defaultResolved, [some eventId])]
          next := after.nextUuid } ∧ db.nextUuid ≤ after.nextUuid := by
  obtain ⟨⟨⟩, _, status, ran⟩ := bind_eq_ok.mp ran
  obtain ⟨-, rfl⟩ := require_eq_ok.mp status
  obtain ⟨⟨⟩, _, update, ran⟩ := bind_eq_ok.mp ran
  cases update
  obtain ⟨_, announced, announce, done⟩ := bind_eq_ok.mp ran
  cases done
  have next := (register_insertOutboxEvent announce).2
  rw [register_tell .defaultResolved rfl announce, next]
  refine ⟨?_, Nat.le_add_right _ 2⟩
  have ids : ∀ event : DefaultEvent, (if event.id = eventId then
      { event with status := finalStatus, resolvedAt := some db.now } else event).id =
        event.id := fun event => by split <;> rfl
  simp [registerOf, Function.comp_def, ids]

theorem step_executeWaterfall {memberId : Uuid} {triggerReason : Text} {totalExposure : ℚ}
    {trace : Option TraceContext} {outcome : Outcome}
    (ran : executeWaterfall backend memberId triggerReason totalExposure trace db =
      .ok (outcome, after)) : Recorded db after := by
  obtain ⟨trace, traced, tracing, ran⟩ := bind_eq_ok.mp ran
  obtain ⟨eventId, numbered, number, ran⟩ := bind_eq_ok.mp ran
  cases number
  obtain ⟨⟨⟩, declared, declare, ran⟩ := bind_eq_ok.mp ran
  obtain ⟨⟨remaining, steps⟩, stepped, run, ran⟩ := bind_eq_ok.mp ran
  obtain ⟨⟨⟩, resolved, resolve, done⟩ := bind_eq_ok.mp ran
  cases done
  have opened := recorded_of_unshown (respects_traceOrSystem silent_uuid4 _ _ tracing)
  have worked := respects_runSteps admitsSteps_unshown _ _ _ _ run
  obtain ⟨declared_register, declared_later⟩ := register_declareDefault declare
  obtain ⟨resolved_register, resolved_later⟩ := register_resolveDefault resolve
  have later : traced.nextUuid + 1 ≤ after.nextUuid :=
    declared_later.trans (worked.later.trans resolved_later)
  have step := Register.Step.default (fresh_nextUuid (Nat.lt_of_succ_le later))
  refine opened.trans (.single ?_)
  rw [resolved_register, worked.same, declared_register]
  simpa [registerOf] using step

end Waterfall

namespace Settlement

variable {instructionId : Uuid} {trace : TraceContext}

/-- The instruction is known and has no final status. -/
def OpenAt (instructionId : Uuid) (db : Database) : Prop := (registerOf db).Open instructionId

theorem OpenAt.of_unshown (opened : OpenAt instructionId db) (unshown : Unshown db after) :
    OpenAt instructionId after := by
  rw [OpenAt, unshown.same]
  exact opened

theorem register_setStatus {status : InstructionStatus} {value : Unit}
    (ran : updateInstruction instructionId
      (fun instruction => { instruction with status := status }) db = .ok (value, after)) :
    registerOf after =
        { registerOf db with
          instructions := (registerOf db).instructions.map
            (Register.setStatus instructionId status) } ∧
      after.nextUuid = db.nextUuid := by
  cases ran
  refine ⟨?_, rfl⟩
  simp only [registerOf, List.map_map]
  refine congrArg (fun rows => Register.mk _ _ rows _ _ _ _)
    (List.map_congr_left fun row _ => ?_)
  simp only [Function.comp_apply, Register.setStatus]
  split <;> rfl

theorem register_advanceStatus {fromStatus toStatus : InstructionStatus} {reason : Text}
    {value : Unit}
    (ran : advanceStatus instructionId fromStatus toStatus reason trace db = .ok (value, after)) :
    registerOf after =
        { registerOf db with
          instructions :=
            (registerOf db).instructions.map (Register.setStatus instructionId toStatus) } ∧
      after.nextUuid = db.nextUuid := by
  by_cases valid : toStatus ∈ validTransitions fromStatus
  · obtain ⟨⟨⟩, _, checked, ran⟩ := bind_eq_ok.mp ran
    rw [validateTransition, if_pos valid] at checked
    cases checked
    obtain ⟨⟨⟩, moved, move, note⟩ := bind_eq_ok.mp ran
    cases note
    obtain ⟨register, next⟩ := register_setStatus move
    exact ⟨register, next⟩
  · simp [advanceStatus, validateTransition, if_neg valid, Transaction.bind_apply] at ran

theorem silent_updateInstruction {change : SettlementInstruction → SettlementInstruction}
    (same : ∀ row, ((change row).id, (change row).status) = (row.id, row.status)) :
    Silent (updateInstruction instructionId change) := by
  apply silent_write
  intro db
  have rows : ∀ row : SettlementInstruction,
      ((if row.id = instructionId then change row else row).id,
        (if row.id = instructionId then change row else row).status) = (row.id, row.status) :=
    fun row => by
      split
      · exact same row
      · rfl
  simp [registerOf, Function.comp_def, rows]

/-- The status of an open instruction changes, and is told if it is final. -/
theorem OpenAt.settle (opened : OpenAt instructionId db) (status : InstructionStatus)
    (register : registerOf after =
      { registerOf db with
        instructions := (registerOf db).instructions.map (Register.setStatus instructionId status)
        news := (registerOf db).news ++ Register.settlementNews instructionId status
        next := after.nextUuid })
    (later : db.nextUuid ≤ after.nextUuid) : Recorded db after := by
  rw [Recorded, register]
  exact .single (.settle opened later)

/-- An instruction that moves on stays open. -/
theorem OpenAt.advance (opened : OpenAt instructionId db) {fromStatus toStatus : InstructionStatus}
    (unfinished : toStatus ≠ .confirmed ∧ toStatus ≠ .failed) {reason : Text} {value : Unit}
    (ran : advanceStatus instructionId fromStatus toStatus reason trace db = .ok (value, after)) :
    Recorded db after ∧ OpenAt instructionId after := by
  obtain ⟨register, next⟩ := register_advanceStatus ran
  have news : Register.settlementNews instructionId toStatus = [] := by
    cases toStatus with
    | confirmed => exact absurd rfl unfinished.1
    | failed => exact absurd rfl unfinished.2
    | _ => rfl
  refine ⟨opened.settle toStatus ?_ next.ge, Register.Open.setStatus opened unfinished ?_⟩
  · rw [register, news, next]
    simp [registerOf]
  · exact congrArg Register.instructions register

theorem OpenAt.complete {aggregateId : Uuid} {value value' : Unit} {middle : Database}
    {fromStatus : InstructionStatus} {reason : Text} (opened : OpenAt instructionId db)
    (moved : advanceStatus instructionId fromStatus .confirmed reason trace db =
      .ok (value, middle))
    (told : emitSettlementEvent instructionId "settlement.completed" aggregateId trace middle =
      .ok (value', after)) : Recorded db after := by
  obtain ⟨register, next⟩ := register_advanceStatus moved
  obtain ⟨eventId, announced, announce, done⟩ := bind_eq_ok.mp told
  cases done
  have next' := (register_insertOutboxEvent announce).2
  refine opened.settle .confirmed ?_ (by rw [next', next]; exact Nat.le_add_right _ 2)
  rw [register_tell .settlementCompleted rfl announce, register, next']
  rfl

theorem OpenAt.fail {fromStatus : InstructionStatus} {reason : Text} {value : Unit}
    (opened : OpenAt instructionId db)
    (ran : failInstruction instructionId fromStatus reason trace db = .ok (value, after)) :
    Recorded db after := by
  obtain ⟨⟨⟩, moved, move, ran⟩ := bind_eq_ok.mp ran
  obtain ⟨⟨⟩, noted, note, tell⟩ := bind_eq_ok.mp ran
  obtain ⟨register, next⟩ := register_setStatus move
  have unshown := silent_insertStateTransition _ note
  obtain ⟨eventId, announced, announce, done⟩ := bind_eq_ok.mp tell
  cases done
  have next' := (register_insertOutboxEvent announce).2
  refine opened.settle .failed ?_ ?_
  · rw [register_tell .settlementFailed rfl announce, unshown.same, register, next']
    rfl
  · rw [next', ← next]
    exact unshown.later.trans (Nat.le_add_right _ 2)

theorem OpenAt.finalize {instruction : SettlementInstruction} {blockNumber : Option ℕ}
    {confirmations : ℕ} {value : Unit} (opened : OpenAt instruction.id db)
    (ran : finalizeRows backend instruction blockNumber confirmations trace db =
      .ok (value, after)) : Recorded db after := by
  obtain ⟨⟨⟩, paid, entries, ran⟩ := bind_eq_ok.mp ran
  obtain ⟨⟨⟩, counted, update, ran⟩ := bind_eq_ok.mp ran
  obtain ⟨⟨⟩, moved, advance, event⟩ := bind_eq_ok.mp ran
  have unshown : Unshown db counted :=
    IsTrans.trans _ _ _ (respects_finalizeEntries admitsPostings_unshown _ entries)
    (silent_updateInstruction (by intro; rfl) update)
  exact (recorded_of_unshown unshown).trans ((opened.of_unshown unshown).complete advance event)

theorem OpenAt.settleCashBetween {instruction : SettlementInstruction}
    {fromAcct toAcct : Account} {result : SettlementResult} (opened : OpenAt instruction.id db)
    (ran : settleCashBetween backend instruction fromAcct toAcct trace db = .ok (result, after)) :
    Recorded db after := by
  obtain ⟨⟨⟩, approved, approve, ran⟩ := bind_eq_ok.mp ran
  obtain ⟨⟨⟩, signed, sign, ran⟩ := bind_eq_ok.mp ran
  obtain ⟨⟨⟩, broadcasted, broadcast, ran⟩ := bind_eq_ok.mp ran
  obtain ⟨journalId, numbered, number, ran⟩ := bind_eq_ok.mp ran
  obtain ⟨⟨⟩, paid, pay, ran⟩ := bind_eq_ok.mp ran
  obtain ⟨⟨⟩, confirmed, confirm, ran⟩ := bind_eq_ok.mp ran
  obtain ⟨⟨⟩, announced, announce, done⟩ := bind_eq_ok.mp ran
  cases done
  obtain ⟨first, opened⟩ := opened.advance (by decide) approve
  obtain ⟨second, opened⟩ := opened.advance (by decide) sign
  obtain ⟨third, opened⟩ := opened.advance (by decide) broadcast
  have unshown : Unshown broadcasted paid := IsTrans.trans _ _ _ (silent_uuid4 number)
    (respects_runWhen _ (respects_postSettlement admitsPostings_unshown ..) pay)
  have last := (opened.of_unshown unshown).complete confirm announce
  exact first.trans (second.trans (third.trans ((recorded_of_unshown unshown).trans last)))

theorem OpenAt.settleCash {instruction : SettlementInstruction} {result : SettlementResult}
    (opened : OpenAt instruction.id db)
    (ran : settleCash backend instruction trace db = .ok (result, after)) : Recorded db after := by
  have failing : ∀ {result : SettlementResult},
      (do failInstruction instruction.id .pending [.literal "Settlement accounts not found"] trace
          pure (SettlementResult.failed [.literal "accounts_not_found"]) :
        Sql SettlementResult) db = .ok (result, after) → Recorded db after := fun ran => by
    obtain ⟨⟨⟩, failed, fail, done⟩ := bind_eq_ok.mp ran
    cases done
    exact opened.fail fail
  unfold Settlement.settleCash at ran
  rw [bind_of_ok (read_apply db)] at ran
  cases payer : findAccount db instruction.fromMemberId .settlement .available with
  | none =>
      simp only [payer] at ran
      exact failing ran
  | some fromAcct =>
      cases payee : findAccount db instruction.toMemberId .settlement .available with
      | none =>
          simp only [payer, payee] at ran
          exact failing ran
      | some toAcct =>
          simp only [payer, payee] at ran
          exact opened.settleCashBetween ran

end Settlement

end ClearingHouse
