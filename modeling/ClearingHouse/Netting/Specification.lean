import ClearingHouse.Netting.Interleaving

/-!
# Specification of a netting cycle

A cycle that nobody interrupts turns the open legs up to its cut-off into one obligation and one
instruction for each member and instrument that does not net to zero, marks these legs, announces
what it has done, and writes nothing else.  In exact arithmetic it fails for no book whose rows
exist.
-/

namespace ClearingHouse

namespace Netting

open Fibers Transactions Transactions.Transaction

/-- The stored row of an obligation. -/
structure Obliges (backend : Backend) (cycleId : Uuid) (obligation : Obligation)
    (row : NetObligation) : Prop where
  nettingCycle : row.nettingCycleId = cycleId
  member : row.memberId = obligation.memberId
  instrument : row.instrumentId = obligation.instrumentId
  netQuantity : backend.store obligation.netQuantity = some row.netQuantity
  netAmount : backend.store obligation.netAmount = some row.netAmount
  settlementAmount : backend.store obligation.settlementAmount = some row.settlementAmount

/-- The columns hold the amounts of an obligation. -/
structure Storable (backend : Backend) (obligation : Obligation) : Prop where
  netQuantity : (backend.store obligation.netQuantity).isSome
  netAmount : (backend.store obligation.netAmount).isSome
  settlementAmount : (backend.store obligation.settlementAmount).isSome
  quantity : (backend.store (backend.abs obligation.netQuantity)).isSome

/-- The rows that an obligation refers to exist. -/
structure Referenced (db : Database) (obligation : Obligation) : Prop where
  member : obligation.memberId ∈ db.members.map Member.id
  instrument : obligation.instrumentId ∈ db.instruments.map Instrument.id

/-- What the insertions add. -/
structure Inserted (backend : Backend) (cycleId ccpMemberId : Uuid) (obligations : List Obligation)
    (ids : List Uuid) (db after : Database) : Prop where
  rows : ∃ obliged instructed,
    List.Forall₂ (Obliges backend cycleId) obligations obliged ∧
      List.Forall₂ (Instructs backend ccpMemberId cycleId) obligations instructed ∧
      instructed.map SettlementInstruction.id = ids ∧
      after =
        { db with
          netObligations := db.netObligations ++ obliged
          settlementInstructions := db.settlementInstructions ++ instructed
          nextUuid := after.nextUuid }

variable {backend : Backend} {cycleId ccpMemberId : Uuid} {db after : Database}

theorem castNumeric_of_store {x y : ℚ} (stored : backend.store x = some y) (db : Database) :
    castNumeric backend x db = .ok (y, db) :=
  castNumeric_eq_ok.mpr ⟨stored, rfl⟩

theorem insertNetObligation_returns (db : Database) {obligation : Obligation}
    (cycle : cycleId ∈ db.nettingCycles.map NettingCycle.id) (known : Referenced db obligation)
    (storable : Storable backend obligation) :
    ∃ row, Obliges backend cycleId obligation row ∧
      insertNetObligation backend cycleId obligation db =
        .ok ((), { db with
          netObligations := db.netObligations ++ [row]
          nextUuid := db.nextUuid + 1 }) := by
  obtain ⟨netQuantity, netQuantity_eq⟩ := Option.isSome_iff_exists.mp storable.netQuantity
  obtain ⟨netAmount, netAmount_eq⟩ := Option.isSome_iff_exists.mp storable.netAmount
  obtain ⟨settlementAmount, settlement_eq⟩ :=
    Option.isSome_iff_exists.mp storable.settlementAmount
  refine ⟨⟨db.nextUuid, cycleId, obligation.memberId, obligation.instrumentId, netQuantity,
    netAmount, settlementAmount⟩, ⟨rfl, rfl, rfl, netQuantity_eq, netAmount_eq, settlement_eq⟩, ?_⟩
  have numbered : uuid4 db = .ok (db.nextUuid, { db with nextUuid := db.nextUuid + 1 }) := rfl
  rw [insertNetObligation, bind_of_ok numbered, bind_of_ok (castNumeric_of_store netQuantity_eq _),
    bind_of_ok (castNumeric_of_store netAmount_eq _),
    bind_of_ok (castNumeric_of_store settlement_eq _), bind_of_ok (read_apply _),
    bind_of_ok (require_of_true _ _ cycle),
    bind_of_ok (requireMember_of_mem { db with nextUuid := db.nextUuid + 1 } known.member),
    bind_of_ok (require_of_true _ _ known.instrument)]
  rfl

theorem insertInstruction_returns (db : Database) {obligation : Obligation}
    (cycle : cycleId ∈ db.nettingCycles.map NettingCycle.id) (known : Referenced db obligation)
    (house : ccpMemberId ∈ db.members.map Member.id) (storable : Storable backend obligation) :
    ∃ row, Instructs backend ccpMemberId cycleId obligation row ∧
      insertInstruction backend cycleId obligation ccpMemberId db =
        .ok (row.id, { db with
          settlementInstructions := db.settlementInstructions ++ [row]
          nextUuid := db.nextUuid + 1 }) := by
  obtain ⟨quantity, quantity_eq⟩ := Option.isSome_iff_exists.mp storable.quantity
  obtain ⟨amount, amount_eq⟩ := Option.isSome_iff_exists.mp storable.settlementAmount
  have parties : (settlementParties obligation ccpMemberId).1 ∈ db.members.map Member.id ∧
      (settlementParties obligation ccpMemberId).2 ∈ db.members.map Member.id := by
    rw [settlementParties]
    split
    · exact ⟨known.member, house⟩
    · exact ⟨house, known.member⟩
  refine ⟨⟨db.nextUuid, obligation.settlementType, some cycleId,
    (settlementParties obligation ccpMemberId).1, (settlementParties obligation ccpMemberId).2,
    obligation.instrumentId, quantity, amount, none, none, .pending, none, 0⟩,
    ⟨rfl, rfl, rfl, rfl, rfl, quantity_eq, amount_eq, rfl, rfl⟩, ?_⟩
  have numbered : uuid4 db = .ok (db.nextUuid, { db with nextUuid := db.nextUuid + 1 }) := rfl
  rw [insertInstruction, bind_of_ok numbered]
  dsimp only
  rw [bind_of_ok (castNumeric_of_store quantity_eq _),
    bind_of_ok (castNumeric_of_store amount_eq _), bind_of_ok (read_apply _),
    bind_of_ok (require_of_true _ _ cycle),
    bind_of_ok (requireMember_of_mem { db with nextUuid := db.nextUuid + 1 } parties.1),
    bind_of_ok (requireMember_of_mem { db with nextUuid := db.nextUuid + 1 } parties.2),
    bind_of_ok (require_of_true _ _ known.instrument)]
  rfl

/-- The insertions return when the rows exist and the columns hold the amounts. -/
theorem insertObligationsAndInstructions_returns {obligations : List Obligation} (db : Database)
    (cycle : cycleId ∈ db.nettingCycles.map NettingCycle.id)
    (house : ccpMemberId ∈ db.members.map Member.id)
    (known : ∀ obligation ∈ obligations, Referenced db obligation)
    (storable : ∀ obligation ∈ obligations, Storable backend obligation) :
    ∃ ids after, insertObligationsAndInstructions backend cycleId obligations ccpMemberId db =
      .ok (ids, after) ∧ Inserted backend cycleId ccpMemberId obligations ids db after := by
  induction obligations generalizing db with
  | nil => exact ⟨[], db, rfl, ⟨[], [], .nil, .nil, rfl, by simp⟩⟩
  | cons obligation obligations induction =>
      have known_head := known obligation List.mem_cons_self
      have storable_head := storable obligation List.mem_cons_self
      obtain ⟨obliged, obliges, oblige⟩ :=
        insertNetObligation_returns db cycle known_head storable_head
      obtain ⟨instructed, instructs, instruct⟩ := insertInstruction_returns
        { db with
          netObligations := db.netObligations ++ [obliged]
          nextUuid := db.nextUuid + 1 } cycle
        ⟨known_head.member, known_head.instrument⟩ house storable_head
      obtain ⟨ids, after, ran, ⟨rest, rest', oblige', instruct', numbered, written⟩⟩ := induction
        { db with
          netObligations := db.netObligations ++ [obliged]
          settlementInstructions := db.settlementInstructions ++ [instructed]
          nextUuid := db.nextUuid + 1 + 1 } cycle house
        (fun other inside => ⟨(known other (List.mem_cons_of_mem _ inside)).member,
          (known other (List.mem_cons_of_mem _ inside)).instrument⟩)
        fun other inside => storable other (List.mem_cons_of_mem _ inside)
      refine ⟨instructed.id :: ids, after, ?_, ⟨obliged :: rest, instructed :: rest',
        .cons obliges oblige', .cons instructs instruct', by rw [List.map_cons, numbered], ?_⟩⟩
      · have both : (do
            insertNetObligation backend cycleId obligation
            insertInstruction backend cycleId obligation ccpMemberId : Sql Uuid) db =
              .ok (instructed.id, { db with
                netObligations := db.netObligations ++ [obliged]
                settlementInstructions := db.settlementInstructions ++ [instructed]
                nextUuid := db.nextUuid + 1 + 1 }) := by
          rw [bind_of_ok oblige, instruct]
        rw [insertObligationsAndInstructions, List.mapM_cons, bind_of_ok both]
        exact bind_of_ok ran
      · rw [written]
        simp only [List.append_assoc, List.singleton_append]

/-- The event of a completed cycle. -/
structure Completes (cycleType : NettingCycleType) (trace : TraceContext) (result : CycleResult)
    (event : OutboxEvent) : Prop where
  aggregate : event.aggregateType = "netting_cycle" ∧ event.aggregateId = result.cycleId
  type : event.eventType = "netting.cycle.completed" ∧ event.topic = "netting.cycle.completed"
  cycle : event.payload.get? "cycle_id" = some (.uuid result.cycleId) ∧
    event.payload.get? "cycle_type" = some (.literal cycleType.value)
  obligations : event.payload.get? "obligation_count" = some (.integer result.obligationCount)
  legs : event.payload.get? "trades_netted" = some (.integer result.tradesNetted)
  traced : event.traceId = some trace.traceId

/-- The event of an instruction that a cycle has created. -/
structure Announces (cycleId : Uuid) (trace : TraceContext) (instructionId : Uuid)
    (event : OutboxEvent) : Prop where
  aggregate : event.aggregateType = "settlement_instruction" ∧ event.aggregateId = instructionId
  type : event.eventType = "settlement.instruction.created" ∧
    event.topic = "settlement.instructions.created"
  instruction : event.payload.get? "instruction_id" = some (.uuid instructionId)
  cycle : event.payload.get? "cycle_id" = some (.uuid cycleId)
  traced : event.traceId = some trace.traceId

/-- The record of a step of a cycle. -/
def cycleTransition (cycleId : Uuid) (fromStatus toStatus : NettingCycleStatus)
    (trace : TraceContext) : StateTransition where
  entityType := .nettingCycle
  entityId := cycleId
  fromStatus := some (.nettingCycle fromStatus)
  toStatus := .nettingCycle toStatus
  reason := none
  transitionedBy := "netting-engine:" ++ trace.actor
  traceId := some trace.traceId
  actor := some trace.actor

/-- The row that a traced event leaves in the outbox. -/
def outboxRow (db : Database) (aggregateType : String) (aggregateId : Uuid)
    (eventType topic : String) (payload : Payload) (traceId : Uuid) : OutboxEvent where
  id := db.nextUuid + 1
  aggregateType := aggregateType
  aggregateId := aggregateId
  eventType := eventType
  topic := topic
  payload := (payload.set "event_id" (.uuid db.nextUuid)).set "trace_id" (.uuid traceId)
  createdAt := db.now
  publishedAt := none
  traceId := some traceId

/-- The row keeps the fields of the payload. -/
theorem get?_outboxRow (db : Database) (aggregateType : String) (aggregateId : Uuid)
    (eventType topic : String) (payload : Payload) (traceId : Uuid) {key : String}
    (own : key ≠ "event_id" ∧ key ≠ "trace_id") :
    (outboxRow db aggregateType aggregateId eventType topic payload traceId).payload.get? key =
      payload.get? key := by
  rw [outboxRow, Payload.get?_set_other _ own.2, Payload.get?_set_other _ own.1]

/-- The event of an instruction. -/
def instructionEvent (db : Database) (cycleId : Uuid) (trace : TraceContext)
    (instructionId : Uuid) : OutboxEvent :=
  outboxRow db "settlement_instruction" instructionId "settlement.instruction.created"
    "settlement.instructions.created"
    [("instruction_id", .uuid instructionId), ("cycle_id", .uuid cycleId)] trace.traceId

theorem announces_instructionEvent (db : Database) (cycleId : Uuid) (trace : TraceContext)
    (instructionId : Uuid) :
    Announces cycleId trace instructionId (instructionEvent db cycleId trace instructionId) where
  aggregate := ⟨rfl, rfl⟩
  type := ⟨rfl, rfl⟩
  instruction := get?_outboxRow _ _ _ _ _ _ _ (by decide)
  cycle := get?_outboxRow _ _ _ _ _ _ _ (by decide)
  traced := rfl

/-- The event of a cycle. -/
def cycleEvent (db : Database) (cycleType : NettingCycleType) (trace : TraceContext)
    (result : CycleResult) : OutboxEvent :=
  outboxRow db "netting_cycle" result.cycleId "netting.cycle.completed" "netting.cycle.completed"
    [("cycle_id", .uuid result.cycleId), ("cycle_type", .literal cycleType.value),
      ("obligation_count", .integer result.obligationCount),
      ("trades_netted", .integer result.tradesNetted)] trace.traceId

theorem completes_cycleEvent (db : Database) (cycleType : NettingCycleType) (trace : TraceContext)
    (result : CycleResult) :
    Completes cycleType trace result (cycleEvent db cycleType trace result) where
  aggregate := ⟨rfl, rfl⟩
  type := ⟨rfl, rfl⟩
  cycle := ⟨get?_outboxRow _ _ _ _ _ _ _ (by decide), get?_outboxRow _ _ _ _ _ _ _ (by decide)⟩
  obligations := get?_outboxRow _ _ _ _ _ _ _ (by decide)
  legs := get?_outboxRow _ _ _ _ _ _ _ (by decide)
  traced := rfl

theorem announce_returns (trace : TraceContext) (ids : List Uuid) (db : Database) :
    ∃ events after,
      ids.forM (fun instructionId => do
          let _ ← insertOutboxEvent "settlement_instruction" instructionId
            "settlement.instruction.created" "settlement.instructions.created"
            [("instruction_id", .uuid instructionId), ("cycle_id", .uuid cycleId)]
            (some trace.traceId)
          pure () : Uuid → Sql PUnit) db = .ok (PUnit.unit, after) ∧
        List.Forall₂ (Announces cycleId trace) ids events ∧
        after = { db with
          outboxEvents := db.outboxEvents ++ events
          nextUuid := after.nextUuid } := by
  induction ids generalizing db with
  | nil => exact ⟨[], db, rfl, .nil, by simp⟩
  | cons id ids induction =>
      obtain ⟨events, after, ran, announced, written⟩ := induction
        { db with
          outboxEvents := db.outboxEvents ++ [instructionEvent db cycleId trace id]
          nextUuid := db.nextUuid + 1 + 1 }
      refine ⟨_, after, ran, .cons (announces_instructionEvent db cycleId trace id) announced, ?_⟩
      rw [written]
      simp only [List.append_assoc, List.singleton_append]

/-- Closing a cycle announces it and its instructions. -/
theorem closeCycle_returns (cycleType : NettingCycleType) (trace : TraceContext)
    (result : CycleResult) (db : Database) :
    ∃ announcement events after,
      closeCycle result.cycleId cycleType result.obligationCount result.tradesNetted
          result.instructionIds trace db = .ok ((), after) ∧
        Completes cycleType trace result announcement ∧
        List.Forall₂ (Announces result.cycleId trace) result.instructionIds events ∧
        after = { db with
          nettingCycles := after.nettingCycles
          stateTransitions := db.stateTransitions ++
            [cycleTransition result.cycleId .calculating .confirmed trace]
          outboxEvents := db.outboxEvents ++ announcement :: events
          nextUuid := after.nextUuid } := by
  obtain ⟨events, after, ran, announced, written⟩ := announce_returns trace result.instructionIds
    { db with
      nettingCycles := db.nettingCycles.map fun cycle =>
        if cycle.id = result.cycleId then { cycle with status := .confirmed } else cycle
      stateTransitions := db.stateTransitions ++
        [cycleTransition result.cycleId .calculating .confirmed trace]
      outboxEvents := db.outboxEvents ++ [cycleEvent db cycleType trace result]
      nextUuid := db.nextUuid + 1 + 1 }
  refine ⟨_, events, after, ran, completes_cycleEvent db cycleType trace result, announced, ?_⟩
  rw [written]
  simp only [List.append_assoc, List.singleton_append]

/-- What a cycle leaves, its own row and the next identifier apart. -/
structure Netted (backend : Backend) (ccpMemberId : Uuid) (cycleType : NettingCycleType)
    (cutOffTime : Timestamp) (trace : TraceContext) (db : Database) (result : CycleResult)
    (after : Database) : Prop where
  rows : ∃ obliged instructed announcement events,
    List.Forall₂ (Obliges backend result.cycleId) (cycleObligations backend cutOffTime db)
        obliged ∧
      List.Forall₂ (Instructs backend ccpMemberId result.cycleId)
        (cycleObligations backend cutOffTime db) instructed ∧
      instructed.map SettlementInstruction.id = result.instructionIds ∧
      Completes cycleType trace result announcement ∧
      List.Forall₂ (Announces result.cycleId trace) result.instructionIds events ∧
      after =
        { db with
          nettingCycles := after.nettingCycles
          novatedTrades := db.novatedTrades.map
            (NovatedTrade.nettedIf fun leg => leg.OpenBy cutOffTime)
          netObligations := db.netObligations ++ obliged
          settlementInstructions := db.settlementInstructions ++ instructed
          stateTransitions := db.stateTransitions ++
            [cycleTransition result.cycleId .initiated .calculating trace,
              cycleTransition result.cycleId .calculating .confirmed trace]
          outboxEvents := db.outboxEvents ++ announcement :: events
          nextUuid := after.nextUuid }
  obligations : result.obligationCount = (cycleObligations backend cutOffTime db).length
  legs : result.tradesNetted = (openLegs db cutOffTime).length

theorem mem_of_findCcp {ccp : Member} (house : findCcp db = some ccp) :
    ccp.id ∈ db.members.map Member.id :=
  List.mem_map_of_mem (List.mem_of_find?_eq_some house)

/-- The database with the row of a cycle that calculates. -/
def cycleOpened (db : Database) (cycleType : NettingCycleType) (cutOffTime : Timestamp)
    (trace : TraceContext) : Database :=
  { db with
    nettingCycles :=
      (db.nettingCycles ++ [NettingCycle.mk db.nextUuid cycleType .initiated cutOffTime]).map
        fun cycle =>
          if cycle.id = db.nextUuid then { cycle with status := .calculating } else cycle
    stateTransitions := db.stateTransitions ++
      [cycleTransition db.nextUuid .initiated .calculating trace]
    nextUuid := db.nextUuid + 1 }

theorem mem_cycleOpened (db : Database) (cycleType : NettingCycleType) (cutOffTime : Timestamp)
    (trace : TraceContext) :
    db.nextUuid ∈ (cycleOpened db cycleType cutOffTime trace).nettingCycles.map
      NettingCycle.id := by
  simp [cycleOpened]

/-- A cycle returns when a house member exists and its obligations can be stored. -/
theorem runNettingCycle_returns {ccp : Member} (house : findCcp db = some ccp)
    (cycleType : NettingCycleType) (cutOffTime : Timestamp) (trace : TraceContext)
    (known : ∀ obligation ∈ cycleObligations backend cutOffTime db, Referenced db obligation)
    (storable : ∀ obligation ∈ cycleObligations backend cutOffTime db,
      Storable backend obligation) :
    ∃ result after, runNettingCycle backend cycleType cutOffTime trace db = .ok (result, after) ∧
      Netted backend ccp.id cycleType cutOffTime trace db result after := by
  have numbered : uuid4 db = .ok (db.nextUuid, { db with nextUuid := db.nextUuid + 1 }) := rfl
  have opening : openCycle db.nextUuid cycleType cutOffTime trace
      { db with nextUuid := db.nextUuid + 1 } =
        .ok ((), cycleOpened db cycleType cutOffTime trace) := rfl
  have find : getCcpMemberId (cycleOpened db cycleType cutOffTime trace) =
      .ok (ccp.id, cycleOpened db cycleType cutOffTime trace) := by
    have same : findCcp (cycleOpened db cycleType cutOffTime trace) = some ccp := house
    rw [getCcpMemberId, bind_of_ok (read_apply _), same]
    rfl
  have pricing : (do
      let positions ← fetchOpenPositions cutOffTime
      enrichWithPrices positions : Sql (List Position))
        (cycleOpened db cycleType cutOffTime trace) =
      .ok (pricedPositions (quote db) (openLegs db cutOffTime),
        cycleOpened db cycleType cutOffTime trace) := rfl
  obtain ⟨ids, inserted, insert, ⟨obliged, instructed, obliges, instructs, named, written⟩⟩ :=
    insertObligationsAndInstructions_returns (cycleOpened db cycleType cutOffTime trace)
      (mem_cycleOpened db cycleType cutOffTime trace) (mem_of_findCcp house)
      (fun obligation inside => ⟨(known obligation inside).member,
        (known obligation inside).instrument⟩) storable
  have legs : inserted.novatedTrades = db.novatedTrades := by rw [written]; rfl
  have marking : markTradesClosed cutOffTime inserted =
      .ok ((openLegs db cutOffTime).length, { inserted with
        novatedTrades := db.novatedTrades.map
          (NovatedTrade.nettedIf fun leg => leg.OpenBy cutOffTime) }) := by
    rw [markTradesClosed, markLegs, bind_of_ok (read_apply _), bind_of_ok (write_apply _ _),
      openLegs, ← List.countP_eq_length_filter, legs]
    rfl
  obtain ⟨announcement, events, after, closing, completes, announces, closed⟩ :=
    closeCycle_returns cycleType trace
      ⟨db.nextUuid, (cycleObligations backend cutOffTime db).length,
      ids, (openLegs db cutOffTime).length⟩
      { inserted with
        novatedTrades := db.novatedTrades.map
          (NovatedTrade.nettedIf fun leg => leg.OpenBy cutOffTime) }
  refine ⟨_, after, ?_, ⟨obliged, instructed, announcement, events, obliges, instructs, named,
    completes, announces, ?_⟩, rfl, rfl⟩
  · rw [runNettingCycle, cycleWith, bind_of_ok numbered, bind_of_ok opening, bind_of_ok find,
      bind_of_ok pricing, ← cycleObligations, bind_of_ok insert, bind_of_ok marking,
      bind_of_ok closing]
    rfl
  · rw [closed, written]
    simp only [cycleOpened, List.append_assoc, List.cons_append, List.nil_append]

/-- Price that a cycle nets an instrument at: that of the latest feed, or zero without one. -/
def nettingPrice (db : Database) (instrumentId : Uuid) : ℚ :=
  ((latestFeed db instrumentId).map PriceFeed.price).getD 0

/-- Signed quantity that a cycle nets for a member in an instrument. -/
def nettedQuantity (db : Database) (cutOffTime : Timestamp) (k : Uuid × Uuid) : ℚ :=
  netTotal (openLegs db cutOffTime) k

/-- Exact amount that a member pays for an instrument, or gets if it is negative. -/
def nettedAmount (db : Database) (cutOffTime : Timestamp) (k : Uuid × Uuid) : ℚ :=
  nettedQuantity db cutOffTime k * nettingPrice db k.2

/-- The obligation of a member in an instrument. -/
structure ObligationFor (db : Database) (cutOffTime : Timestamp) (cycleId : Uuid)
    (k : Uuid × Uuid) (row : NetObligation) : Prop where
  cycle : row.nettingCycleId = cycleId
  key : (row.memberId, row.instrumentId) = k
  netQuantity : row.netQuantity = nettedQuantity db cutOffTime k
  netAmount : row.netAmount = nettedAmount db cutOffTime k
  settlementAmount : row.settlementAmount = |nettedAmount db cutOffTime k|

/-- The instruction of a member in an instrument. -/
structure InstructionFor (db : Database) (cutOffTime : Timestamp) (cycleId ccpMemberId : Uuid)
    (k : Uuid × Uuid) (row : SettlementInstruction) : Prop where
  cycle : row.nettingCycleId = some cycleId
  instrument : row.instrumentId = k.2
  parties : (row.fromMemberId, row.toMemberId) =
    if 0 < nettedAmount db cutOffTime k then (k.1, ccpMemberId) else (ccpMemberId, k.1)
  quantity : row.quantity = |nettedQuantity db cutOffTime k|
  amount : row.amount = |nettedAmount db cutOffTime k|
  pending : row.status = .pending

/-- One obligation and one instruction for each member and instrument that does not net to zero,
and none for any other. -/
structure NettedPairs (ccpMemberId : Uuid) (cutOffTime : Timestamp) (db : Database)
    (result : CycleResult) (after : Database) (keys : List (Uuid × Uuid)) : Prop where
  distinct : keys.Nodup
  complete : ∀ k, k ∈ keys ↔ nettedQuantity db cutOffTime k ≠ 0
  obligations : ∃ rows, after.netObligations = db.netObligations ++ rows ∧
    List.Forall₂ (ObligationFor db cutOffTime result.cycleId) keys rows
  instructions : ∃ rows, after.settlementInstructions = db.settlementInstructions ++ rows ∧
    List.Forall₂ (InstructionFor db cutOffTime result.cycleId ccpMemberId) keys rows ∧
    rows.map SettlementInstruction.id = result.instructionIds
  counted : result.obligationCount = keys.length

/-- What a netting cycle is to do. -/
structure Specified (ccpMemberId : Uuid) (cycleType : NettingCycleType) (cutOffTime : Timestamp)
    (trace : TraceContext) (db : Database) (result : CycleResult) (after : Database) : Prop where
  legs : after.novatedTrades = db.novatedTrades.map fun leg =>
    { leg with
      status :=
        if leg.status = .open ∧ leg.novatedAt ≤ cutOffTime then .netted else leg.status }
  marked : result.tradesNetted = (openLegs db cutOffTime).length
  pairs : ∃ keys, NettedPairs ccpMemberId cutOffTime db result after keys
  events : ∃ announcement events, after.outboxEvents = db.outboxEvents ++ announcement :: events ∧
    Completes cycleType trace result announcement ∧
    List.Forall₂ (Announces result.cycleId trace) result.instructionIds events
  counts : result.instructionIds.length = result.obligationCount
  others : after =
    { db with
      nettingCycles := after.nettingCycles
      novatedTrades := after.novatedTrades
      netObligations := after.netObligations
      settlementInstructions := after.settlementInstructions
      stateTransitions := after.stateTransitions
      outboxEvents := after.outboxEvents
      nextUuid := after.nextUuid }

/-- A cycle changes the status of the legs that it selects and nothing else of any leg. -/
theorem nettedIf_openBy (cutOffTime : Timestamp) (leg : NovatedTrade) :
    leg.nettedIf (fun leg => leg.OpenBy cutOffTime) =
      { leg with
        status :=
          if leg.status = .open ∧ leg.novatedAt ≤ cutOffTime then .netted else leg.status } := by
  rw [NovatedTrade.nettedIf]
  by_cases selected : leg.OpenBy cutOffTime
  · have both : leg.status = .open ∧ leg.novatedAt ≤ cutOffTime := selected
    simp only [selected, decide_true, if_true, both, and_self]
  · have neither : ¬(leg.status = .open ∧ leg.novatedAt ≤ cutOffTime) := selected
    simp only [selected, decide_false, Bool.false_eq_true, if_false, neither]

/-- The foreign keys of `novated_trades`. -/
def LegReferences (db : Database) : Prop :=
  ∀ leg ∈ db.novatedTrades, leg.memberId ∈ db.members.map Member.id ∧
    leg.instrumentId ∈ db.instruments.map Instrument.id

theorem quote_price {instrumentId : Uuid}
    (known : instrumentId ∈ db.instruments.map Instrument.id) :
    (quote db instrumentId).1 = nettingPrice db instrumentId := by
  obtain ⟨instrument, inside, named⟩ := List.mem_map.mp known
  obtain ⟨found, find⟩ := Option.isSome_iff_exists.mp
    (List.find?_isSome.mpr ⟨instrument, inside, by simpa using named⟩ :
      (db.instruments.find? fun instrument => instrument.id = instrumentId).isSome = true)
  rw [quote, find]
  rfl

theorem netQuantityAt_exactBackend (legs : List NovatedTrade) (k : Uuid × Uuid) :
    netQuantityAt exactBackend legs k = netTotal legs k := by
  rw [netTotal_eq]
  rfl

/-- The members and instruments that a cycle nets. -/
def nettedKeys (db : Database) (cutOffTime : Timestamp) : List (Uuid × Uuid) :=
  (obligationKeys exactBackend (quote db) (openLegs db cutOffTime)).filter fun k =>
    netQuantityAt exactBackend (openLegs db cutOffTime) k ≠ 0

theorem cycleObligations_exactBackend (db : Database) (cutOffTime : Timestamp) :
    cycleObligations exactBackend cutOffTime db =
      (nettedKeys db cutOffTime).map
        (obligationAt exactBackend (quote db) (openLegs db cutOffTime)) :=
  calculateNetObligations_eq

theorem mem_nettedKeys {cutOffTime : Timestamp} (k : Uuid × Uuid) :
    k ∈ nettedKeys db cutOffTime ↔ nettedQuantity db cutOffTime k ≠ 0 := by
  rw [nettedKeys, List.mem_filter, mem_obligationKeys, decide_eq_true_eq,
    netQuantityAt_exactBackend, nettedQuantity, and_iff_right_iff_imp]
  intro nonzero
  by_contra missing
  apply nonzero
  rw [netTotal, fiberSum, List.filter_eq_nil_iff.mpr]
  · rfl
  · intro leg inside same
    exact missing (List.mem_map.mpr ⟨leg, inside, of_decide_eq_true same⟩)

/-- The rows of a netted pair exist. -/
theorem known_of_mem_nettedKeys (references : LegReferences db) {cutOffTime : Timestamp}
    {k : Uuid × Uuid} (member : k ∈ nettedKeys db cutOffTime) :
    k.1 ∈ db.members.map Member.id ∧ k.2 ∈ db.instruments.map Instrument.id := by
  obtain ⟨leg, inside, rfl⟩ :=
    List.mem_map.mp ((mem_obligationKeys k).mp (List.mem_of_mem_filter member))
  exact references leg (mem_openLegs.mp inside).1

/-- The exact obligation of a netted pair. -/
theorem obligationAt_exactBackend (references : LegReferences db) {cutOffTime : Timestamp}
    {k : Uuid × Uuid} (member : k ∈ nettedKeys db cutOffTime) :
    (obligationAt exactBackend (quote db) (openLegs db cutOffTime) k).netQuantity =
        nettedQuantity db cutOffTime k ∧
      (obligationAt exactBackend (quote db) (openLegs db cutOffTime) k).netAmount =
        nettedAmount db cutOffTime k ∧
      (obligationAt exactBackend (quote db) (openLegs db cutOffTime) k).settlementAmount =
        |nettedAmount db cutOffTime k| := by
  have quantity : netQuantityAt exactBackend (openLegs db cutOffTime) k =
      nettedQuantity db cutOffTime k := netQuantityAt_exactBackend _ k
  have price := quote_price (known_of_mem_nettedKeys references member).2
  have amount : exactBackend.mul (netQuantityAt exactBackend (openLegs db cutOffTime) k)
      (quote db k.2).1 = nettedAmount db cutOffTime k := by
    rw [quantity, price]
    rfl
  refine ⟨quantity, amount, ?_⟩
  rw [obligationAt, amount]
  rfl

theorem Netted.pairs {ccpMemberId : Uuid} {cycleType : NettingCycleType} {cutOffTime : Timestamp}
    {trace : TraceContext} {result : CycleResult} (references : LegReferences db)
    (netted : Netted exactBackend ccpMemberId cycleType cutOffTime trace db result after) :
    NettedPairs ccpMemberId cutOffTime db result after (nettedKeys db cutOffTime) := by
  obtain ⟨obliged, instructed, announcement, events, obliges, instructs, named, -, -, written⟩ :=
    netted.rows
  rw [cycleObligations_exactBackend, List.forall₂_map_left_iff] at obliges instructs
  have exact_of := fun k (member : k ∈ nettedKeys db cutOffTime) =>
    obligationAt_exactBackend references member
  refine ⟨nodup_obligationKeys.filter _, mem_nettedKeys, ⟨obliged, by rw [written], ?_⟩,
    ⟨instructed, by rw [written], ?_, named⟩, ?_⟩
  · refine ((List.forall₂_and_left _ _).mpr ⟨exact_of, obliges⟩).imp ?_
    rintro k row ⟨⟨quantity, amount, settled⟩, oblige⟩
    refine ⟨oblige.nettingCycle, Prod.ext oblige.member oblige.instrument, ?_, ?_, ?_⟩
    · exact (Option.some.inj oblige.netQuantity).symm.trans quantity
    · exact (Option.some.inj oblige.netAmount).symm.trans amount
    · exact (Option.some.inj oblige.settlementAmount).symm.trans settled
  · refine ((List.forall₂_and_left _ _).mpr ⟨exact_of, instructs⟩).imp ?_
    rintro k row ⟨⟨quantity, amount, settled⟩, instruct⟩
    have parties : (row.fromMemberId, row.toMemberId) = settlementParties
        (obligationAt exactBackend (quote db) (openLegs db cutOffTime) k) ccpMemberId :=
      Prod.ext instruct.fromMember instruct.toMember
    rw [settlementParties, amount] at parties
    refine ⟨instruct.nettingCycle, instruct.instrument, parties, ?_, ?_, instruct.status⟩
    · rw [← quantity]
      exact (Option.some.inj instruct.quantity).symm
    · exact (Option.some.inj instruct.amount).symm.trans settled
  · rw [netted.obligations, cycleObligations_exactBackend, List.length_map]

/-- In exact arithmetic a cycle that nobody interrupts does what is specified, from every database
with a house member, and commits. -/
theorem runNettingCycle_specified {db : Database} {ccp : Member} (house : findCcp db = some ccp)
    (references : LegReferences db) (cycleType : NettingCycleType) (cutOffTime : Timestamp)
    (trace : TraceContext) :
    ∃ result after,
      runNettingCycle exactBackend cycleType cutOffTime trace db = .ok (result, after) ∧
        (server exactBackend).deferred db after = .ok () ∧
        Specified ccp.id cycleType cutOffTime trace db result after := by
  have known : ∀ obligation ∈ cycleObligations exactBackend cutOffTime db,
      Referenced db obligation := by
    intro obligation member
    rw [cycleObligations_exactBackend] at member
    obtain ⟨k, inside, rfl⟩ := List.mem_map.mp member
    obtain ⟨listed, traded⟩ := known_of_mem_nettedKeys references inside
    exact ⟨listed, traded⟩
  obtain ⟨result, after, ran, netted⟩ := runNettingCycle_returns house cycleType cutOffTime trace
    known fun _ _ => ⟨rfl, rfl, rfl, rfl⟩
  obtain ⟨obliged, instructed, announcement, events, -, instructs, named, completes, announces,
    written⟩ := netted.rows
  refine ⟨result, after, ran, accepted_of_same (by rw [written]), ?_⟩
  refine ⟨?_, netted.legs, ⟨_, netted.pairs references⟩,
    ⟨announcement, events, by rw [written], completes, announces⟩, ?_, ?_⟩
  · rw [written]
    exact List.map_congr_left fun leg _ => nettedIf_openBy cutOffTime leg
  · rw [← named, List.length_map, netted.obligations, instructs.length_eq]
  · rw [written]

/-- The trade of `oneTradeNovated`, once its instrument has a price. -/
def oneTradePriced : Database := { oneTradeNovated with priceFeeds := [⟨3, 11, 2⟩] }

theorem runNettingCycle_specified_oneTradePriced :
    ∃ result after, runNettingCycle exactBackend .manual 5 oneTradeTrace oneTradePriced =
        .ok (result, after) ∧
      (server exactBackend).deferred oneTradePriced after = .ok () ∧
      Specified 0 .manual 5 oneTradeTrace oneTradePriced result after := by
  have house : findCcp oneTradePriced = some ⟨0, ccpLei, .active, 0⟩ := by decide +kernel
  exact runNettingCycle_specified house (by unfold LegReferences; decide +kernel) .manual 5
    oneTradeTrace

end Netting

end ClearingHouse
