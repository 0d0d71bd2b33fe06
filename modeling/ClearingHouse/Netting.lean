import ClearingHouse.Statements
import Mathlib.Data.List.MinMax

/-!
# Netting

A netting cycle reads the open legs up to a cut-off in one statement, prices them in a second, nets
them by member and instrument, stores the obligations with a settlement instruction each, and marks
the open legs up to the cut-off as netted in a later statement.
-/

namespace ClearingHouse

/-- `WHERE status = 'open' AND novated_at <= cut_off_time`. -/
def NovatedTrade.OpenBy (cutOffTime : Timestamp) (leg : NovatedTrade) : Prop :=
  leg.status = .open ∧ leg.novatedAt ≤ cutOffTime

instance (cutOffTime : Timestamp) (leg : NovatedTrade) : Decidable (leg.OpenBy cutOffTime) :=
  inferInstanceAs (Decidable (_ ∧ _))

/-- A leg with status `netted` if a condition selects it. -/
def NovatedTrade.nettedIf (selected : NovatedTrade → Bool) (leg : NovatedTrade) : NovatedTrade :=
  if selected leg then { leg with status := .netted } else leg

@[simp] theorem NovatedTrade.nettedIf_id (selected : NovatedTrade → Bool) (leg : NovatedTrade) :
    (leg.nettedIf selected).id = leg.id := by
  rw [NovatedTrade.nettedIf]
  split <;> rfl

@[simp] theorem NovatedTrade.nettedIf_originalTradeId (selected : NovatedTrade → Bool)
    (leg : NovatedTrade) : (leg.nettedIf selected).originalTradeId = leg.originalTradeId := by
  rw [NovatedTrade.nettedIf]
  split <;> rfl

namespace Netting

open Fibers Transactions

/-- A position: a row of the grouped query, and the two keys that the pricing adds. -/
structure Position where
  memberId : Uuid
  instrumentId : Uuid
  side : Side
  totalQuantity : ℚ
  totalValue : ℚ
  latestPrice : Option ℚ
  settlementType : Option SettlementType
  deriving DecidableEq, Repr

/-- The legs that a statement with a cut-off selects. -/
def openLegs (db : Database) (cutOffTime : Timestamp) : List NovatedTrade :=
  db.novatedTrades.filter fun leg => leg.OpenBy cutOffTime

/-- `GROUP BY member_id, instrument_id, side`. -/
def groupKey (leg : NovatedTrade) : Uuid × Uuid × Side := (leg.memberId, leg.instrumentId, leg.side)

/-- Rows of the grouped query over the selected legs; the query states no order. -/
def groupPositions (legs : List NovatedTrade) : List Position :=
  (legs.map groupKey).dedup.map fun key =>
    { memberId := key.1
      instrumentId := key.2.1
      side := key.2.2
      totalQuantity := fiberSum groupKey NovatedTrade.quantity legs key
      totalValue := fiberSum groupKey (fun leg => leg.quantity * leg.price) legs key
      latestPrice := none
      settlementType := none }

/-- `_fetch_open_positions`. -/
def fetchOpenPositions (cutOffTime : Timestamp) : Sql (List Position) := do
  let db ← read
  pure (groupPositions (openLegs db cutOffTime))

/-- `ORDER BY received_at DESC LIMIT 1`. -/
def latestFeed (db : Database) (instrumentId : Uuid) : Option PriceFeed :=
  (db.priceFeeds.filter fun feed => feed.instrumentId = instrumentId).argmax PriceFeed.receivedAt

/-- Price and settlement type of an instrument; without a feed the price is zero, and without the
instrument it is zero in cash. -/
def quote (db : Database) (instrumentId : Uuid) : ℚ × SettlementType :=
  match db.instruments.find? fun instrument => instrument.id = instrumentId with
  | some instrument =>
      (((latestFeed db instrumentId).map PriceFeed.price).getD 0, instrument.settlementType)
  | none => (0, .cash)

/-- Add price and settlement type to a position. -/
def Position.withQuote (quote : Uuid → ℚ × SettlementType) (position : Position) : Position :=
  { position with
    latestPrice := some (quote position.instrumentId).1
    settlementType := some (quote position.instrumentId).2 }

/-- `_enrich_with_prices`. -/
def enrichWithPrices (positions : List Position) : Sql (List Position) := do
  let db ← read
  pure (positions.map (Position.withQuote (quote db)))

/-- An entry of `grouped`. -/
structure Grouped where
  buyQty : ℚ
  sellQty : ℚ
  latestPrice : ℚ
  settlementType : SettlementType
  deriving DecidableEq, Repr

/-- The entry that a position of a new key starts. -/
def Grouped.start (position : Position) : Grouped where
  buyQty := 0
  sellQty := 0
  latestPrice := position.latestPrice.getD 0
  settlementType := position.settlementType.getD .cash

/-- Add a position to the entry of its key. -/
def Grouped.add (backend : Backend) (position : Position) (data : Grouped) : Grouped :=
  { data with
    buyQty :=
      if position.side = .buy then backend.add data.buyQty position.totalQuantity else data.buyQty
    sellQty :=
      if position.side = .buy then data.sellQty else backend.add data.sellQty position.totalQuantity
    latestPrice := position.latestPrice.getD data.latestPrice }

/-- Key of `grouped`. -/
def Position.key (position : Position) : Uuid × Uuid := (position.memberId, position.instrumentId)

/-- `grouped`. -/
def grouped (backend : Backend) (positions : List Position) : List ((Uuid × Uuid) × Grouped) :=
  collect Position.key Grouped.start (Grouped.add backend) positions

/-- A net obligation before it is stored. -/
structure Obligation where
  memberId : Uuid
  instrumentId : Uuid
  netQuantity : ℚ
  netAmount : ℚ
  settlementAmount : ℚ
  settlementType : SettlementType
  deriving DecidableEq, Repr

/-- The obligation of an entry; a net quantity of zero has none. -/
def obligationOf (backend : Backend) (entry : (Uuid × Uuid) × Grouped) : Option Obligation :=
  let netQty := backend.sub entry.2.buyQty entry.2.sellQty
  if netQty = 0 then none
  else
    let netAmount := backend.mul netQty entry.2.latestPrice
    some
      { memberId := entry.1.1
        instrumentId := entry.1.2
        netQuantity := netQty
        netAmount
        settlementAmount := backend.abs netAmount
        settlementType := entry.2.settlementType }

/-- `calculate_net_obligations`. -/
def calculateNetObligations (backend : Backend) (positions : List Position) : List Obligation :=
  (grouped backend positions).filterMap (obligationOf backend)

/-- `INSERT INTO net_obligations`. -/
def insertNetObligation (backend : Backend) (cycleId : Uuid) (obligation : Obligation) :
    Sql Unit := do
  let id ← uuid4
  let netQuantity ← castNumeric backend obligation.netQuantity
  let netAmount ← castNumeric backend obligation.netAmount
  let settlementAmount ← castNumeric backend obligation.settlementAmount
  let db ← read
  require (cycleId ∈ db.nettingCycles.map NettingCycle.id)
    (.server (.foreignKeyViolation "net_obligations_netting_cycle_id_fkey"))
  requireMember obligation.memberId "net_obligations_member_id_fkey"
  require (obligation.instrumentId ∈ db.instruments.map Instrument.id)
    (.server (.foreignKeyViolation "net_obligations_instrument_id_fkey"))
  write fun db =>
    { db with
      netObligations := db.netObligations ++
        [{ id, nettingCycleId := cycleId, memberId := obligation.memberId
           instrumentId := obligation.instrumentId, netQuantity, netAmount, settlementAmount }] }

/-- Payer and payee of an obligation. -/
def settlementParties (obligation : Obligation) (ccpMemberId : Uuid) : Uuid × Uuid :=
  if 0 < obligation.netAmount then (obligation.memberId, ccpMemberId)
  else (ccpMemberId, obligation.memberId)

/-- `INSERT INTO settlement_instructions`. -/
def insertInstruction (backend : Backend) (cycleId : Uuid) (obligation : Obligation)
    (ccpMemberId : Uuid) : Sql Uuid := do
  let id ← uuid4
  let parties := settlementParties obligation ccpMemberId
  let quantity ← castNumeric backend (backend.abs obligation.netQuantity)
  let amount ← castNumeric backend obligation.settlementAmount
  let db ← read
  require (cycleId ∈ db.nettingCycles.map NettingCycle.id)
    (.server (.foreignKeyViolation "settlement_instructions_netting_cycle_id_fkey"))
  requireMember parties.1 "settlement_instructions_from_member_id_fkey"
  requireMember parties.2 "settlement_instructions_to_member_id_fkey"
  require (obligation.instrumentId ∈ db.instruments.map Instrument.id)
    (.server (.foreignKeyViolation "settlement_instructions_instrument_id_fkey"))
  write fun db =>
    { db with
      settlementInstructions := db.settlementInstructions ++
        [{ id, settlementType := obligation.settlementType, nettingCycleId := some cycleId
           fromMemberId := parties.1, toMemberId := parties.2
           instrumentId := obligation.instrumentId, quantity, amount, chainId := none
           txHash := none, status := .pending, blockNumber := none, confirmations := 0 }] }
  pure id

/-- `_insert_obligations_and_instructions`. -/
def insertObligationsAndInstructions (backend : Backend) (cycleId : Uuid)
    (obligations : List Obligation) (ccpMemberId : Uuid) : Sql (List Uuid) :=
  obligations.mapM fun obligation => do
    insertNetObligation backend cycleId obligation
    insertInstruction backend cycleId obligation ccpMemberId

/-- `_get_ccp_member_id`. -/
def getCcpMemberId : Sql Uuid := do
  let db ← read
  match findCcp db with
  | some ccp => pure ccp.id
  | none =>
      raise (.raised .runtimeError [.literal "CCP House Account not found in members table"])

/-- `UPDATE novated_trades SET status = 'netted'` on the rows that a condition selects, with their
number. -/
def markLegs (selected : NovatedTrade → Bool) : Sql ℕ := do
  let db ← read
  write fun db =>
    { db with novatedTrades := db.novatedTrades.map (NovatedTrade.nettedIf selected) }
  pure (db.novatedTrades.countP selected)

/-- `_mark_trades_closed`. -/
def markTradesClosed (cutOffTime : Timestamp) : Sql ℕ :=
  markLegs fun leg => leg.OpenBy cutOffTime

/-- `_record_state_transition`, and the update of the status with it. -/
def advanceCycle (cycleId : Uuid) (fromStatus toStatus : NettingCycleStatus)
    (trace : TraceContext) : Sql Unit := do
  insertStateTransition
    { entityType := .nettingCycle
      entityId := cycleId
      fromStatus := some (.nettingCycle fromStatus)
      toStatus := .nettingCycle toStatus
      reason := none
      transitionedBy := "netting-engine:" ++ trace.actor
      traceId := some trace.traceId
      actor := some trace.actor }
  write fun db =>
    { db with
      nettingCycles := db.nettingCycles.map fun cycle =>
        if cycle.id = cycleId then { cycle with status := toStatus } else cycle }

/-- Insert the cycle and start its calculation. -/
def openCycle (cycleId : Uuid) (cycleType : NettingCycleType) (cutOffTime : Timestamp)
    (trace : TraceContext) : Sql Unit := do
  write fun db =>
    { db with
      nettingCycles := db.nettingCycles ++
        [{ id := cycleId, cycleType, status := .initiated, cutOffTime }] }
  advanceCycle cycleId .initiated .calculating trace

/-- Confirm the cycle and announce it with its instructions. -/
def closeCycle (cycleId : Uuid) (cycleType : NettingCycleType) (obligationCount tradesNetted : ℕ)
    (instructionIds : List Uuid) (trace : TraceContext) : Sql Unit := do
  advanceCycle cycleId .calculating .confirmed trace
  let _ ← insertOutboxEvent "netting_cycle" cycleId "netting.cycle.completed"
    "netting.cycle.completed"
    [("cycle_id", .uuid cycleId), ("cycle_type", .literal cycleType.value),
      ("obligation_count", .integer obligationCount), ("trades_netted", .integer tradesNetted)]
    (some trace.traceId)
  instructionIds.forM fun instructionId => do
    let _ ← insertOutboxEvent "settlement_instruction" instructionId
      "settlement.instruction.created" "settlement.instructions.created"
      [("instruction_id", .uuid instructionId), ("cycle_id", .uuid cycleId)] (some trace.traceId)

/-- What a netting cycle returns, its instructions in place of their number. -/
structure CycleResult where
  cycleId : Uuid
  obligationCount : ℕ
  instructionIds : List Uuid
  tradesNetted : ℕ
  deriving DecidableEq, Repr

/-- `run_netting_cycle` with the trace of its caller or a new one of the service, given how it
reads its priced positions and how it marks the legs. -/
def cycleWith (backend : Backend) (cycleType : NettingCycleType) (cutOffTime : Timestamp)
    (trace : TraceContext) (readPositions : Sql (List Position)) (mark : Sql ℕ) :
    Sql CycleResult := do
  let cycleId ← uuid4
  openCycle cycleId cycleType cutOffTime trace
  let ccpMemberId ← getCcpMemberId
  let positions ← readPositions
  let obligations := calculateNetObligations backend positions
  let instructionIds ← insertObligationsAndInstructions backend cycleId obligations ccpMemberId
  let tradesNetted ← mark
  closeCycle cycleId cycleType obligations.length tradesNetted instructionIds trace
  pure { cycleId, obligationCount := obligations.length, instructionIds, tradesNetted }

/-- `run_netting_cycle`, its statements run without interruption. -/
def runNettingCycle (backend : Backend) (cycleType : NettingCycleType) (cutOffTime : Timestamp)
    (trace : TraceContext) : Sql CycleResult :=
  cycleWith backend cycleType cutOffTime trace
    (do let positions ← fetchOpenPositions cutOffTime; enrichWithPrices positions)
    (markTradesClosed cutOffTime)

end Netting

end ClearingHouse
