import ClearingHouse.Novation

/-!
# What novations and rejections write

A novation turns its trade to `novated`, appends a buy and a sell leg with the same terms, three
records and one event.  A rejection turns its trade to `rejected` and appends one record and one
event.  Neither looks at the status again once the guard has passed.
-/

namespace ClearingHouse

namespace Novation

open Transactions Transactions.Transaction

/-- Trades, legs, records and events are as before, and identifiers only go up. -/
structure Unnoted (db after : Database) : Prop where
  trades : after.trades = db.trades
  legs : after.novatedTrades = db.novatedTrades
  transitions : after.stateTransitions = db.stateTransitions
  events : after.outboxEvents = db.outboxEvents
  now : after.now = db.now
  uuids : db.nextUuid ≤ after.nextUuid

instance : Std.Refl Unnoted := ⟨fun _ => ⟨rfl, rfl, rfl, rfl, rfl, le_rfl⟩⟩

instance : IsTrans Database Unnoted where
  trans _ _ _ first second :=
    ⟨second.trades.trans first.trades, second.legs.trans first.legs,
      second.transitions.trans first.transitions, second.events.trans first.events,
      second.now.trans first.now, first.uuids.trans second.uuids⟩

variable {backend : Backend} {tradeId : Uuid} {data : TradeData} {trace : TraceContext}
  {db after : Database}

theorem unnoted_uuid4 : Respects Unnoted uuid4 := by
  intro db value after ran
  cases ran
  exact ⟨rfl, rfl, rfl, rfl, rfl, Nat.le_succ _⟩

theorem unnoted_insertJournal (journalId : Uuid) (journalType : JournalType)
    (referenceType : String) (referenceId : Option Uuid) :
    Respects Unnoted (insertJournal backend journalId journalType referenceType referenceId) :=
  respects_bind (respects_require _ _) fun _ =>
    respects_write fun _ => ⟨rfl, rfl, rfl, rfl, rfl, le_rfl⟩

theorem unnoted_insertJournalEntry (journalId accountId : Uuid) (debit credit : ℚ) :
    Respects Unnoted (insertJournalEntry backend journalId accountId debit credit) := by
  intro db value after ran
  obtain ⟨_, _, -, -, -, -, -, rfl⟩ := insertJournalEntry_eq_ok.mp ran
  exact ⟨rfl, rfl, rfl, rfl, rfl, le_rfl⟩

theorem unnoted_fetchMarginRate (instrumentId : Uuid) :
    Respects Unnoted (fetchMarginRate instrumentId) := by
  refine respects_bind respects_read fun db => ?_
  split
  · exact respects_pure _
  · exact respects_raise _

theorem unnoted_requireAccount (memberId : Uuid) (accountType : AccountType) (pool : Pool)
    (poolName : String) :
    Respects Unnoted (requireAccount memberId accountType pool poolName) := by
  refine respects_bind respects_read fun db => ?_
  split
  · exact respects_pure _
  · exact respects_raise _

theorem unnoted_lockMargin (memberId novatedTradeId : Uuid) (amount : ℚ) :
    Respects Unnoted (lockMargin backend memberId novatedTradeId amount) :=
  respects_bind (unnoted_requireAccount ..) fun _ =>
    respects_bind (unnoted_requireAccount ..) fun _ => respects_bind unnoted_uuid4 fun _ =>
      respects_bind (unnoted_insertJournal ..) fun _ =>
        respects_bind (unnoted_insertJournalEntry ..) fun _ => unnoted_insertJournalEntry ..

/-- The leg of one side of a trade. -/
def legOf (tradeId : Uuid) (data : TradeData) (side : Side) (memberId id : Uuid)
    (quantity price : ℚ) (novatedAt : Timestamp) : NovatedTrade where
  id := id
  originalTradeId := tradeId
  memberId := memberId
  instrumentId := data.instrumentId
  side := side
  quantity := quantity
  price := price
  status := .open
  novatedAt := novatedAt

theorem createNovatedTrade_apply {side : Side} {memberId id : Uuid}
    (ran : createNovatedTrade backend tradeId data side memberId db = .ok (id, after)) :
    ∃ quantity price, backend.store data.quantity = some quantity ∧
      backend.store data.price = some price ∧ id = db.nextUuid ∧
      after =
        { db with
          nextUuid := db.nextUuid + 1
          novatedTrades := db.novatedTrades ++
            [legOf tradeId data side memberId db.nextUuid quantity price db.now] } := by
  simp only [createNovatedTrade, uuid4, requireMember, bind_eq_ok, castNumeric_eq_ok,
    require_eq_ok, write_apply, read_apply, pure_apply, Except.ok.injEq, Prod.mk.injEq] at ran
  obtain ⟨quantity, _, ⟨quantity_stored, rfl⟩, price, _, ⟨price_stored, rfl⟩, _, _, ⟨rfl, rfl⟩, -,
    _, ⟨-, rfl⟩, -, _, ⟨_, _, ⟨rfl, rfl⟩, -, rfl⟩, -, _, ⟨-, rfl⟩, _, _,
    ⟨_, _, ⟨rfl, rfl⟩, -, _, ⟨-, rfl⟩, rfl, rfl⟩, -, _, ⟨-, rfl⟩, rfl, rfl⟩ := ran
  exact ⟨quantity, price, quantity_stored, price_stored, rfl, rfl⟩

/-- Status of a trade after an update of one trade. -/
def withStatus (tradeId : Uuid) (status : TradeStatus) (trade : Trade) : Trade :=
  if trade.id = tradeId then { trade with status } else trade

/-- Entity and new status of a record. -/
def recorded (record : StateTransition) : StateEntityType × Uuid × EntityStatus :=
  (record.entityType, record.entityId, record.toStatus)

/-- Aggregate and type of an event. -/
def announced (event : OutboxEvent) : Uuid × String := (event.aggregateId, event.eventType)

/-- The novation of a trade into two legs. -/
structure Novates (backend : Backend) (tradeId : Uuid) (data : TradeData) (ids : Uuid × Uuid)
    (db after : Database) : Prop where
  trades : after.trades = db.trades.map (withStatus tradeId .novated)
  legs : ∃ quantity price, backend.store data.quantity = some quantity ∧
    backend.store data.price = some price ∧
    after.novatedTrades = db.novatedTrades ++
      [legOf tradeId data .buy data.buyerMemberId ids.1 quantity price db.now,
        legOf tradeId data .sell data.sellerMemberId ids.2 quantity price db.now]
  fresh : db.nextUuid ≤ ids.1
  apart : ids.1 < ids.2
  uuids : ids.2 < after.nextUuid
  transitions : ∃ records, after.stateTransitions = db.stateTransitions ++ records ∧
    records.map recorded =
      [(.trade, tradeId, .trade .novated), (.novatedTrade, ids.1, .novatedTrade .open),
        (.novatedTrade, ids.2, .novatedTrade .open)]
  events : ∃ event, after.outboxEvents = db.outboxEvents ++ [event] ∧
    announced event = (tradeId, "trade.novated")

theorem insertOutboxEvent_appends {aggregateType : String} {aggregateId : Uuid}
    {eventType topic : String} {payload : Payload} {traceId : Option Uuid} {value : Uuid}
    (ran : insertOutboxEvent aggregateType aggregateId eventType topic payload traceId db =
      .ok (value, after)) :
    ∃ event, announced event = (aggregateId, eventType) ∧
      after =
        { db with nextUuid := db.nextUuid + 2, outboxEvents := db.outboxEvents ++ [event] } := by
  cases ran
  exact ⟨_, rfl, rfl⟩

theorem insertTransition_appends {entityType : StateEntityType} {entityId : Uuid}
    {fromStatus : Option EntityStatus} {toStatus : EntityStatus} {value : Unit}
    (ran : insertTransition entityType entityId fromStatus toStatus trace db =
      .ok (value, after)) :
    ∃ record, recorded record = (entityType, entityId, toStatus) ∧
      after = { db with stateTransitions := db.stateTransitions ++ [record] } := by
  cases ran
  exact ⟨_, rfl, rfl⟩

theorem novates_novateSubmitted {ids : Uuid × Uuid}
    (ran : novateSubmitted backend tradeId data trace db = .ok (ids, after)) :
    Novates backend tradeId data ids db after := by
  obtain ⟨⟨⟩, updated, update, ran⟩ := bind_eq_ok.mp ran
  cases update
  obtain ⟨buyerNovId, bought, buy, ran⟩ := bind_eq_ok.mp ran
  obtain ⟨quantity, price, quantity_stored, price_stored, rfl, rfl⟩ := createNovatedTrade_apply buy
  obtain ⟨sellerNovId, sold, sell, ran⟩ := bind_eq_ok.mp ran
  obtain ⟨quantity', price', stored, stored', rfl, rfl⟩ := createNovatedTrade_apply sell
  obtain rfl : quantity = quantity' := Option.some.inj (quantity_stored.symm.trans stored)
  obtain rfl : price = price' := Option.some.inj (price_stored.symm.trans stored')
  obtain ⟨marginRate, rated, rate, ran⟩ := bind_eq_ok.mp ran
  obtain ⟨⟨⟩, lockedBuyer, lockBuyer, ran⟩ := bind_eq_ok.mp ran
  obtain ⟨⟨⟩, lockedSeller, lockSeller, ran⟩ := bind_eq_ok.mp ran
  obtain ⟨⟨⟩, notedTrade, noteTrade, ran⟩ := bind_eq_ok.mp ran
  obtain ⟨⟨⟩, notedBuyer, noteBuyer, ran⟩ := bind_eq_ok.mp ran
  obtain ⟨⟨⟩, notedSeller, noteSeller, ran⟩ := bind_eq_ok.mp ran
  obtain ⟨eventId, announced, announce, done⟩ := bind_eq_ok.mp ran
  cases done
  obtain ⟨tradeRecord, trade_recorded, rfl⟩ := insertTransition_appends noteTrade
  obtain ⟨buyerRecord, buyer_recorded, rfl⟩ := insertTransition_appends noteBuyer
  obtain ⟨sellerRecord, seller_recorded, rfl⟩ := insertTransition_appends noteSeller
  obtain ⟨event, event_announced, rfl⟩ := insertOutboxEvent_appends announce
  have margin : Unnoted _ lockedSeller :=
    IsTrans.trans _ _ _ (unnoted_fetchMarginRate _ rate)
      (IsTrans.trans _ _ _ (unnoted_lockMargin _ _ _ lockBuyer)
        (unnoted_lockMargin _ _ _ lockSeller))
  have uuids : db.nextUuid + 1 + 1 ≤ lockedSeller.nextUuid := margin.uuids
  refine ⟨margin.trades, ⟨quantity, price, quantity_stored, price_stored, ?_⟩, le_rfl,
    Nat.lt_succ_self _, ?_, ⟨[tradeRecord, buyerRecord, sellerRecord], ?_, ?_⟩,
    ⟨event, ?_, event_announced⟩⟩
  · exact margin.legs.trans (by simp)
  · exact (Nat.lt_succ_self _).trans_le (uuids.trans (Nat.le_add_right _ 2))
  · simp [margin.transitions]
  · simp [trade_recorded, buyer_recorded, seller_recorded]
  · simp [margin.events]

/-- The guard reads that the trade is `submitted`. -/
theorem requireSubmitted_eq_ok {value : Unit}
    (ran : requireSubmitted tradeId db = .ok (value, after)) :
    (∃ trade, (db.trades.find? fun trade => trade.id = tradeId) = some trade ∧
      trade.status = .submitted) ∧ db = after := by
  rw [requireSubmitted, bind_of_ok (read_apply db)] at ran
  cases found : db.trades.find? fun trade => trade.id = tradeId with
  | none => simp [found, invalid] at ran
  | some trade =>
      rw [found] at ran
      by_cases submitted : trade.status = .submitted
      · simp only [submitted, if_true, pure_apply, Except.ok.injEq, Prod.mk.injEq] at ran
        exact ⟨⟨trade, rfl, submitted⟩, ran.2⟩
      · simp [submitted, invalid] at ran

/-- The rejection of a trade. -/
structure Rejects (tradeId : Uuid) (db after : Database) : Prop where
  trades : after.trades = db.trades.map (withStatus tradeId .rejected)
  legs : after.novatedTrades = db.novatedTrades
  uuids : db.nextUuid ≤ after.nextUuid
  transitions : ∃ record, after.stateTransitions = db.stateTransitions ++ [record] ∧
    recorded record = (.trade, tradeId, .trade .rejected)
  events : ∃ event, after.outboxEvents = db.outboxEvents ++ [event] ∧
    announced event = (tradeId, "trade.rejected")

theorem rejects_rejectTrade {reason : Text} {value : Unit}
    (ran : rejectTrade tradeId reason trace db = .ok (value, after)) :
    Rejects tradeId db after := by
  obtain ⟨⟨⟩, updated, update, ran⟩ := bind_eq_ok.mp ran
  cases update
  obtain ⟨⟨⟩, noted, note, ran⟩ := bind_eq_ok.mp ran
  obtain ⟨eventId, announced, announce, done⟩ := bind_eq_ok.mp ran
  cases done
  obtain ⟨record, record_recorded, rfl⟩ := insertTransition_appends note
  obtain ⟨event, event_announced, rfl⟩ := insertOutboxEvent_appends announce
  exact ⟨rfl, rfl, Nat.le_add_right _ 2, ⟨record, rfl, record_recorded⟩,
    ⟨event, rfl, event_announced⟩⟩

end Novation

end ClearingHouse
