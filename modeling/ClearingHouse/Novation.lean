import ClearingHouse.Statements

/-!
# Novation

Validation of a trade, its novation into a buy and a sell leg against the house with the margin of
both members locked, and the handler that rejects a trade whose processing fails.
-/

namespace ClearingHouse

namespace Novation

open Transactions
open Transactions.Session (execute transaction attempt)

/-- Deserialized trade payload. -/
structure TradeData where
  tradeId : Uuid
  buyerMemberId : Uuid
  sellerMemberId : Uuid
  instrumentId : Uuid
  quantity : ℚ
  price : ℚ
  deriving DecidableEq, Repr

/-- Raise `ValidationError`. -/
def invalid {α : Type} (message : Text) : Sql α := raise (.raised .validationError message)

/-- `_verify_member_active`. -/
def verifyMemberActive (memberId : Uuid) (role : String) : Sql Unit := do
  let db ← read
  match db.members.find? fun member => member.id = memberId with
  | none =>
      invalid [.literal "Member ", .literal role, .literal " ", .uuid memberId,
        .literal " not found"]
  | some member =>
      if member.status = .active then pure ()
      else
        invalid [.literal "Member ", .literal role, .literal " ", .uuid memberId,
          .literal " status is '", .literal member.status.value,
          .literal "', expected 'active'"]

/-- `_verify_instrument_active`. -/
def verifyInstrumentActive (instrumentId : Uuid) : Sql Unit := do
  let db ← read
  match db.instruments.find? fun instrument => instrument.id = instrumentId with
  | none => invalid [.literal "Instrument ", .uuid instrumentId, .literal " not found"]
  | some instrument =>
      if instrument.isActive then pure ()
      else invalid [.literal "Instrument ", .uuid instrumentId, .literal " is not active"]

/-- `validate_trade`; the terms are checked before any statement runs. -/
def validateTrade (backend : Backend) (data : TradeData) : Session Database Failure Unit := do
  Session.require (data.buyerMemberId ≠ data.sellerMemberId)
    (.raised .validationError [.literal "Buyer and seller must be different members"])
  Session.require (0 < data.quantity)
    (.raised .validationError
      [.literal "Quantity must be positive, got ", .decimal data.quantity])
  Session.require (0 < data.price)
    (.raised .validationError [.literal "Price must be positive, got ", .decimal data.price])
  execute (server backend) (verifyMemberActive data.buyerMemberId "buyer")
  execute (server backend) (verifyMemberActive data.sellerMemberId "seller")
  execute (server backend) (verifyInstrumentActive data.instrumentId)

/-- `_create_novated_trade`. -/
def createNovatedTrade (backend : Backend) (tradeId : Uuid) (data : TradeData) (side : Side)
    (memberId : Uuid) : Sql Uuid := do
  let quantity ← castNumeric backend data.quantity
  let price ← castNumeric backend data.price
  let db ← read
  require (tradeId ∈ db.trades.map Trade.id)
    (.server (.foreignKeyViolation "novated_trades_original_trade_id_fkey"))
  requireMember memberId "novated_trades_member_id_fkey"
  require (data.instrumentId ∈ db.instruments.map Instrument.id)
    (.server (.foreignKeyViolation "novated_trades_instrument_id_fkey"))
  let id ← uuid4
  write fun db =>
    { db with
      novatedTrades := db.novatedTrades ++
        [{ id, originalTradeId := tradeId, memberId, instrumentId := data.instrumentId, side
           quantity, price, status := .open, novatedAt := db.now }] }
  pure id

/-- `_fetch_margin_rate`; without the instrument `fetchone()` is `None`, and indexing it raises. -/
def fetchMarginRate (instrumentId : Uuid) : Sql ℚ := do
  let db ← read
  match db.instruments.find? fun instrument => instrument.id = instrumentId with
  | some instrument => pure instrument.marginRateIm
  | none => raise (.raised .typeError [.literal "'NoneType' object is not subscriptable"])

/-- `_find_account`. -/
def requireAccount (memberId : Uuid) (accountType : AccountType) (pool : Pool)
    (poolName : String) : Sql Account := do
  let db ← read
  match findAccount db memberId accountType pool with
  | some account => pure account
  | none =>
      invalid [.literal "No ", .literal accountType.value, .literal " ", .literal poolName,
        .literal " account for member ", .uuid memberId]

/-- `_lock_margin`. -/
def lockMargin (backend : Backend) (memberId novatedTradeId : Uuid) (amount : ℚ) : Sql Unit := do
  let available ← requireAccount memberId .marginIm .available "AVAILABLE"
  let locked ← requireAccount memberId .marginIm .locked "LOCKED"
  let journalId ← uuid4
  insertJournal backend journalId .marginCall "novated_trade" (some novatedTradeId)
  insertJournalEntry backend journalId available.id amount 0
  insertJournalEntry backend journalId locked.id 0 amount

/-- `_insert_state_transition`. -/
def insertTransition (entityType : StateEntityType) (entityId : Uuid)
    (fromStatus : Option EntityStatus) (toStatus : EntityStatus) (trace : TraceContext) :
    Sql Unit :=
  insertStateTransition
    { entityType, entityId, fromStatus, toStatus
      reason := none
      transitionedBy := "trade-ingestion:" ++ trace.actor
      traceId := some trace.traceId
      actor := some trace.actor }

/-- The guard of `novate_trade`: the trade exists and is `submitted`. -/
def requireSubmitted (tradeId : Uuid) : Sql Unit := do
  let db ← read
  match db.trades.find? fun trade => trade.id = tradeId with
  | none => invalid [.literal "Trade ", .uuid tradeId, .literal " not found"]
  | some trade =>
      if trade.status = .submitted then pure ()
      else
        invalid [.literal "Trade ", .uuid tradeId, .literal " cannot be novated: status is '",
          .literal trade.status.value, .literal "', expected 'submitted'"]

/-- `UPDATE trades SET status = ... WHERE id = ...`. -/
def setTradeStatus (tradeId : Uuid) (status : TradeStatus) : Sql Unit :=
  write fun db =>
    { db with
      trades := db.trades.map fun trade =>
        if trade.id = tradeId then { trade with status } else trade }

/-- `novate_trade` after its guard. -/
def novateSubmitted (backend : Backend) (tradeId : Uuid) (data : TradeData)
    (trace : TraceContext) : Sql (Uuid × Uuid) := do
  setTradeStatus tradeId .novated
  let buyerNovId ← createNovatedTrade backend tradeId data .buy data.buyerMemberId
  let sellerNovId ← createNovatedTrade backend tradeId data .sell data.sellerMemberId
  let marginRate ← fetchMarginRate data.instrumentId
  let marginAmount := backend.mul (backend.mul data.quantity data.price) marginRate
  lockMargin backend data.buyerMemberId buyerNovId marginAmount
  lockMargin backend data.sellerMemberId sellerNovId marginAmount
  insertTransition .trade tradeId (some (.trade .submitted)) (.trade .novated) trace
  insertTransition .novatedTrade buyerNovId none (.novatedTrade .open) trace
  insertTransition .novatedTrade sellerNovId none (.novatedTrade .open) trace
  let _ ← insertOutboxEvent "trade" tradeId "trade.novated" "trades.novated"
    [("trade_id", .uuid tradeId), ("buyer_novated_id", .uuid buyerNovId),
      ("seller_novated_id", .uuid sellerNovId), ("actor", .literal trace.actor)]
    (some trace.traceId)
  pure (buyerNovId, sellerNovId)

/-- `novate_trade`. -/
def novateTrade (backend : Backend) (tradeId : Uuid) (data : TradeData) (trace : TraceContext) :
    Sql (Uuid × Uuid) := do
  requireSubmitted tradeId
  novateSubmitted backend tradeId data trace

/-- `_reject_trade`, inside its transaction block. -/
def rejectTrade (tradeId : Uuid) (reason : Text) (trace : TraceContext) : Sql Unit := do
  setTradeStatus tradeId .rejected
  insertTransition .trade tradeId (some (.trade .submitted)) (.trade .rejected) trace
  let _ ← insertOutboxEvent "trade" tradeId "trade.rejected" "trades.rejected"
    [("trade_id", .uuid tradeId), ("reason", .string reason)] (some trace.traceId)

/-- `process_trade` with the trace of its caller or a new one of the service: every exception of
validation or novation leads to the rejection. -/
def processTrade (backend : Backend) (data : TradeData) (trace : TraceContext) :
    Session Database Failure Unit :=
  attempt
    (do
      validateTrade backend data
      let _ ← transaction (server backend) (novateTrade backend data.tradeId data trace))
    fun failure =>
      transaction (server backend) (rejectTrade data.tradeId failure.message trace)

section Respects

open Transaction

variable {backend : Backend} {relation : Database → Database → Prop} [Std.Refl relation]
  [IsTrans Database relation]

theorem respects_requireSubmitted (tradeId : Uuid) :
    Respects relation (requireSubmitted tradeId) := by
  refine respects_bind respects_read fun _ => ?_
  split
  · exact respects_raise _
  · exact respects_ite (respects_pure ()) (respects_raise _)

theorem respects_fetchMarginRate (instrumentId : Uuid) :
    Respects relation (fetchMarginRate instrumentId) := by
  refine respects_bind respects_read fun _ => ?_
  split
  · exact respects_pure _
  · exact respects_raise _

theorem respects_requireAccount (memberId : Uuid) (accountType : AccountType) (pool : Pool)
    (poolName : String) :
    Respects relation (requireAccount memberId accountType pool poolName) := by
  refine respects_bind respects_read fun _ => ?_
  split
  · exact respects_pure _
  · exact respects_raise _

theorem respects_lockMargin (admits : AdmitsPostings backend relation)
    (memberId novatedTradeId : Uuid) (amount : ℚ) :
    Respects relation (lockMargin backend memberId novatedTradeId amount) :=
  respects_bind (respects_requireAccount ..) fun _ =>
    respects_bind (respects_requireAccount ..) fun _ => respects_bind admits.uuid4 fun _ =>
      respects_bind (admits.journal ..) fun _ => respects_bind (admits.entry ..) fun _ =>
        admits.entry ..

/-- A novation also updates its trade, inserts the legs and announces them. -/
theorem respects_novateTrade {data : TradeData} {trace : TraceContext}
    (admits : AdmitsPostings backend relation)
    (status : ∀ tradeId status, Respects relation (setTradeStatus tradeId status))
    (leg : ∀ tradeId side memberId,
      Respects relation (createNovatedTrade backend tradeId data side memberId))
    (transition : ∀ entityType entityId fromStatus toStatus,
      entityType ∈ [StateEntityType.trade, .novatedTrade] →
        Respects relation (insertTransition entityType entityId fromStatus toStatus trace))
    (event : ∀ aggregateId eventType topic (payload : Payload),
      payload.get? "event_type" = none → Respects relation
        (insertOutboxEvent "trade" aggregateId eventType topic payload (some trace.traceId)))
    (tradeId : Uuid) : Respects relation (novateTrade backend tradeId data trace) :=
  respects_bind (respects_requireSubmitted _) fun _ => respects_bind (status _ _) fun _ =>
    respects_bind (leg ..) fun _ => respects_bind (leg ..) fun _ =>
      respects_bind (respects_fetchMarginRate _) fun _ =>
        respects_bind (respects_lockMargin admits ..) fun _ =>
          respects_bind (respects_lockMargin admits ..) fun _ =>
            respects_bind (transition _ _ _ _ (by simp)) fun _ =>
              respects_bind (transition _ _ _ _ (by simp)) fun _ =>
                respects_bind (transition _ _ _ _ (by simp)) fun _ =>
                  respects_bind (event _ _ _ _ rfl) fun _ => respects_pure _

theorem respects_rejectTrade {trace : TraceContext}
    (status : ∀ tradeId status, Respects relation (setTradeStatus tradeId status))
    (transition : ∀ entityType entityId fromStatus toStatus,
      entityType ∈ [StateEntityType.trade, .novatedTrade] →
        Respects relation (insertTransition entityType entityId fromStatus toStatus trace))
    (event : ∀ aggregateId eventType topic (payload : Payload),
      payload.get? "event_type" = none → Respects relation
        (insertOutboxEvent "trade" aggregateId eventType topic payload (some trace.traceId)))
    (tradeId : Uuid) (reason : Text) : Respects relation (rejectTrade tradeId reason trace) :=
  respects_bind (status _ _) fun _ => respects_bind (transition _ _ _ _ (by simp)) fun _ =>
    respects_bind (event _ _ _ _ rfl) fun _ => respects_pure _

end Respects

end Novation

end ClearingHouse
