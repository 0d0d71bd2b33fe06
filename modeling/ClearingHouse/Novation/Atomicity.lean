import ClearingHouse.Netting.Interleaving
import ClearingHouse.Novation.LockedMargin
import ClearingHouse.Novation.Session

/-!
# Atomicity of a trade

Whatever raises in a novation, the savepoint around it takes back all that its statements have
written before the rejection is noted.  So a call that returns has added all rows of a novation or
the two of a rejection, and has touched nothing else.
-/

namespace ClearingHouse

namespace Novation

open Transactions Transactions.Session
open Transaction (bind_eq_ok MayRaise)

variable {backend : Backend} {data : TradeData} {trace : TraceContext} {db after : Database}

/-- The journal that locks the margin of a leg. -/
def marginJournal (journalId legId : Uuid) : Journal where
  id := journalId
  journalType := .marginCall
  referenceType := "novated_trade"
  referenceId := some legId
  status := .confirmed

/-- Its entries. -/
def marginEntries (journalId : Uuid) (available locked : Account) (amount : ℚ) :
    List JournalEntry :=
  [⟨journalId, available.id, amount, 0⟩, ⟨journalId, locked.id, 0, amount⟩]

/-- The record that the service keeps of a transition. -/
def transitionRow (entityType : StateEntityType) (entityId : Uuid)
    (fromStatus : Option EntityStatus) (toStatus : EntityStatus) (trace : TraceContext) :
    StateTransition where
  entityType := entityType
  entityId := entityId
  fromStatus := fromStatus
  toStatus := toStatus
  reason := none
  transitionedBy := "trade-ingestion:" ++ trace.actor
  traceId := some trace.traceId
  actor := some trace.actor

/-- What a novation decides on its way: the stored terms and margin, the new identifiers, the
accounts of both members and the event. -/
structure NovationRows where
  quantity : ℚ
  price : ℚ
  amount : ℚ
  buyerLeg : Uuid
  sellerLeg : Uuid
  buyerJournal : Uuid
  sellerJournal : Uuid
  buyerAvailable : Account
  buyerLocked : Account
  sellerAvailable : Account
  sellerLocked : Account
  event : OutboxEvent
  nextUuid : Uuid

/-- The database with the rows of a novation, and nothing else. -/
def NovationRows.added (rows : NovationRows) (data : TradeData) (trace : TraceContext)
    (db : Database) : Database :=
  { db with
    trades := db.trades.map (withStatus data.tradeId .novated)
    novatedTrades := db.novatedTrades ++
      [legOf data.tradeId data .buy data.buyerMemberId rows.buyerLeg rows.quantity rows.price
          db.now,
        legOf data.tradeId data .sell data.sellerMemberId rows.sellerLeg rows.quantity rows.price
          db.now]
    journals := db.journals ++
      [marginJournal rows.buyerJournal rows.buyerLeg,
        marginJournal rows.sellerJournal rows.sellerLeg]
    journalEntries := db.journalEntries ++
      (marginEntries rows.buyerJournal rows.buyerAvailable rows.buyerLocked rows.amount ++
        marginEntries rows.sellerJournal rows.sellerAvailable rows.sellerLocked rows.amount)
    stateTransitions := db.stateTransitions ++
      [transitionRow .trade data.tradeId (some (.trade .submitted)) (.trade .novated) trace,
        transitionRow .novatedTrade rows.buyerLeg none (.novatedTrade .open) trace,
        transitionRow .novatedTrade rows.sellerLeg none (.novatedTrade .open) trace]
    outboxEvents := db.outboxEvents ++ [rows.event]
    nextUuid := rows.nextUuid }

/-- An account of the initial margin of a member. -/
def MarginAccount (memberId : Uuid) (pool : Pool) (account : Account) : Prop :=
  account.memberId = memberId ∧ account.accountType = .marginIm ∧ account.pool = pool

/-- Exactly the rows of a novation are added.  The terms are those of the payload, as their columns
store them: as they are, if they have no more decimals than the columns. -/
structure Novated (backend : Backend) (data : TradeData) (trace : TraceContext)
    (db after : Database) (rows : NovationRows) : Prop where
  quantity : backend.store data.quantity = some rows.quantity ∧
    (data.quantity ∈ backend.grid → rows.quantity = data.quantity)
  price : backend.store data.price = some rows.price ∧
    (data.price ∈ backend.grid → rows.price = data.price)
  positive : 0 < rows.amount
  buyer : MarginAccount data.buyerMemberId .available rows.buyerAvailable ∧
    MarginAccount data.buyerMemberId .locked rows.buyerLocked
  seller : MarginAccount data.sellerMemberId .available rows.sellerAvailable ∧
    MarginAccount data.sellerMemberId .locked rows.sellerLocked
  fresh : db.nextUuid ≤ rows.buyerLeg ∧ rows.buyerLeg < rows.sellerLeg ∧
    rows.sellerLeg < rows.buyerJournal ∧ rows.buyerJournal < rows.sellerJournal
  event : announced rows.event = (data.tradeId, "trade.novated")
  added : after = rows.added data trace db

/-- Exactly the rows of a rejection are added. -/
structure Rejected (data : TradeData) (trace : TraceContext) (db after : Database) : Prop where
  rows : ∃ event, announced event = (data.tradeId, "trade.rejected") ∧
    after =
      { db with
        trades := db.trades.map (withStatus data.tradeId .rejected)
        stateTransitions := db.stateTransitions ++
          [transitionRow .trade data.tradeId (some (.trade .submitted)) (.trade .rejected) trace]
        outboxEvents := db.outboxEvents ++ [event]
        nextUuid := after.nextUuid }

theorem marginAccount_of_findAccount {memberId : Uuid} {pool : Pool} {account : Account}
    (found : findAccount db memberId .marginIm pool = some account) :
    MarginAccount memberId pool account := by
  simpa [findAccount, MarginAccount] using List.find?_some found

/-- The rows of locked margin. -/
theorem lockMargin_eq_ok {memberId legId : Uuid} {amount : ℚ}
    (ran : lockMargin backend memberId legId amount db = .ok ((), after)) :
    ∃ available locked stored, MarginAccount memberId .available available ∧
      MarginAccount memberId .locked locked ∧ backend.store amount = some stored ∧ 0 < stored ∧
      after =
        { db with
          journals := db.journals ++ [marginJournal db.nextUuid legId]
          journalEntries := db.journalEntries ++
            marginEntries db.nextUuid available locked stored
          nextUuid := db.nextUuid + 1 } := by
  obtain ⟨available, _, free, ran⟩ := bind_eq_ok.mp ran
  obtain ⟨free_found, rfl⟩ := requireAccount_eq_ok free
  obtain ⟨locked, _, held, ran⟩ := bind_eq_ok.mp ran
  obtain ⟨held_found, rfl⟩ := requireAccount_eq_ok held
  obtain ⟨journalId, numbered, number, ran⟩ := bind_eq_ok.mp ran
  cases number
  obtain ⟨⟨⟩, opened, journal, ran⟩ := bind_eq_ok.mp ran
  obtain ⟨-, rfl⟩ := insertJournal_eq_ok.mp journal
  obtain ⟨⟨⟩, given, debit, credit⟩ := bind_eq_ok.mp ran
  obtain ⟨stored, zero, stored_eq, zero_eq, sided, -, -, rfl⟩ := insertJournalEntry_eq_ok.mp debit
  obtain ⟨zero', stored', zero_eq', stored_eq', -, -, -, rfl⟩ := insertJournalEntry_eq_ok.mp credit
  rw [backend.store_zero, Option.some.injEq] at zero_eq zero_eq'
  rw [stored_eq, Option.some.injEq] at stored_eq'
  subst zero_eq zero_eq' stored_eq'
  have positive : 0 < stored := by
    rcases sided with ⟨positive, -⟩ | ⟨-, absurd_positive⟩
    · exact positive
    · exact absurd absurd_positive (lt_irrefl 0)
  exact ⟨available, locked, stored, marginAccount_of_findAccount free_found,
    marginAccount_of_findAccount held_found, stored_eq, positive, by simp [marginEntries]; rfl⟩

/-- The rows of a novation, its margin being the product of the terms and the rate. -/
theorem novated_at_rate {ids : Uuid × Uuid}
    (ran : novateTrade backend data.tradeId data trace db = .ok (ids, after)) :
    ∃ rows instrument, Novated backend data trace db after rows ∧
      (db.instruments.find? fun row => row.id = data.instrumentId) = some instrument ∧
      backend.store (backend.mul (backend.mul data.quantity data.price) instrument.marginRateIm) =
        some rows.amount := by
  obtain ⟨⟨⟩, guarded, guard, ran⟩ := bind_eq_ok.mp ran
  obtain ⟨-, rfl⟩ := requireSubmitted_eq_ok guard
  obtain ⟨⟨⟩, updated, update, ran⟩ := bind_eq_ok.mp ran
  cases update
  obtain ⟨buyerNovId, bought, buy, ran⟩ := bind_eq_ok.mp ran
  obtain ⟨quantity, price, quantity_stored, price_stored, rfl, rfl⟩ := createNovatedTrade_apply buy
  obtain ⟨sellerNovId, sold, sell, ran⟩ := bind_eq_ok.mp ran
  obtain ⟨quantity', price', stored, stored', rfl, rfl⟩ := createNovatedTrade_apply sell
  obtain rfl : quantity = quantity' := Option.some.inj (quantity_stored.symm.trans stored)
  obtain rfl : price = price' := Option.some.inj (price_stored.symm.trans stored')
  obtain ⟨marginRate, rated, rate, ran⟩ := bind_eq_ok.mp ran
  obtain ⟨instrument, instrument_found, rfl, rfl⟩ := fetchMarginRate_eq_ok rate
  obtain ⟨⟨⟩, lockedBuyer, lockBuyer, ran⟩ := bind_eq_ok.mp ran
  obtain ⟨buyerAvailable, buyerLocked, amount, buyer, buyer', amount_eq, positive, rfl⟩ :=
    lockMargin_eq_ok lockBuyer
  obtain ⟨⟨⟩, lockedSeller, lockSeller, ran⟩ := bind_eq_ok.mp ran
  obtain ⟨sellerAvailable, sellerLocked, amount', seller, seller', amount_eq', -, rfl⟩ :=
    lockMargin_eq_ok lockSeller
  obtain rfl : amount = amount' := Option.some.inj (amount_eq.symm.trans amount_eq')
  obtain ⟨⟨⟩, notedTrade, noteTrade, ran⟩ := bind_eq_ok.mp ran
  cases noteTrade
  obtain ⟨⟨⟩, notedBuyer, noteBuyer, ran⟩ := bind_eq_ok.mp ran
  cases noteBuyer
  obtain ⟨⟨⟩, notedSeller, noteSeller, ran⟩ := bind_eq_ok.mp ran
  cases noteSeller
  obtain ⟨eventId, published, announce, done⟩ := bind_eq_ok.mp ran
  cases done
  obtain ⟨event, event_announced, rfl⟩ := insertOutboxEvent_appends announce
  refine ⟨⟨quantity, price, amount, db.nextUuid, db.nextUuid + 1, db.nextUuid + 1 + 1,
    db.nextUuid + 1 + 1 + 1, buyerAvailable, buyerLocked, sellerAvailable, sellerLocked, event,
    db.nextUuid + 1 + 1 + 1 + 1 + 2⟩, instrument,
    ⟨⟨quantity_stored, fun exact_value => backend.store_of_mem exact_value quantity_stored⟩,
    ⟨price_stored, fun exact_value => backend.store_of_mem exact_value price_stored⟩, positive,
    ⟨buyer, buyer'⟩, ⟨seller, seller'⟩, ?_, event_announced, ?_⟩, instrument_found, amount_eq⟩
  · exact ⟨le_rfl, Nat.lt_succ_self _, Nat.lt_succ_self _, Nat.lt_succ_self _⟩
  · simp only [NovationRows.added, List.append_assoc, List.cons_append, List.nil_append]
    rfl

theorem novated_novateTrade {ids : Uuid × Uuid}
    (ran : novateTrade backend data.tradeId data trace db = .ok (ids, after)) :
    ∃ rows, Novated backend data trace db after rows := by
  obtain ⟨rows, -, novated, -⟩ := novated_at_rate ran
  exact ⟨rows, novated⟩

theorem rejected_rejectTrade {reason : Text}
    (ran : rejectTrade data.tradeId reason trace db = .ok ((), after)) :
    Rejected data trace db after := by
  obtain ⟨⟨⟩, updated, update, ran⟩ := bind_eq_ok.mp ran
  cases update
  obtain ⟨⟨⟩, noted, note, ran⟩ := bind_eq_ok.mp ran
  cases note
  obtain ⟨eventId, published, announce, done⟩ := bind_eq_ok.mp ran
  cases done
  obtain ⟨event, event_announced, rfl⟩ := insertOutboxEvent_appends announce
  exact ⟨event, event_announced, rfl⟩

/-- `process_trade` with a novation that may differ from the one of the source. -/
def processTradeWith (backend : Backend) (novation : Sql (Uuid × Uuid)) (data : TradeData)
    (trace : TraceContext) : Session Database Failure Unit :=
  attempt
    (do
      validateTrade backend data
      let _ ← transaction (server backend) novation)
    fun failure =>
      transaction (server backend) (rejectTrade data.tradeId failure.message trace)

theorem processTrade_eq (backend : Backend) (data : TradeData) (trace : TraceContext) :
    processTrade backend data trace =
      processTradeWith backend (novateTrade backend data.tradeId data trace) data trace := rfl

/-- A call novates the trade or rejects it. -/
def NovatedOrRejected (backend : Backend) (data : TradeData) (trace : TraceContext)
    (db after : Database) : Prop :=
  (∃ rows, Novated backend data trace db after rows) ∨ Rejected data trace db after

/-- What is uncommitted belongs to an open transaction. -/
def Consistent (connection : Connection Database) : Prop :=
  connection.status = .idle → connection.working = connection.committed

/-- A rejection that returns has written its rows, on top of what the transaction has. -/
theorem rejected_of_returned {reason : Text} {connection last : Connection Database}
    (consistent : Consistent connection)
    (ran : transaction (server backend) (rejectTrade data.tradeId reason trace) connection =
      (.ok (), last)) :
    Rejected data trace connection.working last.working := by
  obtain ⟨after, rejected, entries⟩ :=
    rejectTrade_ok data.tradeId reason trace connection.working
  cases status : connection.status with
  | inError => simp [transaction, status] at ran
  | inTransaction =>
      simp only [transaction, status, rejected, Prod.mk.injEq, true_and] at ran
      rw [← ran]
      exact rejected_rejectTrade rejected
  | idle =>
      have same := consistent status
      have accepted : (server backend).deferred connection.committed after = .ok () :=
        accepted_of_same (by rw [entries, same])
      rw [same] at rejected ⊢
      simp only [transaction, status, rejected, commit, accepted, reduceCtorEq, if_false,
        Prod.mk.injEq, true_and] at ran
      rw [← ran]
      exact rejected_rejectTrade rejected

/-- In an aborted transaction no terms are validated. -/
theorem validateTrade_inError (backend : Backend) (data : TradeData)
    {connection : Connection Database} (aborted : connection.status = .inError) :
    ∃ failure, validateTrade backend data connection = (.error failure, connection) := by
  have query : execute (server backend) (verifyMemberActive data.buyerMemberId "buyer")
      connection = (.error (server backend).inFailedTransaction, connection) := by
    rw [execute, if_pos aborted]
  have queries : ∃ failure,
      (do execute (server backend) (verifyMemberActive data.buyerMemberId "buyer")
          execute (server backend) (verifyMemberActive data.sellerMemberId "seller")
          execute (server backend) (verifyInstrumentActive data.instrumentId) :
        Session Database Failure Unit) connection = (.error failure, connection) :=
    ⟨_, bind_of_error query⟩
  rw [validateTrade]
  by_cases apart : data.buyerMemberId ≠ data.sellerMemberId
  · by_cases quantity : 0 < data.quantity
    · by_cases price : 0 < data.price
      · simp only [Session.require, if_pos apart, if_pos quantity, if_pos price]
        exact queries
      · simp only [Session.require, if_pos apart, if_pos quantity, if_neg price]
        exact ⟨_, rfl⟩
    · simp only [Session.require, if_pos apart, if_neg quantity]
      exact ⟨_, rfl⟩
  · simp only [Session.require, if_neg apart]
    exact ⟨_, rfl⟩

/-- Whichever statement of the novation raises, a call that returns has written a whole novation or
a whole rejection, and nothing else. -/
theorem processTrade_atomic {novation : Sql (Uuid × Uuid)} {connection last : Connection Database}
    (faults : MayRaise (novateTrade backend data.tradeId data trace) novation)
    (consistent : Consistent connection)
    (ran : processTradeWith backend novation data trace connection = (.ok (), last)) :
    NovatedOrRejected backend data trace connection.working last.working := by
  have refused : ∀ failure middle, Consistent middle → middle.working = connection.working →
      (do validateTrade backend data
          let _ ← transaction (server backend) novation :
            Session Database Failure Unit) connection = (.error failure, middle) →
        NovatedOrRejected backend data trace connection.working last.working := by
    intro failure middle sound same raised
    rw [processTradeWith, attempt_of_error raised] at ran
    rw [← same]
    exact .inr (rejected_of_returned sound ran)
  by_cases aborted : connection.status = .inError
  · obtain ⟨failure, raised⟩ := validateTrade_inError backend data aborted
    exact refused failure connection consistent rfl (bind_of_error raised)
  rcases validateTrade_cases backend data connection aborted with
    ⟨failure, raised⟩ | ⟨outcome, validated⟩
  · exact refused failure connection consistent rfl (bind_of_error raised)
  have opened : Consistent { connection with status := .inTransaction } := nofun
  cases outcome with
  | error failure => exact refused failure _ opened rfl (bind_of_error validated)
  | ok done =>
      have savepoint : ∀ failure, novation connection.working = .error failure →
          NovatedOrRejected backend data trace connection.working last.working := by
        intro failure raised
        refine refused failure _ opened rfl ((bind_of_ok validated).trans (bind_of_error ?_))
        simp [transaction, raised]
      rcases faults connection.working with same | ⟨failure, raised⟩
      · cases novated : novateTrade backend data.tradeId data trace connection.working with
        | error failure => exact savepoint failure (same.trans novated)
        | ok pair =>
            obtain ⟨ids, working⟩ := pair
            have block : transaction (server backend) novation
                { connection with status := .inTransaction } =
                  (.ok ids, { connection with working, status := .inTransaction }) := by
              simp [transaction, same, novated]
            rw [processTradeWith, attempt_of_ok ((bind_of_ok validated).trans
              ((bind_of_ok block).trans rfl)), Prod.mk.injEq] at ran
            rw [← ran.2]
            exact .inl (novated_novateTrade novated)
      · exact savepoint failure raised

/-- The novation of the trade of `oneTrade`, interrupted after its first leg. -/
def interruptedNovation : Sql (Uuid × Uuid) := do
  requireSubmitted 4
  setTradeStatus 4 .novated
  let _ ← createNovatedTrade decimalBackend 4 Netting.oneTradeData .buy 1
  raise (.server .numericValueOutOfRange)

theorem mayRaise_interruptedNovation :
    MayRaise (novateTrade decimalBackend 4 Netting.oneTradeData Netting.oneTradeTrace)
      interruptedNovation :=
  Transaction.mayRaise_bind (Transaction.mayRaise_refl _) fun _ =>
    Transaction.mayRaise_bind (Transaction.mayRaise_refl _) fun _ =>
      Transaction.mayRaise_bind (Transaction.mayRaise_refl _) fun _ =>
        Transaction.mayRaise_raise _ _

/-- A connection on which the transaction of a consumer is open. -/
def consuming (db : Database) : Connection Database :=
  { committed := db, working := db, status := .inTransaction, history := [] }

/-- The interrupted novation of `oneTrade` leaves a rejection; run to its end, it leaves two
legs. -/
theorem processTrade_atomic_oneTrade :
    (∃ last, processTradeWith decimalBackend interruptedNovation Netting.oneTradeData
        Netting.oneTradeTrace (consuming Netting.oneTrade) = (.ok (), last) ∧
      last.working.novatedTrades = [] ∧ NovatedOrRejected decimalBackend Netting.oneTradeData
        Netting.oneTradeTrace Netting.oneTrade last.working) ∧
      ∃ last, processTrade decimalBackend Netting.oneTradeData Netting.oneTradeTrace
          (consuming Netting.oneTrade) = (.ok (), last) ∧
        last.working.novatedTrades.length = 2 ∧ NovatedOrRejected decimalBackend
          Netting.oneTradeData Netting.oneTradeTrace Netting.oneTrade last.working := by
  have consistent : Consistent (consuming Netting.oneTrade) := nofun
  constructor
  · have facts : ((processTradeWith decimalBackend interruptedNovation Netting.oneTradeData
        Netting.oneTradeTrace (consuming Netting.oneTrade)).1.toOption = some ()) ∧
        (processTradeWith decimalBackend interruptedNovation Netting.oneTradeData
          Netting.oneTradeTrace (consuming Netting.oneTrade)).2.working.novatedTrades = [] := by
      decide +kernel
    have ran : processTradeWith decimalBackend interruptedNovation Netting.oneTradeData
        Netting.oneTradeTrace (consuming Netting.oneTrade) =
          (.ok (), (processTradeWith decimalBackend interruptedNovation Netting.oneTradeData
            Netting.oneTradeTrace (consuming Netting.oneTrade)).2) :=
      Prod.ext (accepted_of_toOption facts.1) rfl
    exact ⟨_, ran, facts.2, processTrade_atomic mayRaise_interruptedNovation consistent ran⟩
  · have facts : ((processTrade decimalBackend Netting.oneTradeData Netting.oneTradeTrace
        (consuming Netting.oneTrade)).1.toOption = some ()) ∧
        (processTrade decimalBackend Netting.oneTradeData Netting.oneTradeTrace
          (consuming Netting.oneTrade)).2.working.novatedTrades.length = 2 := by
      decide +kernel
    have ran : processTrade decimalBackend Netting.oneTradeData Netting.oneTradeTrace
        (consuming Netting.oneTrade) =
          (.ok (), (processTrade decimalBackend Netting.oneTradeData Netting.oneTradeTrace
            (consuming Netting.oneTrade)).2) :=
      Prod.ext (accepted_of_toOption facts.1) rfl
    exact ⟨_, ran, facts.2, processTrade_atomic (Transaction.mayRaise_refl _) consistent ran⟩

end Novation

end ClearingHouse
