import ClearingHouse.Events.Operations
import ClearingHouse.Ledger.Growth
import ClearingHouse.Margin.Runs
import ClearingHouse.Novation.LockedMargin
import ClearingHouse.Novation.Validation
import Mathlib.Logic.Relation

/-!
# Writes

The operations of the services change the tables by a few kinds of statements: rows are appended,
and some columns of the rows that are there are updated.  What may be appended to three of the
tables is left to an allowance.
-/

namespace ClearingHouse

open Relation StepSystem Transactions Transactions.Transaction

/-- Accounts that the services debit in journals of a type; a transfer of collateral debits an
account of the margin type that it is asked for. -/
def Debits (margin : AccountType → Prop) : JournalType → AccountType → Pool → Prop
  | .marginCall, accountType, pool => accountType = .marginIm ∧ pool = .available
  | .collateralDeposit, accountType, pool =>
      (accountType = .collateral ∨ margin accountType) ∧ pool = .available
  | .collateralWithdrawal, accountType, pool => accountType = .settlement ∧ pool = .available
  | .variationMargin, accountType, _ => accountType = .marginVm
  | .settlement, accountType, pool => accountType = .settlement ∧ pool = .available
  | .defaultFundContribution, accountType, pool => accountType = .defaultFund ∧ pool = .available
  | .defaultWaterfallStep, accountType, pool => accountType = .settlement ∧ pool = .available
  | _, _, _ => False

/-- Accounts that the services credit in journals of a type. -/
def Credits : JournalType → AccountType → Pool → Prop
  | .marginCall, accountType, pool => accountType = .marginIm ∧ pool = .locked
  | .collateralDeposit, accountType, pool =>
      (accountType = .settlement ∨ accountType = .collateral) ∧ pool = .available
  | .collateralWithdrawal, accountType, pool => accountType = .collateral ∧ pool = .available
  | .variationMargin, accountType, _ => accountType = .marginVm
  | .settlement, accountType, pool => accountType = .settlement ∧ pool = .available
  | .defaultFundContribution, accountType, pool => accountType = .ccpEquity ∧ pool = .available
  | .defaultWaterfallStep, _, pool => pool = .available
  | _, _, _ => False

/-- Amounts on an account in a journal of a type. -/
structure Charted (margin : AccountType → Prop) (journalType : JournalType) (account : Account)
    (debit credit : ℚ) : Prop where
  debited : debit ≠ 0 → Debits margin journalType account.accountType account.pool
  credited : credit ≠ 0 → Credits journalType account.accountType account.pool

theorem Charted.debit {margin : AccountType → Prop} {journalType : JournalType} {account : Account}
    {amount : ℚ} (debits : Debits margin journalType account.accountType account.pool) :
    Charted margin journalType account amount 0 :=
  ⟨fun _ => debits, fun none => absurd rfl none⟩

theorem Charted.credit {margin : AccountType → Prop} {journalType : JournalType}
    {account : Account} {amount : ℚ}
    (credits : Credits journalType account.accountType account.pool) :
    Charted margin journalType account 0 amount :=
  ⟨fun none => absurd rfl none, fun _ => credits⟩

/-- What may be added. -/
structure Allowance where
  journal : JournalType → Prop
  /-- Types of the accounts that collateral is transferred to. -/
  margin : AccountType → Prop
  trade : Trade → Prop
  leg : NovatedTrade → Prop
  /-- Amount of an instruction. -/
  instruction : ℚ → Prop
  /-- Default events. -/
  defaults : Prop

/-- Everything is allowed. -/
def Allowance.everything : Allowance :=
  ⟨fun _ => True, fun _ => True, fun _ => True, fun _ => True, fun _ => True, True⟩

/-- The payload of the submission of a trade. -/
structure Trade.Announced (trade : Trade) (event : Payload) : Prop where
  id : event.get? "trade_id" = some (.uuid trade.id)
  instrumentId : event.get? "instrument_id" = some (.uuid trade.instrumentId)
  buyer : event.get? "buyer_member_id" = some (.uuid trade.buyerMemberId)
  seller : event.get? "seller_member_id" = some (.uuid trade.sellerMemberId)
  quantity : event.get? "quantity" = some (.decimal trade.quantity)
  price : event.get? "price" = some (.decimal trade.price)

/-- An event as `insert_outbox_event` files it, with a payload that has no type of its own. -/
structure OutboxEvent.Filed (db : Database) (event : OutboxEvent) : Prop where
  numbered : event.id = db.nextUuid + 1
  identified : event.payload.get? "event_id" = some (.uuid db.nextUuid)
  untyped : event.payload.get? "event_type" = none
  unpublished : event.publishedAt = none
  created : event.createdAt = db.now
  announces : event.topic = "trades.submitted" → ∃ trade ∈ db.trades, trade.Announced event.payload

/-- One statement of a service. -/
inductive RowWrites (backend : Backend) (may : Allowance) (db : Database) : Database → Prop
  | uuid : RowWrites backend may db { db with nextUuid := db.nextUuid + 1 }
  | journal (journalType : JournalType) (referenceType : String) (referenceId : Option Uuid)
      (allowed : may.journal journalType) :
      RowWrites backend may db
        { db with
          nextUuid := db.nextUuid + 1
          journals := db.journals ++
            [⟨db.nextUuid, journalType, referenceType, referenceId, .confirmed⟩] }
  | journalEntry (entry : JournalEntry) (journal : Journal) (account : Account)
      (valid : entry.Valid backend db.accounts) (posted : journal ∈ db.journals)
      (own : journal.id = entry.journalId) (allowed : may.journal journal.journalType)
      (known : account ∈ db.accounts) (same : account.id = entry.accountId)
      (charted : Charted may.margin journal.journalType account entry.debit entry.credit) :
      RowWrites backend may db { db with journalEntries := db.journalEntries ++ [entry] }
  | stateTransition (transition : StateTransition) :
      RowWrites backend may db { db with stateTransitions := db.stateTransitions ++ [transition] }
  | outboxEvent (event : OutboxEvent) (filed : event.Filed db) :
      RowWrites backend may db
        { db with nextUuid := db.nextUuid + 2, outboxEvents := db.outboxEvents ++ [event] }
  | processedEvent (event : ProcessedEvent) :
      RowWrites backend may db { db with processedEvents := db.processedEvents ++ [event] }
  | trade (trade : Trade) (numbered : trade.id = db.nextUuid)
      (quantity : trade.quantity ∈ backend.grid) (price : trade.price ∈ backend.grid)
      (allowed : may.trade trade) :
      RowWrites backend may db
        { db with nextUuid := db.nextUuid + 1, trades := db.trades ++ [trade] }
  | tradeStatus (tradeId : Uuid) (status : TradeStatus) :
      RowWrites backend may db
        { db with
          trades := db.trades.map fun trade =>
            if trade.id = tradeId then { trade with status } else trade }
  | leg (leg : NovatedTrade) (allowed : may.leg leg) :
      RowWrites backend may db { db with novatedTrades := db.novatedTrades ++ [leg] }
  | netted (selected : NovatedTrade → Bool) :
      RowWrites backend may db
        { db with novatedTrades := db.novatedTrades.map (NovatedTrade.nettedIf selected) }
  | nettingCycle (cycle : NettingCycle) :
      RowWrites backend may db { db with nettingCycles := db.nettingCycles ++ [cycle] }
  | cycleStatus (cycleId : Uuid) (status : NettingCycleStatus) :
      RowWrites backend may db
        { db with
          nettingCycles := db.nettingCycles.map fun cycle =>
            if cycle.id = cycleId then { cycle with status } else cycle }
  | netObligation (obligation : NetObligation) :
      RowWrites backend may db { db with netObligations := db.netObligations ++ [obligation] }
  | instruction (instruction : SettlementInstruction)
      (allowed : may.instruction instruction.amount) :
      RowWrites backend may db
        { db with settlementInstructions := db.settlementInstructions ++ [instruction] }
  | progress (instructionId : Uuid) (change : SettlementInstruction → SettlementInstruction)
      (keeps : ∀ row, Settlement.terms (change row) = Settlement.terms row) :
      RowWrites backend may db
        { db with
          settlementInstructions := db.settlementInstructions.map fun row =>
            if row.id = instructionId then change row else row }
  | requirement (row : MarginRequirement) :
      RowWrites backend may db { db with marginRequirements := db.marginRequirements ++ [row] }
  | required (memberId instrumentId : Uuid) (marginType : MarginType) (required : ℚ) :
      RowWrites backend may db
        { db with
          marginRequirements := db.marginRequirements.map fun row =>
            if row.memberId = memberId ∧ row.instrumentId = instrumentId ∧
                row.marginType = marginType then
              { row with requiredAmount := required }
            else row }
  | marginCall (call : MarginCall) :
      RowWrites backend may db { db with marginCalls := db.marginCalls ++ [call] }
  | waterfallStep (step : WaterfallStep) (allowed : may.defaults) :
      RowWrites backend may db { db with waterfallSteps := db.waterfallSteps ++ [step] }
  | defaultEvent (event : DefaultEvent) (allowed : may.defaults) :
      RowWrites backend may db { db with defaultEvents := db.defaultEvents ++ [event] }
  | defaulted (memberId : Uuid) (allowed : may.defaults) (same_id : ∀ member : Member,
      (if member.id = memberId then { member with status := MemberStatus.defaulted }
        else member).id = member.id) :
      RowWrites backend may db
        (db.updateMembers
          (fun member =>
            if member.id = memberId then { member with status := .defaulted } else member)
          same_id)
  | resolved (eventId : Uuid) (status : DefaultEventStatus) (allowed : may.defaults) :
      RowWrites backend may db
        { db with
          defaultEvents := db.defaultEvents.map fun event =>
            if event.id = eventId then { event with status, resolvedAt := some db.now }
            else event }

/-- Some statements. -/
def Written (backend : Backend) (may : Allowance) : Database → Database → Prop :=
  ReflTransGen (RowWrites backend may)

variable {backend : Backend} {may : Allowance}

instance : Std.Refl (Written backend may) := ⟨fun _ => .refl⟩

instance : IsTrans Database (Written backend may) :=
  ⟨fun _ _ _ first second => ReflTransGen.trans first second⟩

/-- Code that consists of such statements. -/
abbrev Writable {α : Type} (backend : Backend) (may : Allowance) (code : Sql α) : Prop :=
  Respects (Written backend may) code

/-- A relation that every statement respects. -/
theorem related_of_written {relation : Database → Database → Prop} [Std.Refl relation]
    [IsTrans Database relation]
    (statement : ∀ db after, RowWrites backend may db after → relation db after)
    {db after : Database} (written : Written backend may db after) : relation db after := by
  induction written with
  | refl => exact refl db
  | tail _ step related => exact IsTrans.trans _ _ _ related (statement _ _ step)

theorem writable_write {change : Database → Database}
    (statement : ∀ db, RowWrites backend may db (change db)) :
    Writable backend may (write change : Sql Unit) :=
  respects_write fun db => .single (statement db)

/-! ## Shared statements -/

theorem writable_uuid4 : Writable backend may uuid4 :=
  respects_bind respects_read fun _ =>
    respects_bind (writable_write fun _ => .uuid) fun _ => respects_pure _

theorem accounts_of_written {db after : Database} (written : Written backend may db after) :
    after.accounts = db.accounts := by
  induction written with
  | refl => rfl
  | tail _ step same =>
      rw [← same]
      cases step <;> rfl

/-- The journal of an allowed type that an identifier names. -/
def Journaled (may : Allowance) (db : Database) (journalId : Uuid) (journalType : JournalType) :
    Prop :=
  may.journal journalType ∧
    ∃ journal ∈ db.journals, journal.id = journalId ∧ journal.journalType = journalType

/-- A journal gets a fresh identifier. -/
theorem written_newJournal {α : Type} {journalType : JournalType} {next : Uuid → Sql α}
    {referenceType : String} {referenceId : Option Uuid} {value : α} {db after : Database}
    (allowed : may.journal journalType)
    (ran : (do
      let journalId ← uuid4
      insertJournal backend journalId journalType referenceType referenceId
      next journalId) db = .ok (value, after))
    (rest : ∀ journalId journaled, Journaled may journaled journalId journalType →
      journaled.accounts = db.accounts → next journalId journaled = .ok (value, after) →
        Written backend may journaled after) : Written backend may db after := by
  obtain ⟨journalId, numbered, number, ran⟩ := bind_eq_ok.mp ran
  cases number
  obtain ⟨⟨⟩, journaled, insert, ran⟩ := bind_eq_ok.mp ran
  obtain ⟨-, rfl⟩ := insertJournal_eq_ok.mp insert
  have journals : Written backend may db _ :=
    .single (.journal journalType referenceType referenceId allowed)
  exact journals.trans
    (rest _ _ ⟨allowed, _, List.mem_append_right _ (List.mem_singleton_self _), rfl, rfl⟩ rfl ran)

theorem ne_zero_of_stored {amount stored : ℚ} (stores : backend.store amount = some stored)
    (nonzero : stored ≠ 0) : amount ≠ 0 := by
  rintro rfl
  exact nonzero (Option.some.inj (stores.symm.trans backend.store_zero))

theorem written_insertJournalEntry {journalId : Uuid} {journalType : JournalType}
    {account : Account} {debit credit : ℚ} {db after : Database}
    (journaled : Journaled may db journalId journalType) (known : account ∈ db.accounts)
    (charted : Charted may.margin journalType account debit credit)
    (ran : insertJournalEntry backend journalId account.id debit credit db = .ok ((), after)) :
    Written backend may db after ∧ Journaled may after journalId journalType := by
  obtain ⟨allowed, journal, posted, own, rfl⟩ := journaled
  obtain ⟨storedDebit, storedCredit, debits, credits, sided, -, listed, rfl⟩ :=
    insertJournalEntry_eq_ok.mp ran
  refine ⟨.single (.journalEntry _ journal account
    ⟨sided, backend.store_mem debits, backend.store_mem credits, listed⟩ posted own allowed known
    rfl ?_), allowed, journal, posted, own, rfl⟩
  exact ⟨fun nonzero => charted.debited (ne_zero_of_stored debits nonzero),
    fun nonzero => charted.credited (ne_zero_of_stored credits nonzero)⟩

/-- Two entries of a journal, and what follows. -/
theorem written_entries {α : Type} {journalId : Uuid} {journalType : JournalType}
    {first second : Account} {debit credit debit' credit' : ℚ} {rest : Sql α} {value : α}
    {db after : Database} (journaled : Journaled may db journalId journalType)
    (known : first ∈ db.accounts)
    (charted : Charted may.margin journalType first debit credit) (known' : second ∈ db.accounts)
    (charted' : Charted may.margin journalType second debit' credit')
    (goes_on : Writable backend may rest)
    (ran : (do
      insertJournalEntry backend journalId first.id debit credit
      insertJournalEntry backend journalId second.id debit' credit'
      rest) db = .ok (value, after)) : Written backend may db after := by
  obtain ⟨⟨⟩, middle, head, ran⟩ := bind_eq_ok.mp ran
  obtain ⟨⟨⟩, posted, tail, ran⟩ := bind_eq_ok.mp ran
  obtain ⟨begun, journaled⟩ := written_insertJournalEntry journaled known charted head
  have kept : middle.accounts = db.accounts := accounts_of_written begun
  obtain ⟨ended, -⟩ := written_insertJournalEntry journaled (kept ▸ known') charted' tail
  exact (begun.trans ended).trans (goes_on ran)

/-- Two entries of a journal. -/
theorem written_twoEntries {journalId : Uuid} {journalType : JournalType} {first second : Account}
    {debit credit debit' credit' : ℚ} {db after : Database}
    (journaled : Journaled may db journalId journalType) (known : first ∈ db.accounts)
    (charted : Charted may.margin journalType first debit credit) (known' : second ∈ db.accounts)
    (charted' : Charted may.margin journalType second debit' credit')
    (ran : (do
      insertJournalEntry backend journalId first.id debit credit
      insertJournalEntry backend journalId second.id debit' credit' : Sql Unit) db =
        .ok ((), after)) : Written backend may db after :=
  written_entries journaled known charted known' charted' (respects_pure ()) (by simpa using ran)

theorem writable_insertStateTransition (transition : StateTransition) :
    Writable backend may (insertStateTransition transition) :=
  writable_write fun _ => .stateTransition _

theorem filed_insertOutboxEvent {aggregateType : String} {aggregateId : Uuid}
    {eventType topic : String} {payload : Payload} {traceId : Option Uuid} {value : Uuid}
    {db after : Database} (untyped : payload.get? "event_type" = none)
    (announces : topic = "trades.submitted" → ∃ trade ∈ db.trades, trade.Announced payload)
    (ran : insertOutboxEvent aggregateType aggregateId eventType topic payload traceId db =
      .ok (value, after)) :
    ∃ event : OutboxEvent, event.Filed db ∧
      after = { db with
        nextUuid := db.nextUuid + 2
        outboxEvents := db.outboxEvents ++ [event] } := by
  cases ran
  refine ⟨_, ⟨rfl, ?_, ?_, rfl, rfl, fun submitted => ?_⟩, rfl⟩
  · cases traceId <;> simp [Payload.get?_set_other]
  · cases traceId <;> simp [Payload.get?_set_other, untyped]
  · obtain ⟨trade, listed, announced⟩ := announces submitted
    refine ⟨trade, listed, ?_⟩
    cases traceId <;> constructor <;>
      simp [Payload.get?_set_other, announced.id, announced.instrumentId, announced.buyer,
        announced.seller, announced.quantity, announced.price]

/-- An event of another topic. -/
theorem writable_insertOutboxEvent {aggregateType : String} {aggregateId : Uuid}
    {eventType topic : String} {payload : Payload} {traceId : Option Uuid}
    (untyped : payload.get? "event_type" = none) (other : topic ≠ "trades.submitted") :
    Writable backend may
      (insertOutboxEvent aggregateType aggregateId eventType topic payload traceId) := by
  intro db value after ran
  obtain ⟨event, filed, rfl⟩ :=
    filed_insertOutboxEvent untyped (fun same => absurd same other) ran
  exact .single (.outboxEvent event filed)

theorem writable_processIfNew (serviceName : String) (eventId : Text) :
    Writable backend may (processIfNew serviceName eventId) :=
  respects_processIfNew fun _ => .single (.processedEvent _)

namespace Gateway

/-- The row of a trade has what the request asks for. -/
structure Stores (backend : Backend) (request : TradeSubmitRequest) (trade : Trade) : Prop where
  instrumentId : trade.instrumentId = request.instrumentId
  buyer : trade.buyerMemberId = request.buyerMemberId
  seller : trade.sellerMemberId = request.sellerMemberId
  quantity : backend.store request.quantity = some trade.quantity
  price : backend.store request.price = some trade.price

theorem stores_insertTrade {taken : List String} {request : TradeSubmitRequest} {trade : Trade}
    {db after : Database} (ran : insertTrade backend taken request db = .ok (trade, after)) :
    Stores backend request trade := by
  obtain ⟨id, _, -, ran⟩ := bind_eq_ok.mp ran
  obtain ⟨quantity, _, cast, ran⟩ := bind_eq_ok.mp ran
  obtain ⟨quantity_stored, -⟩ := castNumeric_eq_ok.mp cast
  obtain ⟨price, _, cast, ran⟩ := bind_eq_ok.mp ran
  obtain ⟨price_stored, -⟩ := castNumeric_eq_ok.mp cast
  obtain ⟨⟨⟩, _, -, ran⟩ := bind_eq_ok.mp ran
  obtain ⟨_, _, -, ran⟩ := bind_eq_ok.mp ran
  obtain ⟨⟨⟩, _, -, ran⟩ := bind_eq_ok.mp ran
  obtain ⟨⟨⟩, _, -, ran⟩ := bind_eq_ok.mp ran
  obtain ⟨⟨⟩, _, -, ran⟩ := bind_eq_ok.mp ran
  obtain ⟨⟨⟩, _, -, done⟩ := bind_eq_ok.mp ran
  cases done
  exact ⟨rfl, rfl, rfl, quantity_stored, price_stored⟩

theorem writable_submitTrade (taken : List String) (key : Text) {request : TradeSubmitRequest}
    (allowed : ∀ trade, Stores backend request trade → may.trade trade) (trace : TraceContext) :
    Writable backend may (submitTrade backend taken key request trace) := by
  intro db value after ran
  obtain ⟨trade, inserted, insert, ran⟩ := bind_eq_ok.mp ran
  obtain ⟨⟨⟩, announced, announce, ran⟩ := bind_eq_ok.mp ran
  obtain ⟨eventId, _, filing, done⟩ := bind_eq_ok.mp announce
  cases done
  have stores := stores_insertTrade insert
  obtain ⟨numbered, -, rfl⟩ := insertTrade_eq_ok insert
  obtain ⟨event, filed, rfl⟩ := filed_insertOutboxEvent rfl
    (fun _ => ⟨trade, List.mem_append_right _ (List.mem_singleton_self _), rfl, rfl, rfl, rfl, rfl,
      rfl⟩) filing
  have inserts : Written backend may db _ :=
    .single (.trade trade numbered (backend.store_mem stores.quantity)
      (backend.store_mem stores.price) (allowed trade stores))
  apply (inserts.tail (.outboxEvent event filed)).trans
  exact respects_bind
    (respects_runWhen _ (respects_bind (writable_processIfNew _ _) fun _ => respects_pure _))
    (fun _ => respects_pure _) ran

end Gateway

namespace Novation

theorem writable_setTradeStatus (tradeId : Uuid) (status : TradeStatus) :
    Writable backend may (setTradeStatus tradeId status) :=
  writable_write fun _ => .tradeStatus tradeId status

/-- The party of a side. -/
def TradeData.party (data : TradeData) : Side → Uuid
  | .buy => data.buyerMemberId
  | .sell => data.sellerMemberId

/-- The leg has what the data of its trade say. -/
structure OfData (backend : Backend) (data : TradeData) (leg : NovatedTrade) : Prop where
  trade : leg.originalTradeId = data.tradeId
  instrumentId : leg.instrumentId = data.instrumentId
  party : leg.memberId = data.party leg.side
  quantity : backend.store data.quantity = some leg.quantity
  price : backend.store data.price = some leg.price

theorem writable_createNovatedTrade {data : TradeData}
    (allowed : ∀ leg, OfData backend data leg → may.leg leg) (side : Side) :
    Writable backend may
      (createNovatedTrade backend data.tradeId data side (data.party side)) := by
  intro db value after ran
  obtain ⟨quantity, price, quantity_stored, price_stored, -, rfl⟩ := createNovatedTrade_apply ran
  have numbered : Written backend may db { db with nextUuid := db.nextUuid + 1 } := .single .uuid
  exact numbered.tail (.leg _ (allowed _ ⟨rfl, rfl, rfl, quantity_stored, price_stored⟩))

theorem writable_lockMargin (allowed : may.journal .marginCall) (memberId novatedTradeId : Uuid)
    (amount : ℚ) : Writable backend may (lockMargin backend memberId novatedTradeId amount) := by
  intro db value after ran
  obtain ⟨available, _, free, ran⟩ := bind_eq_ok.mp ran
  obtain ⟨found, rfl⟩ := requireAccount_eq_ok free
  obtain ⟨locked, _, held, ran⟩ := bind_eq_ok.mp ran
  obtain ⟨found', rfl⟩ := requireAccount_eq_ok held
  obtain ⟨known, -, places⟩ := findAccount_eq_some found
  obtain ⟨known', -, places'⟩ := findAccount_eq_some found'
  have charted : Charted may.margin .marginCall available amount 0 := .debit places
  have charted' : Charted may.margin .marginCall locked 0 amount := .credit places'
  exact written_newJournal allowed ran fun _ _ journaled accounts ran =>
    written_twoEntries journaled (accounts ▸ known) charted (accounts ▸ known') charted' ran

theorem writable_novateTrade (allowed : may.journal .marginCall) {data : TradeData}
    (legs : ∀ leg, OfData backend data leg → may.leg leg) (trace : TraceContext) :
    Writable backend may (novateTrade backend data.tradeId data trace) :=
  respects_bind (respects_requireSubmitted _) fun _ =>
    respects_bind (writable_setTradeStatus _ _) fun _ =>
      respects_bind (writable_createNovatedTrade legs .buy) fun _ =>
        respects_bind (writable_createNovatedTrade legs .sell) fun _ =>
          respects_bind (respects_fetchMarginRate _) fun _ =>
            respects_bind (writable_lockMargin allowed ..) fun _ =>
              respects_bind (writable_lockMargin allowed ..) fun _ =>
                respects_bind (writable_insertStateTransition _) fun _ =>
                  respects_bind (writable_insertStateTransition _) fun _ =>
                    respects_bind (writable_insertStateTransition _) fun _ =>
                      respects_bind (writable_insertOutboxEvent rfl (by decide)) fun _ =>
                        respects_pure _

theorem writable_rejectTrade (tradeId : Uuid) (reason : Text) (trace : TraceContext) :
    Writable backend may (rejectTrade tradeId reason trace) :=
  respects_bind (writable_setTradeStatus _ _) fun _ =>
    respects_bind (writable_insertStateTransition _) fun _ =>
      respects_bind (writable_insertOutboxEvent rfl (by decide)) fun _ => respects_pure _

end Novation

namespace Netting

theorem writable_advanceCycle (cycleId : Uuid) (fromStatus toStatus : NettingCycleStatus)
    (trace : TraceContext) :
    Writable backend may (advanceCycle cycleId fromStatus toStatus trace) :=
  respects_bind (writable_insertStateTransition _) fun _ =>
    writable_write fun _ => .cycleStatus cycleId toStatus

theorem writable_insertNetObligation (cycleId : Uuid) (obligation : Obligation) :
    Writable backend may (insertNetObligation backend cycleId obligation) :=
  respects_bind writable_uuid4 fun _ => respects_bind (respects_castNumeric _) fun _ =>
    respects_bind (respects_castNumeric _) fun _ => respects_bind (respects_castNumeric _) fun _ =>
      respects_bind respects_read fun _ => respects_bind (respects_require _ _) fun _ =>
        respects_bind (respects_requireMember _ _) fun _ =>
          respects_bind (respects_require _ _) fun _ => writable_write fun _ => .netObligation _

/-- The amount that an obligation is settled for is allowed. -/
def SettlesFor (backend : Backend) (may : Allowance) (obligation : Obligation) : Prop :=
  ∀ amount, backend.store obligation.settlementAmount = some amount → may.instruction amount

theorem writable_insertInstruction {obligation : Obligation}
    (payable : SettlesFor backend may obligation) (cycleId ccpMemberId : Uuid) :
    Writable backend may (insertInstruction backend cycleId obligation ccpMemberId) := by
  refine respects_bind writable_uuid4 fun _ => respects_bind (respects_castNumeric _) fun _ => ?_
  intro db value after ran
  obtain ⟨amount, _, cast, ran⟩ := bind_eq_ok.mp ran
  obtain ⟨stored, rfl⟩ := castNumeric_eq_ok.mp cast
  refine respects_bind respects_read (fun _ => respects_bind (respects_require _ _) fun _ =>
    respects_bind (respects_requireMember _ _) fun _ =>
      respects_bind (respects_requireMember _ _) fun _ =>
        respects_bind (respects_require _ _) fun _ => respects_bind
          (writable_write fun _ => .instruction _ (payable amount stored))
          fun _ => respects_pure _) ran

theorem writable_closeCycle (cycleId : Uuid) (cycleType : NettingCycleType)
    (obligationCount tradesNetted : ℕ) (instructionIds : List Uuid) (trace : TraceContext) :
    Writable backend may
      (closeCycle cycleId cycleType obligationCount tradesNetted instructionIds trace) :=
  respects_bind (writable_advanceCycle ..) fun _ =>
    respects_bind (writable_insertOutboxEvent rfl (by decide)) fun _ => respects_forM
      (fun _ => respects_bind (writable_insertOutboxEvent rfl (by decide)) fun _ =>
        respects_pure _) _

theorem writable_insertObligationsAndInstructions {obligations : List Obligation}
    (payable : ∀ obligation ∈ obligations, SettlesFor backend may obligation)
    (cycleId ccpMemberId : Uuid) :
    Writable backend may
      (insertObligationsAndInstructions backend cycleId obligations ccpMemberId) := by
  rw [insertObligationsAndInstructions]
  induction obligations with
  | nil => exact respects_pure []
  | cons obligation rest induction =>
      obtain ⟨first, others⟩ := List.forall_mem_cons.mp payable
      rw [List.mapM_cons]
      exact respects_bind
        (respects_bind (writable_insertNetObligation ..) fun _ =>
          writable_insertInstruction first _ _) fun _ =>
        respects_bind (induction others) fun _ => respects_pure _

/-- A cycle whose obligations may be settled. -/
theorem written_runNettingCycle {cycleType : NettingCycleType} {cutOffTime : Timestamp}
    {trace : TraceContext} {result : CycleResult} {db after : Database}
    (payable : ∀ obligation ∈ cycleObligations backend cutOffTime db,
      SettlesFor backend may obligation)
    (ran : runNettingCycle backend cycleType cutOffTime trace db = .ok (result, after)) :
    Written backend may db after := by
  obtain ⟨cycleId, numbered, number, ran⟩ := bind_eq_ok.mp ran
  obtain ⟨⟨⟩, opened, opening, ran⟩ := bind_eq_ok.mp ran
  obtain ⟨ccpMemberId, found, find, ran⟩ := bind_eq_ok.mp ran
  obtain ⟨positions, priced, pricing, ran⟩ := bind_eq_ok.mp ran
  obtain ⟨ids, inserted, insert, ran⟩ := bind_eq_ok.mp ran
  obtain ⟨tradesNetted, marked, marking, ran⟩ := bind_eq_ok.mp ran
  obtain ⟨⟨⟩, closed, closing, done⟩ := bind_eq_ok.mp ran
  cases done
  obtain ⟨rfl, -⟩ := aside_getCcpMemberId find
  cases pricing
  have before : Aside db found :=
    IsTrans.trans _ _ _ (aside_uuid4 number) (aside_openCycle _ _ _ _ opening)
  have same_quote : quote found = quote db := by
    funext instrumentId
    simp only [quote, latestFeed, before.instruments, before.priceFeeds]
  have same_legs : openLegs found cutOffTime = openLegs db cutOffTime := by
    rw [openLegs, openLegs, before.legs]
  rw [cycleObligations, ← same_quote, ← same_legs] at payable
  have opens : Writable backend may (openCycle cycleId cycleType cutOffTime trace) :=
    respects_bind (writable_write fun _ => .nettingCycle _) fun _ => writable_advanceCycle ..
  have begun : Written backend may db found := (writable_uuid4 number).trans (opens opening)
  have instructed := writable_insertObligationsAndInstructions payable _ _ insert
  have marks : Writable backend may (markTradesClosed cutOffTime) :=
    respects_bind respects_read fun _ =>
      respects_bind (writable_write fun _ => .netted _) fun _ => respects_pure _
  exact ((begun.trans instructed).trans (marks marking)).trans
    (writable_closeCycle _ _ _ _ _ _ closing)

end Netting

namespace Collateral

theorem writable_announce {event : String} (other : event ≠ "trades.submitted") (memberId : Uuid)
    (amount : ℚ) (currency : String) (journalId : Uuid) :
    Writable backend may (announce event memberId amount currency journalId) :=
  respects_bind (writable_insertOutboxEvent rfl other) fun _ => respects_pure _

/-- The account of the house has its pool. -/
theorem pool_of_getCcpAccount {db : Database} {accountType : AccountType} {pool : Pool}
    {currency : String} {account : Account}
    (found : getCcpAccount db accountType pool currency = some account) : account.pool = pool := by
  have selected := List.find?_some found
  simp only [decide_eq_true_eq] at selected
  exact selected.2.2.1

theorem writable_depositCollateral (allowed : may.journal .collateralDeposit) (memberId : Uuid)
    (amount : ℚ) (currency : String) :
    Writable backend may (depositCollateral backend memberId amount currency) := by
  intro db value after ran
  obtain ⟨⟨⟩, _, positive, ran⟩ := bind_eq_ok.mp ran
  obtain ⟨-, rfl⟩ := Transaction.require_eq_ok.mp positive
  obtain ⟨_, _, reading, ran⟩ := bind_eq_ok.mp ran
  cases reading
  obtain ⟨memberAcct, _, own, ran⟩ := bind_eq_ok.mp ran
  obtain ⟨found, rfl⟩ := orInvalid_eq_ok.mp own
  obtain ⟨ccpAcct, _, house, ran⟩ := bind_eq_ok.mp ran
  obtain ⟨found', rfl⟩ := orInvalid_eq_ok.mp house
  obtain ⟨journalId, posted, post, ran⟩ := bind_eq_ok.mp ran
  obtain ⟨known, own_type, own_pool⟩ := getAccount_eq_some found
  obtain ⟨known', house_type⟩ := getCcpAccount_eq_some found'
  have charted : Charted may.margin .collateralDeposit memberAcct amount 0 :=
    .debit ⟨.inl own_type, own_pool⟩
  have charted' : Charted may.margin .collateralDeposit ccpAcct 0 amount :=
    .credit ⟨.inl house_type, pool_of_getCcpAccount found'⟩
  have written := written_newJournal allowed post fun _ _ journaled accounts ran =>
    written_entries journaled (accounts ▸ known) charted (accounts ▸ known') charted'
      (respects_pure _) ran
  exact written.trans
    (respects_bind (writable_announce (by decide) ..) (fun _ => respects_pure _) ran)

theorem writable_withdrawCollateral (allowed : may.journal .collateralWithdrawal) (memberId : Uuid)
    (amount : ℚ) (currency : String) :
    Writable backend may (withdrawCollateral backend memberId amount currency) := by
  intro db value after ran
  obtain ⟨⟨⟩, _, positive, ran⟩ := bind_eq_ok.mp ran
  obtain ⟨-, rfl⟩ := Transaction.require_eq_ok.mp positive
  obtain ⟨_, _, reading, ran⟩ := bind_eq_ok.mp ran
  cases reading
  obtain ⟨memberAcct, _, own, ran⟩ := bind_eq_ok.mp ran
  obtain ⟨found, rfl⟩ := orInvalid_eq_ok.mp own
  obtain ⟨⟨⟩, _, covered, ran⟩ := bind_eq_ok.mp ran
  obtain ⟨-, rfl⟩ := Transaction.require_eq_ok.mp covered
  obtain ⟨ccpAcct, _, house, ran⟩ := bind_eq_ok.mp ran
  obtain ⟨found', rfl⟩ := orInvalid_eq_ok.mp house
  obtain ⟨journalId, posted, post, ran⟩ := bind_eq_ok.mp ran
  obtain ⟨known, places⟩ := getAccount_eq_some found
  obtain ⟨known', house_type⟩ := getCcpAccount_eq_some found'
  have charted : Charted may.margin .collateralWithdrawal memberAcct 0 amount :=
    .credit places
  have charted' : Charted may.margin .collateralWithdrawal ccpAcct amount 0 :=
    .debit ⟨house_type, pool_of_getCcpAccount found'⟩
  have written := written_newJournal allowed post fun _ _ journaled accounts ran =>
    written_entries journaled (accounts ▸ known) charted (accounts ▸ known') charted'
      (respects_pure _) ran
  exact written.trans
    (respects_bind (writable_announce (by decide) ..) (fun _ => respects_pure _) ran)

theorem writable_transferToMargin (allowed : may.journal .collateralDeposit) (memberId : Uuid)
    (amount : ℚ) {marginType : AccountType} (margin : may.margin marginType) :
    Writable backend may (transferToMargin backend memberId amount marginType) := by
  intro db value after ran
  obtain ⟨⟨⟩, _, positive, ran⟩ := bind_eq_ok.mp ran
  obtain ⟨-, rfl⟩ := Transaction.require_eq_ok.mp positive
  obtain ⟨_, _, reading, ran⟩ := bind_eq_ok.mp ran
  cases reading
  obtain ⟨collateralAcct, _, own, ran⟩ := bind_eq_ok.mp ran
  obtain ⟨found, rfl⟩ := orInvalid_eq_ok.mp own
  obtain ⟨marginAcct, _, target, ran⟩ := bind_eq_ok.mp ran
  obtain ⟨found', rfl⟩ := orInvalid_eq_ok.mp target
  obtain ⟨⟨⟩, _, covered, ran⟩ := bind_eq_ok.mp ran
  obtain ⟨-, rfl⟩ := Transaction.require_eq_ok.mp covered
  obtain ⟨journalId, posted, post, ran⟩ := bind_eq_ok.mp ran
  obtain ⟨⟨⟩, _, update, done⟩ := bind_eq_ok.mp ran
  rw [updatePostedMargin_apply] at update
  cases update
  cases done
  obtain ⟨known, own_type, own_pool⟩ := getAccount_eq_some found
  obtain ⟨known', target_type, target_pool⟩ := getAccount_eq_some found'
  have charted : Charted may.margin .collateralDeposit collateralAcct 0 amount :=
    .credit ⟨.inr own_type, own_pool⟩
  have charted' : Charted may.margin .collateralDeposit marginAcct amount 0 :=
    .debit ⟨.inr (target_type.symm ▸ margin), target_pool⟩
  exact written_newJournal allowed post fun _ _ journaled accounts ran =>
    written_entries journaled (accounts ▸ known) charted (accounts ▸ known') charted'
      (respects_pure _) ran

end Collateral

namespace Margin

theorem writable_updateMarginRequirement (memberId instrumentId : Uuid) (marginType : MarginType)
    (requiredAmount : ℚ) :
    Writable backend may
      (updateMarginRequirement backend memberId instrumentId marginType requiredAmount) := by
  refine respects_bind (respects_castNumeric _) fun required =>
    respects_bind respects_read fun _ => ?_
  split
  · exact respects_bind (respects_castNumeric _) fun _ => writable_write fun _ =>
      .required memberId instrumentId marginType required
  · exact respects_bind (respects_castNumeric _) fun _ => respects_bind writable_uuid4 fun _ =>
      writable_write fun _ => .requirement _

theorem writable_transferVariation (allowed : may.journal .variationMargin)
    {available locked : Account} {db after : Database} (known : available ∈ db.accounts)
    (available_type : available.accountType = .marginVm) (known' : locked ∈ db.accounts)
    (locked_type : locked.accountType = .marginVm) {instrumentId : Uuid} {vmAmount : ℚ}
    (ran : transferVariation backend instrumentId available.id locked.id vmAmount db =
      .ok ((), after)) : Written backend may db after := by
  have charted : ∀ (account : Account) (debit credit : ℚ), account.accountType = .marginVm →
      Charted may.margin .variationMargin account debit credit :=
    fun _ _ _ type => ⟨fun _ => type, fun _ => type⟩
  apply written_newJournal allowed ran
  intro journalId state journaled accounts ran
  rw [← accounts] at known known'
  dsimp only at ran
  by_cases positive : 0 < vmAmount
  · rw [if_pos positive] at ran
    exact written_twoEntries journaled known (charted _ _ _ available_type) known'
      (charted _ _ _ locked_type) ran
  · rw [if_neg positive] at ran
    exact written_twoEntries journaled known' (charted _ _ _ locked_type) known
      (charted _ _ _ available_type) ran

theorem writable_processVariationMargin (allowed : may.journal .variationMargin)
    (memberId instrumentId : Uuid) (vmAmount : ℚ) :
    Writable backend may (processVariationMargin backend memberId instrumentId vmAmount) := by
  intro db value after ran
  obtain ⟨_, _, reading, ran⟩ := bind_eq_ok.mp ran
  cases reading
  cases free : findAccount db memberId .marginVm .available with
  | none =>
      simp only [free] at ran
      cases ran
      exact .refl
  | some available =>
      cases held : findAccount db memberId .marginVm .locked with
      | none =>
          simp only [free, held] at ran
          cases ran
          exact .refl
      | some locked =>
          simp only [free, held] at ran
          obtain ⟨⟨⟩, transferred, transfer, ran⟩ := bind_eq_ok.mp ran
          obtain ⟨known, -, available_type, -⟩ := Novation.findAccount_eq_some free
          obtain ⟨known', -, locked_type, -⟩ := Novation.findAccount_eq_some held
          exact (writable_transferVariation allowed known available_type known' locked_type
            transfer).trans (writable_updateMarginRequirement _ _ _ _ ran)

theorem writable_issueMarginCall (deadline : Timestamp) (memberId instrumentId : Uuid)
    (shortfall : ℚ) (trace : TraceContext) :
    Writable backend may (issueMarginCall backend deadline memberId instrumentId shortfall trace) :=
  respects_bind writable_uuid4 fun _ => respects_bind respects_read fun _ =>
    respects_bind (respects_castNumeric _) fun _ =>
      respects_bind (writable_write fun _ => .marginCall _) fun _ =>
        respects_bind (writable_insertStateTransition _) fun _ =>
          respects_bind (writable_insertOutboxEvent rfl (by decide)) fun _ => respects_pure _

/-- At its average price a position has no variation margin. -/
theorem calculateVariationMargin_self (netQuantity price : ℚ) :
    calculateVariationMargin backend netQuantity price price = 0 := by
  simp [calculateVariationMargin, Backend.sub, Backend.mul, backend.round_zero]

theorem writable_recalculatePosition (deadline : Timestamp) (trace : TraceContext)
    (calls : List Payload) {position : Position}
    (allowed : may.journal .variationMargin ∨ position.latestPrice = none) :
    Writable backend may (recalculatePosition backend deadline trace calls position) := by
  intro db value after ran
  obtain ⟨latestPrice, _, latest, ran⟩ := bind_eq_ok.mp ran
  obtain ⟨⟨⟩, required, requiring, ran⟩ := bind_eq_ok.mp ran
  obtain ⟨previousMark, _, previous, ran⟩ := bind_eq_ok.mp ran
  obtain ⟨marked, rfl⟩ := orTypeError_eq_ok latest
  obtain ⟨averaged, rfl⟩ := orTypeError_eq_ok previous
  have varies : Writable backend may (runWhen
      (calculateVariationMargin backend position.netQuantity latestPrice previousMark ≠ 0)
      (processVariationMargin backend position.memberId position.instrumentId
        (calculateVariationMargin backend position.netQuantity latestPrice previousMark))) := by
    rcases allowed with allowed | unpriced
    · exact respects_runWhen _ (writable_processVariationMargin allowed ..)
    · obtain rfl : latestPrice = previousMark := by
        rw [markPrice, unpriced, averaged] at marked
        exact (Option.some.inj marked).symm
      rw [calculateVariationMargin_self]
      exact respects_pure ()
  have calls : Writable backend may (do
      let db ← read
      let shortfall := checkShortfall db position.memberId position.instrumentId .initial
      if 0 < shortfall then do
        let call ← issueMarginCall backend deadline position.memberId position.instrumentId
          shortfall trace
        pure (calls ++ [call])
      else pure calls) :=
    respects_bind respects_read fun _ => respects_ite
      (respects_bind (writable_issueMarginCall ..) fun _ => respects_pure _) (respects_pure _)
  exact (writable_updateMarginRequirement _ _ _ _ requiring).trans
    (respects_bind varies (fun _ => calls) ran)

/-- A recalculation that may post variation margin, or finds no price that is not an average. -/
theorem written_recalculateMargins {deadline : Timestamp} {trace : TraceContext}
    {calls : List Payload} {db after : Database}
    (allowed : may.journal .variationMargin ∨ db.latestPrices = [])
    (ran : recalculateMargins backend deadline trace db = .ok (calls, after)) :
    Written backend may db after := by
  have each : ∀ position ∈ positions backend db,
      may.journal .variationMargin ∨ position.latestPrice = none := by
    intro position member
    apply allowed.imp_right
    intro unpriced
    obtain ⟨key, -, listed⟩ := List.mem_filterMap.mp member
    dsimp only at listed
    split at listed
    · cases listed
    · split at listed
      · cases listed
      · cases listed
        simp [unpriced]
  have loop : ∀ items : List Position,
      (∀ position ∈ items, may.journal .variationMargin ∨ position.latestPrice = none) →
        ∀ calls, Writable backend may
          (items.foldlM (recalculatePosition backend deadline trace) calls) := by
    intro items
    induction items with
    | nil => exact fun _ calls => respects_pure calls
    | cons position rest induction =>
        intro each calls
        obtain ⟨first, others⟩ := List.forall_mem_cons.mp each
        exact respects_bind (writable_recalculatePosition _ _ _ first) fun calls =>
          induction others calls
  exact loop _ each _ ran

end Margin

namespace Waterfall

/-- An entry on an account that may be missing. -/
theorem written_whenFound {row : Option Account} {debit credit : ℚ} {journalId : Uuid}
    {journalType : JournalType} {db after : Database}
    (journaled : Journaled may db journalId journalType)
    (charted : ∀ account, row = some account →
      account ∈ db.accounts ∧ Charted may.margin journalType account debit credit)
    (ran : whenFound row (fun account =>
      insertJournalEntry backend journalId account.id debit credit) db = .ok ((), after)) :
    Written backend may db after ∧ Journaled may after journalId journalType := by
  cases row with
  | none =>
      cases ran
      exact ⟨.refl, journaled⟩
  | some account =>
      obtain ⟨known, places⟩ := charted account rfl
      exact written_insertJournalEntry journaled known places ran

theorem writable_createWaterfallJournal (allowed : may.journal .defaultWaterfallStep)
    (eventId memberId : Uuid) (amount : ℚ) (sourceAccountType : AccountType) :
    Writable backend may
      (createWaterfallJournal backend eventId memberId amount sourceAccountType) := by
  intro db value after ran
  obtain ⟨_, _, reading, ran⟩ := bind_eq_ok.mp ran
  cases reading
  apply written_newJournal allowed ran
  intro journalId state journaled accounts ran
  obtain ⟨⟨⟩, drawn, draw, ran⟩ := bind_eq_ok.mp ran
  obtain ⟨⟨⟩, recovered, recover, ran⟩ := bind_eq_ok.mp ran
  have draws : Written backend may state drawn ∧
      Journaled may drawn journalId .defaultWaterfallStep := by
    refine written_whenFound journaled (fun account found => ?_) draw
    obtain ⟨known, -, -, pool⟩ := Novation.findAccount_eq_some found
    exact ⟨accounts ▸ known, .credit pool⟩
  have kept : drawn.accounts = db.accounts := (accounts_of_written draws.1).trans accounts
  have recovers : Written backend may drawn recovered ∧
      Journaled may recovered journalId .defaultWaterfallStep := by
    refine written_whenFound draws.2 (fun account found => ?_) recover
    obtain ⟨house, -, found⟩ := Option.bind_eq_some_iff.mp found
    obtain ⟨known, -, places⟩ := Novation.findAccount_eq_some found
    exact ⟨kept ▸ known, .debit places⟩
  exact (draws.1.trans recovers.1).trans
    (respects_bind (writable_insertOutboxEvent rfl (by decide)) (fun _ => respects_pure _) ran)

theorem admitsSteps_written (allowed : may.journal .defaultWaterfallStep)
    (defaults : may.defaults) : AdmitsSteps backend (Written backend may) where
  journal := writable_createWaterfallJournal allowed
  record := fun _ _ _ _ _ _ _ =>
    respects_bind writable_uuid4 fun _ => respects_bind (respects_castNumeric _) fun _ =>
      respects_bind (respects_castNumeric _) fun _ =>
        respects_bind (respects_castNumeric _) fun _ => respects_bind (respects_require _ _)
          fun _ => respects_bind (writable_write fun _ => .waterfallStep _ defaults)
            fun _ => respects_pure _
  status := fun _ _ _ => writable_insertStateTransition _

theorem writable_executeWaterfall (allowed : may.journal .defaultWaterfallStep)
    (defaults : may.defaults) (memberId : Uuid) (triggerReason : Text) (totalExposure : ℚ)
    (trace : Option TraceContext) :
    Writable backend may (executeWaterfall backend memberId triggerReason totalExposure trace) := by
  have declares : ∀ eventId trace, Writable backend may
      (declareDefault backend eventId memberId triggerReason totalExposure trace) :=
    fun _ _ => respects_bind (respects_requireMember _ _) fun _ =>
      respects_bind (respects_castNumeric _) fun _ => respects_bind (respects_require _ _) fun _ =>
        respects_bind (writable_write fun _ => .defaultEvent _ defaults) fun _ =>
          respects_bind (writable_write fun _ => .defaulted memberId defaults _) fun _ =>
            respects_bind (writable_insertOutboxEvent rfl (by decide)) fun _ => respects_pure _
  have resolves : ∀ eventId finalStatus remaining trace,
      Writable backend may (resolveDefault backend eventId finalStatus remaining trace) :=
    fun eventId finalStatus _ _ => respects_bind (respects_require _ _) fun _ =>
      respects_bind (writable_write fun _ => .resolved eventId finalStatus defaults) fun _ =>
        respects_bind (writable_insertOutboxEvent rfl (by decide)) fun _ => respects_pure _
  exact respects_bind (respects_traceOrSystem writable_uuid4 _ _) fun _ =>
    respects_bind writable_uuid4 fun _ => respects_bind (declares ..) fun _ =>
      respects_bind (respects_runSteps (admitsSteps_written allowed defaults) ..) fun _ =>
        respects_bind (resolves ..) fun _ => respects_pure _

end Waterfall

theorem Seeding.writable_seedDefaultFund (allowed : may.journal .defaultFundContribution)
    (memberIds : String → Uuid) (ccpId : Uuid) :
    Writable backend may (seedDefaultFund backend memberIds ccpId) := by
  refine respects_forM (fun contribution => ?_) _
  intro db value after ran
  obtain ⟨_, _, reading, ran⟩ := bind_eq_ok.mp ran
  cases reading
  cases fund : findAccount db (memberIds contribution.1) .defaultFund .available with
  | none =>
      simp only [fund] at ran
      cases ran
      exact .refl
  | some memberAcct =>
      cases equity : findAccount db ccpId .ccpEquity .available with
      | none =>
          simp only [fund, equity] at ran
          cases ran
          exact .refl
      | some ccpAcct =>
          simp only [fund, equity] at ran
          obtain ⟨known, -, places⟩ := Novation.findAccount_eq_some fund
          obtain ⟨known', -, places'⟩ := Novation.findAccount_eq_some equity
          have charted : Charted may.margin .defaultFundContribution memberAcct
              contribution.2 0 := .debit places
          have charted' : Charted may.margin .defaultFundContribution ccpAcct
              0 contribution.2 := .credit places'
          exact written_newJournal allowed ran fun _ _ journaled accounts ran =>
            written_twoEntries journaled (accounts ▸ known) charted (accounts ▸ known') charted'
              ran

namespace Settlement

theorem writable_emitSettlementEvent {eventType : String} (other : eventType ≠ "trades.submitted")
    (instructionId aggregateId : Uuid) (trace : TraceContext) :
    Writable backend may (emitSettlementEvent instructionId eventType aggregateId trace) :=
  respects_bind (writable_insertOutboxEvent rfl other) fun _ => respects_pure _

theorem writable_advanceStatus (instructionId : Uuid) (fromStatus toStatus : InstructionStatus)
    (reason : Text) (trace : TraceContext) :
    Writable backend may (advanceStatus instructionId fromStatus toStatus reason trace) :=
  respects_bind (respects_ite (respects_pure ()) (respects_raise _)) fun _ =>
    respects_bind (writable_write fun _ => .progress instructionId _ (by intro; rfl)) fun _ =>
      writable_insertStateTransition _

theorem writable_failInstruction (instructionId : Uuid) (fromStatus : InstructionStatus)
    (reason : Text) (trace : TraceContext) :
    Writable backend may (failInstruction instructionId fromStatus reason trace) :=
  respects_bind (writable_write fun _ => .progress instructionId _ (by intro; rfl)) fun _ =>
    respects_bind (writable_insertStateTransition _) fun _ =>
      writable_emitSettlementEvent (by decide) ..

/-- Without an amount the entries of a settlement are refused. -/
theorem written_settlementJournal {amount : ℚ} (allowed : may.journal .settlement ∨ amount = 0)
    {fromAcct toAcct : Account} {instructionId : Uuid} {db after : Database}
    (known : fromAcct ∈ db.accounts)
    (places : fromAcct.accountType = .settlement ∧ fromAcct.pool = .available)
    (known' : toAcct ∈ db.accounts)
    (places' : toAcct.accountType = .settlement ∧ toAcct.pool = .available)
    (ran : (do
      let journalId ← uuid4
      postSettlement backend instructionId fromAcct.id toAcct.id amount journalId) db =
        .ok ((), after)) : Written backend may db after := by
  rcases allowed with allowed | rfl
  · have charted : Charted may.margin .settlement fromAcct 0 amount := .credit places
    have charted' : Charted may.margin .settlement toAcct amount 0 := .debit places'
    exact written_newJournal allowed ran fun _ _ journaled accounts ran =>
      written_twoEntries journaled (accounts ▸ known) charted (accounts ▸ known') charted' ran
  · obtain ⟨journalId, numbered, -, ran⟩ := bind_eq_ok.mp ran
    obtain ⟨⟨⟩, journaled, -, ran⟩ := bind_eq_ok.mp ran
    obtain ⟨⟨⟩, credited, credit, -⟩ := bind_eq_ok.mp ran
    obtain ⟨debit, credit, zero, zero', sided, -⟩ := insertJournalEntry_eq_ok.mp credit
    obtain rfl : 0 = debit := Option.some.inj (backend.store_zero.symm.trans zero)
    obtain rfl : 0 = credit := Option.some.inj (backend.store_zero.symm.trans zero')
    simp [JournalEntry.OneSided] at sided

theorem written_settleCashBetween {instruction : SettlementInstruction}
    (allowed : may.journal .settlement ∨ instruction.amount = 0) {fromAcct toAcct : Account}
    {trace : TraceContext} {result : SettlementResult} {db after : Database}
    (known : fromAcct ∈ db.accounts)
    (places : fromAcct.accountType = .settlement ∧ fromAcct.pool = .available)
    (known' : toAcct ∈ db.accounts)
    (places' : toAcct.accountType = .settlement ∧ toAcct.pool = .available)
    (ran : settleCashBetween backend instruction fromAcct toAcct trace db = .ok (result, after)) :
    Written backend may db after := by
  obtain ⟨⟨⟩, approved, approve, ran⟩ := bind_eq_ok.mp ran
  obtain ⟨⟨⟩, signed, sign, ran⟩ := bind_eq_ok.mp ran
  obtain ⟨⟨⟩, broadcast, announce, ran⟩ := bind_eq_ok.mp ran
  obtain ⟨journalId, numbered, number, ran⟩ := bind_eq_ok.mp ran
  obtain ⟨⟨⟩, posted, post, ran⟩ := bind_eq_ok.mp ran
  have begun : Written backend may db broadcast :=
    ((writable_advanceStatus _ _ _ _ _ approve).trans (writable_advanceStatus _ _ _ _ _ sign)).trans
      (writable_advanceStatus _ _ _ _ _ announce)
  have accounts := accounts_of_written begun
  have closes : Writable backend may (do
      advanceStatus instruction.id .broadcasted .confirmed
        [.literal "Cash settlement completed"] trace
      emitSettlementEvent instruction.id "settlement.completed" instruction.fromMemberId trace
      pure (.confirmed instruction.id (some journalId) none : SettlementResult)) :=
    respects_bind (writable_advanceStatus ..) fun _ =>
      respects_bind (writable_emitSettlementEvent (by decide) ..) fun _ => respects_pure _
  have posts : Written backend may broadcast posted := by
    by_cases positive : 0 < instruction.amount
    · rw [runWhen, if_pos positive] at post
      exact written_settlementJournal allowed (accounts ▸ known) places (accounts ▸ known') places'
        (bind_eq_ok.mpr ⟨_, _, number, post⟩)
    · rw [runWhen, if_neg positive] at post
      cases post
      exact writable_uuid4 number
  exact (begun.trans posts).trans (closes ran)

theorem writable_settleCash {instruction : SettlementInstruction}
    (allowed : may.journal .settlement ∨ instruction.amount = 0) (trace : TraceContext) :
    Writable backend may (settleCash backend instruction trace) := by
  intro db value after ran
  obtain ⟨_, _, reading, ran⟩ := bind_eq_ok.mp ran
  cases reading
  have fails : Writable backend may (do
      failInstruction instruction.id .pending [.literal "Settlement accounts not found"] trace
      pure (.failed [.literal "accounts_not_found"] : SettlementResult)) :=
    respects_bind (writable_failInstruction ..) fun _ => respects_pure _
  cases payer : findAccount db instruction.fromMemberId .settlement .available with
  | none =>
      simp only [payer] at ran
      exact fails ran
  | some fromAcct =>
      cases payee : findAccount db instruction.toMemberId .settlement .available with
      | none =>
          simp only [payer, payee] at ran
          exact fails ran
      | some toAcct =>
          simp only [payer, payee] at ran
          obtain ⟨known, -, places⟩ := Novation.findAccount_eq_some payer
          obtain ⟨known', -, places'⟩ := Novation.findAccount_eq_some payee
          exact written_settleCashBetween allowed known places known' places' ran

theorem writable_finalizeEntries {instruction : SettlementInstruction}
    (allowed : may.journal .settlement ∨ instruction.amount = 0) :
    Writable backend may (finalizeEntries backend instruction) := by
  intro db value after ran
  obtain ⟨_, _, reading, ran⟩ := bind_eq_ok.mp ran
  cases reading
  cases payer : findAccount db instruction.fromMemberId .settlement .available with
  | none =>
      simp only [payer] at ran
      cases ran
      exact .refl
  | some fromAcct =>
      cases payee : findAccount db instruction.toMemberId .settlement .available with
      | none =>
          simp only [payer, payee] at ran
          cases ran
          exact .refl
      | some toAcct =>
          simp only [payer, payee] at ran
          obtain ⟨known, -, places⟩ := Novation.findAccount_eq_some payer
          obtain ⟨known', -, places'⟩ := Novation.findAccount_eq_some payee
          exact written_settlementJournal allowed known places known' places' ran

theorem admits_written {instruction : SettlementInstruction}
    (allowed : may.journal .settlement ∨ instruction.amount = 0) :
    AdmitsInstruction backend (Written backend may) instruction where
  hash := fun _ => writable_write fun _ => .progress instruction.id _ (by intro; rfl)
  advance := writable_advanceStatus _
  fail := writable_failInstruction _
  finalize := fun _ _ _ => respects_bind (writable_finalizeEntries allowed) fun _ =>
    respects_bind (writable_write fun _ => .progress instruction.id _ (by intro; rfl)) fun _ =>
      respects_bind (writable_advanceStatus ..) fun _ => writable_emitSettlementEvent (by decide) ..
  cash := writable_settleCash allowed

end Settlement

/-- The allowance covers what submitted trades bring about in the states that are reached. -/
structure AllowsTrading (backend : Backend) (may : Allowance) (first : Database) : Prop where
  payable : ∀ db cutOffTime, Written backend may first db →
    ∀ obligation ∈ Netting.cycleObligations backend cutOffTime db,
      Netting.SettlesFor backend may obligation
  variation : may.journal .variationMargin ∨
    ∀ db, Written backend may first db → db.latestPrices = []
  settlement : may.journal .settlement ∨ ∀ db, Written backend may first db →
    ∀ instruction ∈ db.settlementInstructions, instruction.amount = 0

/-- It also covers submission and novation, collateral, defaults and the default fund. -/
structure Allows (backend : Backend) (may : Allowance) (first : Database) : Prop
    extends AllowsTrading backend may first where
  trade : ∀ trade, may.trade trade
  marginCall : may.journal .marginCall
  leg : ∀ db data leg, Written backend may first db → Novation.Validated data db →
    Novation.OfData backend data leg → may.leg leg
  deposit : may.journal .collateralDeposit
  withdrawal : may.journal .collateralWithdrawal
  margin : may.margin .marginIm
  waterfall : may.journal .defaultWaterfallStep
  defaults : may.defaults
  contribution : may.journal .defaultFundContribution

/-- Statements that follow those made so far. -/
def Onward (backend : Backend) (may : Allowance) (first db after : Database) : Prop :=
  Written backend may first db → Written backend may db after

instance (first : Database) : Std.Refl (Onward backend may first) := ⟨fun _ _ => .refl⟩

instance (first : Database) : IsTrans Database (Onward backend may first) where
  trans _ _ _ head tail := fun reached =>
    (head reached).trans (tail (reached.trans (head reached)))

theorem onward_of_writable {α : Type} {code : Sql α} {first : Database}
    (writable : Writable backend may code) : Respects (Onward backend may first) code :=
  fun _ _ _ ran _ => writable ran

variable {first last : Database}

section Invariant

variable {invariant : Database → Prop}
  (written : ∀ db, invariant db → Written backend may first db)
include written

theorem Settlement.admits_onward (allows : AllowsTrading backend may first)
    {instruction : SettlementInstruction}
    (found : FoundPending invariant (Onward backend may first) instruction) :
    AdmitsInstruction backend (Onward backend may first) instruction := by
  obtain ⟨committed, db, instructionId, instrument, holds, onward, pending⟩ := found
  have reached := written committed holds
  have allowed : may.journal .settlement ∨ instruction.amount = 0 := by
    apply allows.settlement.imp_right
    intro unpaid
    obtain ⟨member, -, -⟩ := mem_of_pendingInstruction pending
    exact unpaid db (reached.trans (onward reached)) instruction member
  have admits : AdmitsInstruction backend (Written backend may) instruction :=
    admits_written allowed
  exact
    { hash := fun _ => onward_of_writable (admits.hash _)
      advance := fun _ _ _ _ => onward_of_writable (admits.advance ..)
      fail := fun _ _ _ => onward_of_writable (admits.fail ..)
      finalize := fun _ _ _ => onward_of_writable (admits.finalize ..)
      cash := fun _ => onward_of_writable (admits.cash _) }

variable (restored : ∀ old new, invariant old → Written backend may old new →
  (server backend).deferred old new = .ok () → invariant new)
include restored

/-- Novation admits an invariant that holds along allowed statements only. -/
theorem keeps_processTrade_onward (allowed : may.journal .marginCall)
    {data : Novation.TradeData} (legs : ∀ db leg, Written backend may first db →
      Novation.Validated data db → Novation.OfData backend data leg → may.leg leg)
    (trace : TraceContext) :
    Session.Keeps invariant (Onward backend may first) (Novation.processTrade backend data trace) :=
  Novation.keeps_processTrade_of_validated
    (fun old new holds onward accepted =>
      restored old new holds (onward (written old holds)) accepted)
    (fun old db _ _ holds onward valid ran _ => Novation.writable_novateTrade allowed
      (fun leg => legs db leg ((written old holds).trans (onward (written old holds))) valid) _ ran)
    fun _ => onward_of_writable (Novation.writable_rejectTrade ..)

/-- So does what happens to submitted trades. -/
theorem admitsTrading_onward (allows : AllowsTrading backend may first) :
    AdmitsTrading backend invariant (Onward backend may first) where
  survives := fun old new holds onward accepted =>
    restored old new holds (onward (written old holds)) accepted
  mark := fun _ _ => onward_of_writable (writable_processIfNew ..)
  reject := fun _ _ _ => onward_of_writable (Novation.writable_rejectTrade ..)
  net := fun _ cutOffTime _ db _ _ ran reached =>
    Netting.written_runNettingCycle (allows.payable db cutOffTime reached) ran
  recalculate := fun _ _ db _ _ ran reached => Margin.written_recalculateMargins
    (allows.variation.imp_right fun unpriced => unpriced db reached) ran
  settle := fun _ found => Settlement.admits_onward written allows found

theorem admitsOperations_onward (allows : Allows backend may first) :
    AdmitsOperations backend may.margin invariant (Onward backend may first) where
  toAdmitsTrading := admitsTrading_onward written restored allows.toAllowsTrading
  submit := fun _ _ _ _ =>
    onward_of_writable (Gateway.writable_submitTrade _ _ (fun trade _ => allows.trade trade) _)
  process := fun data trace => keeps_processTrade_onward written restored allows.marginCall
    (fun db leg reached => allows.leg db data leg reached) trace
  waterfall := fun _ _ _ _ => onward_of_writable
    (Waterfall.writable_executeWaterfall allows.waterfall allows.defaults ..)
  deposit := fun _ _ _ =>
    onward_of_writable (Collateral.writable_depositCollateral allows.deposit ..)
  withdraw := fun _ _ _ =>
    onward_of_writable (Collateral.writable_withdrawCollateral allows.withdrawal ..)
  margin := allows.margin
  transfer := fun _ _ _ margin =>
    onward_of_writable (Collateral.writable_transferToMargin allows.deposit _ _ margin)
  seed := fun _ _ => onward_of_writable (Seeding.writable_seedDefaultFund allows.contribution ..)

end Invariant

/-- An invariant that the commits of statements restore is kept by every run of the operations. -/
theorem restored_of_run (allows : Allows backend may first) {invariant : Database → Prop}
    (restored : ∀ old new, invariant old → Written backend may old new →
      (server backend).deferred old new = .ok () → invariant new)
    (run : Run (Operates backend) (OperatingWith may.margin) first last)
    (holds : invariant first) : Written backend may first last ∧ invariant last :=
  kept_of_run
    (admitsOperations_onward (fun _ => And.left)
      (fun old new holds written accepted =>
        ⟨holds.1.trans written, restored old new holds.2 written accepted⟩) allows)
    run ⟨.refl, holds⟩

/-- Every run of the operations consists of the statements that are allowed. -/
theorem written_of_run (allows : Allows backend may first)
    (run : Run (Operates backend) (OperatingWith may.margin) first last) :
    Written backend may first last :=
  (restored_of_run allows (fun _ _ _ _ _ => trivial) run trivial).1

end ClearingHouse
