import ClearingHouse.Events.Consumers
import ClearingHouse.Events.Writers
import ClearingHouse.Settlement.Keeping
import ClearingHouse.Waterfall.Order
import ClearingHouse.Waterfall.Refinement

/-!
# Traces

A handler reads the trace of its event from the payload and passes it on to what it writes.  Here
is which of the transactions put that trace on every event and every transition that they insert:
all but those that deposit or withdraw collateral and those that journal a step of the waterfall.
-/

namespace ClearingHouse

open Transactions Transactions.Transaction

/-- A table continued by rows with a property. -/
def Continued {α : Type} (holds : α → Prop) (old new : List α) : Prop :=
  ∃ added, new = old ++ added ∧ ∀ row ∈ added, holds row

section Continued

variable {α : Type} {holds : α → Prop} {old middle new : List α}

theorem continued_of_eq (same : new = old) : Continued holds old new :=
  ⟨[], by simp [same], by simp⟩

theorem continued_append {row : α} (held : holds row) : Continued holds old (old ++ [row]) :=
  ⟨[row], rfl, by simp [held]⟩

theorem Continued.trans (first : Continued holds old middle)
    (second : Continued holds middle new) : Continued holds old new := by
  obtain ⟨sooner, rfl, early⟩ := first
  obtain ⟨later, rfl, late⟩ := second
  refine ⟨sooner ++ later, List.append_assoc _ _ _, fun row member => ?_⟩
  rcases List.mem_append.mp member with before | behind
  · exact early row before
  · exact late row behind

/-- The rows behind the old ones. -/
theorem Continued.drop (continued : Continued holds old new) :
    ∀ row ∈ new.drop old.length, holds row := by
  obtain ⟨added, rfl, held⟩ := continued
  rwa [List.drop_left]

end Continued

/-- An event with a trace, in its row and in its payload. -/
def OutboxEvent.Carries (traceId : Uuid) (event : OutboxEvent) : Prop :=
  event.traceId = some traceId ∧ event.payload.get? "trace_id" = some (.uuid traceId)

/-- A transition with a trace. -/
def StateTransition.Carries (traceId : Uuid) (transition : StateTransition) : Prop :=
  transition.traceId = some traceId

/-- The events and transitions that were added carry a trace. -/
structure Traced (traceId : Uuid) (db after : Database) : Prop where
  events : Continued (OutboxEvent.Carries traceId) db.outboxEvents after.outboxEvents
  transitions :
    Continued (StateTransition.Carries traceId) db.stateTransitions after.stateTransitions

variable {backend : Backend} {traceId : Uuid} {db after : Database}

theorem traced_of_same (events : after.outboxEvents = db.outboxEvents)
    (transitions : after.stateTransitions = db.stateTransitions) : Traced traceId db after :=
  ⟨continued_of_eq events, continued_of_eq transitions⟩

instance : Std.Refl (Traced traceId) := ⟨fun _ => traced_of_same rfl rfl⟩

instance : IsTrans Database (Traced traceId) where
  trans _ _ _ first second :=
    ⟨first.events.trans second.events, first.transitions.trans second.transitions⟩

/-- Code that puts a trace on whatever it announces. -/
abbrev Tracing {α : Type} (traceId : Uuid) (code : Sql α) : Prop := Respects (Traced traceId) code

theorem tracing_write {change : Database → Database}
    (events : ∀ db, (change db).outboxEvents = db.outboxEvents)
    (transitions : ∀ db, (change db).stateTransitions = db.stateTransitions) :
    Tracing traceId (write change) :=
  respects_write fun db => traced_of_same (events db) (transitions db)

theorem tracing_uuid4 : Tracing traceId uuid4 := by
  intro db value after ran
  cases ran
  exact traced_of_same rfl rfl

theorem tracing_insertJournal (journalId : Uuid) (journalType : JournalType)
    (referenceType : String) (referenceId : Option Uuid) :
    Tracing traceId (insertJournal backend journalId journalType referenceType referenceId) :=
  respects_bind (respects_require _ _) fun _ => tracing_write (fun _ => rfl) fun _ => rfl

theorem tracing_insertJournalEntry (journalId accountId : Uuid) (debit credit : ℚ) :
    Tracing traceId (insertJournalEntry backend journalId accountId debit credit) := by
  intro db _ after ran
  obtain ⟨storedDebit, storedCredit, -, -, -, -, -, rfl⟩ := insertJournalEntry_eq_ok.mp ran
  exact traced_of_same rfl rfl

theorem admitsPostings_traced : AdmitsPostings backend (Traced traceId) where
  uuid4 := tracing_uuid4
  journal := tracing_insertJournal
  entry := tracing_insertJournalEntry
  requirements := fun _ _ => traced_of_same rfl rfl

theorem tracing_processIfNew (serviceName : String) (eventId : Text) :
    Tracing traceId (processIfNew serviceName eventId) :=
  respects_processIfNew fun _ => traced_of_same rfl rfl

theorem tracing_insertStateTransition {transition : StateTransition}
    (carries : transition.Carries traceId) : Tracing traceId (insertStateTransition transition) :=
  respects_write fun _ => ⟨continued_of_eq rfl, continued_append carries⟩

theorem tracing_insertOutboxEvent (aggregateType : String) (aggregateId : Uuid)
    (eventType topic : String) (payload : Payload) :
    Tracing traceId
      (insertOutboxEvent aggregateType aggregateId eventType topic payload (some traceId)) := by
  intro db value after ran
  cases ran
  exact ⟨continued_append ⟨rfl, Payload.get?_set_same _ _ _⟩, continued_of_eq rfl⟩

variable {trace : TraceContext}

theorem Gateway.tracing_submitTrade (taken : List String) (key : Text)
    (request : TradeSubmitRequest) :
    Tracing trace.traceId (submitTrade backend taken key request trace) := by
  have inserted : Tracing trace.traceId (insertTrade backend taken request) := by
    intro db trade after ran
    obtain ⟨-, -, rfl⟩ := insertTrade_eq_ok ran
    exact traced_of_same rfl rfl
  exact respects_bind inserted fun trade =>
    respects_bind (respects_bind (tracing_insertOutboxEvent ..) fun _ => respects_pure _) fun _ =>
      respects_bind (respects_runWhen _
        (respects_bind (tracing_processIfNew _ _) fun _ => respects_pure _)) fun _ =>
          respects_pure _

namespace Novation

theorem tracing_setTradeStatus (tradeId : Uuid) (status : TradeStatus) :
    Tracing traceId (setTradeStatus tradeId status) := tracing_write (fun _ => rfl) fun _ => rfl

theorem tracing_createNovatedTrade (tradeId : Uuid) (data : TradeData) (side : Side)
    (memberId : Uuid) :
    Tracing traceId (createNovatedTrade backend tradeId data side memberId) := by
  intro db value after ran
  obtain ⟨quantity, price, -, -, rfl, rfl⟩ := createNovatedTrade_apply ran
  exact traced_of_same rfl rfl

theorem tracing_novateTrade (tradeId : Uuid) (data : TradeData) :
    Tracing trace.traceId (novateTrade backend tradeId data trace) :=
  respects_novateTrade admitsPostings_traced tracing_setTradeStatus
    (fun tradeId => tracing_createNovatedTrade tradeId data)
    (fun _ _ _ _ _ => tracing_insertStateTransition rfl)
    (fun _ _ _ _ _ => tracing_insertOutboxEvent ..) tradeId

theorem tracing_rejectTrade (tradeId : Uuid) (reason : Text) :
    Tracing trace.traceId (rejectTrade tradeId reason trace) :=
  respects_rejectTrade tracing_setTradeStatus (fun _ _ _ _ _ => tracing_insertStateTransition rfl)
    (fun _ _ _ _ _ => tracing_insertOutboxEvent ..) tradeId reason

end Novation

namespace Netting

theorem tracing_advanceCycle (cycleId : Uuid) (fromStatus toStatus : NettingCycleStatus) :
    Tracing trace.traceId (advanceCycle cycleId fromStatus toStatus trace) :=
  respects_bind (tracing_insertStateTransition rfl) fun _ =>
    tracing_write (fun _ => rfl) fun _ => rfl

theorem tracing_getCcpMemberId : Tracing traceId getCcpMemberId := by
  refine respects_bind respects_read fun db => ?_
  split
  · exact respects_pure _
  · exact respects_raise _

theorem tracing_insertNetObligation (cycleId : Uuid) (obligation : Obligation) :
    Tracing traceId (insertNetObligation backend cycleId obligation) :=
  respects_bind tracing_uuid4 fun _ => respects_bind (respects_castNumeric _) fun _ =>
    respects_bind (respects_castNumeric _) fun _ => respects_bind (respects_castNumeric _) fun _ =>
      respects_bind respects_read fun _ => respects_bind (respects_require _ _) fun _ =>
        respects_bind (respects_requireMember ..) fun _ => respects_bind (respects_require _ _)
          fun _ => tracing_write (fun _ => rfl) fun _ => rfl

theorem tracing_insertInstruction (cycleId : Uuid) (obligation : Obligation)
    (ccpMemberId : Uuid) :
    Tracing traceId (insertInstruction backend cycleId obligation ccpMemberId) :=
  respects_bind tracing_uuid4 fun _ => respects_bind (respects_castNumeric _) fun _ =>
    respects_bind (respects_castNumeric _) fun _ => respects_bind respects_read fun _ =>
      respects_bind (respects_require _ _) fun _ => respects_bind (respects_requireMember ..)
        fun _ => respects_bind (respects_requireMember ..) fun _ =>
          respects_bind (respects_require _ _) fun _ =>
            respects_bind (tracing_write (fun _ => rfl) fun _ => rfl) fun _ => respects_pure _

theorem tracing_closeCycle (cycleId : Uuid) (cycleType : NettingCycleType)
    (obligationCount tradesNetted : ℕ) (instructionIds : List Uuid) :
    Tracing trace.traceId
      (closeCycle cycleId cycleType obligationCount tradesNetted instructionIds trace) :=
  respects_bind (tracing_advanceCycle ..) fun _ =>
    respects_bind (tracing_insertOutboxEvent ..) fun _ =>
      respects_forM (fun _ => respects_bind (tracing_insertOutboxEvent ..) fun _ =>
        respects_pure _) _

theorem tracing_runNettingCycle (cycleType : NettingCycleType) (cutOffTime : Timestamp) :
    Tracing trace.traceId (runNettingCycle backend cycleType cutOffTime trace) := by
  have prices : Tracing trace.traceId
      (do let positions ← fetchOpenPositions cutOffTime; enrichWithPrices positions) :=
    respects_bind (respects_bind respects_read fun _ => respects_pure _) fun _ =>
      respects_bind respects_read fun _ => respects_pure _
  exact respects_bind tracing_uuid4 fun _ =>
    respects_bind (respects_bind (tracing_write (fun _ => rfl) fun _ => rfl) fun _ =>
      tracing_advanceCycle ..) fun _ => respects_bind tracing_getCcpMemberId fun _ =>
        respects_bind prices fun _ => respects_bind (respects_mapM (fun _ =>
          respects_bind (tracing_insertNetObligation ..) fun _ => tracing_insertInstruction ..) _)
            fun _ => respects_bind (respects_bind respects_read fun _ =>
              respects_bind (tracing_write (fun _ => rfl) fun _ => rfl) fun _ => respects_pure _)
                fun _ => respects_bind (tracing_closeCycle ..) fun _ => respects_pure _

end Netting

namespace Margin

theorem tracing_issueMarginCall (deadline : Timestamp) (memberId instrumentId : Uuid)
    (shortfall : ℚ) :
    Tracing trace.traceId
      (issueMarginCall backend deadline memberId instrumentId shortfall trace) :=
  respects_bind tracing_uuid4 fun _ => respects_bind respects_read fun _ =>
    respects_bind (respects_castNumeric _) fun _ =>
      respects_bind (tracing_write (fun _ => rfl) fun _ => rfl) fun _ =>
        respects_bind (tracing_insertStateTransition rfl) fun _ =>
          respects_bind (tracing_insertOutboxEvent ..) fun _ => respects_pure _

theorem tracing_recalculateMargins (deadline : Timestamp) :
    Tracing trace.traceId (recalculateMargins backend deadline trace) :=
  respects_recalculateMargins admitsPostings_traced (tracing_issueMarginCall deadline)

end Margin

namespace Settlement

theorem tracing_updateInstruction (instructionId : Uuid)
    (change : SettlementInstruction → SettlementInstruction) :
    Tracing traceId (updateInstruction instructionId change) :=
  tracing_write (fun _ => rfl) fun _ => rfl

theorem tracing_emitSettlementEvent (instructionId : Uuid) (eventType : String)
    (aggregateId : Uuid) :
    Tracing trace.traceId (emitSettlementEvent instructionId eventType aggregateId trace) :=
  respects_bind (tracing_insertOutboxEvent ..) fun _ => respects_pure _

theorem respectedFor_traced (trace : TraceContext) :
    RespectedFor backend (Traced trace.traceId) trace :=
  respectedFor_of admitsPostings_traced tracing_updateInstruction
    (fun _ _ _ _ => tracing_insertStateTransition rfl) tracing_emitSettlementEvent

end Settlement

namespace Waterfall

/-- What the steps of a default can draw on: the margin and default fund of the defaulter, the
equity of the house, and the default funds and credit limits of the survivors. -/
structure Pools where
  margin : ℚ
  fund : ℚ
  equity : ℚ
  funds : List (Uuid × ℚ)
  limits : List (Uuid × ℚ)

/-- The pools as the steps read them. -/
def poolsOf (memberId : Uuid) (db : Database) : Pools where
  margin := getMemberMarginBalance db memberId
  fund := getAccountBalance db memberId .defaultFund .available
  equity := ccpEquity db
  funds := survivorFunds db memberId
  limits := survivorLimits db memberId

/-- No pool has anything to draw. -/
def Pools.Dry (backend : Backend) (pools : Pools) : Prop :=
  pools.margin ≤ 0 ∧ pools.fund ≤ 0 ∧ pools.equity ≤ 0 ∧ pools.funds = [] ∧
    (backend.sum ((pools.limits.map Prod.snd).filter fun limit => limit ≠ 0) ≤ 0 ∨
      ∀ row ∈ pools.limits, row.2 ≤ 0)

instance (backend : Backend) (pools : Pools) : Decidable (pools.Dry backend) :=
  inferInstanceAs (Decidable (_ ∧ _))

/-- A default that finds nothing to draw. -/
def DrawsNothing (backend : Backend) (memberId : Uuid) (totalExposure : ℚ) (db : Database) : Prop :=
  totalExposure ≤ 0 ∨ (poolsOf memberId db).Dry backend

instance (backend : Backend) (memberId : Uuid) (totalExposure : ℚ) (db : Database) :
    Decidable (DrawsNothing backend memberId totalExposure db) :=
  inferInstanceAs (Decidable (_ ∨ _))

variable {memberId : Uuid}

theorem poolsOf_congr (members : after.members = db.members)
    (accounts : after.accounts = db.accounts) (entries : after.journalEntries = db.journalEntries) :
    poolsOf memberId after = poolsOf memberId db := by
  simp only [poolsOf, getMemberMarginBalance, getAccountBalance, ccpEquity, survivorFunds,
    survivorLimits, survivors, accountBalances, accountBalance, findAccount, findCcp, members,
    accounts, entries]

theorem poolsOf_declared (declared : Declared memberId db after) :
    poolsOf memberId after = poolsOf memberId db := by
  simp only [poolsOf, getMemberMarginBalance, survivorFunds, survivorLimits,
    declared.accountBalances_eq, declared.survivors_eq, declared.getAccountBalance_eq,
    declared.ccpEquity_eq]

/-- The trace is carried and the pools are left alone. -/
structure Undrawn (traceId memberId : Uuid) (db after : Database) : Prop
    extends Traced traceId db after where
  pools : poolsOf memberId after = poolsOf memberId db

instance : Std.Refl (Undrawn traceId memberId) := ⟨fun _ => ⟨traced_of_same rfl rfl, rfl⟩⟩

instance : IsTrans Database (Undrawn traceId memberId) where
  trans _ _ _ first second :=
    ⟨IsTrans.trans _ _ _ first.toTraced second.toTraced, second.pools.trans first.pools⟩

/-- Code that leaves the pools alone. -/
abbrev NotDrawing {α : Type} (traceId memberId : Uuid) (code : Sql α) : Prop :=
  Respects (Undrawn traceId memberId) code

theorem undrawn_of_reads {α : Type} {code : Sql α} (traced : Tracing traceId code)
    (same : ∀ {db value after}, code db = .ok (value, after) →
      after.members = db.members ∧ after.accounts = db.accounts ∧
        after.journalEntries = db.journalEntries) : NotDrawing traceId memberId code :=
  fun _ _ _ ran =>
    ⟨traced ran, poolsOf_congr (same ran).1 (same ran).2.1 (same ran).2.2⟩

theorem undrawn_recordStep (eventId : Uuid) (stepOrder : ℕ) (stepType : StepType)
    (available applied remaining : ℚ) (journalId : Option Uuid) :
    NotDrawing traceId memberId
      (recordStep backend eventId stepOrder stepType available applied remaining journalId) := by
  have number : NotDrawing traceId memberId uuid4 := undrawn_of_reads tracing_uuid4 fun ran => by
    cases ran
    exact ⟨rfl, rfl, rfl⟩
  exact respects_recordStep number
    (fun _ _ => ⟨traced_of_same rfl rfl, poolsOf_congr rfl rfl rfl⟩) ..

theorem undrawn_updateEventStatus (eventId : Uuid) (status : DefaultEventStatus) :
    NotDrawing trace.traceId memberId (updateEventStatus eventId status trace) :=
  undrawn_of_reads (tracing_insertStateTransition rfl) fun ran => by
    cases ran
    exact ⟨rfl, rfl, rfl⟩

/-- A step that applies no positive amount posts nothing. -/
theorem undrawn_drawOn (eventId : Uuid) (source : Option Uuid) (sourceType : AccountType)
    {available remaining : ℚ} (nothing : min available remaining ≤ 0) (stepOrder : ℕ)
    (stepType : StepType) :
    NotDrawing traceId memberId
      (drawOn backend eventId source sourceType available remaining stepOrder stepType) := by
  refine respects_bind ?_ fun _ => respects_bind (undrawn_recordStep ..) fun _ => respects_pure _
  unfold journalPositive
  split
  · rw [if_neg nothing.not_gt]
    exact respects_pure none
  · exact respects_pure none

/-- A step without weights posts nothing. -/
theorem undrawn_spreadOver (eventId : Uuid) (sourceType : AccountType) {rows : List (Uuid × ℚ)}
    {total : ℚ} (nothing : total ≤ 0 ∨ ∀ row ∈ rows, row.2 ≤ 0) (remaining : ℚ) (cap : ℚ → ℚ)
    (stepOrder : ℕ) (stepType : StepType) :
    NotDrawing traceId memberId
      (spreadOver backend eventId sourceType rows total remaining cap stepOrder stepType) := by
  have skipped : ∀ {rows : List (Uuid × ℚ)}, (∀ row ∈ rows, row.2 ≤ 0) → ∀ totalApplied : ℚ,
      rows.foldlM (collectFrom backend eventId sourceType total remaining cap) totalApplied =
        (pure totalApplied : Sql ℚ) := by
    intro rows weightless totalApplied
    induction rows with
    | nil => rfl
    | cons row rows induction =>
        have none : collectFrom backend eventId sourceType total remaining cap totalApplied row =
            pure totalApplied := if_pos (weightless row (List.mem_cons_self ..))
        rw [List.foldlM_cons, none, pure_bind]
        exact induction fun row member => weightless row (List.mem_cons_of_mem _ member)
  have collected : collect backend eventId sourceType rows total remaining cap = pure 0 := by
    rw [collect]
    rcases nothing with empty | weightless
    · exact if_neg empty.not_gt
    · split
      · exact skipped weightless 0
      · rfl
  refine respects_bind ?_ fun _ => respects_bind (undrawn_recordStep ..) fun _ => respects_pure _
  rw [collected]
  exact respects_pure _

/-- From dry pools nothing is drawn. -/
def StaysDry (backend : Backend) (traceId memberId : Uuid) (db after : Database) : Prop :=
  (poolsOf memberId db).Dry backend → Undrawn traceId memberId db after

instance : Std.Refl (StaysDry backend traceId memberId) :=
  ⟨fun db _ => Std.Refl.refl db⟩

instance : IsTrans Database (StaysDry backend traceId memberId) where
  trans _ _ _ first second dry := by
    have undrawn := first dry
    exact IsTrans.trans _ _ _ undrawn (second (undrawn.pools ▸ dry))

theorem staysDry_of_undrawn {α : Type} {code : Sql α} (undrawn : NotDrawing traceId memberId code) :
    Respects (StaysDry backend traceId memberId) code := fun _ _ _ ran _ => undrawn ran

theorem staysDry_runSteps (eventId : Uuid) (totalExposure : ℚ) :
    Respects (StaysDry backend trace.traceId memberId)
      (runSteps backend eventId memberId totalExposure trace) := by
  have noted : ∀ status, Respects (StaysDry backend trace.traceId memberId)
      (updateEventStatus eventId status trace) := fun _ =>
    staysDry_of_undrawn (undrawn_updateEventStatus ..)
  have margin : Respects (StaysDry backend trace.traceId memberId)
      (stepDefaulterMargin backend eventId memberId totalExposure 1) := fun _ _ _ ran dry =>
    undrawn_drawOn _ _ _ (min_le_of_left_le dry.1) _ _ ran
  have fund : ∀ loss, Respects (StaysDry backend trace.traceId memberId)
      (stepDefaulterDefaultFund backend eventId memberId loss 2) := fun _ _ _ _ ran dry =>
    undrawn_drawOn _ _ _ (min_le_of_left_le dry.2.1) _ _ ran
  have equity : ∀ loss, Respects (StaysDry backend trace.traceId memberId)
      (stepCcpEquity backend eventId loss 3) := fun _ _ _ _ ran dry =>
    undrawn_drawOn _ _ _ (min_le_of_left_le dry.2.2.1) _ _ ran
  have funds : ∀ loss, Respects (StaysDry backend trace.traceId memberId)
      (stepSurvivingDefaultFund backend eventId memberId loss 4) := fun _ db _ _ ran dry => by
    have none : ∀ row ∈ survivorFunds db memberId, row.2 ≤ 0 := by
      have empty : survivorFunds db memberId = [] := dry.2.2.2.1
      simp [empty]
    exact undrawn_spreadOver _ _ (.inr none) _ _ _ _ ran
  have limits : ∀ loss, Respects (StaysDry backend trace.traceId memberId)
      (stepLossAllocation backend eventId memberId loss 5) := fun _ _ _ _ ran dry =>
    undrawn_spreadOver _ _ dry.2.2.2.2 _ _ _ _ ran
  exact respects_bind margin fun _ => respects_bind (noted _) fun _ =>
    respects_bind (respects_continueWith fund (noted _) _) fun _ =>
      respects_bind (respects_continueWith equity (noted _) _) fun _ =>
        respects_bind (respects_continueWith funds (noted _) _) fun _ =>
          respects_continueWith limits (respects_pure ()) _

/-- Without an exposure the first step ends the waterfall. -/
theorem undrawn_runSteps_of_nonpos {eventId : Uuid} {totalExposure : ℚ}
    {result : ℚ × List StepRecord} (safe : totalExposure ≤ 0)
    (ran : runSteps backend eventId memberId totalExposure trace db = .ok (result, after)) :
    Undrawn trace.traceId memberId db after := by
  obtain ⟨first, stepped, step, ran⟩ := bind_eq_ok.mp ran
  obtain ⟨⟨⟩, noted, note, ran⟩ := bind_eq_ok.mp ran
  have taken : min (getMemberMarginBalance db memberId) totalExposure = totalExposure :=
    min_eq_right (safe.trans (getMemberMarginBalance_nonneg db memberId))
  have remaining : first.1 = 0 := by
    have result := ((drawOn_performs backend .defaulterMargin (by decide) eventId (some memberId)
      .marginIm (getMemberMarginBalance db memberId) totalExposure 1 db).ran step).1
    have same : (drawTier (some memberId) .marginIm (getMemberMarginBalance db memberId) 1
        .defaulterMargin).take totalExposure = totalExposure := taken
    rw [result, same, Backend.sub, sub_self, backend.round_zero]
  have stopped : ∀ {step : ℚ → Sql (ℚ × StepRecord)} {closing : Sql Unit}
      {progress : ℚ × List StepRecord}, progress.1 = 0 →
        continueWith step closing progress = pure progress := fun none => by
    rw [continueWith, none, if_neg (lt_irrefl 0)]
  have drawn : Undrawn trace.traceId memberId db stepped :=
    undrawn_drawOn eventId (some memberId) .marginIm (taken.trans_le safe) 1 .defaulterMargin step
  have told : Undrawn trace.traceId memberId stepped noted :=
    undrawn_updateEventStatus eventId .marginLiquidated note
  have ended : (0, [first.2]) = result ∧ noted = after := by
    simpa [stopped, remaining] using ran
  exact ended.2 ▸ IsTrans.trans _ _ _ drawn told

theorem undrawn_resolveDefault (eventId : Uuid) (finalStatus : DefaultEventStatus)
    (remaining : ℚ) :
    NotDrawing trace.traceId memberId
      (resolveDefault backend eventId finalStatus remaining trace) := by
  refine respects_bind (respects_require _ _) fun _ =>
    respects_bind (respects_write fun _ => ⟨traced_of_same rfl rfl, poolsOf_congr rfl rfl rfl⟩)
      fun _ => respects_bind ?_ fun _ => respects_pure _
  exact undrawn_of_reads (tracing_insertOutboxEvent ..) fun ran => by
    cases ran
    exact ⟨rfl, rfl, rfl⟩

theorem tracing_declareDefault (eventId : Uuid) (triggerReason : Text) (totalExposure : ℚ) :
    Tracing trace.traceId
      (declareDefault backend eventId memberId triggerReason totalExposure trace) :=
  respects_bind (respects_requireMember ..) fun _ => respects_bind (respects_castNumeric _) fun _ =>
    respects_bind (respects_require _ _) fun _ =>
      respects_bind (tracing_write (fun _ => rfl) fun _ => rfl) fun _ =>
        respects_bind (tracing_write (fun _ => rfl) fun _ => rfl) fun _ =>
          respects_bind (tracing_insertOutboxEvent ..) fun _ => respects_pure _

/-- The declaration leaves the pools alone. -/
theorem undrawn_declareDefault {eventId : Uuid} {triggerReason : Text} {totalExposure : ℚ}
    {value : Unit}
    (ran : declareDefault backend eventId memberId triggerReason totalExposure trace db =
      .ok (value, after)) : Undrawn trace.traceId memberId db after := by
  refine ⟨tracing_declareDefault _ _ _ ran, ?_⟩
  obtain ⟨⟨⟩, _, member, ran⟩ := bind_eq_ok.mp ran
  obtain ⟨-, rfl⟩ := requireMember_eq_ok.mp member
  obtain ⟨storedExposure, _, cast, ran⟩ := bind_eq_ok.mp ran
  obtain ⟨-, rfl⟩ := castNumeric_eq_ok.mp cast
  obtain ⟨⟨⟩, _, status, ran⟩ := bind_eq_ok.mp ran
  obtain ⟨-, rfl⟩ := require_eq_ok.mp status
  obtain ⟨⟨⟩, _, insert, ran⟩ := bind_eq_ok.mp ran
  cases insert
  obtain ⟨⟨⟩, _, update, ran⟩ := bind_eq_ok.mp ran
  cases update
  obtain ⟨_, _, announce, done⟩ := bind_eq_ok.mp ran
  cases announce
  cases done
  exact poolsOf_declared ⟨rfl, rfl, rfl⟩

/-- A default that finds nothing to draw carries the trace of its caller. -/
theorem undrawn_executeWaterfall {triggerReason : Text} {totalExposure : ℚ} {outcome : Outcome}
    (nothing : DrawsNothing backend memberId totalExposure db)
    (ran : executeWaterfall backend memberId triggerReason totalExposure (some trace) db =
      .ok (outcome, after)) : Undrawn trace.traceId memberId db after := by
  obtain ⟨_, _, tracing, ran⟩ := bind_eq_ok.mp ran
  cases tracing
  obtain ⟨eventId, numbered, number, ran⟩ := bind_eq_ok.mp ran
  obtain ⟨⟨⟩, declared, declare, ran⟩ := bind_eq_ok.mp ran
  obtain ⟨⟨remaining, steps⟩, stepped, run, ran⟩ := bind_eq_ok.mp ran
  obtain ⟨⟨⟩, resolved, resolve, done⟩ := bind_eq_ok.mp ran
  cases done
  have opened : Undrawn trace.traceId memberId db numbered := by
    cases number
    exact ⟨traced_of_same rfl rfl, poolsOf_congr rfl rfl rfl⟩
  have declaring := IsTrans.trans _ _ _ opened (undrawn_declareDefault declare)
  have worked : Undrawn trace.traceId memberId declared stepped := by
    rcases nothing with safe | dry
    · exact undrawn_runSteps_of_nonpos safe run
    · exact staysDry_runSteps eventId totalExposure run (declaring.pools ▸ dry)
  exact IsTrans.trans _ _ _ declaring
    (IsTrans.trans _ _ _ worked (undrawn_resolveDefault _ _ _ resolve))

theorem drawsNothing_congr {totalExposure : ℚ}
    (pools : poolsOf memberId after = poolsOf memberId db) :
    DrawsNothing backend memberId totalExposure after ↔
      DrawsNothing backend memberId totalExposure db := by
  rw [DrawsNothing, DrawsNothing, pools]

/-- Whether a waterfall runs depends on the pools and on the accounts of its postings. -/
theorem runnable_congr {totalExposure : ℚ} (members : after.members = db.members)
    (accounts : after.accounts = db.accounts) (entries : after.journalEntries = db.journalEntries) :
    Runnable backend memberId totalExposure after ↔
      Runnable backend memberId totalExposure db := by
  have posted : Posted backend [] db after := .of_entries members accounts entries
  have accepted : ∀ {tiers : List WaterfallTier} {loss : ℚ},
      Accepted backend after tiers loss ↔ Accepted backend db tiers loss := by
    intro tiers
    induction tiers with
    | nil => exact Iff.rfl
    | cons tier tiers induction => simp only [Accepted, posted.accepts_iff, induction, implies_true]
  have tiers : waterfallTiers backend after memberId = waterfallTiers backend db memberId := by
    have pools : poolsOf memberId after = poolsOf memberId db :=
      poolsOf_congr members accounts entries
    obtain ⟨margin, fund, equity, funds, limits⟩ := Pools.mk.inj pools
    have ccp : findCcp after = findCcp db := by rw [findCcp, findCcp, members]
    simp only [waterfallTiers, marginTier, defaultFundTier, equityTier, mutualTier,
      allocationTier, fundTotal, limitTotal, margin, fund, equity, funds, limits, ccp]
  constructor
  · rintro ⟨known, exposure, accepts⟩
    exact ⟨members ▸ known, exposure, accepted.mp (tiers ▸ accepts)⟩
  · rintro ⟨known, exposure, accepts⟩
    exact ⟨members.symm ▸ known, exposure, accepted.mpr (tiers.symm ▸ accepts)⟩

end Waterfall

end ClearingHouse
