import ClearingHouse.Statements

/-!
# Default waterfall

`execute_waterfall` and its five steps.  The loss left after the defaulter's margin and default
fund and the CCP's equity is spread over the surviving members, first over their default fund
balances and then, capped, over their credit limits.
-/

namespace ClearingHouse

namespace Waterfall

open Transactions

/-- `_get_member_margin_balance`: positive balances of both margin types in every pool. -/
def getMemberMarginBalance (db : Database) (memberId : Uuid) : ℚ :=
  (((accountBalances db).filter fun row =>
      row.1.memberId = memberId ∧ row.1.accountType ∈ [AccountType.marginIm, .marginVm] ∧
        0 < row.2).map Prod.snd).sum

/-- `_get_account_balance`; a missing account counts as zero. -/
def getAccountBalance (db : Database) (memberId : Uuid) (accountType : AccountType) (pool : Pool) :
    ℚ :=
  match findAccount db memberId accountType pool with
  | some account => accountBalance db account.id
  | none => 0

/-- Members other than the defaulter that are active. -/
def survivors (db : Database) (defaulterId : Uuid) : List Member :=
  db.members.filter fun member => member.status = .active ∧ member.id ≠ defaulterId

/-- Rows of the query of `_step_surviving_default_fund`: a survivor for each of its available
default fund accounts with a positive balance. -/
def survivorFunds (db : Database) (defaulterId : Uuid) : List (Uuid × ℚ) :=
  (survivors db defaulterId).flatMap fun member =>
    ((accountBalances db).filter fun row =>
        row.1.memberId = member.id ∧ row.1.accountType = .defaultFund ∧ row.1.pool = .available ∧
          0 < row.2).map fun row => (member.id, row.2)

/-- Rows of the query of `_step_loss_allocation`. -/
def survivorLimits (db : Database) (defaulterId : Uuid) : List (Uuid × ℚ) :=
  (survivors db defaulterId).map fun member => (member.id, member.creditLimit)

/-- `_create_waterfall_journal`: each entry is posted only if its account exists. -/
def createWaterfallJournal (backend : Backend) (eventId memberId : Uuid) (amount : ℚ)
    (sourceAccountType : AccountType) : Sql Uuid := do
  let db ← read
  let memberAcct := findAccount db memberId sourceAccountType .available
  let ccpAcct := (findCcp db).bind fun ccp => findAccount db ccp.id .settlement .available
  let journalId ← uuid4
  insertJournal backend journalId .defaultWaterfallStep "default_event" (some eventId)
  whenFound memberAcct fun account => insertJournalEntry backend journalId account.id 0 amount
  whenFound ccpAcct fun account => insertJournalEntry backend journalId account.id amount 0
  let _ ← insertOutboxEvent "default_event" eventId "waterfall.step.executed"
    "waterfall.step.executed"
    [("default_event_id", .uuid eventId), ("member_id", .uuid memberId),
      ("amount", .decimal amount), ("source", .literal sourceAccountType.value),
      ("journal_id", .uuid journalId)] none
  pure journalId

/-- A recorded step as the service returns it. -/
structure StepRecord where
  stepOrder : ℕ
  stepType : StepType
  available : ℚ
  applied : ℚ
  remaining : ℚ
  deriving DecidableEq, Repr

/-- `_record_step`; the event and the journal it refers to are rows of the same transaction. -/
def recordStep (backend : Backend) (eventId : Uuid) (stepOrder : ℕ) (stepType : StepType)
    (available applied remaining : ℚ) (journalId : Option Uuid) : Sql StepRecord := do
  let stepId ← uuid4
  let availableAmount ← castNumeric backend available
  let appliedAmount ← castNumeric backend applied
  let remainingLoss ← castNumeric backend remaining
  require (stepType ∈ backend.stepTypes) (.server (.checkViolation "chk_waterfall_step_type"))
  write fun db =>
    { db with
      waterfallSteps := db.waterfallSteps ++
        [{ id := stepId, defaultEventId := eventId, stepOrder, stepType, availableAmount
           appliedAmount, remainingLoss, journalId }] }
  pure { stepOrder, stepType, available, applied, remaining }

/-- `_update_event_status`. -/
def updateEventStatus (eventId : Uuid) (status : DefaultEventStatus) (trace : TraceContext) :
    Sql Unit :=
  insertStateTransition
    { entityType := .defaultEvent
      entityId := eventId
      fromStatus := none
      toStatus := .defaultEvent status
      reason := some [.literal "Waterfall step completed"]
      transitionedBy := "liquidation-engine:" ++ trace.actor
      traceId := some trace.traceId
      actor := some trace.actor }

/-- The journal of a positive amount taken from a member, if there is one. -/
def journalPositive (backend : Backend) (eventId : Uuid) (source : Option Uuid)
    (applied : ℚ) (sourceType : AccountType) : Sql (Option Uuid) :=
  match source with
  | some memberId =>
      if 0 < applied then
        some <$> createWaterfallJournal backend eventId memberId applied sourceType
      else pure none
  | none => pure none

/-- A step that takes `min available remaining` from one member, if there is one. -/
def drawOn (backend : Backend) (eventId : Uuid) (source : Option Uuid) (sourceType : AccountType)
    (available remaining : ℚ) (stepOrder : ℕ) (stepType : StepType) : Sql (ℚ × StepRecord) := do
  let applied := min available remaining
  let newRemaining := backend.sub remaining applied
  let journalId ← journalPositive backend eventId source applied sourceType
  let step ← recordStep backend eventId stepOrder stepType available applied newRemaining journalId
  pure (newRemaining, step)

/-- `_step_defaulter_margin`. -/
def stepDefaulterMargin (backend : Backend) (eventId memberId : Uuid) (remaining : ℚ)
    (stepOrder : ℕ) : Sql (ℚ × StepRecord) := do
  let db ← read
  drawOn backend eventId (some memberId) .marginIm (getMemberMarginBalance db memberId) remaining
    stepOrder .defaulterMargin

/-- `_step_defaulter_default_fund`. -/
def stepDefaulterDefaultFund (backend : Backend) (eventId memberId : Uuid) (remaining : ℚ)
    (stepOrder : ℕ) : Sql (ℚ × StepRecord) := do
  let db ← read
  drawOn backend eventId (some memberId) .defaultFund
    (getAccountBalance db memberId .defaultFund .available) remaining stepOrder
    .defaulterDefaultFund

/-- Balance of the house account that `_step_ccp_equity` reads. -/
def ccpEquity (db : Database) : ℚ :=
  match findCcp db with
  | some ccp => getAccountBalance db ccp.id .ccpEquity .available
  | none => 0

/-- `_step_ccp_equity`. -/
def stepCcpEquity (backend : Backend) (eventId : Uuid) (remaining : ℚ) (stepOrder : ℕ) :
    Sql (ℚ × StepRecord) := do
  let db ← read
  drawOn backend eventId ((findCcp db).map Member.id) .ccpEquity (ccpEquity db) remaining stepOrder
    .ccpEquity

/-- What one survivor is asked for: its share of the loss by weight, up to a cap. -/
def contribution (backend : Backend) (total remaining : ℚ) (cap : ℚ → ℚ) (weight : ℚ) : ℚ :=
  min (backend.mul (backend.div weight total) remaining) (cap weight)

/-- Loop body of the pro-rata steps. -/
def collectFrom (backend : Backend) (eventId : Uuid) (sourceType : AccountType)
    (total remaining : ℚ) (cap : ℚ → ℚ) (totalApplied : ℚ) (survivor : Uuid × ℚ) : Sql ℚ :=
  if survivor.2 ≤ 0 then pure totalApplied
  else
    let amount := contribution backend total remaining cap survivor.2
    if 0 < amount then do
      let _ ← createWaterfallJournal backend eventId survivor.1 amount sourceType
      pure (backend.add totalApplied amount)
    else pure totalApplied

/-- Loop of the pro-rata steps, entered when there is any weight. -/
def collect (backend : Backend) (eventId : Uuid) (sourceType : AccountType)
    (rows : List (Uuid × ℚ)) (total remaining : ℚ) (cap : ℚ → ℚ) : Sql ℚ :=
  if 0 < total then rows.foldlM (collectFrom backend eventId sourceType total remaining cap) 0
  else pure 0

/-- A step that spreads the loss over weighted survivors. -/
def spreadOver (backend : Backend) (eventId : Uuid) (sourceType : AccountType)
    (rows : List (Uuid × ℚ)) (total remaining : ℚ) (cap : ℚ → ℚ) (stepOrder : ℕ)
    (stepType : StepType) : Sql (ℚ × StepRecord) := do
  let totalApplied ← collect backend eventId sourceType rows total remaining cap
  let newRemaining := backend.sub remaining totalApplied
  let step ← recordStep backend eventId stepOrder stepType total totalApplied newRemaining none
  pure (newRemaining, step)

/-- `_step_surviving_default_fund`: a contribution is capped by the balance. -/
def stepSurvivingDefaultFund (backend : Backend) (eventId defaulterId : Uuid) (remaining : ℚ)
    (stepOrder : ℕ) : Sql (ℚ × StepRecord) := do
  let db ← read
  let rows := survivorFunds db defaulterId
  spreadOver backend eventId .defaultFund rows (backend.sum (rows.map Prod.snd)) remaining id
    stepOrder .survivingMembersDefaultFund

/-- The cap of a loss allocation, a tenth of the credit limit. -/
def allocationCap (backend : Backend) (limit : ℚ) : ℚ := backend.mul limit (1 / 10)

/-- `_step_loss_allocation`: an allocation is capped by a tenth of the credit limit. -/
def stepLossAllocation (backend : Backend) (eventId defaulterId : Uuid) (remaining : ℚ)
    (stepOrder : ℕ) : Sql (ℚ × StepRecord) := do
  let db ← read
  let rows := survivorLimits db defaulterId
  let limits := (rows.map Prod.snd).filter fun limit => limit ≠ 0
  spreadOver backend eventId .settlement rows (backend.sum limits) remaining
    (allocationCap backend) stepOrder .lossAllocation

/-- What `execute_waterfall` returns. -/
structure Outcome where
  defaultEventId : Uuid
  status : DefaultEventStatus
  steps : List StepRecord
  remainingLoss : ℚ
  deriving DecidableEq, Repr

/-- Declare the default: the event row, the member's status and the outbox event. -/
def declareDefault (backend : Backend) (eventId memberId : Uuid) (triggerReason : Text)
    (totalExposure : ℚ) (trace : TraceContext) : Sql Unit := do
  requireMember memberId "default_events_member_id_fkey"
  let storedExposure ← castNumeric backend totalExposure
  require (DefaultEventStatus.detected ∈ backend.defaultStatuses)
    (.server (.checkViolation "chk_default_event_status"))
  write fun db =>
    { db with
      defaultEvents := db.defaultEvents ++
        [{ id := eventId, memberId, triggerReason, totalExposure := storedExposure
           status := .detected, resolvedAt := none }] }
  write fun db =>
    db.updateMembers
      (fun member => if member.id = memberId then { member with status := .defaulted } else member)
      fun member => by split <;> rfl
  let _ ← insertOutboxEvent "default_event" eventId "default.declared" "default.declared"
    [("default_event_id", .uuid eventId), ("member_id", .uuid memberId),
      ("trigger_reason", .string triggerReason), ("total_exposure", .decimal totalExposure)]
    (some trace.traceId)

/-- Close the event with its final status. -/
def resolveDefault (backend : Backend) (eventId : Uuid) (finalStatus : DefaultEventStatus)
    (remaining : ℚ) (trace : TraceContext) : Sql Unit := do
  require (finalStatus ∈ backend.defaultStatuses)
    (.server (.checkViolation "chk_default_event_status"))
  write fun db =>
    { db with
      defaultEvents := db.defaultEvents.map fun event =>
        if event.id = eventId then
          { event with status := finalStatus, resolvedAt := some db.now }
        else event }
  let _ ← insertOutboxEvent "default_event" eventId "default.resolved" "default.resolved"
    [("default_event_id", .uuid eventId), ("status", .literal finalStatus.value),
      ("remaining_loss", .decimal remaining)]
    (some trace.traceId)

/-- A later step of the waterfall runs only while a loss is left, and then `after` follows it. -/
def continueWith (step : ℚ → Sql (ℚ × StepRecord)) (after : Sql Unit)
    (progress : ℚ × List StepRecord) : Sql (ℚ × List StepRecord) :=
  if 0 < progress.1 then do
    let (remaining, record) ← step progress.1
    after
    pure (remaining, progress.2 ++ [record])
  else pure progress

/-- The five steps. -/
def runSteps (backend : Backend) (eventId memberId : Uuid) (totalExposure : ℚ)
    (trace : TraceContext) : Sql (ℚ × List StepRecord) := do
  let (remaining, step) ← stepDefaulterMargin backend eventId memberId totalExposure 1
  updateEventStatus eventId .marginLiquidated trace
  let progress ←
    continueWith (stepDefaulterDefaultFund backend eventId memberId · 2)
      (updateEventStatus eventId .defaultFundApplied trace) (remaining, [step])
  let progress ←
    continueWith (stepCcpEquity backend eventId · 3)
      (updateEventStatus eventId .ccpEquityApplied trace) progress
  let progress ←
    continueWith (stepSurvivingDefaultFund backend eventId memberId · 4)
      (updateEventStatus eventId .mutualized trace) progress
  continueWith (stepLossAllocation backend eventId memberId · 5) (pure ()) progress

/-- `execute_waterfall`. -/
def executeWaterfall (backend : Backend) (memberId : Uuid) (triggerReason : Text)
    (totalExposure : ℚ) (trace : Option TraceContext) : Sql Outcome := do
  let trace ← traceOrSystem trace "liquidation-engine"
  let eventId ← uuid4
  declareDefault backend eventId memberId triggerReason totalExposure trace
  let (remaining, steps) ← runSteps backend eventId memberId totalExposure trace
  let finalStatus := if remaining = 0 then DefaultEventStatus.resolved else .partiallyResolved
  resolveDefault backend eventId finalStatus remaining trace
  pure { defaultEventId := eventId, status := finalStatus, steps, remainingLoss := remaining }

/-- The relation admits what the steps consist of: journals of losses, recorded steps and the
statuses that they come to. -/
structure AdmitsSteps (backend : Backend) (relation : Database → Database → Prop) : Prop where
  journal : ∀ eventId memberId amount sourceType, Transaction.Respects relation
    (createWaterfallJournal backend eventId memberId amount sourceType)
  record : ∀ eventId stepOrder stepType available applied remaining journalId,
    Transaction.Respects relation
      (recordStep backend eventId stepOrder stepType available applied remaining journalId)
  status : ∀ eventId status trace,
    Transaction.Respects relation (updateEventStatus eventId status trace)

section Respects

open Transaction

variable {backend : Backend} {relation : Database → Database → Prop} [Std.Refl relation]
  [IsTrans Database relation]

theorem respects_createWaterfallJournal (admits : AdmitsPostings backend relation)
    (event : ∀ eventId (payload : Payload), payload.get? "event_type" = none → Respects relation
      (insertOutboxEvent "default_event" eventId "waterfall.step.executed"
        "waterfall.step.executed" payload none))
    (eventId memberId : Uuid) (amount : ℚ) (sourceAccountType : AccountType) :
    Respects relation
      (createWaterfallJournal backend eventId memberId amount sourceAccountType) :=
  respects_bind respects_read fun _ => respects_bind admits.uuid4 fun _ =>
    respects_bind (admits.journal ..) fun _ =>
      respects_bind (respects_whenFound _ fun _ _ => admits.entry ..) fun _ =>
        respects_bind (respects_whenFound _ fun _ _ => admits.entry ..) fun _ =>
          respects_bind (event _ _ rfl) fun _ => respects_pure _

theorem respects_recordStep (numbers : Respects relation uuid4)
    (steps : ∀ (db : Database) rows, relation db { db with waterfallSteps := rows })
    (eventId : Uuid) (stepOrder : ℕ) (stepType : StepType) (available applied remaining : ℚ)
    (journalId : Option Uuid) :
    Respects relation
      (recordStep backend eventId stepOrder stepType available applied remaining journalId) :=
  respects_bind numbers fun _ => respects_bind (respects_castNumeric _) fun _ =>
    respects_bind (respects_castNumeric _) fun _ => respects_bind (respects_castNumeric _) fun _ =>
      respects_bind (respects_require _ _) fun _ =>
        respects_bind (respects_write fun db => steps db _) fun _ => respects_pure _

theorem respects_drawOn (admits : AdmitsSteps backend relation) (eventId : Uuid)
    (source : Option Uuid) (sourceType : AccountType) (available remaining : ℚ) (stepOrder : ℕ)
    (stepType : StepType) :
    Respects relation
      (drawOn backend eventId source sourceType available remaining stepOrder stepType) := by
  refine respects_bind ?_ fun _ => respects_bind (admits.record ..) fun _ => respects_pure _
  unfold journalPositive
  split
  · refine respects_ite ?_ (respects_pure _)
    rw [map_eq_pure_bind]
    exact respects_bind (admits.journal ..) fun _ => respects_pure _
  · exact respects_pure _

theorem respects_spreadOver (admits : AdmitsSteps backend relation) (eventId : Uuid)
    (sourceType : AccountType) (rows : List (Uuid × ℚ)) (total remaining : ℚ) (cap : ℚ → ℚ)
    (stepOrder : ℕ) (stepType : StepType) :
    Respects relation
      (spreadOver backend eventId sourceType rows total remaining cap stepOrder stepType) := by
  refine respects_bind (respects_ite (respects_foldlM (fun totalApplied survivor => ?_) _ _)
    (respects_pure _)) fun _ => respects_bind (admits.record ..) fun _ => respects_pure _
  exact respects_ite (respects_pure _) (respects_ite
    (respects_bind (admits.journal ..) fun _ => respects_pure _) (respects_pure _))

theorem respects_continueWith {step : ℚ → Sql (ℚ × StepRecord)} {closing : Sql Unit}
    (steps : ∀ loss, Respects relation (step loss)) (closes : Respects relation closing)
    (progress : ℚ × List StepRecord) :
    Respects relation (continueWith step closing progress) :=
  respects_ite (respects_bind (steps _) fun _ => respects_bind closes fun _ => respects_pure _)
    (respects_pure _)

theorem respects_runSteps (admits : AdmitsSteps backend relation) (eventId memberId : Uuid)
    (totalExposure : ℚ) (trace : TraceContext) :
    Respects relation (runSteps backend eventId memberId totalExposure trace) := by
  have draws : ∀ {next : Database → Sql (ℚ × StepRecord)},
      (∀ db, Respects relation (next db)) → Respects relation (read >>= next) := fun next =>
    respects_bind respects_read next
  exact respects_bind (draws fun _ => respects_drawOn admits ..) fun _ =>
    respects_bind (admits.status ..) fun _ =>
      respects_bind (respects_continueWith (fun _ => draws fun _ => respects_drawOn admits ..)
        (admits.status ..) _) fun _ =>
      respects_bind (respects_continueWith (fun _ => draws fun _ => respects_drawOn admits ..)
        (admits.status ..) _) fun _ =>
      respects_bind (respects_continueWith (fun _ => draws fun _ => respects_spreadOver admits ..)
        (admits.status ..) _) fun _ =>
      respects_continueWith (fun _ => draws fun _ => respects_spreadOver admits ..)
        (respects_pure ()) _

end Respects

end Waterfall

end ClearingHouse
