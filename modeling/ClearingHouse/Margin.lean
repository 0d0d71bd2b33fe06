import ClearingHouse.Statements

/-!
# Margin

Recalculation of initial and variation margin for every open position, with the margin calls for
what is short.
-/

namespace ClearingHouse

namespace Margin

open Transactions

/-- `calculate_initial_margin`. -/
def calculateInitialMargin (backend : Backend) (netQuantity latestPrice marginRateIm : ℚ) : ℚ :=
  backend.mul (backend.mul (backend.abs netQuantity) latestPrice) marginRateIm

/-- `calculate_variation_margin`. -/
def calculateVariationMargin (backend : Backend) (netQuantity currentPrice previousMark : ℚ) : ℚ :=
  backend.mul (backend.sub currentPrice previousMark) netQuantity

/-- A row of the position query. -/
structure Position where
  memberId : Uuid
  instrumentId : Uuid
  netQuantity : ℚ
  avgPrice : Option ℚ
  rateIm : ℚ
  rateVm : ℚ
  latestPrice : Option ℚ
  deriving DecidableEq, Repr

/-- Open legs of one member in one instrument. -/
def openLegs (db : Database) (memberId instrumentId : Uuid) : List NovatedTrade :=
  db.novatedTrades.filter fun leg =>
    leg.status = .open ∧ leg.memberId = memberId ∧ leg.instrumentId = instrumentId

/-- `quantity` of a leg, negative when it sells. -/
def signedQuantity (leg : NovatedTrade) : ℚ :=
  match leg.side with
  | .buy => leg.quantity
  | .sell => -leg.quantity

/-- Column `net_quantity` of `member_positions`. -/
def netQuantity (legs : List NovatedTrade) : ℚ := (legs.map signedQuantity).sum

/-- Column `avg_price` of `member_positions`. -/
def avgPrice (backend : Backend) (legs : List NovatedTrade) : Option ℚ :=
  let quantity := (legs.map NovatedTrade.quantity).sum
  if quantity = 0 then none
  else some (backend.divide (legs.map fun leg => leg.quantity * leg.price).sum quantity)

/-- The position query of `recalculate_margins`. -/
def positions (backend : Backend) (db : Database) : List Position :=
  let keys := ((db.novatedTrades.filter fun leg => leg.status = .open).map fun leg =>
    (leg.memberId, leg.instrumentId)).dedup
  keys.filterMap fun key =>
    let legs := openLegs db key.1 key.2
    match db.instruments.find? fun instrument => instrument.id = key.2 with
    | none => none
    | some instrument =>
        if netQuantity legs = 0 then none
        else
          some
            { memberId := key.1
              instrumentId := key.2
              netQuantity := netQuantity legs
              avgPrice := avgPrice backend legs
              rateIm := instrument.marginRateIm
              rateVm := instrument.marginRateVm
              latestPrice := (db.latestPrices.find? fun row => row.instrumentId = key.2).map
                LatestPrice.price }

/-- The requirement of a member in an instrument. -/
def findRequirement (db : Database) (memberId instrumentId : Uuid) (marginType : MarginType) :
    Option MarginRequirement :=
  db.marginRequirements.find? fun row =>
    row.memberId = memberId ∧ row.instrumentId = instrumentId ∧ row.marginType = marginType

/-- `_update_margin_requirement`, an upsert on member, instrument and margin type; the generated
column is cast as well. -/
def updateMarginRequirement (backend : Backend) (memberId instrumentId : Uuid)
    (marginType : MarginType) (requiredAmount : ℚ) : Sql Unit := do
  let required ← castNumeric backend requiredAmount
  let db ← read
  match findRequirement db memberId instrumentId marginType with
  | some row => do
      let _ ← castNumeric backend (max (required - row.postedAmount) 0)
      write fun db =>
        { db with
          marginRequirements := db.marginRequirements.map fun row =>
            if row.memberId = memberId ∧ row.instrumentId = instrumentId ∧
                row.marginType = marginType then
              { row with requiredAmount := required }
            else row }
  | none => do
      let _ ← castNumeric backend (max required 0)
      let id ← uuid4
      write fun db =>
        { db with
          marginRequirements := db.marginRequirements ++
            [{ id, memberId, instrumentId, marginType, requiredAmount := required
               postedAmount := 0 }] }

/-- `_check_shortfall`. -/
def checkShortfall (db : Database) (memberId instrumentId : Uuid) (marginType : MarginType) : ℚ :=
  match findRequirement db memberId instrumentId marginType with
  | some requirement => requirement.shortfall
  | none => 0

/-- The journal of a variation margin between the two pools of a member. -/
def transferVariation (backend : Backend) (instrumentId available locked : Uuid) (vmAmount : ℚ) :
    Sql Unit := do
  let journalId ← uuid4
  insertJournal backend journalId .variationMargin "margin_requirement" (some instrumentId)
  let absAmount := backend.abs vmAmount
  let (debitAcct, creditAcct) :=
    if 0 < vmAmount then (available, locked) else (locked, available)
  insertJournalEntry backend journalId debitAcct absAmount 0
  insertJournalEntry backend journalId creditAcct 0 absAmount

/-- `_process_variation_margin`; without the accounts nothing is posted. -/
def processVariationMargin (backend : Backend) (memberId instrumentId : Uuid) (vmAmount : ℚ) :
    Sql Unit := do
  let db ← read
  match findAccount db memberId .marginVm .available, findAccount db memberId .marginVm .locked with
  | some available, some locked => do
      transferVariation backend instrumentId available.id locked.id vmAmount
      updateMarginRequirement backend memberId instrumentId .variation (backend.abs vmAmount)
  | _, _ => pure ()

/-- Payload of a margin call. -/
def marginCallPayload (callId memberId instrumentId : Uuid) (shortfall : ℚ)
    (deadline : Timestamp) : Payload :=
  [("margin_call_id", .uuid callId), ("member_id", .uuid memberId),
    ("instrument_id", .uuid instrumentId), ("call_amount", .decimal shortfall),
    ("deadline", .string [.time deadline]), ("margin_type", .literal "INITIAL")]

/-- `_issue_margin_call`; the deadline comes from the clock and the settings. -/
def issueMarginCall (backend : Backend) (deadline : Timestamp) (memberId instrumentId : Uuid)
    (shortfall : ℚ) (trace : TraceContext) : Sql Payload := do
  let callId ← uuid4
  let db ← read
  let requirementId := (findRequirement db memberId instrumentId .initial).map MarginRequirement.id
  let callAmount ← castNumeric backend shortfall
  write fun db =>
    { db with
      marginCalls := db.marginCalls ++
        [{ id := callId, memberId, marginRequirementId := requirementId, callAmount, deadline
           status := .issued }] }
  insertStateTransition
    { entityType := .marginCall
      entityId := callId
      fromStatus := none
      toStatus := .marginCall .issued
      reason := some [.literal "Margin shortfall detected"]
      transitionedBy := "margin-engine:" ++ trace.actor
      traceId := some trace.traceId
      actor := some trace.actor }
  let payload := marginCallPayload callId memberId instrumentId shortfall deadline
  let _ ← insertOutboxEvent "margin_call" callId "margin.call.issued" "margin.call.issued" payload
    (some trace.traceId)
  pure payload

/-- `latest_price or avg_price`; a missing average raises when it is used. -/
def markPrice (position : Position) : Option ℚ :=
  match position.latestPrice with
  | some price => if price = 0 then position.avgPrice else some price
  | none => position.avgPrice

/-- A value that the arithmetic needs. -/
def orTypeError (value : Option ℚ) : Sql ℚ :=
  match value with
  | some value => pure value
  | none => raise (.raised .typeError [.literal "unsupported operand type(s)"])

/-- Loop body of `recalculate_margins`. -/
def recalculatePosition (backend : Backend) (deadline : Timestamp) (trace : TraceContext)
    (calls : List Payload) (position : Position) : Sql (List Payload) := do
  let latestPrice ← orTypeError (markPrice position)
  let imRequired :=
    calculateInitialMargin backend position.netQuantity latestPrice position.rateIm
  updateMarginRequirement backend position.memberId position.instrumentId .initial imRequired
  let previousMark ← orTypeError position.avgPrice
  let vmAmount :=
    calculateVariationMargin backend position.netQuantity latestPrice previousMark
  runWhen (vmAmount ≠ 0)
    (processVariationMargin backend position.memberId position.instrumentId vmAmount)
  let db ← read
  let shortfall := checkShortfall db position.memberId position.instrumentId .initial
  if 0 < shortfall then do
    let call ← issueMarginCall backend deadline position.memberId position.instrumentId shortfall
      trace
    pure (calls ++ [call])
  else pure calls

/-- `recalculate_margins` with the trace of its caller or a new one of the service. -/
def recalculateMargins (backend : Backend) (deadline : Timestamp) (trace : TraceContext) :
    Sql (List Payload) := do
  let db ← read
  (positions backend db).foldlM (recalculatePosition backend deadline trace) []

section Respects

open Transaction

variable {backend : Backend} {relation : Database → Database → Prop}

theorem respects_orTypeError [Std.Refl relation] (value : Option ℚ) :
    Respects relation (orTypeError value) := by
  cases value with
  | some value => exact respects_pure value
  | none => exact respects_raise _

variable [IsTrans Database relation]

theorem respects_transferVariation (admits : AdmitsPostings backend relation)
    (instrumentId available locked : Uuid) (vmAmount : ℚ) :
    Respects relation (transferVariation backend instrumentId available locked vmAmount) :=
  respects_bind admits.uuid4 fun _ => respects_bind (admits.journal ..) fun _ =>
    respects_bind (admits.entry ..) fun _ => admits.entry ..

variable [Std.Refl relation]

theorem respects_updateMarginRequirement (numbers : Respects relation uuid4)
    (requirements : ∀ (db : Database) rows, relation db { db with marginRequirements := rows })
    (memberId instrumentId : Uuid) (marginType : MarginType) (requiredAmount : ℚ) :
    Respects relation
      (updateMarginRequirement backend memberId instrumentId marginType requiredAmount) := by
  refine respects_bind (respects_castNumeric _) fun _ => respects_bind respects_read fun _ => ?_
  split
  · exact respects_bind (respects_castNumeric _) fun _ =>
      respects_write fun db => requirements db _
  · exact respects_bind (respects_castNumeric _) fun _ => respects_bind numbers fun _ =>
      respects_write fun db => requirements db _

theorem respects_processVariationMargin (admits : AdmitsPostings backend relation)
    (memberId instrumentId : Uuid) (vmAmount : ℚ) :
    Respects relation (processVariationMargin backend memberId instrumentId vmAmount) := by
  refine respects_bind respects_read fun _ => ?_
  split
  · exact respects_bind (respects_transferVariation admits ..) fun _ =>
      respects_updateMarginRequirement admits.uuid4 admits.requirements ..
  · exact respects_pure ()

/-- A recalculation also issues the margin calls. -/
theorem respects_recalculateMargins (admits : AdmitsPostings backend relation)
    {deadline : Timestamp} {trace : TraceContext}
    (calls : ∀ memberId instrumentId shortfall, Respects relation
      (issueMarginCall backend deadline memberId instrumentId shortfall trace)) :
    Respects relation (recalculateMargins backend deadline trace) := by
  refine respects_bind respects_read fun db => respects_foldlM (fun payloads position => ?_) _ _
  exact respects_bind (respects_orTypeError _) fun _ =>
    respects_bind (respects_updateMarginRequirement admits.uuid4 admits.requirements ..) fun _ =>
      respects_bind (respects_orTypeError _) fun _ =>
        respects_bind (respects_runWhen _ (respects_processVariationMargin admits ..)) fun _ =>
          respects_bind respects_read fun _ => respects_ite
            (respects_bind (calls ..) fun _ => respects_pure _) (respects_pure _)

end Respects

end Margin

end ClearingHouse
