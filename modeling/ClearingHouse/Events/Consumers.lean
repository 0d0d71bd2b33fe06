import ClearingHouse.Collateral
import ClearingHouse.Idempotency
import ClearingHouse.Margin
import ClearingHouse.Netting
import ClearingHouse.Novation
import ClearingHouse.Waterfall.Execute

/-!
# Consumers

What the consumers of the services read from the payload of an event, and what they call with it.
Each body runs in the transaction in which `process_if_new` has inserted the row of the event.
-/

namespace ClearingHouse

namespace Consumers

open Transactions
open Transactions.Session (execute transaction)

/-- `Decimal(text)`; a text that shows a number is the text of a decimal. -/
def decimal? : Text → Option ℚ
  | [.decimal value] => some value
  | _ => none

/-- `datetime.fromisoformat(text)`. -/
def time? : Text → Option Timestamp
  | [.time instant] => some instant
  | _ => none

/-- A text that is a name. -/
def name? : Text → Option String
  | [.literal name] => some name
  | _ => none

/-- How a value is read, or the class of the exception for a value that is not. -/
abbrev Reader (α : Type) := Json → Except ExceptionClass α

/-- A reader of texts; another value has the wrong type. -/
def ofText {α : Type} (parse : Text → Option α) : Reader α
  | .string text => (parse text).elim (.error .valueError) .ok
  | _ => .error .typeError

/-- `Decimal(value)`, which takes a number as it is. -/
def asDecimal : Reader ℚ
  | .number value _ => .ok value
  | value => ofText decimal? value

/-- `Decimal(str(value))`. -/
def asShown : Reader ℚ
  | .number _ shown => .ok shown
  | value => ofText decimal? value

/-- A value that is read, or the exception for the field that holds it. -/
def parsed {α : Type} (key : String) (reader : Reader α) (value : Json) : Except Failure α :=
  (reader value).mapError fun exception => .raised exception [.literal key]

/-- `event[key]`. -/
def valueOf (event : Payload) (key : String) : Except Failure Json :=
  (event.get? key).elim (.error (.raised .keyError [.literal key])) .ok

/-- `reader(event[key])`. -/
def field {α : Type} (event : Payload) (key : String) (reader : Reader α) : Except Failure α :=
  match event.get? key with
  | none => .error (.raised .keyError [.literal key])
  | some value => parsed key reader value

/-- `reader(event.get(key, default))`. -/
def fieldOr {α : Type} (event : Payload) (key : String) (reader : Reader α) (default : α) :
    Except Failure α :=
  match event.get? key with
  | none => .ok default
  | some value => parsed key reader value

/-- `bool(value)`. -/
def truthy : Json → Bool
  | .null => false
  | .number value _ => value ≠ 0
  | .string text => text ≠ []
  | .objects items => items ≠ []

/-- `event.get(key, "")`, the empty text standing for a field that holds none. -/
def textOf (event : Payload) (key : String) : Text :=
  match event.get? key with
  | some (.string text) => text
  | _ => []

/-- What `format` shows of a value. -/
def formatted : Json → Text
  | .null => [.literal "None"]
  | .number _ shown => [.decimal shown]
  | .string text => text
  | .objects _ => [.literal "[...]"]

/-- `event.get("event_id", "")`: the text of a value that is true, else the empty text. -/
def eventId (event : Payload) : Text :=
  ((event.get? "event_id").filter truthy).elim [] formatted

/-- `event.get("event_type", "")`. -/
def eventType (event : Payload) : Text := textOf event "event_type"

/-- `TraceContext.from_kafka_payload`, with the identifier it generates if there is none. -/
def fromKafkaPayload (event : Payload) (generated : Uuid) : TraceContext where
  traceId := ((event.get? "trace_id").bind fun value =>
    match value with
    | .string text => uuid? text
    | _ => none).getD generated
  actor := match event.get? "actor" with
    | some (.string [.literal actor]) => actor
    | _ => "system"
  parentEventId := match event.get? "event_id" with
    | some (.string text) => some text
    | _ => none

/-- The value of a parse, or its exception. -/
def orRaise {α : Type} (value : Except Failure α) : Session Database Failure α :=
  match value with
  | .ok value => pure value
  | .error failure => Session.raise failure

/-- What a handler takes from its surroundings: the clock and generated identifiers. -/
structure Surroundings where
  now : Timestamp
  deadline : Timestamp
  generated : Uuid

/-- A value as the parameter of a query that compares it with a `uuid` column. -/
def asUuid (backend : Backend) (value : Json) : Session Database Failure Uuid :=
  match ofText uuid? value with
  | .ok id => pure id
  | .error _ =>
      execute (server backend) (raise (.server (.invalidTextRepresentation (formatted value))))

/-- `validate_trade` on a payload. -/
def validateTradeEvent (backend : Backend) (tradeId : Uuid) (event : Payload) :
    Session Database Failure Novation.TradeData := do
  let buyer ← orRaise (valueOf event "buyer_member_id")
  let seller ← orRaise (valueOf event "seller_member_id")
  Session.require (buyer ≠ seller)
    (.raised .validationError [.literal "Buyer and seller must be different members"])
  let quantity ← orRaise (field event "quantity" asShown)
  let price ← orRaise (field event "price" asShown)
  Session.require (0 < quantity)
    (.raised .validationError [.literal "Quantity must be positive, got ", .decimal quantity])
  Session.require (0 < price)
    (.raised .validationError [.literal "Price must be positive, got ", .decimal price])
  let buyerMemberId ← asUuid backend buyer
  execute (server backend) (Novation.verifyMemberActive buyerMemberId "buyer")
  let sellerMemberId ← asUuid backend seller
  execute (server backend) (Novation.verifyMemberActive sellerMemberId "seller")
  let instrument ← orRaise (valueOf event "instrument_id")
  let instrumentId ← asUuid backend instrument
  execute (server backend) (Novation.verifyInstrumentActive instrumentId)
  pure { tradeId, buyerMemberId, sellerMemberId, instrumentId, quantity, price }

/-- `process_trade` on a payload.  A field that cannot be read rejects the trade like any other
exception, but a query has aborted the transaction if it met a value that is no uuid. -/
def processTradeEvent (backend : Backend) (event : Payload) (trace : TraceContext) :
    Session Database Failure Unit := do
  let tradeId ← orRaise (field event "trade_id" (ofText uuid?))
  Session.attempt
    (do
      let data ← validateTradeEvent backend tradeId event
      let _ ← transaction (server backend) (Novation.novateTrade backend tradeId data trace))
    fun failure =>
      transaction (server backend) (Novation.rejectTrade tradeId failure.message trace)

/-- `NettingCycleType(text)`. -/
def nettingCycleType? : Text → Option NettingCycleType
  | [.literal "scheduled"] => some .scheduled
  | [.literal "manual"] => some .manual
  | [.literal "intraday"] => some .intraday
  | _ => none

/-- `_handle_netting_trigger`. -/
def handleNettingTrigger (backend : Backend) (event : Payload) (surroundings : Surroundings) :
    Session Database Failure Unit := do
  let cycleType ← orRaise (fieldOr event "cycle_type" (ofText nettingCycleType?) .scheduled)
  let cutOffTime ← orRaise (((event.get? "cut_off_time").filter truthy).elim
    (.ok surroundings.now) (parsed "cut_off_time" (ofText time?)))
  let _ ← transaction (server backend)
    (Netting.runNettingCycle backend cycleType cutOffTime
      (fromKafkaPayload event surroundings.generated))

/-- The call of `recalculate_margins`. -/
def recalculateForEvent (backend : Backend) (event : Payload) (surroundings : Surroundings) :
    Session Database Failure Unit := do
  let _ ← execute (server backend)
    (Margin.recalculateMargins backend surroundings.deadline
      (fromKafkaPayload event surroundings.generated))

/-- `_handle_event` of the collateral manager. -/
def handleCollateralEvent (backend : Backend) (event : Payload) :
    Session Database Failure Unit :=
  if eventType event = [.literal "collateral.deposit.requested"] then do
    let memberId ← orRaise (field event "member_id" (ofText uuid?))
    let amount ← orRaise (field event "amount" asDecimal)
    let currency ← orRaise (fieldOr event "currency" (ofText name?) "USD")
    let _ ← execute (server backend)
      (Collateral.depositCollateral backend memberId amount currency)
  else if eventType event = [.literal "margin.call.issued"] then do
    let memberId ← orRaise (field event "member_id" (ofText uuid?))
    let callAmount ← orRaise (field event "call_amount" asDecimal)
    let _ ← execute (server backend)
      (Collateral.transferToMargin backend memberId callAmount .marginIm)
  else pure ()

/-- The member of a `settlement.failed` event, if it names one: `event.get("from_member_id",
event.get("member_id", ""))`. -/
def failedMember (event : Payload) : Option Json :=
  (match event.get? "from_member_id" with
    | some value => some value
    | none => event.get? "member_id").filter truthy

/-- `event.get(key, 'unknown')` in a formatted text. -/
def shownOr (event : Payload) (key : String) : Text :=
  (event.get? key).elim [.literal "unknown"] formatted

/-- `_handle_event` of the liquidation engine. -/
def handleDefaultEvent (backend : Backend) (event : Payload) (trace : TraceContext) :
    Session Database Failure Unit :=
  if eventType event = [.literal "margin.call.breached"] then do
    let memberId ← orRaise (field event "member_id" (ofText uuid?))
    let exposure ← orRaise (fieldOr event "call_amount" asDecimal 0)
    let _ ← execute (server backend)
      (Waterfall.executeWaterfall backend memberId
        (.literal "Margin call breached: " :: shownOr event "margin_call_id") exposure (some trace))
  else if eventType event = [.literal "settlement.failed"] then do
    let exposure ← orRaise (fieldOr event "amount" asDecimal 0)
    match failedMember event with
    | none => pure ()
    | some value => do
        let memberId ← orRaise (parsed "from_member_id" (ofText uuid?) value)
        let _ ← execute (server backend)
          (Waterfall.executeWaterfall backend memberId
            (.literal "Settlement failed: " :: shownOr event "instruction_id") exposure
            (some trace))
  else pure ()

/-- The checks of the compliance monitor. -/
inductive ComplianceCheck
  | largeTrade (trade : List (String × Text))
  | memberConcentration
  | marginCoverage
  | allMonitors
  deriving DecidableEq, Repr

/-- `event.get("novated_trades", [])`, where the loop over the trades starts. -/
def novatedTrades (event : Payload) : Except Failure (List (List (String × Text))) :=
  match event.get? "novated_trades" with
  | none => .ok []
  | some (.objects trades) => .ok trades
  | some (.string []) => .ok []
  | some _ => .error (.raised .typeError [.literal "novated_trades"])

/-- `_handle_event` of the compliance monitor: the checks that it runs, in order. -/
def complianceChecks (event : Payload) : Except Failure (List ComplianceCheck) :=
  if eventType event = [.literal "trade.novated"] then do
    let trades ← novatedTrades event
    pure (trades.map .largeTrade ++ [.memberConcentration])
  else if eventType event = [.literal "margin.requirement.updated"] then .ok [.marginCoverage]
  else if eventType event = [.literal "default.declared"] then .ok [.allMonitors]
  else .ok []

/-- The services that handle an event in the transaction of its mark. -/
inductive Service
  | tradeIngestion
  | nettingEngine
  | marginEngine
  | collateralManager
  | liquidationEngine
  deriving DecidableEq, Repr

/-- `SERVICE_NAME`. -/
def Service.name : Service → String
  | .tradeIngestion => "trade-ingestion"
  | .nettingEngine => "netting-engine"
  | .marginEngine => "margin-engine"
  | .collateralManager => "collateral-manager"
  | .liquidationEngine => "liquidation-engine"

/-- What a service does with an event that is new. -/
def Service.body (backend : Backend) (event : Payload) (surroundings : Surroundings) :
    Service → Session Database Failure Unit
  | .tradeIngestion =>
      processTradeEvent backend event (fromKafkaPayload event surroundings.generated)
  | .nettingEngine => handleNettingTrigger backend event surroundings
  | .marginEngine => recalculateForEvent backend event surroundings
  | .collateralManager => handleCollateralEvent backend event
  | .liquidationEngine =>
      handleDefaultEvent backend event (fromKafkaPayload event surroundings.generated)

end Consumers

end ClearingHouse
