import Mathlib.Data.List.Nodup
import Mathlib.Tactic

/-!
# Database schema

The rows of the clearing house tables, column by column as far as the services read them, and the
database as the list of rows of every table.  Keys that the schema declares unique are unique by
construction.  A `NUMERIC` column holds an exact rational.
-/

namespace ClearingHouse

/-- A `uuid` value; `uuid4` and `gen_random_uuid` hand out values not used before. -/
abbrev Uuid := ℕ

/-- A `TIMESTAMPTZ` value. -/
abbrev Timestamp := ℕ

/-- LEI of the CCP house member. -/
def ccpLei : String := "CCP000000000000000"

/-- `chk_members_status`. -/
inductive MemberStatus
  | pending
  | active
  | suspended
  | defaulted
  deriving DecidableEq, Repr

/-- `value` of the enumeration. -/
def MemberStatus.value : MemberStatus → String
  | pending => "pending"
  | active => "active"
  | suspended => "suspended"
  | defaulted => "defaulted"

/-- `instruments.settlement_type`, and `chk_settlement_type` since migration 022. -/
inductive SettlementType
  | cash
  | physical
  | dvp
  deriving DecidableEq, Repr

/-- `chk_accounts_type`. -/
inductive AccountType
  | marginIm
  | marginVm
  | settlement
  | defaultFund
  | collateral
  | ccpEquity
  deriving DecidableEq, Repr

/-- `value` of the enumeration. -/
def AccountType.value : AccountType → String
  | marginIm => "MARGIN_IM"
  | marginVm => "MARGIN_VM"
  | settlement => "SETTLEMENT"
  | defaultFund => "DEFAULT_FUND"
  | collateral => "COLLATERAL"
  | ccpEquity => "CCP_EQUITY"

/-- `chk_accounts_pool`. -/
inductive Pool
  | available
  | reserved
  | locked
  deriving DecidableEq, Repr

/-- Journal types: first those of `chk_journals_type`, then the other literals the code writes. -/
inductive JournalType
  | marginDeposit
  | marginWithdrawal
  | marginCall
  | settlement
  | feeCollection
  | defaultCloseOut
  | waterfallLoss
  | collateralTransfer
  | netting
  | adjustment
  | defaultFundContribution
  | collateralDeposit
  | collateralWithdrawal
  | variationMargin
  | defaultWaterfallStep
  deriving DecidableEq, Repr

/-- `chk_journals_status`. -/
inductive JournalStatus
  | pending
  | confirmed
  | rejected
  deriving DecidableEq, Repr

/-- `chk_trades_status`. -/
inductive TradeStatus
  | submitted
  | validated
  | novated
  | rejected
  | cancelled
  deriving DecidableEq, Repr

/-- `value` of the enumeration. -/
def TradeStatus.value : TradeStatus → String
  | submitted => "submitted"
  | validated => "validated"
  | novated => "novated"
  | rejected => "rejected"
  | cancelled => "cancelled"

/-- `chk_novated_trades_side`. -/
inductive Side
  | buy
  | sell
  deriving DecidableEq, Repr

/-- `chk_novated_trades_status` since migration 022. -/
inductive NovatedTradeStatus
  | open
  | netted
  | settled
  | defaulted
  deriving DecidableEq, Repr

/-- `chk_margin_type`. -/
inductive MarginType
  | initial
  | variation
  deriving DecidableEq, Repr

/-- `value` of the enumeration. -/
def MarginType.value : MarginType → String
  | initial => "INITIAL"
  | variation => "VARIATION"

/-- `chk_margin_calls_status`. -/
inductive MarginCallStatus
  | issued
  | acknowledged
  | met
  | partiallyMet
  | breached
  deriving DecidableEq, Repr

/-- `chk_netting_cycle_type`. -/
inductive NettingCycleType
  | scheduled
  | manual
  | intraday
  deriving DecidableEq, Repr

/-- `value` of the enumeration. -/
def NettingCycleType.value : NettingCycleType → String
  | scheduled => "scheduled"
  | manual => "manual"
  | intraday => "intraday"

/-- `chk_netting_cycle_status`. -/
inductive NettingCycleStatus
  | initiated
  | calculating
  | confirmed
  | settled
  | failed
  deriving DecidableEq, Repr

/-- `chk_settlement_status` since migration 020. -/
inductive InstructionStatus
  | pending
  | approved
  | signed
  | broadcasted
  | confirmed
  | failed
  | cancelled
  deriving DecidableEq, Repr

/-- Default event statuses: first those of `chk_default_event_status`, then the other literals the
code writes. -/
inductive DefaultEventStatus
  | detected
  | marginApplied
  | defaultFundApplied
  | ccpSkinApplied
  | assessmentApplied
  | resolved
  | escalated
  | marginLiquidated
  | ccpEquityApplied
  | mutualized
  | partiallyResolved
  deriving DecidableEq, Repr

/-- `value` of the enumeration. -/
def DefaultEventStatus.value : DefaultEventStatus → String
  | detected => "detected"
  | marginApplied => "margin_applied"
  | defaultFundApplied => "default_fund_applied"
  | ccpSkinApplied => "ccp_skin_applied"
  | assessmentApplied => "assessment_applied"
  | resolved => "resolved"
  | escalated => "escalated"
  | marginLiquidated => "margin_liquidated"
  | ccpEquityApplied => "ccp_equity_applied"
  | mutualized => "mutualized"
  | partiallyResolved => "partially_resolved"

/-- Waterfall step types: first those of `chk_waterfall_step_type`, then the literals the code
writes. -/
inductive StepType
  | checkedDefaulterMargin
  | checkedDefaulterDefaultFund
  | checkedCcpFirstTranche
  | checkedSurvivorDefaultFund
  | checkedCcpSecondTranche
  | checkedAssessmentPowers
  | defaulterMargin
  | defaulterDefaultFund
  | ccpEquity
  | survivingMembersDefaultFund
  | lossAllocation
  deriving DecidableEq, Repr

/-- `state_transitions.entity_type`. -/
inductive StateEntityType
  | trade
  | novatedTrade
  | nettingCycle
  | settlementInstruction
  | marginCall
  | defaultEvent
  deriving DecidableEq, Repr

/-- A status text in `state_transitions`, which keeps the statuses of all entities. -/
inductive EntityStatus
  | trade (status : TradeStatus)
  | novatedTrade (status : NovatedTradeStatus)
  | nettingCycle (status : NettingCycleStatus)
  | settlementInstruction (status : InstructionStatus)
  | marginCall (status : MarginCallStatus)
  | defaultEvent (status : DefaultEventStatus)
  deriving DecidableEq, Repr

/-- A piece of a rendered text. -/
inductive Piece
  | literal (text : String)
  | uuid (id : Uuid)
  | decimal (value : ℚ)
  | time (instant : Timestamp)
  deriving DecidableEq, Repr

/-- A text built by formatting values. -/
abbrev Text := List Piece

/-- Value of a payload field: a scalar, or a list of flat objects.  A number comes with its exact
value and with the decimal that `str` shows, which differ for a `float`; `true` and `false` are the
numbers 1 and 0. -/
inductive Json
  | null
  | number (value shown : ℚ)
  | string (text : Text)
  | objects (items : List (List (String × Text)))
  deriving DecidableEq, Repr

/-- An `int`. -/
def Json.integer (value : ℕ) : Json := .number value value

/-- `str(id)` of a uuid. -/
def Json.uuid (id : Uuid) : Json := .string [.uuid id]

/-- `str(value)` of a decimal. -/
def Json.decimal (value : ℚ) : Json := .string [.decimal value]

/-- A string literal. -/
def Json.literal (text : String) : Json := .string [.literal text]

/-- A JSON object. -/
abbrev Payload := List (String × Json)

structure Member where
  id : Uuid
  lei : String
  status : MemberStatus
  creditLimit : ℚ
  deriving DecidableEq, Repr

structure Instrument where
  id : Uuid
  settlementType : SettlementType
  marginRateIm : ℚ
  marginRateVm : ℚ
  chainId : Option String
  contractAddress : Option String
  isActive : Bool
  deriving DecidableEq, Repr

structure Account where
  id : Uuid
  memberId : Uuid
  accountType : AccountType
  currency : String
  pool : Pool
  deriving DecidableEq, Repr

structure Journal where
  id : Uuid
  journalType : JournalType
  referenceType : String
  referenceId : Option Uuid
  status : JournalStatus
  deriving DecidableEq, Repr

structure JournalEntry where
  journalId : Uuid
  accountId : Uuid
  debit : ℚ
  credit : ℚ
  deriving DecidableEq, Repr

structure Trade where
  id : Uuid
  instrumentId : Uuid
  buyerMemberId : Uuid
  sellerMemberId : Uuid
  quantity : ℚ
  price : ℚ
  status : TradeStatus
  deriving DecidableEq, Repr

structure NovatedTrade where
  id : Uuid
  originalTradeId : Uuid
  memberId : Uuid
  instrumentId : Uuid
  side : Side
  quantity : ℚ
  price : ℚ
  status : NovatedTradeStatus
  novatedAt : Timestamp
  deriving DecidableEq, Repr

structure MarginRequirement where
  id : Uuid
  memberId : Uuid
  instrumentId : Uuid
  marginType : MarginType
  requiredAmount : ℚ
  postedAmount : ℚ
  deriving DecidableEq, Repr

/-- The generated column `shortfall`. -/
def MarginRequirement.shortfall (requirement : MarginRequirement) : ℚ :=
  max (requirement.requiredAmount - requirement.postedAmount) 0

structure MarginCall where
  id : Uuid
  memberId : Uuid
  marginRequirementId : Option Uuid
  callAmount : ℚ
  deadline : Timestamp
  status : MarginCallStatus
  deriving DecidableEq, Repr

structure NettingCycle where
  id : Uuid
  cycleType : NettingCycleType
  status : NettingCycleStatus
  cutOffTime : Timestamp
  deriving DecidableEq, Repr

structure NetObligation where
  id : Uuid
  nettingCycleId : Uuid
  memberId : Uuid
  instrumentId : Uuid
  netQuantity : ℚ
  netAmount : ℚ
  settlementAmount : ℚ
  deriving DecidableEq, Repr

structure SettlementInstruction where
  id : Uuid
  settlementType : SettlementType
  nettingCycleId : Option Uuid
  fromMemberId : Uuid
  toMemberId : Uuid
  instrumentId : Uuid
  quantity : ℚ
  amount : ℚ
  chainId : Option String
  txHash : Option String
  status : InstructionStatus
  blockNumber : Option ℕ
  confirmations : ℕ
  deriving DecidableEq, Repr

structure OutboxEvent where
  id : Uuid
  aggregateType : String
  aggregateId : Uuid
  eventType : String
  topic : String
  payload : Payload
  createdAt : Timestamp
  publishedAt : Option Timestamp
  traceId : Option Uuid
  deriving DecidableEq, Repr

structure StateTransition where
  entityType : StateEntityType
  entityId : Uuid
  fromStatus : Option EntityStatus
  toStatus : EntityStatus
  reason : Option Text
  transitionedBy : String
  traceId : Option Uuid
  actor : Option String
  deriving DecidableEq, Repr

structure PriceFeed where
  instrumentId : Uuid
  price : ℚ
  receivedAt : Timestamp
  deriving DecidableEq, Repr

/-- A row of the materialized view `latest_prices`. -/
structure LatestPrice where
  instrumentId : Uuid
  price : ℚ
  deriving DecidableEq, Repr

structure DefaultEvent where
  id : Uuid
  memberId : Uuid
  triggerReason : Text
  totalExposure : ℚ
  status : DefaultEventStatus
  resolvedAt : Option Timestamp
  deriving DecidableEq, Repr

structure WaterfallStep where
  id : Uuid
  defaultEventId : Uuid
  stepOrder : ℕ
  stepType : StepType
  availableAmount : ℚ
  appliedAmount : ℚ
  remainingLoss : ℚ
  journalId : Option Uuid
  deriving DecidableEq, Repr

structure ProcessedEvent where
  serviceName : String
  eventId : Text
  deriving DecidableEq, Repr

/-- The columns of `UNIQUE (member_id, account_type, currency, pool)`. -/
def Account.key (account : Account) : Uuid × AccountType × String × Pool :=
  (account.memberId, account.accountType, account.currency, account.pool)

/-- All tables as one transaction sees them, the next identifier and the time the transaction
started. -/
structure Database where
  members : List Member
  instruments : List Instrument
  accounts : List Account
  journals : List Journal
  journalEntries : List JournalEntry
  trades : List Trade
  novatedTrades : List NovatedTrade
  marginRequirements : List MarginRequirement
  marginCalls : List MarginCall
  nettingCycles : List NettingCycle
  netObligations : List NetObligation
  settlementInstructions : List SettlementInstruction
  outboxEvents : List OutboxEvent
  stateTransitions : List StateTransition
  priceFeeds : List PriceFeed
  latestPrices : List LatestPrice
  defaultEvents : List DefaultEvent
  waterfallSteps : List WaterfallStep
  processedEvents : List ProcessedEvent
  nextUuid : Uuid
  now : Timestamp
  memberIds_nodup : (members.map Member.id).Nodup
  accountIds_nodup : (accounts.map Account.id).Nodup
  accountKeys_nodup : (accounts.map Account.key).Nodup

namespace Database

/-- A database with members, instruments and accounts and nothing else. -/
def opening (members : List Member) (instruments : List Instrument) (accounts : List Account)
    (nextUuid : Uuid) (memberIds_nodup : (members.map Member.id).Nodup)
    (accountIds_nodup : (accounts.map Account.id).Nodup)
    (accountKeys_nodup : (accounts.map Account.key).Nodup) : Database where
  members := members
  instruments := instruments
  accounts := accounts
  journals := []
  journalEntries := []
  trades := []
  novatedTrades := []
  marginRequirements := []
  marginCalls := []
  nettingCycles := []
  netObligations := []
  settlementInstructions := []
  outboxEvents := []
  stateTransitions := []
  priceFeeds := []
  latestPrices := []
  defaultEvents := []
  waterfallSteps := []
  processedEvents := []
  nextUuid := nextUuid
  now := 0
  memberIds_nodup := memberIds_nodup
  accountIds_nodup := accountIds_nodup
  accountKeys_nodup := accountKeys_nodup

/-! Members and accounts that several small databases open with. -/

theorem nodup_noAccountIds : (([] : List Account).map Account.id).Nodup := List.nodup_nil

theorem nodup_noAccountKeys : (([] : List Account).map Account.key).Nodup := List.nodup_nil

theorem nodup_ccp : (([⟨0, ccpLei, .active, 0⟩] : List Member).map Member.id).Nodup := by decide

theorem nodup_ccpAndMember :
    (([⟨0, ccpLei, .active, 0⟩, ⟨1, "LEI1", .active, 0⟩] : List Member).map Member.id).Nodup := by
  decide

theorem nodup_ccpAndTwo :
    (([⟨0, ccpLei, .active, 0⟩, ⟨1, "LEI1", .active, 0⟩, ⟨2, "LEI2", .active, 0⟩] :
      List Member).map Member.id).Nodup := by decide

theorem nodup_ccpAndThree :
    (([⟨0, ccpLei, .active, 0⟩, ⟨1, "LEI1", .active, 0⟩, ⟨2, "LEI2", .active, 0⟩,
      ⟨3, "LEI3", .active, 0⟩] : List Member).map Member.id).Nodup := by decide

theorem nodup_marginAccountIds :
    (([⟨7, 1, .marginIm, "USD", .available⟩, ⟨8, 1, .marginIm, "USD", .locked⟩,
      ⟨9, 2, .marginIm, "USD", .available⟩, ⟨10, 2, .marginIm, "USD", .locked⟩] :
      List Account).map Account.id).Nodup := by decide

theorem nodup_marginAccountKeys :
    (([⟨7, 1, .marginIm, "USD", .available⟩, ⟨8, 1, .marginIm, "USD", .locked⟩,
      ⟨9, 2, .marginIm, "USD", .available⟩, ⟨10, 2, .marginIm, "USD", .locked⟩] :
      List Account).map Account.key).Nodup := by decide

/-- Change the rows of the member table that a condition selects, keeping their identifiers. -/
def updateMembers (db : Database) (change : Member → Member)
    (same_id : ∀ member, (change member).id = member.id) : Database :=
  { db with
    members := db.members.map change
    memberIds_nodup := by
      have ids : (db.members.map change).map Member.id = db.members.map Member.id := by
        simp [List.map_map, Function.comp_def, same_id]
      rw [ids]
      exact db.memberIds_nodup }

end Database

end ClearingHouse
