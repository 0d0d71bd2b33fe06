import ClearingHouse.Ledger.Growth
import ClearingHouse.Novation.Session
import ClearingHouse.Settlement.Keeping

/-!
# Sessions over the ledger

The operations that write the ledger, and the rule for their commits: an invariant that survives
every accepted commit of a growing transaction holds of all the states that a session commits.
-/

namespace ClearingHouse

open Transactions Transactions.Session

variable {backend : Backend}

/-- The ledger-writing operations that are one transaction each; delivery versus payment is five
of them. -/
inductive LedgerWriter
  | deposit (memberId : Uuid) (amount : ℚ) (currency : String)
  | withdrawal (memberId : Uuid) (amount : ℚ) (currency : String)
  | transferToMargin (memberId : Uuid) (amount : ℚ) (marginType : AccountType)
  | recalculation (deadline : Timestamp) (trace : TraceContext)
  | cashSettlement (instruction : SettlementInstruction) (trace : TraceContext)
  | dvpAdvance (instructionId : Uuid) (fromStatus toStatus : InstructionStatus) (reason : Text)
      (trace : TraceContext)
  | dvpFinalization (instruction : SettlementInstruction) (blockNumber : Option ℕ)
      (confirmations : ℕ) (trace : TraceContext)
  | dvpFailure (instructionId : Uuid) (fromStatus : InstructionStatus) (reason : Text)
      (trace : TraceContext)
  | waterfall (memberId : Uuid) (triggerReason : Text) (totalExposure : ℚ)
      (trace : Option TraceContext)
  | seeding (memberIds : String → Uuid) (ccpId : Uuid)

namespace LedgerWriter

/-- The statements of a writer's transaction. -/
def body (backend : Backend) : LedgerWriter → Sql Unit
  | deposit memberId amount currency => do
      let _ ← Collateral.depositCollateral backend memberId amount currency
  | withdrawal memberId amount currency => do
      let _ ← Collateral.withdrawCollateral backend memberId amount currency
  | transferToMargin memberId amount marginType => do
      let _ ← Collateral.transferToMargin backend memberId amount marginType
  | recalculation deadline trace => do
      let _ ← Margin.recalculateMargins backend deadline trace
  | cashSettlement instruction trace => do
      let _ ← Settlement.settleCash backend instruction trace
  | dvpAdvance instructionId fromStatus toStatus reason trace =>
      Settlement.advanceStatus instructionId fromStatus toStatus reason trace
  | dvpFinalization instruction blockNumber confirmations trace =>
      Settlement.finalizeRows backend instruction blockNumber confirmations trace
  | dvpFailure instructionId fromStatus reason trace =>
      Settlement.failInstruction instructionId fromStatus reason trace
  | waterfall memberId triggerReason totalExposure trace => do
      let _ ← Waterfall.executeWaterfall backend memberId triggerReason totalExposure trace
  | seeding memberIds ccpId => Seeding.seedDefaultFund backend memberIds ccpId

theorem growing_body (writer : LedgerWriter) : Growing backend (writer.body backend) := by
  have discard : ∀ {α : Type} {code : Sql α}, Growing backend code →
      Growing backend (code >>= fun _ => pure ()) :=
    fun growing => Transaction.respects_bind growing fun _ => Transaction.respects_pure ()
  cases writer with
  | deposit => exact discard (Collateral.growing_depositCollateral _ _ _)
  | withdrawal => exact discard (Collateral.growing_withdrawCollateral _ _ _)
  | transferToMargin => exact discard (Collateral.respects_transferToMargin admitsPostings_grows ..)
  | recalculation => exact discard (Margin.growing_recalculateMargins _ _)
  | cashSettlement => exact discard (Settlement.respected_grows.cash _ _)
  | dvpAdvance => exact Settlement.respected_grows.advance _ _ _ _ _
  | dvpFinalization => exact Settlement.respected_grows.finalize _ _ _ _
  | dvpFailure => exact Settlement.respected_grows.fail _ _ _ _
  | waterfall => exact discard (Waterfall.growing_executeWaterfall _ _ _ _)
  | seeding => exact Seeding.respects_seedDefaultFund admitsPostings_grows ..

end LedgerWriter

/-- The operations that catch exceptions or commit on the way. -/
inductive LedgerSession
  | processTrade (data : Novation.TradeData) (trace : TraceContext)
  | settleInstruction (instructionId : Uuid)
      (chainRegistry : String → Option Settlement.ChainAdapter)
      (sign : Settlement.Bytes → String → Except Text Settlement.Bytes) (trace : TraceContext)

/-- The session of an operation up to the commit of its consumer. -/
def LedgerSession.session (backend : Backend) : LedgerSession → Session Database Failure Unit
  | processTrade data trace => do
      Novation.processTrade backend data trace
      commit (server backend)
  | settleInstruction instructionId chainRegistry sign trace => do
      let _ ← Settlement.settleInstruction backend instructionId chainRegistry sign trace
      commit (server backend)

/-- The invariant holds after every accepted commit of a transaction that only grows the ledger. -/
def Survives (backend : Backend) (invariant : Database → Prop) : Prop :=
  ∀ old new, invariant old → Grows backend old new → (server backend).deferred old new = .ok () →
    invariant new

/-- Sessions that keep an invariant of committed states. -/
abbrev KeepsLedger {α : Type} (backend : Backend) (invariant : Database → Prop)
    (session : Session Database Failure α) : Prop :=
  Keeps invariant (Grows backend) session

variable {invariant : Database → Prop}

theorem keepsLedger_commit (survives : Survives backend invariant) :
    KeepsLedger backend invariant (commit (server backend)) :=
  keeps_commit survives

theorem keepsLedger_processTrade (survives : Survives backend invariant)
    (data : Novation.TradeData) (trace : TraceContext) :
    KeepsLedger backend invariant (Novation.processTrade backend data trace) :=
  Novation.keeps_processTrade survives (Novation.growing_novateTrade _ _ _) fun _ =>
    Novation.growing_rejectTrade _ _ _

theorem keepsLedger_settleInstruction (survives : Survives backend invariant)
    (instructionId : Uuid)
    (chainRegistry : String → Option Settlement.ChainAdapter)
    (sign : Settlement.Bytes → String → Except Text Settlement.Bytes) (trace : TraceContext) :
    KeepsLedger backend invariant
      (Settlement.settleInstruction backend instructionId chainRegistry sign trace) :=
  Settlement.keeps_settleInstruction Settlement.respected_grows survives _ _ _ _

theorem keepsLedger_session (survives : Survives backend invariant)
    (operation : LedgerSession) :
    KeepsLedger backend invariant (operation.session backend) := by
  cases operation with
  | processTrade data trace =>
      exact keeps_bind (keepsLedger_processTrade survives data trace) fun _ =>
        keepsLedger_commit survives
  | settleInstruction instructionId chainRegistry sign trace =>
      exact keeps_bind
        (keepsLedger_settleInstruction survives instructionId chainRegistry sign trace)
        fun _ => keepsLedger_commit survives

/-- A lone transaction keeps the invariant. -/
theorem survives_commitAlone (survives : Survives backend invariant) {db : Database}
    (holds : invariant db) {α : Type} {code : Sql α} (growing : Growing backend code) :
    invariant (commitAlone (server backend) code db) :=
  finalState_of_keeps (keeps_bind (keeps_execute growing) fun _ =>
    keeps_bind (keepsLedger_commit survives) fun _ => keeps_pure _) holds

end ClearingHouse
