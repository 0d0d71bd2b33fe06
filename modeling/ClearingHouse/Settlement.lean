import ClearingHouse.Statements

/-!
# Settlement

Settlement of an instruction through its state machine, in cash inside one transaction or delivery
versus payment across several, with a chain adapter and a signing client between them.
-/

namespace ClearingHouse

namespace Settlement

open Transactions
open Transactions.Session (execute attempt commit requireIdle)

/-- `VALID_TRANSITIONS`. -/
def validTransitions : InstructionStatus → List InstructionStatus
  | .pending => [.approved, .failed, .cancelled]
  | .approved => [.signed, .failed]
  | .signed => [.broadcasted, .failed]
  | .broadcasted => [.confirmed, .failed]
  | .confirmed => []
  | .failed => []
  | .cancelled => []

/-- `value` of the enumeration. -/
def statusValue : InstructionStatus → String
  | .pending => "pending"
  | .approved => "approved"
  | .signed => "signed"
  | .broadcasted => "broadcasted"
  | .confirmed => "confirmed"
  | .failed => "failed"
  | .cancelled => "cancelled"

/-- `_validate_transition`. -/
def validateTransition (fromStatus toStatus : InstructionStatus) : Sql Unit :=
  if toStatus ∈ validTransitions fromStatus then pure ()
  else
    raise (.raised .stateTransitionError
      [.literal "Invalid settlement transition: ", .literal (statusValue fromStatus),
        .literal " -> ", .literal (statusValue toStatus)])

/-- Change the row of one instruction. -/
def updateInstruction (instructionId : Uuid)
    (change : SettlementInstruction → SettlementInstruction) : Sql Unit :=
  write fun db =>
    { db with
      settlementInstructions := db.settlementInstructions.map fun instruction =>
        if instruction.id = instructionId then change instruction else instruction }

/-- `_record_transition`. -/
def recordTransition (instructionId : Uuid) (fromStatus toStatus : InstructionStatus)
    (reason : Text) (trace : TraceContext) : Sql Unit :=
  insertStateTransition
    { entityType := .settlementInstruction
      entityId := instructionId
      fromStatus := some (.settlementInstruction fromStatus)
      toStatus := .settlementInstruction toStatus
      reason := some reason
      transitionedBy := "settlement-engine:" ++ trace.actor
      traceId := some trace.traceId
      actor := some trace.actor }

/-- `_advance_status`. -/
def advanceStatus (instructionId : Uuid) (fromStatus toStatus : InstructionStatus) (reason : Text)
    (trace : TraceContext) : Sql Unit := do
  validateTransition fromStatus toStatus
  updateInstruction instructionId fun instruction => { instruction with status := toStatus }
  recordTransition instructionId fromStatus toStatus reason trace

/-- `_emit_settlement_event`; every aggregate identifier it is given is a uuid. -/
def emitSettlementEvent (instructionId : Uuid) (eventType : String) (aggregateId : Uuid)
    (trace : TraceContext) : Sql Unit := do
  let _ ← insertOutboxEvent "settlement_instruction" aggregateId eventType eventType
    [("instruction_id", .uuid instructionId)] (some trace.traceId)

/-- `_fail_instruction`. -/
def failInstruction (instructionId : Uuid) (fromStatus : InstructionStatus) (reason : Text)
    (trace : TraceContext) : Sql Unit := do
  updateInstruction instructionId fun instruction => { instruction with status := .failed }
  recordTransition instructionId fromStatus .failed reason trace
  emitSettlementEvent instructionId "settlement.failed" instructionId trace

/-- What a settlement returns. -/
inductive SettlementResult
  | skipped
  | failed (reason : Text)
  | confirmed (instructionId : Uuid) (journalId : Option Uuid) (txHash : Option String)
  deriving DecidableEq, Repr

/-- The settlement journal: the paying account is credited, the receiving one debited. -/
def postSettlement (backend : Backend) (instructionId fromAcct toAcct : Uuid) (amount : ℚ)
    (journalId : Uuid) : Sql Unit := do
  insertJournal backend journalId .settlement "settlement_instruction" (some instructionId)
  insertJournalEntry backend journalId fromAcct 0 amount
  insertJournalEntry backend journalId toAcct amount 0

/-- `_settle_cash` once both accounts are found. -/
def settleCashBetween (backend : Backend) (instruction : SettlementInstruction)
    (fromAcct toAcct : Account) (trace : TraceContext) : Sql SettlementResult := do
  advanceStatus instruction.id .pending .approved [.literal "Validation passed"] trace
  advanceStatus instruction.id .approved .signed [.literal "Cash: no signing needed"] trace
  advanceStatus instruction.id .signed .broadcasted [.literal "Cash: no broadcast needed"] trace
  let journalId ← uuid4
  runWhen (0 < instruction.amount)
    (postSettlement backend instruction.id fromAcct.id toAcct.id instruction.amount journalId)
  advanceStatus instruction.id .broadcasted .confirmed [.literal "Cash settlement completed"] trace
  emitSettlementEvent instruction.id "settlement.completed" instruction.fromMemberId trace
  pure (.confirmed instruction.id (some journalId) none)

/-- `_settle_cash`. -/
def settleCash (backend : Backend) (instruction : SettlementInstruction) (trace : TraceContext) :
    Sql SettlementResult := do
  let db ← read
  match findAccount db instruction.fromMemberId .settlement .available,
      findAccount db instruction.toMemberId .settlement .available with
  | some fromAcct, some toAcct => settleCashBetween backend instruction fromAcct toAcct trace
  | _, _ =>
      failInstruction instruction.id .pending [.literal "Settlement accounts not found"] trace
      pure (.failed [.literal "accounts_not_found"])

/-- `bytes`. -/
abbrev Bytes := List ℕ

/-- `DVPInstruction`. -/
structure DvpInstruction where
  chainId : String
  sellerAddress : Uuid
  buyerAddress : Uuid
  assetTokenAddress : String
  assetAmount : ℚ
  paymentTokenAddress : String
  paymentAmount : ℚ
  instructionId : Uuid
  deriving DecidableEq, Repr

/-- The `DVPInstruction` of a settlement instruction. -/
def dvpInstruction (instruction : SettlementInstruction) (contractAddress : Option String)
    (chainId : String) : DvpInstruction where
  chainId := chainId
  sellerAddress := instruction.fromMemberId
  buyerAddress := instruction.toMemberId
  assetTokenAddress := contractAddress.getD ""
  assetAmount := instruction.quantity
  paymentTokenAddress := ""
  paymentAmount := instruction.amount
  instructionId := instruction.id

/-- `TransactionStatus`. -/
inductive TransactionStatus
  | pending
  | confirmed
  | failed
  deriving DecidableEq, Repr

/-- `TransactionResult`. -/
structure TransactionResult where
  txHash : String
  status : TransactionStatus
  confirmations : ℕ
  deriving DecidableEq, Repr

/-- A `ChainAdapter`; the status of a transaction depends on how often it has been asked for. -/
structure ChainAdapter where
  buildDvpTx : DvpInstruction → Except Text Bytes
  submitSignedTx : Bytes → Except Text TransactionResult
  getTxStatus : String → ℕ → Except Text TransactionResult
  getRequiredConfirmations : Except Text ℕ

/-- `MAX_CONFIRMATION_POLLS`. -/
def maxConfirmationPolls : ℕ := 30

/-- `_poll_confirmations`, with `polls` left after `asked`. -/
def pollConfirmations (adapter : ChainAdapter) (txHash : String) (required : ℕ) (asked : ℕ) :
    ℕ → Except Text TransactionResult
  | 0 => adapter.getTxStatus txHash asked
  | polls + 1 =>
      match adapter.getTxStatus txHash asked with
      | .error message => .error message
      | .ok result =>
          if result.status = .confirmed ∧ required ≤ result.confirmations then .ok result
          else if result.status = .failed then .ok result
          else pollConfirmations adapter txHash required (asked + 1) polls

/-- The result of a call to the chain or the signer, which may raise. -/
def external {α : Type} (result : Except Text α) : Session Database Failure α :=
  match result with
  | .ok value => pure value
  | .error message => Session.raise (.raised .runtimeError message)

/-- `conn.autocommit = False`, which raises while a transaction is open. -/
def disableAutocommit : Session Database Failure Unit :=
  requireIdle (.raised .runtimeError [.literal "can't change 'autocommit' now"])

/-- Journal entries of `_finalize_dvp`, posted if both accounts exist. -/
def finalizeEntries (backend : Backend) (instruction : SettlementInstruction) : Sql Unit := do
  let db ← read
  match findAccount db instruction.fromMemberId .settlement .available,
      findAccount db instruction.toMemberId .settlement .available with
  | some fromAcct, some toAcct => do
      let journalId ← uuid4
      postSettlement backend instruction.id fromAcct.id toAcct.id instruction.amount journalId
  | _, _ => pure ()

/-- Journal entries and the final status of `_finalize_dvp`. -/
def finalizeRows (backend : Backend) (instruction : SettlementInstruction)
    (blockNumber : Option ℕ) (confirmations : ℕ) (trace : TraceContext) : Sql Unit := do
  finalizeEntries backend instruction
  updateInstruction instruction.id fun row => { row with blockNumber, confirmations }
  advanceStatus instruction.id .broadcasted .confirmed [.literal "DVP confirmed on-chain"] trace
  emitSettlementEvent instruction.id "settlement.completed" instruction.fromMemberId trace

/-- `_finalize_dvp`. -/
def finalizeDvp (backend : Backend) (instruction : SettlementInstruction) (txHash : String)
    (blockNumber : Option ℕ) (confirmations : ℕ) (trace : TraceContext) :
    Session Database Failure SettlementResult := do
  execute (server backend) (finalizeRows backend instruction blockNumber confirmations trace)
  commit (server backend)
  pure (.confirmed instruction.id none (some txHash))

/-- The `try` block of `_settle_dvp` from the polling on. -/
def concludeOnChain (backend : Backend) (instruction : SettlementInstruction)
    (adapter : ChainAdapter) (txHash : String) (trace : TraceContext) :
    Session Database Failure SettlementResult := do
  let required ← external adapter.getRequiredConfirmations
  let txResult ← external (pollConfirmations adapter txHash required 0 maxConfirmationPolls)
  disableAutocommit
  if txResult.status = .confirmed then
    finalizeDvp backend instruction txHash none txResult.confirmations trace
  else do
    execute (server backend)
      (failInstruction instruction.id .broadcasted
        [.literal "Tx failed: ", .literal txResult.txHash] trace)
    commit (server backend)
    pure (.failed [])

/-- The `try` block of `_settle_dvp` from the submission on. -/
def submitOnChain (backend : Backend) (instruction : SettlementInstruction)
    (adapter : ChainAdapter) (signedTx : Bytes) (trace : TraceContext) :
    Session Database Failure SettlementResult := do
  let result ← external (adapter.submitSignedTx signedTx)
  disableAutocommit
  execute (server backend)
    (updateInstruction instruction.id fun row => { row with txHash := some result.txHash })
  execute (server backend)
    (advanceStatus instruction.id .signed .broadcasted [.literal "Tx submitted"] trace)
  commit (server backend)
  concludeOnChain backend instruction adapter result.txHash trace

/-- The `try` block of `_settle_dvp`. -/
def transferOnChain (backend : Backend) (instruction : SettlementInstruction)
    (contractAddress : Option String) (chainId : String) (adapter : ChainAdapter)
    (sign : Bytes → String → Except Text Bytes) (trace : TraceContext) :
    Session Database Failure SettlementResult := do
  let unsignedTx ← external
    (adapter.buildDvpTx (dvpInstruction instruction contractAddress chainId))
  let signedTx ← external (sign unsignedTx chainId)
  disableAutocommit
  execute (server backend)
    (advanceStatus instruction.id .approved .signed [.literal "MPC signing complete"] trace)
  commit (server backend)
  submitOnChain backend instruction adapter signedTx trace

/-- The `except` block of `_settle_dvp`. -/
def failOnChain (backend : Backend) (instruction : SettlementInstruction) (trace : TraceContext)
    (failure : Failure) : Session Database Failure SettlementResult := do
  disableAutocommit
  execute (server backend) (failInstruction instruction.id .approved failure.message trace)
  commit (server backend)
  pure (.failed failure.message)

/-- `_settle_dvp`. -/
def settleDvp (backend : Backend) (instruction : SettlementInstruction)
    (contractAddress : Option String) (chainRegistry : String → Option ChainAdapter)
    (sign : Bytes → String → Except Text Bytes) (trace : TraceContext) :
    Session Database Failure SettlementResult :=
  match instruction.chainId.filter fun chainId => chainId ≠ "" with
  | none => do
      execute (server backend)
        (failInstruction instruction.id .pending [.literal "No chain_id for DVP settlement"] trace)
      pure (.failed [.literal "no_chain_id"])
  | some chainId =>
      match chainRegistry chainId with
      | none =>
          Session.raise (.raised .keyError
            [.literal "No ChainAdapter registered for chain_id=", .literal chainId])
      | some adapter => do
          execute (server backend)
            (advanceStatus instruction.id .pending .approved [.literal "DVP validation passed"]
              trace)
          commit (server backend)
          attempt (transferOnChain backend instruction contractAddress chainId adapter sign trace)
            (failOnChain backend instruction trace)

/-- The pending instruction with its instrument. -/
def pendingInstruction (db : Database) (instructionId : Uuid) :
    Option (SettlementInstruction × Instrument) :=
  match db.settlementInstructions.find? fun row =>
      row.id = instructionId ∧ row.status = .pending with
  | none => none
  | some instruction =>
      match db.instruments.find? fun row => row.id = instruction.instrumentId with
      | none => none
      | some instrument => some (instruction, instrument)

/-- `settle_instruction` once it has read the pending row. -/
def settlePending (backend : Backend) (chainRegistry : String → Option ChainAdapter)
    (sign : Bytes → String → Except Text Bytes) (trace : TraceContext) :
    Option (SettlementInstruction × Instrument) → Session Database Failure SettlementResult
  | none => pure .skipped
  | some (instruction, instrument) =>
      match instruction.settlementType with
      | .cash => execute (server backend) (settleCash backend instruction trace)
      | .dvp | .physical =>
          settleDvp backend instruction instrument.contractAddress chainRegistry sign trace

/-- `settle_instruction` with the trace of its caller or a new one of the service. -/
def settleInstruction (backend : Backend) (instructionId : Uuid)
    (chainRegistry : String → Option ChainAdapter) (sign : Bytes → String → Except Text Bytes)
    (trace : TraceContext) : Session Database Failure SettlementResult := do
  let db ← execute (server backend) read
  settlePending backend chainRegistry sign trace (pendingInstruction db instructionId)

section Respects

open Transaction

variable {backend : Backend} {relation : Database → Database → Prop} [IsTrans Database relation]

theorem respects_postSettlement (admits : AdmitsPostings backend relation)
    (instructionId fromAcct toAcct : Uuid) (amount : ℚ) (journalId : Uuid) :
    Respects relation
      (postSettlement backend instructionId fromAcct toAcct amount journalId) :=
  respects_bind (admits.journal ..) fun _ => respects_bind (admits.entry ..) fun _ =>
    admits.entry ..

theorem respects_finalizeEntries [Std.Refl relation] (admits : AdmitsPostings backend relation)
    (instruction : SettlementInstruction) :
    Respects relation (finalizeEntries backend instruction) := by
  refine respects_bind respects_read fun _ => ?_
  split
  · exact respects_bind admits.uuid4 fun _ => respects_postSettlement admits ..
  · exact respects_pure ()

end Respects

end Settlement

end ClearingHouse
