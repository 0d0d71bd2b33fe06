import ClearingHouse.Events.Agreement

/-!
# The rule of the operations

An invariant that the commits of a relation restore, and a relation that the transactions of the
services respect: then every state that an operation commits keeps the invariant, and so does every
run of operations.
-/

namespace ClearingHouse

open StepSystem Transactions Transactions.Session

variable {backend : Backend} {invariant : Database → Prop}
  {relation : Database → Database → Prop}

namespace Settlement

/-- The transactions of a settlement of the instruction respect a relation. -/
structure AdmitsInstruction (backend : Backend) (relation : Database → Database → Prop)
    (instruction : SettlementInstruction) : Prop where
  hash : ∀ txHash, Transaction.Respects relation
    (updateInstruction instruction.id fun row => { row with txHash := some txHash })
  advance : ∀ fromStatus toStatus reason trace, Transaction.Respects relation
    (advanceStatus instruction.id fromStatus toStatus reason trace)
  fail : ∀ fromStatus reason trace,
    Transaction.Respects relation (failInstruction instruction.id fromStatus reason trace)
  finalize : ∀ blockNumber confirmations trace, Transaction.Respects relation
    (finalizeRows backend instruction blockNumber confirmations trace)
  cash : ∀ trace, Transaction.Respects relation (settleCash backend instruction trace)

/-- What a pending instruction is found in. -/
def FoundPending (invariant : Database → Prop) (relation : Database → Database → Prop)
    (instruction : SettlementInstruction) : Prop :=
  ∃ committed db instructionId instrument, invariant committed ∧ relation committed db ∧
    pendingInstruction db instructionId = some (instruction, instrument)

variable [Std.Refl relation] {instruction : SettlementInstruction} {trace : TraceContext}
  (survives : ∀ old new, invariant old → relation old new →
    (server backend).deferred old new = .ok () → invariant new)
include survives

theorem kept_commit : Keeps invariant relation (commit (server backend)) :=
  keeps_commit survives

variable [IsTrans Database relation]

section Session

variable (admits : AdmitsInstruction backend relation instruction)
include admits

theorem kept_concludeOnChain (adapter : ChainAdapter) (txHash : String) :
    Keeps invariant relation (concludeOnChain backend instruction adapter txHash trace) := by
  refine keeps_bind (keeps_external _) fun _ => keeps_bind (keeps_external _) fun _ =>
    keeps_bind (keeps_requireIdle _) fun _ => ?_
  split
  · exact keeps_bind (keeps_execute (admits.finalize ..)) fun _ =>
      keeps_bind (kept_commit survives) fun _ => keeps_pure _
  · exact keeps_bind (keeps_execute (admits.fail ..)) fun _ =>
      keeps_bind (kept_commit survives) fun _ => keeps_pure _

theorem kept_transferOnChain (contractAddress : Option String) (chainId : String)
    (adapter : ChainAdapter) (sign : Bytes → String → Except Text Bytes) :
    Keeps invariant relation
      (transferOnChain backend instruction contractAddress chainId adapter sign trace) :=
  keeps_bind (keeps_external _) fun _ => keeps_bind (keeps_external _) fun _ =>
    keeps_bind (keeps_requireIdle _) fun _ => keeps_bind (keeps_execute (admits.advance ..))
      fun _ => keeps_bind (kept_commit survives) fun _ => keeps_bind (keeps_external _) fun _ =>
        keeps_bind (keeps_requireIdle _) fun _ => keeps_bind (keeps_execute (admits.hash ..))
          fun _ => keeps_bind (keeps_execute (admits.advance ..)) fun _ =>
            keeps_bind (kept_commit survives) fun _ => kept_concludeOnChain survives admits _ _

theorem kept_settleDvp (contractAddress : Option String)
    (chainRegistry : String → Option ChainAdapter) (sign : Bytes → String → Except Text Bytes) :
    Keeps invariant relation
      (settleDvp backend instruction contractAddress chainRegistry sign trace) := by
  rw [settleDvp]
  split
  · exact keeps_bind (keeps_execute (admits.fail ..)) fun _ => keeps_pure _
  · split
    · exact keeps_raise _
    · refine keeps_bind (keeps_execute (admits.advance ..)) fun _ =>
        keeps_bind (kept_commit survives) fun _ =>
          keeps_attempt (kept_transferOnChain survives admits _ _ _ _) fun failure => ?_
      exact keeps_bind (keeps_requireIdle _) fun _ =>
        keeps_bind (keeps_execute (admits.fail ..)) fun _ =>
          keeps_bind (kept_commit survives) fun _ => keeps_pure _

end Session

theorem kept_settleInstruction
    (admits : ∀ instruction, FoundPending invariant relation instruction →
      AdmitsInstruction backend relation instruction)
    (instructionId : Uuid) (chainRegistry : String → Option ChainAdapter)
    (sign : Bytes → String → Except Text Bytes) :
    Keeps invariant relation
      (settleInstruction backend instructionId chainRegistry sign trace) := by
  apply keeps_bind_read
  intro committed db holds related
  cases pending : pendingInstruction db instructionId with
  | none => exact keeps_pure _
  | some found =>
      obtain ⟨instruction, instrument⟩ := found
      have handed := admits instruction ⟨committed, db, _, _, holds, related, pending⟩
      unfold settlePending
      dsimp only
      split
      · exact keeps_execute (handed.cash ..)
      · exact kept_settleDvp survives handed _ _ _
      · exact kept_settleDvp survives handed _ _ _

end Settlement

/-- Commits restore the invariant, and what the operations on submitted trades consist of respects
the relation. -/
structure AdmitsTrading (backend : Backend) (invariant : Database → Prop)
    (relation : Database → Database → Prop) : Prop where
  survives : ∀ old new, invariant old → relation old new →
    (server backend).deferred old new = .ok () → invariant new
  mark : ∀ serviceName eventId,
    Transaction.Respects relation (processIfNew serviceName eventId)
  reject : ∀ tradeId reason trace,
    Transaction.Respects relation (Novation.rejectTrade tradeId reason trace)
  net : ∀ cycleType cutOffTime trace,
    Transaction.Respects relation (Netting.runNettingCycle backend cycleType cutOffTime trace)
  recalculate : ∀ deadline trace,
    Transaction.Respects relation (Margin.recalculateMargins backend deadline trace)
  settle : ∀ instruction, Settlement.FoundPending invariant relation instruction →
    Settlement.AdmitsInstruction backend relation instruction

/-- So do the other operations, where collateral is transferred to some types of accounts. -/
structure AdmitsOperations (backend : Backend) (transfers : AccountType → Prop)
    (invariant : Database → Prop) (relation : Database → Database → Prop) : Prop
    extends AdmitsTrading backend invariant relation where
  submit : ∀ taken key request trace,
    Transaction.Respects relation (Gateway.submitTrade backend taken key request trace)
  process : ∀ data trace, Keeps invariant relation (Novation.processTrade backend data trace)
  waterfall : ∀ memberId triggerReason totalExposure trace, Transaction.Respects relation
    (Waterfall.executeWaterfall backend memberId triggerReason totalExposure trace)
  deposit : ∀ memberId amount currency,
    Transaction.Respects relation (Collateral.depositCollateral backend memberId amount currency)
  withdraw : ∀ memberId amount currency,
    Transaction.Respects relation (Collateral.withdrawCollateral backend memberId amount currency)
  margin : transfers .marginIm
  transfer : ∀ memberId amount marginType, transfers marginType →
    Transaction.Respects relation (Collateral.transferToMargin backend memberId amount marginType)
  seed : ∀ memberIds ccpId,
    Transaction.Respects relation (Seeding.seedDefaultFund backend memberIds ccpId)

variable [IsTrans Database relation]

section Rule

variable {transfers : AccountType → Prop}

section Operations

variable (admits : AdmitsOperations backend transfers invariant relation)
include admits

theorem Consumers.kept_handleCollateralEvent (event : Payload) :
    Keeps invariant relation (handleCollateralEvent backend event) :=
  keeps_handleCollateralEvent admits.deposit fun _ _ => admits.transfer _ _ _ admits.margin

theorem Consumers.kept_handleDefaultEvent (event : Payload) (trace : TraceContext) :
    Keeps invariant relation (handleDefaultEvent backend event trace) :=
  keeps_handleDefaultEvent fun _ _ _ => admits.waterfall ..

end Operations

variable [Std.Refl relation]

/-- A service novates, handles collateral or defaults, or works on submitted trades. -/
theorem Consumers.kept_service (admits : AdmitsTrading backend invariant relation)
    (service : Service) {event : Payload} {surroundings : Surroundings}
    (process : ∀ tradeId data trace, service = .tradeIngestion →
      tradeData tradeId event = .ok data → field event "trade_id" (ofText uuid?) = .ok tradeId →
        Keeps invariant relation (Novation.processTrade backend data trace))
    (collateral : Keeps invariant relation (handleCollateralEvent backend event))
    (defaults : ∀ trace, Keeps invariant relation (handleDefaultEvent backend event trace)) :
    Keeps invariant relation (service.body backend event surroundings) := by
  cases service with
  | tradeIngestion =>
      rw [Service.body]
      cases identified : field event "trade_id" (ofText uuid?) with
      | error failure =>
          rw [processTradeEvent, identified]
          exact keeps_raise failure
      | ok tradeId =>
          cases parsed : tradeData tradeId event with
          | error failure =>
              rw [processTradeEvent_of_unparsed identified parsed]
              exact keeps_attempt (keeps_bind keeps_validateTradeEvent fun _ => keeps_pure ())
                fun _ => keeps_transaction admits.survives (admits.reject ..)
          | ok data =>
              rw [processTradeEvent_of_parsed identified parsed]
              exact process _ _ _ rfl parsed identified
  | nettingEngine =>
      exact keeps_handleNettingTrigger admits.survives fun _ _ => admits.net ..
  | marginEngine => exact Consumers.keeps_dropped (admits.recalculate ..)
  | collateralManager => exact collateral
  | liquidationEngine => exact defaults _

/-- The rule for one operation whose body keeps the invariant. -/
theorem kept_of_committed (admits : AdmitsTrading backend invariant relation)
    {operation : HouseOperation} {mark : Option (String × Text)} {db after : Database}
    (body : Keeps invariant relation (operation.body backend)) (holds : invariant db)
    (committed : after ∈ committedStates (called backend mark (operation.body backend)) db) :
    invariant after := by
  have finishes : Keeps invariant relation (do
      operation.body backend
      commit (server backend)) :=
    keeps_bind body fun _ => Settlement.kept_commit admits.survives
  have keeps : Keeps invariant relation (called backend mark (operation.body backend)) := by
    cases mark with
    | none => exact finishes
    | some mark =>
        apply keeps_bind (keeps_execute (admits.mark ..))
        intro isNew
        split
        · exact finishes
        · exact Settlement.kept_commit admits.survives
  exact committedStates_of_keeps keeps holds after committed

/-- The rule for runs of operations that are permitted. -/
theorem kept_of_permitted {permitted : Database → HouseLabel → Prop}
    (admits : AdmitsTrading backend invariant relation)
    (body : ∀ db operation mark, invariant db → permitted db (.operation operation mark) →
      Keeps invariant relation (operation.body backend))
    (inside : ∀ db, ¬permitted db .elsewhere) {first last : Database}
    (run : Run (Operates backend) permitted first last) (holds : invariant first) :
    invariant last := by
  refine run.invariant (fun before label after holds allowed step => ?_) holds
  cases step with
  | operation committed => exact kept_of_committed admits (body _ _ _ holds allowed) holds committed
  | elsewhere unshown => exact absurd allowed (inside before)

/-- Nothing but operations, and collateral goes to some types of accounts. -/
def OperatingWith (transfers : AccountType → Prop) (_ : Database) : HouseLabel → Prop
  | .operation (.transferToMargin _ _ marginType) _ => transfers marginType
  | .operation _ _ => True
  | .elsewhere => False

/-- Nothing but operations. -/
abbrev Operating : Database → HouseLabel → Prop := OperatingWith fun _ => True

theorem operating_operation (db : Database) (operation : HouseOperation)
    (mark : Option (String × Text)) : Operating db (.operation operation mark) := by
  cases operation <;> trivial

theorem HouseOperation.kept_body (admits : AdmitsOperations backend transfers invariant relation)
    {operation : HouseOperation} {db : Database} {mark : Option (String × Text)}
    (operating : OperatingWith transfers db (.operation operation mark)) :
    Keeps invariant relation (operation.body backend) := by
  cases operation with
  | submitTrade taken key request trace => exact Consumers.keeps_dropped (admits.submit ..)
  | handle service event surroundings =>
      exact Consumers.kept_service admits.toAdmitsTrading service
        (fun _ _ _ _ _ _ => admits.process _ _) (Consumers.kept_handleCollateralEvent admits event)
        (Consumers.kept_handleDefaultEvent admits event)
  | settleInstruction instructionId chainRegistry sign trace =>
      exact keeps_bind (Settlement.kept_settleInstruction admits.survives admits.settle _ _ _)
        fun _ => keeps_pure ()
  | processTrade data trace => exact admits.process _ _
  | runNettingCycle cycleType cutOffTime trace => exact Consumers.keeps_dropped (admits.net ..)
  | recalculateMargins deadline trace => exact Consumers.keeps_dropped (admits.recalculate ..)
  | executeWaterfall memberId triggerReason totalExposure trace =>
      exact Consumers.keeps_dropped (admits.waterfall ..)
  | depositCollateral memberId amount currency => exact Consumers.keeps_dropped (admits.deposit ..)
  | withdrawCollateral memberId amount currency =>
      exact Consumers.keeps_dropped (admits.withdraw ..)
  | transferToMargin memberId amount marginType =>
      exact Consumers.keeps_dropped (admits.transfer _ _ _ operating)
  | seedDefaultFund memberIds ccpId => exact keeps_execute (admits.seed ..)

/-- The rule for runs. -/
theorem kept_of_run (admits : AdmitsOperations backend transfers invariant relation)
    {first last : Database} (run : Run (Operates backend) (OperatingWith transfers) first last)
    (holds : invariant first) : invariant last :=
  kept_of_permitted admits.toAdmitsTrading
    (fun _ _ _ _ operating => HouseOperation.kept_body admits operating) (fun _ => id) run holds

end Rule

/-- A run goes on with what an operation commits. -/
theorem operate {first middle last : Database} {operation : HouseOperation}
    {mark : Option (String × Text)} (run : Run (Operates backend) Operating first middle)
    (committed : last ∈ committedStates (called backend mark (operation.body backend)) middle) :
    Run (Operates backend) Operating first last :=
  .snoc run (operating_operation ..) (.operation committed)

end ClearingHouse
