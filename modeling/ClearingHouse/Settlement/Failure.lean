import ClearingHouse.Settlement.Polling

/-!
# Failures after the submission

A transfer that the chain has accepted should be recorded as failed only if the chain has reported
so.  It is recorded as failed exactly if the polling raises or runs out on a pending transaction,
or the chain has reported the failure.
-/

namespace ClearingHouse

namespace Settlement

open Transactions
open Transactions.Session (committedStates)

/-- Every row of an instruction has a status, and there is one. -/
structure StatusAt (instructionId : Uuid) (status : InstructionStatus) (db : Database) : Prop where
  rows : ∀ row ∈ db.settlementInstructions, row.id = instructionId → row.status = status
  present : ∃ row ∈ db.settlementInstructions, row.id = instructionId

theorem StatusAt.of_writes {instructionId : Uuid} {status : InstructionStatus}
    {steps : List StatusStep} {payment : Option Payment} {db after : Database}
    (before : StatusAt instructionId status db)
    (writes : Writes instructionId steps payment db after) :
    StatusAt instructionId (statusAfter steps status) after := by
  obtain ⟨change, moved, rows⟩ := writes.rows
  have same_id : ∀ row, (change row).id = row.id := fun row => congrArg Prod.fst (moved.terms row)
  constructor
  · intro row member same
    rw [rows] at member
    obtain ⟨old, inside, rfl⟩ := List.mem_map.mp member
    rw [same_id] at same
    rw [moved.status old same, before.rows old inside same]
  · obtain ⟨row, inside, same⟩ := before.present
    exact ⟨change row, rows ▸ List.mem_map_of_mem inside, (same_id row).trans same⟩

/-- The row that `settle_instruction` reads is the only one of its instruction. -/
theorem statusAt_of_pending {db : Database} {instructionId : Uuid}
    {instruction : SettlementInstruction} {instrument : Instrument}
    (unique : (db.settlementInstructions.map SettlementInstruction.id).Nodup)
    (pending : pendingInstruction db instructionId = some (instruction, instrument)) :
    instruction.id = instructionId ∧ StatusAt instructionId .pending db := by
  unfold pendingInstruction at pending
  split at pending
  · cases pending
  · next row found =>
      have matched := List.find?_some found
      simp only [decide_eq_true_eq] at matched
      have inside := List.mem_of_find?_eq_some found
      have same : instruction = row := by
        split at pending
        · cases pending
        · cases pending
          rfl
      subst same
      refine ⟨matched.1, fun other member other_id => ?_, instruction, inside, matched.1⟩
      have only := List.inj_on_of_nodup_map unique member inside (other_id.trans matched.1.symm)
      rw [only, matched.2]

/-- A call of `settle_instruction` whose transaction the chain has accepted. -/
structure Submission (db : Database) (instructionId : Uuid)
    (chainRegistry : String → Option ChainAdapter) (sign : Bytes → String → Except Text Bytes) where
  instruction : SettlementInstruction
  instrument : Instrument
  chainId : String
  adapter : ChainAdapter
  signedTx : Bytes
  result : TransactionResult
  pending : pendingInstruction db instructionId = some (instruction, instrument)
  onChain : instruction.settlementType ≠ .cash
  chain : instruction.chainId = some chainId
  named : chainId ≠ ""
  registered : chainRegistry chainId = some adapter
  signed : signedTransaction instruction adapter instrument.contractAddress chainId sign =
    .ok signedTx
  submitted : adapter.submitSignedTx signedTx = .ok result

variable {backend : Backend} {db : Database} {instructionId : Uuid}
  {chainRegistry : String → Option ChainAdapter} {sign : Bytes → String → Except Text Bytes}
  {trace : TraceContext}

theorem script_of_onChain {instruction : SettlementInstruction} {instrument : Instrument}
    {chainId : String} {adapter : ChainAdapter} (onChain : instruction.settlementType ≠ .cash)
    (chain : instruction.chainId = some chainId) (named : chainId ≠ "")
    (registered : chainRegistry chainId = some adapter) :
    script backend chainRegistry sign trace instruction instrument =
      some
        (.commit (advanceStatus instruction.id .pending .approved
          [.literal "DVP validation passed"] trace) ::
          transferring backend instruction adapter trace instrument.contractAddress chainId
            sign) := by
  have kept : instruction.chainId.filter (fun chainId => decide (chainId ≠ "")) = some chainId := by
    simp [chain, named]
  rw [script]
  cases type : instruction.settlementType with
  | cash => exact absurd type onChain
  | physical => simp only [kept, registered]
  | dvp => simp only [kept, registered]

/-- The commits of a submission up to the polling. -/
theorem committedBy_submission (backend : Backend) (trace : TraceContext) (fresh : FreshJournals db)
    (unique : (db.settlementInstructions.map SettlementInstruction.id).Nodup)
    (submission : Submission db instructionId chainRegistry sign) :
    ∃ approved signed broadcasted,
      committedBy backend chainRegistry sign trace instructionId db =
        approved :: signed :: broadcasted ::
          runActions backend
            (concluding backend submission.instruction submission.adapter trace
              submission.result.txHash) broadcasted ∧
      StatusAt instructionId .approved approved ∧ StatusAt instructionId .signed signed ∧
      StatusAt instructionId .broadcasted broadcasted ∧ FreshJournals broadcasted := by
  obtain ⟨same, pending⟩ := statusAt_of_pending unique submission.pending
  have approve := advanceStatus_apply submission.instruction.id .pending .approved (by decide)
    [.literal "DVP validation passed"] trace db
  generalize advanced submission.instruction.id .pending .approved
    [.literal "DVP validation passed"] trace db = approved at approve
  have sign_ok := advanceStatus_apply submission.instruction.id .approved .signed (by decide)
    [.literal "MPC signing complete"] trace approved
  generalize advanced submission.instruction.id .approved .signed
    [.literal "MPC signing complete"] trace approved = signed at sign_ok
  obtain ⟨broadcasted, broadcast⟩ : ∃ broadcasted,
      broadcastRows submission.instruction submission.result.txHash trace signed =
        .ok ((), broadcasted) := ⟨_, broadcastRows_apply ..⟩
  have wrote_approved := writes_advanceStatus approve
  have wrote_signed := writes_advanceStatus sign_ok
  have wrote_broadcasted := writes_broadcastRows broadcast
  refine ⟨approved, signed, broadcasted, ?_, ?_, ?_, ?_, ?_⟩
  · simp only [committedBy, submission.pending,
      script_of_onChain submission.onChain submission.chain submission.named submission.registered,
      transferring, submission.signed, submitting, submission.submitted, runActions, approve,
      sign_ok, broadcast, accepted_of_same wrote_approved.ledger.2,
      accepted_of_same wrote_signed.ledger.2, accepted_of_same wrote_broadcasted.ledger.2]
  · exact same ▸ (same ▸ pending).of_writes wrote_approved
  · exact same ▸ ((same ▸ pending).of_writes wrote_approved).of_writes wrote_signed
  · exact same ▸ (((same ▸ pending).of_writes wrote_approved).of_writes wrote_signed).of_writes
      wrote_broadcasted
  · exact ((fresh.of_writes wrote_approved).of_writes wrote_signed).of_writes wrote_broadcasted

/-- An instruction is recorded as failed. -/
def FailedIn (db : Database) (instructionId : Uuid) : Prop :=
  ∃ row ∈ db.settlementInstructions, row.id = instructionId ∧ row.status = .failed

instance (db : Database) (instructionId : Uuid) : Decidable (FailedIn db instructionId) :=
  inferInstanceAs (Decidable (∃ row ∈ _, _))

theorem StatusAt.not_failedIn {status : InstructionStatus}
    (at_status : StatusAt instructionId status db) (other : status ≠ .failed) :
    ¬FailedIn db instructionId := by
  rintro ⟨row, inside, same, failed⟩
  exact other ((at_status.rows row inside same).symm.trans failed)

theorem StatusAt.failedIn (at_status : StatusAt instructionId .failed db) :
    FailedIn db instructionId := by
  obtain ⟨row, inside, same⟩ := at_status.present
  exact ⟨row, inside, same, at_status.rows row inside same⟩

/-- What the chain has said of a submitted transaction, when it was submitted or asked. -/
def ChainFailed (adapter : ChainAdapter) (result : TransactionResult) : Prop :=
  result.status = .failed ∨ ReportedFailed adapter result.txHash

/-- A polling that does not end is committed as a failure. -/
theorem failedIn_of_not_pollEnds (backend : Backend) (trace : TraceContext)
    (instruction : SettlementInstruction) {adapter : ChainAdapter} {txHash : String}
    (at_status : StatusAt instruction.id .broadcasted db)
    (open_ended : ¬PollEnds adapter txHash) :
    ∃ state ∈ runActions backend (concluding backend instruction adapter trace txHash) db,
      FailedIn state instruction.id := by
  have recorded : ∀ (fromStatus : InstructionStatus) (reason : Text),
      ∃ state ∈ runActions backend
          [.commit (failInstruction instruction.id fromStatus reason trace)] db,
        FailedIn state instruction.id := by
    intro fromStatus reason
    obtain ⟨after, ran, -, -, -, entries, -⟩ :=
      failInstruction_apply instruction.id fromStatus reason trace db
    have accepted : (server backend).deferred db after = .ok () := accepted_of_same entries
    exact ⟨after, by simp [runActions, ran, accepted],
      (at_status.of_writes (writes_failInstruction ran)).failedIn⟩
  rw [concluding]
  cases answer : polled adapter txHash with
  | error message => exact recorded .approved message
  | ok txResult =>
      have pending := polled_of_not_pollEnds open_ended txResult answer
      simp only [pending, reduceCtorEq, if_false]
      exact recorded .broadcasted _

/-- A polling that ends with a confirmed transaction commits no failure. -/
theorem not_failedIn_of_confirmed (backend : Backend) (trace : TraceContext)
    (instruction : SettlementInstruction) {adapter : ChainAdapter} {txHash : String}
    (at_status : StatusAt instruction.id .broadcasted db)
    {txResult : TransactionResult} (answer : polled adapter txHash = .ok txResult)
    (confirmed : txResult.status = .confirmed) :
    ∀ state ∈ runActions backend (concluding backend instruction adapter trace txHash) db,
      ¬FailedIn state instruction.id := by
  intro state member
  simp only [concluding, answer, confirmed, if_true, runActions] at member
  split at member
  · simp at member
  · next after ran =>
      split at member
      · simp at member
      · obtain rfl := List.mem_singleton.mp member
        obtain ⟨amount, writes, -⟩ := writes_finalizeRows ran
        exact (at_status.of_writes writes).not_failedIn (by decide)

/-- After the chain has accepted a transaction, the instruction is committed as failed only if the
chain has reported the failure, exactly if it reports it at the submission or the polling ends: what
it asks never raises, and it is told of a failure or a confirmation or its last answer is not
pending. -/
theorem failedIn_only_if_chainFailed_iff (backend : Backend) {db : Database} {instructionId : Uuid}
    {chainRegistry : String → Option ChainAdapter} {sign : Bytes → String → Except Text Bytes}
    (trace : TraceContext) (fresh : FreshJournals db)
    (unique : (db.settlementInstructions.map SettlementInstruction.id).Nodup)
    (submission : Submission db instructionId chainRegistry sign) :
    (∀ state ∈ committedStates
        (settlementCall backend instructionId chainRegistry sign trace) db,
      FailedIn state instructionId → ChainFailed submission.adapter submission.result) ↔
      submission.result.status = .failed ∨
        PollEnds submission.adapter submission.result.txHash := by
  obtain ⟨same, -⟩ := statusAt_of_pending unique submission.pending
  obtain ⟨approved, signed, broadcasted, states, at_approved, at_signed, at_broadcasted, -⟩ :=
    committedBy_submission backend trace fresh unique submission
  obtain ⟨extra, commits, repeats⟩ := committedStates_settlementCall chainRegistry sign trace
    backend instructionId fresh
  rw [commits, states]
  rw [states] at repeats
  constructor
  · intro only_if
    by_contra unsettled
    obtain ⟨unreported, open_ended⟩ := not_or.mp unsettled
    obtain ⟨state, member, failed⟩ := failedIn_of_not_pollEnds backend trace
      submission.instruction (same ▸ at_broadcasted) open_ended
    rcases only_if state (by simp [member]) (same ▸ failed) with reported | reported
    · exact unreported reported
    · exact open_ended (pollEnds_of_reportedFailed reported)
  · rintro (reported | ends) state member failed
    · exact .inl reported
    · obtain ⟨answer, returned, confirmed | ⟨-, reported⟩⟩ := polled_of_pollEnds ends
      · exfalso
        have concluded := not_failedIn_of_confirmed backend trace submission.instruction
          (same ▸ at_broadcasted) returned confirmed
        have committed : ∀ state ∈ approved :: signed :: broadcasted ::
            runActions backend (concluding backend submission.instruction submission.adapter trace
              submission.result.txHash) broadcasted, ¬FailedIn state instructionId := by
          intro state inside
          simp only [List.mem_cons] at inside
          rcases inside with rfl | rfl | rfl | inside
          · exact at_approved.not_failedIn (by decide)
          · exact at_signed.not_failedIn (by decide)
          · exact at_broadcasted.not_failedIn (by decide)
          · exact same ▸ concluded state inside
        rcases List.mem_append.mp member with inside | inside
        · exact committed state inside failed
        · refine committed state ?_ failed
          rw [repeats state inside, List.getLastD_cons]
          exact List.getLastD_mem_cons
      · exact .inr reported

/-- The pending instruction of `dvpHouse`. -/
def dvpRow : SettlementInstruction where
  id := 5
  settlementType := .dvp
  nettingCycleId := none
  fromMemberId := 1
  toMemberId := 0
  instrumentId := 2
  quantity := 10
  amount := 100
  chainId := some "ethereum-mainnet"
  txHash := none
  status := .pending
  blockNumber := none
  confirmations := 0

/-- The instrument of `dvpHouse`. -/
def dvpInstrument : Instrument where
  id := 2
  settlementType := .dvp
  marginRateIm := 1 / 10
  marginRateVm := 1 / 20
  chainId := some "ethereum-mainnet"
  contractAddress := none
  isActive := true

/-- A house with one member, which has to pay 100 against 10 tokens. -/
def dvpHouse : Database :=
  { Database.opening [⟨0, ccpLei, .active, 0⟩, ⟨1, "LEI1", .active, 0⟩] [dvpInstrument]
      [⟨3, 0, .settlement, "USD", .available⟩, ⟨4, 1, .settlement, "USD", .available⟩] 10
      Database.nodup_ccpAndMember (by decide) (by decide) with
    settlementInstructions := [dvpRow] }

/-- A chain that accepts every transaction and reports one status of it. -/
def chainReporting (status : TransactionStatus) (confirmations : ℕ) : ChainAdapter where
  buildDvpTx := fun _ => .ok []
  submitSignedTx := fun _ => .ok { txHash := "0x01", status := .pending, confirmations := 0 }
  getTxStatus := fun txHash _ => .ok { txHash, status, confirmations }
  getRequiredConfirmations := .ok 2

/-- A signer that returns what it is given. -/
def echoSigner : Bytes → String → Except Text Bytes := fun tx _ => .ok tx

/-- The trace of the runs below. -/
def systemTrace : TraceContext := ⟨9, "system", none⟩

theorem pendingInstruction_dvpHouse :
    pendingInstruction dvpHouse 5 = some (dvpRow, dvpInstrument) := by decide +kernel

theorem dvpRow_onChain : dvpRow.settlementType ≠ .cash := by decide

theorem dvpRow_chain : dvpRow.chainId = some "ethereum-mainnet" := rfl

theorem ethereum_named : "ethereum-mainnet" ≠ "" := by decide

theorem ethereum_registered (adapter : ChainAdapter) :
    (fun _ : String => some adapter) "ethereum-mainnet" = some adapter := rfl

/-- The transfer of `dvpHouse` on a chain. -/
def dvpSubmission (adapter : ChainAdapter) (built : ∀ dvp, adapter.buildDvpTx dvp = .ok [])
    {result : TransactionResult} (submitted : adapter.submitSignedTx [] = .ok result) :
    Submission dvpHouse 5 (fun _ => some adapter) echoSigner where
  instruction := dvpRow
  instrument := dvpInstrument
  chainId := "ethereum-mainnet"
  adapter := adapter
  signedTx := []
  result := result
  pending := pendingInstruction_dvpHouse
  onChain := dvpRow_onChain
  chain := dvpRow_chain
  named := ethereum_named
  registered := ethereum_registered adapter
  signed := by rw [signedTransaction, built]; rfl
  submitted := submitted

theorem failedIn_only_if_chainFailed_dvpHouse :
    (committedStates
        (settlementCall decimalBackend 5 (fun _ => some (chainReporting .confirmed 2)) echoSigner
          systemTrace) dvpHouse).length = 5 ∧
      ∀ state ∈ committedStates
          (settlementCall decimalBackend 5 (fun _ => some (chainReporting .confirmed 2)) echoSigner
            systemTrace) dvpHouse,
        FailedIn state 5 → ChainFailed (chainReporting .confirmed 2)
          { txHash := "0x01", status := .pending, confirmations := 0 } := by
  have ends : PollEnds (chainReporting .confirmed 2) "0x01" :=
    ⟨2, rfl, 0, Nat.zero_le _, fun _ earlier => absurd earlier (Nat.not_lt_zero _), _, rfl,
      .inl (.inl ⟨rfl, le_rfl⟩)⟩
  have fresh : FreshJournals dvpHouse := by simp [FreshJournals, dvpHouse, Database.opening]
  refine ⟨by decide +kernel, ?_⟩
  exact (failedIn_only_if_chainFailed_iff decimalBackend systemTrace fresh (by decide)
    (dvpSubmission (chainReporting .confirmed 2) (fun _ => rfl) rfl)).mpr (.inr ends)

/-- A transfer that stays pending on the chain is committed as failed. -/
theorem failedIn_pendingChain :
    (∃ state ∈ committedStates
        (settlementCall decimalBackend 5 (fun _ => some (chainReporting .pending 0)) echoSigner
          systemTrace) dvpHouse, FailedIn state 5) ∧
      ¬ChainFailed (chainReporting .pending 0)
        { txHash := "0x01", status := .pending, confirmations := 0 } := by
  refine ⟨by decide +kernel, ?_⟩
  rintro (failed | ⟨required, -, asked, -, -, answer, got, failed⟩)
  · cases failed
  · cases got
    cases failed

end Settlement

end ClearingHouse
