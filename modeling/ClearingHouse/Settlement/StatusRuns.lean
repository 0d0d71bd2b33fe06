import ClearingHouse.Settlement.Calls
import ClearingHouse.Settlement.Failure

/-!
# Status logs over runs

As long as nothing raises once a transaction is signed, every act of a call takes the log of its
instruction on from where it stands, so every log is a path in every committed state.
-/

namespace ClearingHouse

namespace Settlement

open StepSystem Transactions
open Transactions.Session (committedStates)

/-- From a status on, every transaction of a script records allowed steps from where the last one
ended. -/
def Follows (instructionId : Uuid) : InstructionStatus → List Action → Prop
  | _, [] => True
  | status, .submit _ :: rest => Follows instructionId status rest
  | status, .commit code :: rest =>
      ∀ ⦃db after⦄, code db = .ok ((), after) → ∃ steps final payment,
        StepPath status steps final ∧ Writes instructionId steps payment db after ∧
          Follows instructionId final rest

/-- Nothing that is asked of the chain once the transaction is signed raises. -/
def AnsweredOnceSigned (instruction : SettlementInstruction) (adapter : ChainAdapter)
    (contractAddress : Option String) (chainId : String)
    (sign : Bytes → String → Except Text Bytes) : Prop :=
  ∀ signedTx, signedTransaction instruction adapter contractAddress chainId sign = .ok signedTx →
    ∃ result, adapter.submitSignedTx signedTx = .ok result ∧ Answered adapter result.txHash

variable {backend : Backend} {instruction : SettlementInstruction} {adapter : ChainAdapter}
  {trace : TraceContext}

theorem stepPath_single {fromStatus toStatus : InstructionStatus}
    (allowed : toStatus ∈ validTransitions fromStatus) :
    StepPath fromStatus [(fromStatus, toStatus)] toStatus := ⟨rfl, allowed, rfl⟩

theorem stepPath_cashSteps : StepPath .pending cashSteps .confirmed := by
  refine ⟨rfl, ?_, rfl, ?_, rfl, ?_, rfl, ?_, rfl⟩ <;> decide

theorem follows_failInstruction {status : InstructionStatus} (message : Text)
    (allowed : .failed ∈ validTransitions status) :
    Follows instruction.id status [.commit (failInstruction instruction.id status message trace)] :=
  fun _ _ ran => ⟨_, .failed, none, stepPath_single allowed, writes_failInstruction ran, trivial⟩

theorem follows_concluding {txHash : String} (answered : Answered adapter txHash) :
    Follows instruction.id .broadcasted
      (concluding backend instruction adapter trace txHash) := by
  obtain ⟨answer, polled_eq⟩ := polled_of_answered answered
  rw [concluding, polled_eq]
  dsimp only
  split
  · intro db after ran
    obtain ⟨amount, writes, -⟩ := writes_finalizeRows ran
    exact ⟨_, .confirmed, _, stepPath_single (by decide), writes, trivial⟩
  · exact follows_failInstruction _ (by decide)

theorem follows_transferring {contractAddress : Option String} {chainId : String}
    {sign : Bytes → String → Except Text Bytes}
    (answered : AnsweredOnceSigned instruction adapter contractAddress chainId sign) :
    Follows instruction.id .approved
      (transferring backend instruction adapter trace contractAddress chainId sign) := by
  rw [transferring]
  cases signed : signedTransaction instruction adapter contractAddress chainId sign with
  | error message => exact follows_failInstruction message (by decide)
  | ok signedTx =>
      obtain ⟨result, submitted, polls⟩ := answered signedTx signed
      intro db after ran
      refine ⟨_, .signed, none, stepPath_single (by decide), writes_advanceStatus ran, ?_⟩
      simp only [submitting, submitted, Follows]
      intro db after ran
      exact ⟨_, .broadcasted, none, stepPath_single (by decide), writes_broadcastRows ran,
        follows_concluding polls⟩

theorem follows_settleCash :
    Follows instruction.id .pending
      [.commit (do let _ ← settleCash backend instruction trace)] := by
  intro db after ran
  obtain ⟨result, middle, settled, done⟩ := Transaction.bind_eq_ok.mp ran
  cases done
  rcases writes_settleCash settled with failed | ⟨-, unpaid⟩ | ⟨-, amount, -, -, -, paid⟩
  · exact ⟨_, .failed, none, stepPath_single (by decide), failed, trivial⟩
  · exact ⟨_, .confirmed, none, stepPath_cashSteps, unpaid, trivial⟩
  · exact ⟨_, .confirmed, _, stepPath_cashSteps, paid, trivial⟩

/-- The script of a row starts from `pending`. -/
theorem follows_script {chainRegistry : String → Option ChainAdapter}
    {sign : Bytes → String → Except Text Bytes} {instrument : Instrument} {actions : List Action}
    (scripted : script backend chainRegistry sign trace instruction instrument = some actions)
    (answered : ∀ chainId adapter, instruction.settlementType ≠ .cash →
      instruction.chainId = some chainId → chainRegistry chainId = some adapter →
        AnsweredOnceSigned instruction adapter instrument.contractAddress chainId sign) :
    Follows instruction.id .pending actions := by
  by_cases cash : instruction.settlementType = .cash
  · rw [script, cash] at scripted
    cases scripted
    exact follows_settleCash
  · rcases script_cases cash scripted with
      ⟨rfl, -⟩ | ⟨chainId, adapter, chain, -, registered, rfl⟩
    · exact follows_failInstruction _ (by decide)
    · intro db after ran
      exact ⟨_, .approved, none, stepPath_single (by decide), writes_advanceStatus ran,
        follows_transferring (answered chainId adapter cash chain registered)⟩

/-- A call that goes to a chain is answered once its transaction is signed. -/
def Calm (calls : Calls) : CallLabel → Prop
  | .read instructionId chainRegistry sign _ =>
      ∀ instruction instrument,
        pendingInstruction calls.committed instructionId = some (instruction, instrument) →
          ∀ chainId adapter, instruction.settlementType ≠ .cash →
            instruction.chainId = some chainId → chainRegistry chainId = some adapter →
              AnsweredOnceSigned instruction adapter instrument.contractAddress chainId sign
  | _ => True

/-- Every log is a path, and every call in progress goes on from where its log stands. -/
structure OnPath (calls : Calls) : Prop where
  logged : Logged calls.committed
  running : ∀ call ∈ calls.running, ∃ status,
    IsPath .pending (logOf calls.committed call.instruction.id) status ∧
      Follows call.instruction.id status call.actions
  distinct : (calls.running.map fun call => call.instruction.id).Nodup

theorem onPath_step {before after : Calls} {label : CallLabel} (onPath : OnPath before)
    (sequence : InSequence before label) (calm : Calm before label)
    (step : CallStep backend before label after) : OnPath after := by
  obtain ⟨logged, running, distinct⟩ := onPath
  cases step with
  | read pending scripted =>
      obtain ⟨inside, same, status⟩ := mem_of_pendingInstruction pending
      refine ⟨logged, fun call member => ?_, ?_⟩
      · rcases List.mem_append.mp member with old | new
        · exact running call old
        · rw [List.mem_singleton.mp new]
          have path := logged _ inside
          rw [status] at path
          exact ⟨.pending, path, follows_script scripted (calm _ _ pending)⟩
      · rw [List.map_append, List.nodup_append]
        refine ⟨distinct, by simp, fun id old id' new => ?_⟩
        obtain ⟨call, member, rfl⟩ := List.mem_map.mp old
        rw [List.map_singleton, List.mem_singleton] at new
        rw [new, same]
        exact sequence call member
  | @commit db after front back instruction code rest ran accepted =>
      obtain ⟨status, path, follows⟩ := running ⟨instruction, .commit code :: rest⟩ (by simp)
      obtain ⟨steps, final, payment, taken, writes, follows'⟩ := follows ran
      have at_final := LoggedAt.of_writes ⟨logged, path⟩ taken writes
      refine ⟨at_final.logged, fun call member => ?_, by simpa using distinct⟩
      simp only [List.mem_append, List.mem_cons] at member
      have others : call ∈ front ∨ call ∈ back → ∃ status,
          IsPath .pending (logOf after call.instruction.id) status ∧
            Follows call.instruction.id status call.actions := by
        intro other
        obtain ⟨status', path', follows''⟩ := running call (by
          simp only [List.mem_append, List.mem_cons]
          exact other.imp_right .inr)
        have apart : call.instruction.id ≠ instruction.id := by
          simp only [List.map_append, List.map_cons, List.nodup_append, List.nodup_cons,
            List.mem_map, List.mem_cons] at distinct
          rcases other with ahead | behind
          · exact distinct.2.2 _ ⟨call, ahead, rfl⟩ _ (.inl rfl)
          · exact fun same => distinct.2.1.1 ⟨call, behind, same⟩
        exact ⟨status', by rwa [writes.logOf_other apart], follows''⟩
      rcases member with ahead | rfl | behind
      · exact others (.inl ahead)
      · exact ⟨final, at_final.arrived, follows'⟩
      · exact others (.inr behind)
  | @submit db front back instruction signedTx rest =>
      refine ⟨logged, fun call member => ?_, by simpa using distinct⟩
      simp only [List.mem_append, List.mem_cons] at member
      rcases member with ahead | rfl | behind
      · exact running call (by simp [ahead])
      · obtain ⟨status, path, follows⟩ := running ⟨instruction, .submit signedTx :: rest⟩ (by simp)
        exact ⟨status, path, follows⟩
      · exact running call (by simp [behind])
  | @stop db front back call =>
      refine ⟨logged, fun other member => ?_, ?_⟩
      · rcases List.mem_append.mp member with ahead | behind
        · exact running other (by simp [ahead])
        · exact running other (by simp [behind])
      · refine distinct.sublist (List.Sublist.map _ ?_)
        exact List.Sublist.append_left (List.sublist_cons_self _ _) front
  | @elsewhere db after calls new undisturbed =>
      refine ⟨fun row member => ?_, fun call member => ?_, distinct⟩
      · rw [undisturbed.rows] at member
        rw [undisturbed.logs]
        rcases List.mem_append.mp member with old | added
        · exact logged row old
        · have untouched := undisturbed.untouched row added
          rw [untouched.unlogged, untouched.pending]
          rfl
      · obtain ⟨status, path, follows⟩ := running call member
        exact ⟨status, by rwa [undisturbed.logs], follows⟩

/-- In every run without an exception after the signing, calls of one instruction in sequence, every
log is a path from `pending` to the status of its instruction. -/
theorem logged_of_run {backend : Backend} {start last : Calls}
    (unsettled : Unsettled backend start.committed) (idle : start.running = [])
    (run : Run (CallStep backend) (fun calls label => InSequence calls label ∧ Calm calls label)
      start last) : Logged last.committed := by
  have opening : OnPath start := by
    refine ⟨fun row member => ?_, by simp [idle], by simp [idle]⟩
    have untouched := unsettled.untouched row member
    rw [untouched.unlogged, untouched.pending]
    rfl
  exact (run.invariant (fun _ _ _ onPath permitted step =>
    onPath_step onPath permitted.1 permitted.2 step) opening).logged

theorem unsettled_dvpHouse : Unsettled decimalBackend dvpHouse where
  distinct := by decide
  untouched := by
    intro row member
    rw [List.mem_singleton.mp member]
    exact ⟨rfl, decimalBackend.store_mem (x := 100) (by decide +kernel), rfl, rfl⟩
  located := by
    intro row member
    rw [List.mem_singleton.mp member]
    exact ⟨dvpInstrument, List.mem_singleton_self _, rfl⟩
  fresh := ⟨by simp [FreshJournals, dvpHouse, Database.opening], by
    simp [dvpHouse, Database.opening]⟩

/-- The chain of `dvpHouse` confirms, and the log arrives there. -/
theorem logged_of_run_dvpHouse :
    ∃ last, Run (CallStep decimalBackend)
        (fun calls label => InSequence calls label ∧ Calm calls label) ⟨dvpHouse, []⟩ last ∧
      (∃ row ∈ last.committed.settlementInstructions, row.status = .confirmed) ∧
      Logged last.committed := by
  have confirmed : ∃ state ∈ committedStates
      (settlementCall decimalBackend 5 (fun _ => some (chainReporting .confirmed 2)) echoSigner
        systemTrace) dvpHouse,
      ∃ row ∈ state.settlementInstructions, row.status = .confirmed := by decide +kernel
  obtain ⟨state, committed, found⟩ := confirmed
  have calm : Calm ⟨dvpHouse, []⟩ (.read 5 (fun _ => some (chainReporting .confirmed 2)) echoSigner
      systemTrace) := by
    intro instruction instrument _ chainId adapter _ _ registered signedTx _
    cases registered
    refine ⟨_, rfl, 2, rfl, fun asked _ _ => ⟨_, rfl⟩⟩
  obtain ⟨running, run⟩ := run_of_committedStates
    (fun calls label => InSequence calls label ∧ Calm calls label)
    unsettled_dvpHouse.fresh.entries 5 _ _ _ ⟨by simp [InSequence], calm⟩
    (fun _ _ _ _ _ _ => ⟨trivial, trivial⟩) committed
  exact ⟨_, run, found, logged_of_run unsettled_dvpHouse rfl run⟩

/-- A chain that refuses every transaction. -/
def chainRefusing : ChainAdapter :=
  { chainReporting .pending 0 with submitSignedTx := fun _ => .error [.literal "nonce too low"] }

/-- If the submission raises, the log says `approved` after it has said `signed`. -/
theorem not_logged_dvpHouse :
    ∃ last, Run (CallStep decimalBackend) InSequence ⟨dvpHouse, []⟩ last ∧
      ¬Logged last.committed := by
  have broken : ∃ state ∈ committedStates
      (settlementCall decimalBackend 5 (fun _ => some chainRefusing) echoSigner systemTrace)
        dvpHouse, ¬Logged state := by decide +kernel
  obtain ⟨state, committed, unlogged⟩ := broken
  obtain ⟨running, run⟩ :=
    run_of_committedStates InSequence unsettled_dvpHouse.fresh.entries 5 _ _ _
    (by simp [InSequence]) (fun _ _ _ _ _ _ => trivial) committed
  exact ⟨_, run, unlogged⟩

end Settlement

end ClearingHouse
