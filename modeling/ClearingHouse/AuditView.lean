import ClearingHouse.Events.Traces
import ClearingHouse.Netting.Instructions
import ClearingHouse.Settlement.Calls
import ClearingHouse.Settlement.Failure
import ClearingHouse.Waterfall.Execute

/-!
# The audit view

`current_entity_status` shows a latest row of `state_transitions` for each entity.  The rows of one
transaction have the same time, so what it shows of an entity is its status where a transaction
logs one transition of it with the change of its row.  The transactions of a transfer do; a netting
cycle, a cash settlement and a default log several at once, and a default never its last one.
-/

namespace ClearingHouse

namespace AuditView

open Settlement StepSystem Transactions
open Transaction (bind_eq_ok)

/-- The rows of `state_transitions` with `transitioned_at`. -/
abbrev Log := List (StateTransition × Timestamp)

/-- The tables that the view is compared with. -/
inductive Kind
  | nettingCycle
  | settlementInstruction
  | defaultEvent
  deriving DecidableEq, Repr

def Kind.entityType : Kind → StateEntityType
  | nettingCycle => .nettingCycle
  | settlementInstruction => .settlementInstruction
  | defaultEvent => .defaultEvent

/-- The rows about an entity. -/
def about (kind : Kind) (entityId : Uuid) (transition : StateTransition) : Prop :=
  transition.entityType = kind.entityType ∧ transition.entityId = entityId

instance (kind : Kind) (entityId : Uuid) (transition : StateTransition) :
    Decidable (about kind entityId transition) :=
  inferInstanceAs (Decidable (_ ∧ _))

/-- The log of an entity. -/
def logOf (log : Log) (kind : Kind) (entityId : Uuid) : Log :=
  log.filter fun row => about kind entityId row.1

/-- The rows that `DISTINCT ON` may pick: those with the greatest time. -/
def latest (log : Log) : Log := log.filter fun row => ∀ other ∈ log, other.2 ≤ row.2

/-- What the view may show of an entity. -/
def currentStatus (log : Log) (kind : Kind) (entityId : Uuid) : List EntityStatus :=
  (latest (logOf log kind entityId)).map fun row => row.1.toStatus

/-- Column `status` of an entity in its own table. -/
def tableStatus (db : Database) (kind : Kind) (entityId : Uuid) : List EntityStatus :=
  match kind with
  | .nettingCycle =>
      (db.nettingCycles.filter fun cycle => cycle.id = entityId).map fun cycle =>
        .nettingCycle cycle.status
  | .settlementInstruction =>
      (db.settlementInstructions.filter fun row => row.id = entityId).map fun row =>
        .settlementInstruction row.status
  | .defaultEvent =>
      (db.defaultEvents.filter fun event => event.id = entityId).map fun event =>
        .defaultEvent event.status

/-- Whatever the view shows of an entity is its status. -/
def Tells (log : Log) (db : Database) (kind : Kind) (entityId : Uuid) : Prop :=
  ∀ shown ∈ currentStatus log kind entityId, ∀ status ∈ tableStatus db kind entityId,
    shown = status

instance (log : Log) (db : Database) (kind : Kind) (entityId : Uuid) :
    Decidable (Tells log db kind entityId) :=
  inferInstanceAs (Decidable (∀ shown ∈ _, ∀ status ∈ _, shown = status))

/-- The rows that a transaction has inserted, with its start. -/
def inserted (db after : Database) (start : Timestamp) : Log :=
  (after.stateTransitions.drop db.stateTransitions.length).map fun row => (row, start)

section View

variable {log : Log} {kind : Kind} {entityId : Uuid} {added : List StateTransition}
  {start : Timestamp}

theorem inserted_of_append {db after : Database}
    (transitions : after.stateTransitions = db.stateTransitions ++ added) :
    inserted db after start = added.map fun row => (row, start) := by
  rw [inserted, transitions, List.drop_left]

/-- Rows about other entities change nothing that the view shows of this one. -/
theorem currentStatus_append_of_other (other : ∀ row ∈ added, ¬about kind entityId row) :
    currentStatus (log ++ added.map fun row => (row, start)) kind entityId =
      currentStatus log kind entityId := by
  have none : logOf (added.map fun row => (row, start)) kind entityId = [] := by
    rw [logOf, List.filter_eq_nil_iff]
    intro row member
    obtain ⟨transition, inside, rfl⟩ := List.mem_map.mp member
    simpa using other transition inside
  have same : logOf (log ++ added.map fun row => (row, start)) kind entityId =
      logOf log kind entityId := by
    rw [logOf, List.filter_append, ← logOf, ← logOf, none, List.append_nil]
  rw [currentStatus, same, currentStatus]

/-- A later row about the entity is what the view shows. -/
theorem currentStatus_append_single {row : StateTransition} (own : about kind entityId row)
    (later : ∀ old ∈ log, old.2 < start) :
    currentStatus (log ++ [(row, start)]) kind entityId = [row.toStatus] := by
  have logged : logOf (log ++ [(row, start)]) kind entityId =
      logOf log kind entityId ++ [(row, start)] := by
    simp [logOf, own]
  have earlier : ∀ old ∈ logOf log kind entityId, old.2 < start := fun old member =>
    later old (List.mem_filter.mp member).1
  have last : latest (logOf log kind entityId ++ [(row, start)]) = [(row, start)] := by
    rw [latest, List.filter_append]
    have passed : (logOf log kind entityId).filter (fun old =>
        ∀ other ∈ logOf log kind entityId ++ [(row, start)], other.2 ≤ old.2) = [] := by
      rw [List.filter_eq_nil_iff]
      intro old member
      have behind := earlier old member
      simp only [decide_eq_true_eq]
      intro greatest
      exact absurd (greatest (row, start) (by simp)) (not_le.mpr behind)
    have kept : ∀ other ∈ logOf log kind entityId ++ [(row, start)], other.2 ≤ start := by
      intro other member
      rcases List.mem_append.mp member with old | new
      · exact (earlier other old).le
      · rw [List.mem_singleton.mp new]
    rw [passed, List.nil_append, List.filter_cons_of_pos (by simpa using kept), List.filter_nil]
  rw [currentStatus, logged, last]
  rfl

/-- Of an entity without rows the view shows nothing. -/
theorem currentStatus_of_unlogged (unlogged : ∀ row ∈ log, ¬about kind entityId row.1) :
    currentStatus log kind entityId = [] := by
  have none : logOf log kind entityId = [] := by
    rw [logOf, List.filter_eq_nil_iff]
    intro row member
    simpa using unlogged row member
  rw [currentStatus, none]
  rfl

end View

/-- The committed database, the log of its transitions and the settlements in progress. -/
structure Audit where
  committed : Database
  log : Log
  running : List Call

/-- A committed transaction. -/
def Audit.advance (audit : Audit) (after : Database) (start : Timestamp) (running : List Call) :
    Audit where
  committed := after
  log := audit.log ++ inserted audit.committed after start
  running := running

/-- The mark of the message that a transaction handles. -/
def markedBy (mark : Option ProcessedEvent) (db : Database) : Database :=
  mark.elim db db.marked

/-- A transaction that logs transitions of some kinds of entities only, and changes no status of the
other kinds. -/
structure Leaves (types : List StateEntityType) (db after : Database) : Prop where
  tables : ∀ kind : Kind, kind.entityType ∉ types → ∀ entityId,
    tableStatus after kind entityId = tableStatus db kind entityId
  transitions :
    Continued (fun row => row.entityType ∈ types) db.stateTransitions after.stateTransitions
  numbered : ∀ row ∈ after.settlementInstructions, (∃ old ∈ db.settlementInstructions,
    old.id = row.id)
  uuids : db.nextUuid ≤ after.nextUuid

/-- What happens next: a settlement reads its row, performs its next act or is cut off, or another
service commits. -/
inductive AuditLabel
  | read (instructionId : Uuid) (chainRegistry : String → Option ChainAdapter)
      (sign : Bytes → String → Except Text Bytes) (trace : TraceContext)
  | act (position : ℕ)
  | stop (position : ℕ)
  | net (cycleType : NettingCycleType) (cutOffTime : Timestamp) (trace : TraceContext)
  | default (memberId : Uuid) (triggerReason : Text) (totalExposure : ℚ)
      (trace : Option TraceContext)
  | elsewhere

/-- A transaction starts after those before it, and its rows have the time of its start. -/
inductive AuditStep (backend : Backend) : Audit → AuditLabel → Audit → Prop
  | read {audit : Audit} {instructionId : Uuid} {chainRegistry : String → Option ChainAdapter}
      {sign : Bytes → String → Except Text Bytes} {trace : TraceContext}
      {instruction : SettlementInstruction} {instrument : Instrument} {actions : List Action}
      (pending : pendingInstruction audit.committed instructionId = some (instruction, instrument))
      (scripted : script backend chainRegistry sign trace instruction instrument = some actions) :
      AuditStep backend audit (.read instructionId chainRegistry sign trace)
        { audit with running := audit.running ++ [⟨instruction, actions⟩] }
  | commit {db after : Database} {log : Log} {front back : List Call}
      {instruction : SettlementInstruction} {code : Sql Unit} {rest : List Action}
      {start : Timestamp} (mark : Option ProcessedEvent) (later : ∀ row ∈ log, row.2 < start)
      (ran : code (markedBy mark db) = .ok ((), after))
      (accepted : (server backend).deferred db after = .ok ()) :
      AuditStep backend ⟨db, log, front ++ ⟨instruction, .commit code :: rest⟩ :: back⟩
        (.act front.length)
        (Audit.advance ⟨db, log, []⟩ after start (front ++ ⟨instruction, rest⟩ :: back))
  | submit {db : Database} {log : Log} {front back : List Call}
      {instruction : SettlementInstruction} {signedTx : Bytes} {rest : List Action} :
      AuditStep backend ⟨db, log, front ++ ⟨instruction, .submit signedTx :: rest⟩ :: back⟩
        (.act front.length) ⟨db, log, front ++ ⟨instruction, rest⟩ :: back⟩
  | stop {db : Database} {log : Log} {front back : List Call} {call : Call} :
      AuditStep backend ⟨db, log, front ++ call :: back⟩ (.stop front.length)
        ⟨db, log, front ++ back⟩
  | net {audit : Audit} {after : Database} {start : Timestamp} {cycleType : NettingCycleType}
      {cutOffTime : Timestamp} {trace : TraceContext} {result : Netting.CycleResult}
      (mark : Option ProcessedEvent) (later : ∀ row ∈ audit.log, row.2 < start)
      (ran : Netting.runNettingCycle backend cycleType cutOffTime trace
        (markedBy mark audit.committed) = .ok (result, after))
      (accepted : (server backend).deferred audit.committed after = .ok ()) :
      AuditStep backend audit (.net cycleType cutOffTime trace)
        (audit.advance after start audit.running)
  | default {audit : Audit} {after : Database} {start : Timestamp} {memberId : Uuid}
      {triggerReason : Text} {totalExposure : ℚ} {trace : Option TraceContext}
      {outcome : Waterfall.Outcome} (mark : Option ProcessedEvent)
      (later : ∀ row ∈ audit.log, row.2 < start)
      (ran : Waterfall.executeWaterfall backend memberId triggerReason totalExposure trace
        (markedBy mark audit.committed) = .ok (outcome, after))
      (accepted : (server backend).deferred audit.committed after = .ok ()) :
      AuditStep backend audit (.default memberId triggerReason totalExposure trace)
        (audit.advance after start audit.running)
  | elsewhere {audit : Audit} {after : Database} {start : Timestamp}
      (later : ∀ row ∈ audit.log, row.2 < start)
      (leaves : Leaves [.trade, .novatedTrade, .marginCall] audit.committed after) :
      AuditStep backend audit .elsewhere (audit.advance after start audit.running)

/-- Both accounts of a cash settlement exist. -/
def AccountsFound (db : Database) (instruction : SettlementInstruction) : Prop :=
  (findAccount db instruction.fromMemberId .settlement .available).isSome ∧
    (findAccount db instruction.toMemberId .settlement .available).isSome

/-- The step logs no two transitions of the entity at once: it completes no cycle, executes no
waterfall, and settles the instruction in cash only for want of an account. -/
def Spares (kind : Kind) (entityId : Uuid) (audit : Audit) : AuditLabel → Prop
  | .act position => kind = .settlementInstruction → ∀ call,
      audit.running[position]? = some call → call.instruction.id = entityId →
        call.instruction.settlementType = .cash →
          ¬AccountsFound audit.committed call.instruction
  | .net .. => kind ≠ .nettingCycle
  | .default .. => kind ≠ .defaultEvent
  | _ => True

variable {backend : Backend}

/-! ## The transactions of a settlement -/

/-- The transaction logs one transition of the instruction, with the change of its status. -/
def LogsOne (instruction : SettlementInstruction) (code : Sql Unit) : Prop :=
  ∀ ⦃db after⦄, code db = .ok ((), after) →
    ∃ step payment, Writes instruction.id [step] payment db after

/-- The transaction logs one transition, or all of a cash settlement. -/
def Logs (instruction : SettlementInstruction) (code : Sql Unit) : Prop :=
  ∀ ⦃db after⦄, code db = .ok ((), after) →
    ∃ steps payment, Writes instruction.id steps payment db after ∧
      ((∃ step, steps = [step]) ∨
        (instruction.settlementType = .cash ∧ AccountsFound db instruction))

theorem LogsOne.logs {instruction : SettlementInstruction} {code : Sql Unit}
    (one : LogsOne instruction code) : Logs instruction code := by
  intro db after ran
  obtain ⟨step, payment, writes⟩ := one ran
  exact ⟨[step], payment, writes, .inl ⟨step, rfl⟩⟩

section Settlement

variable {instruction : SettlementInstruction} {trace : TraceContext} {adapter : ChainAdapter}

theorem logsOne_advanceStatus (fromStatus toStatus : InstructionStatus) (reason : Text) :
    LogsOne instruction (advanceStatus instruction.id fromStatus toStatus reason trace) :=
  fun _ _ ran => ⟨_, _, writes_advanceStatus ran⟩

theorem logsOne_failInstruction (fromStatus : InstructionStatus) (reason : Text) :
    LogsOne instruction (failInstruction instruction.id fromStatus reason trace) :=
  fun _ _ ran => ⟨_, _, writes_failInstruction ran⟩

theorem logsOne_broadcastRows (txHash : String) :
    LogsOne instruction (broadcastRows instruction txHash trace) :=
  fun _ _ ran => ⟨_, _, writes_broadcastRows ran⟩

theorem logsOne_finalizeRows (blockNumber : Option ℕ) (confirmations : ℕ) :
    LogsOne instruction (finalizeRows backend instruction blockNumber confirmations trace) := by
  intro db after ran
  obtain ⟨amount, writes, -⟩ := writes_finalizeRows ran
  exact ⟨_, _, writes⟩

theorem logs_settleCash (cash : instruction.settlementType = .cash) :
    Logs instruction (do let _ ← settleCash backend instruction trace) := by
  intro db after ran
  obtain ⟨result, settled, ran, done⟩ := bind_eq_ok.mp ran
  cases done
  by_cases found : AccountsFound db instruction
  · rcases writes_settleCash ran with failed | ⟨-, free⟩ | ⟨-, amount, -, -, -, paid⟩
    · exact ⟨_, _, failed, .inl ⟨_, rfl⟩⟩
    · exact ⟨_, _, free, .inr ⟨cash, found⟩⟩
    · exact ⟨_, _, paid, .inr ⟨cash, found⟩⟩
  · -- Without an account the instruction fails, and that is all.
    have failing : settleCash backend instruction trace db =
        (do failInstruction instruction.id .pending [.literal "Settlement accounts not found"] trace
            pure (.failed [.literal "accounts_not_found"]) : Sql SettlementResult) db := by
      rw [settleCash, Transaction.bind_of_ok (Transaction.read_apply db)]
      cases payer : findAccount db instruction.fromMemberId .settlement .available with
      | none => rfl
      | some fromAcct =>
          cases payee : findAccount db instruction.toMemberId .settlement .available with
          | none => rfl
          | some toAcct => exact absurd ⟨by simp [payer], by simp [payee]⟩ found
    rw [failing] at ran
    obtain ⟨⟨⟩, middle, fail, done⟩ := bind_eq_ok.mp ran
    cases done
    exact ⟨_, _, writes_failInstruction fail, .inl ⟨_, rfl⟩⟩

/-- The acts of a transfer log one transition each. -/
theorem logsOne_transferring {contractAddress : Option String} {chainId : String}
    {sign : Bytes → String → Except Text Bytes} {code : Sql Unit}
    (member : .commit code ∈ transferring backend instruction adapter trace contractAddress chainId
      sign) : LogsOne instruction code := by
  have failing : ∀ {message code}, .commit code ∈ failed instruction trace message →
      LogsOne instruction code := by
    intro message code member
    cases List.mem_singleton.mp member
    exact logsOne_failInstruction _ _
  have concludes : ∀ {txHash code},
      .commit code ∈ concluding backend instruction adapter trace txHash →
        LogsOne instruction code := by
    intro txHash code member
    unfold concluding at member
    split at member
    · exact failing member
    · split at member
      · cases List.mem_singleton.mp member
        exact logsOne_finalizeRows _ _
      · cases List.mem_singleton.mp member
        exact logsOne_failInstruction _ _
  have submits : ∀ {signedTx code},
      .commit code ∈ submitting backend instruction adapter trace signedTx →
        LogsOne instruction code := by
    intro signedTx code member
    unfold submitting at member
    rcases List.mem_cons.mp member with submit | member
    · cases submit
    · split at member
      · exact failing member
      · rcases List.mem_cons.mp member with broadcast | member
        · cases broadcast
          exact logsOne_broadcastRows _
        · exact concludes member
  unfold transferring at member
  split at member
  · exact failing member
  · rcases List.mem_cons.mp member with signed | member
    · cases signed
      exact logsOne_advanceStatus _ _ _
    · exact submits member

theorem logs_of_script {chainRegistry : String → Option ChainAdapter}
    {sign : Bytes → String → Except Text Bytes} {instrument : Instrument} {actions : List Action}
    (scripted : script backend chainRegistry sign trace instruction instrument = some actions) :
    ∀ code, .commit code ∈ actions → Logs instruction code := by
  intro code member
  by_cases cash : instruction.settlementType = .cash
  · have actions_eq : [.commit (do let _ ← settleCash backend instruction trace)] = actions := by
      simpa [script, cash] using scripted
    rw [← actions_eq] at member
    cases List.mem_singleton.mp member
    exact logs_settleCash cash
  · rcases script_cases cash scripted with ⟨rfl, -⟩ | ⟨chainId, adapter, -, -, -, rfl⟩
    · cases List.mem_singleton.mp member
      exact (logsOne_failInstruction _ _).logs
    · rcases List.mem_cons.mp member with approve | member
      · cases approve
        exact (logsOne_advanceStatus _ _ _).logs
      · exact (logsOne_transferring member).logs

end Settlement

/-- A transaction with the transitions it logs: none of an entity with its status as before, or one
with the status that the entity has then. -/
structure Logging (kind : Kind) (entityId : Uuid) (db after : Database)
    (added : List StateTransition) : Prop where
  transitions : after.stateTransitions = db.stateTransitions ++ added
  uuids : db.nextUuid ≤ after.nextUuid
  instructions : (∀ row ∈ db.settlementInstructions, row.id < db.nextUuid) →
    ∀ row ∈ after.settlementInstructions, row.id < after.nextUuid
  logged : ∀ row ∈ added, row.entityType = .settlementInstruction → row.entityId < after.nextUuid
  kinds : kind ≠ .settlementInstruction → ∀ row ∈ added, row.entityType ≠ kind.entityType
  tells : kind = .settlementInstruction →
    ((∀ row ∈ added, ¬about kind entityId row) ∧ (entityId < db.nextUuid →
      tableStatus after kind entityId = tableStatus db kind entityId)) ∨
    ∃ row, added = [row] ∧ about kind entityId row ∧
      ∀ status ∈ tableStatus after kind entityId, row.toStatus = status

/-- The view tells the status of an entity, and identifiers that are not given out yet are not in
the tables. -/
structure Told (kind : Kind) (entityId : Uuid) (audit : Audit) : Prop where
  rows : audit.log.map Prod.fst = audit.committed.stateTransitions
  instructions :
    ∀ row ∈ audit.committed.settlementInstructions, row.id < audit.committed.nextUuid
  running : ∀ call ∈ audit.running, call.instruction.id < audit.committed.nextUuid ∧
    ∀ code, .commit code ∈ call.actions → Logs call.instruction code
  logged : ∀ row ∈ audit.log, row.1.entityType = .settlementInstruction →
    row.1.entityId < audit.committed.nextUuid
  kinds : kind ≠ .settlementInstruction → ∀ row ∈ audit.log, row.1.entityType ≠ kind.entityType
  tells : kind = .settlementInstruction → Tells audit.log audit.committed kind entityId

section Step

variable {kind : Kind} {entityId : Uuid} {audit : Audit} {after : Database} {start : Timestamp}
  {added : List StateTransition} {running : List Call}

theorem Told.advance (told : Told kind entityId audit)
    (logging : Logging kind entityId audit.committed after added)
    (later : ∀ row ∈ audit.log, row.2 < start)
    (calls : ∀ call ∈ running, call.instruction.id < audit.committed.nextUuid ∧
      ∀ code, .commit code ∈ call.actions → Logs call.instruction code) :
    Told kind entityId (audit.advance after start running) := by
  have log_eq : (audit.advance after start running).log =
      audit.log ++ added.map fun row => (row, start) := by
    rw [Audit.advance, inserted_of_append logging.transitions]
  refine
    { rows := ?_
      instructions := logging.instructions told.instructions
      running := fun call member =>
        ⟨(calls call member).1.trans_le logging.uuids, (calls call member).2⟩
      logged := fun row member typed => ?_
      kinds := fun other row member => ?_
      tells := fun same => ?_ }
  · rw [log_eq, List.map_append, told.rows, List.map_map]
    simpa [Function.comp_def, Audit.advance] using logging.transitions.symm
  · rw [log_eq] at member
    rcases List.mem_append.mp member with old | new
    · exact (told.logged row old typed).trans_le logging.uuids
    · obtain ⟨transition, inside, rfl⟩ := List.mem_map.mp new
      exact logging.logged transition inside typed
  · rw [log_eq] at member
    rcases List.mem_append.mp member with old | new
    · exact told.kinds other row old
    · obtain ⟨transition, inside, rfl⟩ := List.mem_map.mp new
      exact logging.kinds other transition inside
  · intro shown member status inside
    rw [log_eq] at member
    rcases logging.tells same with ⟨others, unchanged⟩ | ⟨row, rfl, own, column⟩
    · rw [currentStatus_append_of_other others] at member
      -- What is shown is logged, so the identifier has been given out before.
      have given : entityId < audit.committed.nextUuid := by
        by_contra fresh
        have unlogged : ∀ row ∈ audit.log, ¬about kind entityId row.1 := by
          rintro row logged ⟨typed, identified⟩
          rw [same] at typed
          exact fresh (identified ▸ told.logged row logged typed)
        rw [currentStatus_of_unlogged unlogged] at member
        cases member
      exact told.tells same shown member status (unchanged given ▸ inside)
    · rw [List.map_singleton, currentStatus_append_single own later] at member
      rw [List.mem_singleton.mp member]
      exact column status inside

/-- The transaction of a settlement. -/
theorem logging_of_writes {db : Database} {instruction : SettlementInstruction}
    {steps : List StatusStep} {payment : Option Payment}
    (writes : Writes instruction.id steps payment db after)
    (known : instruction.id < db.nextUuid)
    (spared : instruction.id = entityId → kind = .settlementInstruction →
      ∃ step, steps = [step]) :
    ∃ added, Logging kind entityId db after added := by
  obtain ⟨added, transitions, keys⟩ := writes.transitions
  obtain ⟨change, moved, rows⟩ := writes.rows
  have same_id : ∀ row, (change row).id = row.id := fun row => congrArg Prod.fst (moved.terms row)
  have keyed : ∀ row ∈ added, ∃ step ∈ steps, transitionKey row = recordOf instruction.id step := by
    intro row member
    have inside : transitionKey row ∈ added.map transitionKey := List.mem_map_of_mem member
    rw [keys] at inside
    obtain ⟨step, taken, same⟩ := List.mem_map.mp inside
    exact ⟨step, taken, same.symm⟩
  have typed : ∀ row ∈ added,
      row.entityType = .settlementInstruction ∧ row.entityId = instruction.id := by
    intro row member
    obtain ⟨step, -, key⟩ := keyed row member
    exact ⟨congrArg Prod.fst key, congrArg (fun key => key.2.1) key⟩
  refine ⟨added, transitions, writes.uuids, fun numbered row member => ?_, fun row member _ => ?_,
    fun other row member => ?_, fun same => ?_⟩
  · rw [rows] at member
    obtain ⟨old, inside, rfl⟩ := List.mem_map.mp member
    rw [same_id]
    exact (numbered old inside).trans_le writes.uuids
  · rw [(typed row member).2]
    exact known.trans_le writes.uuids
  · rw [(typed row member).1]
    cases kind with
    | settlementInstruction => exact absurd rfl other
    | nettingCycle => exact StateEntityType.noConfusion
    | defaultEvent => exact StateEntityType.noConfusion
  · subst same
    by_cases own : instruction.id = entityId
    · subst own
      right
      obtain ⟨step, rfl⟩ := spared rfl rfl
      obtain ⟨row, rfl⟩ : ∃ row, added = [row] := by
        rw [← List.length_eq_one_iff]
        simpa using congrArg List.length keys
      have key : transitionKey row = recordOf instruction.id step := by simpa using keys
      refine ⟨row, rfl, typed row (List.mem_singleton_self row), fun status member => ?_⟩
      obtain ⟨moving, inside, rfl⟩ := List.mem_map.mp member
      obtain ⟨inside, identified⟩ := List.mem_filter.mp inside
      rw [rows] at inside
      obtain ⟨old, -, rfl⟩ := List.mem_map.mp inside
      have named : old.id = instruction.id := by
        rw [← same_id]
        simpa using identified
      rw [moved.status old named]
      exact congrArg (fun key => key.2.2.2) key
    · left
      refine ⟨fun row member identified => own ((typed row member).2.symm.trans identified.2),
        fun _ => ?_⟩
      simp only [tableStatus, rows, List.filter_map, List.map_map]
      have kept : (db.settlementInstructions.filter
          ((fun row => decide (row.id = entityId)) ∘ change)) =
          db.settlementInstructions.filter fun row => row.id = entityId := by
        apply List.filter_congr
        intro row _
        simp [same_id]
      rw [kept]
      apply List.map_congr_left
      intro row member
      have other : row.id ≠ instruction.id := by
        intro named
        have identified : row.id = entityId := by simpa using (List.mem_filter.mp member).2
        exact own (named.symm.trans identified)
      rw [Function.comp_apply, moved.other row other]

/-- A transaction that leaves the kind of the entity alone. -/
theorem logging_of_leaves {db : Database} {types : List StateEntityType}
    (leaves : Leaves types db after) (kind_left : kind.entityType ∉ types)
    (instructions_left : .settlementInstruction ∉ types) :
    ∃ added, Logging kind entityId db after added := by
  obtain ⟨added, transitions, typed⟩ := leaves.transitions
  refine ⟨added, transitions, leaves.uuids, fun numbered row member => ?_,
    fun row member instruction => ?_, fun _ row member same => ?_, fun _ => .inl ⟨?_, fun _ => ?_⟩⟩
  · obtain ⟨old, inside, same⟩ := leaves.numbered row member
    rw [← same]
    exact (numbered old inside).trans_le leaves.uuids
  · exact absurd (instruction ▸ typed row member) instructions_left
  · exact kind_left (same ▸ typed row member)
  · rintro row member ⟨same, -⟩
    exact kind_left (same ▸ typed row member)
  · exact leaves.tables kind kind_left entityId

end Step

/-- The mark of a message is in none of the tables. -/
theorem Logging.of_marked {kind : Kind} {entityId : Uuid} {mark : Option ProcessedEvent}
    {db after : Database} {added : List StateTransition}
    (logging : Logging kind entityId (markedBy mark db) after added) :
    Logging kind entityId db after added := by
  cases mark with
  | none => exact logging
  | some mark =>
      exact ⟨logging.transitions, logging.uuids, logging.instructions, logging.logged,
        logging.kinds, logging.tells⟩

theorem logging_runNettingCycle {kind : Kind} (entityId : Uuid) (other : kind ≠ .nettingCycle)
    {cycleType : NettingCycleType} {cutOffTime : Timestamp} {trace : TraceContext}
    {result : Netting.CycleResult} {db after : Database}
    (ran : Netting.runNettingCycle backend cycleType cutOffTime trace db = .ok (result, after)) :
    ∃ added, Logging kind entityId db after added := by
  obtain ⟨ccp, -, instructed⟩ := Netting.instructed_runNettingCycle ran
  obtain ⟨added, transitions, cycles⟩ := instructed.transitions
  obtain ⟨rows, -, numbered, extended⟩ := instructed.rows
  have fresh : ∀ row ∈ rows, db.nextUuid ≤ row.id ∧ row.id < after.nextUuid := fun row member =>
    instructed.fresh row.id (numbered ▸ List.mem_map_of_mem member)
  refine ⟨added, transitions, instructed.uuids, fun known row member => ?_,
    fun row member instruction => ?_, fun _ row member same => ?_,
    fun same => .inl ⟨?_, fun given => ?_⟩⟩
  · rw [extended] at member
    rcases List.mem_append.mp member with old | new
    · exact (known row old).trans_le instructed.uuids
    · exact (fresh row new).2
  · rw [cycles row member] at instruction
    cases instruction
  · rw [cycles row member] at same
    cases kind with
    | nettingCycle => exact other rfl
    | settlementInstruction => cases same
    | defaultEvent => cases same
  · rintro row member ⟨typed, -⟩
    rw [cycles row member, same] at typed
    cases typed
  · have none : rows.filter (fun row => row.id = entityId) = [] := by
      rw [List.filter_eq_nil_iff]
      intro row member
      have distinct : row.id ≠ entityId := (given.trans_le (fresh row member).1).ne'
      simpa using distinct
    rw [same]
    simp only [tableStatus, extended, List.filter_append, none, List.append_nil]

section Leaves

variable {types : List StateEntityType}

theorem leaves_of_same {db after : Database} (cycles : after.nettingCycles = db.nettingCycles)
    (instructions : after.settlementInstructions = db.settlementInstructions)
    (events : after.defaultEvents = db.defaultEvents)
    (transitions : after.stateTransitions = db.stateTransitions)
    (uuids : db.nextUuid ≤ after.nextUuid) : Leaves types db after where
  tables kind _ entityId := by
    cases kind with
    | nettingCycle => rw [tableStatus, cycles, tableStatus]
    | settlementInstruction => rw [tableStatus, instructions, tableStatus]
    | defaultEvent => rw [tableStatus, events, tableStatus]
  transitions := continued_of_eq transitions
  numbered row member := ⟨row, instructions ▸ member, rfl⟩
  uuids := uuids

instance : Std.Refl (Leaves types) := ⟨fun _ => leaves_of_same rfl rfl rfl rfl le_rfl⟩

instance : IsTrans Database (Leaves types) where
  trans _ _ _ first second :=
    ⟨fun kind left entityId =>
        (second.tables kind left entityId).trans (first.tables kind left entityId),
      first.transitions.trans second.transitions, fun row member => by
        obtain ⟨middle, inside, same⟩ := second.numbered row member
        obtain ⟨old, present, same'⟩ := first.numbered middle inside
        exact ⟨old, present, same'.trans same⟩,
      first.uuids.trans second.uuids⟩

/-- Code that leaves the kinds of other types alone. -/
abbrev Leaving {α : Type} (types : List StateEntityType) (code : Sql α) : Prop :=
  Transaction.Respects (Leaves types) code

open Transaction

theorem leaving_uuid4 : Leaving types uuid4 := by
  intro db value after ran
  cases ran
  exact leaves_of_same rfl rfl rfl rfl (Nat.le_succ _)

theorem leaving_castNumeric (x : ℚ) : Leaving types (castNumeric backend x) := by
  intro db value after ran
  obtain ⟨-, rfl⟩ := castNumeric_eq_ok.mp ran
  exact refl db

theorem leaving_requireMember (memberId : Uuid) (constraint : String) :
    Leaving types (requireMember memberId constraint) :=
  respects_bind respects_read fun _ => respects_require _ _

theorem leaving_insertJournal (journalId : Uuid) (journalType : JournalType)
    (referenceType : String) (referenceId : Option Uuid) :
    Leaving types (insertJournal backend journalId journalType referenceType referenceId) := by
  intro db value after ran
  obtain ⟨-, rfl⟩ := insertJournal_eq_ok.mp ran
  exact leaves_of_same rfl rfl rfl rfl le_rfl

theorem leaving_insertJournalEntry (journalId accountId : Uuid) (debit credit : ℚ) :
    Leaving types (insertJournalEntry backend journalId accountId debit credit) := by
  intro db value after ran
  obtain ⟨storedDebit, storedCredit, -, -, -, -, -, rfl⟩ := insertJournalEntry_eq_ok.mp ran
  exact leaves_of_same rfl rfl rfl rfl le_rfl

theorem leaving_insertOutboxEvent (aggregateType : String) (aggregateId : Uuid)
    (eventType topic : String) (payload : Payload) (traceId : Option Uuid) :
    Leaving types
      (insertOutboxEvent aggregateType aggregateId eventType topic payload traceId) := by
  intro db value after ran
  cases ran
  exact leaves_of_same rfl rfl rfl rfl (Nat.le_add_right db.nextUuid 2)

theorem leaving_whenFound {α : Type} (row : Option α) {body : α → Sql Unit}
    (leaving : ∀ value, Leaving types (body value)) : Leaving types (whenFound row body) := by
  cases row with
  | some value => exact leaving value
  | none => exact respects_pure ()

theorem leaving_createWaterfallJournal (eventId memberId : Uuid) (amount : ℚ)
    (sourceType : AccountType) :
    Leaving types
      (Waterfall.createWaterfallJournal backend eventId memberId amount sourceType) :=
  respects_bind respects_read fun _ => respects_bind leaving_uuid4 fun _ =>
    respects_bind (leaving_insertJournal ..) fun _ =>
      respects_bind (leaving_whenFound _ fun _ => leaving_insertJournalEntry ..) fun _ =>
        respects_bind (leaving_whenFound _ fun _ => leaving_insertJournalEntry ..) fun _ =>
          respects_bind (leaving_insertOutboxEvent ..) fun _ => respects_pure _

theorem leaving_recordStep (eventId : Uuid) (stepOrder : ℕ) (stepType : StepType)
    (available applied remaining : ℚ) (journalId : Option Uuid) :
    Leaving types (Waterfall.recordStep backend eventId stepOrder stepType available applied
      remaining journalId) :=
  respects_bind leaving_uuid4 fun _ => respects_bind (leaving_castNumeric _) fun _ =>
    respects_bind (leaving_castNumeric _) fun _ => respects_bind (leaving_castNumeric _) fun _ =>
      respects_bind (respects_require _ _) fun _ =>
        respects_bind (respects_write fun _ => leaves_of_same rfl rfl rfl rfl le_rfl) fun _ =>
          respects_pure _

theorem leaving_drawOn (eventId : Uuid) (source : Option Uuid) (sourceType : AccountType)
    (available remaining : ℚ) (stepOrder : ℕ) (stepType : StepType) :
    Leaving types (Waterfall.drawOn backend eventId source sourceType available remaining
      stepOrder stepType) := by
  refine respects_bind ?_ fun _ => respects_bind (leaving_recordStep ..) fun _ => respects_pure _
  unfold Waterfall.journalPositive
  split
  · refine respects_ite ?_ (respects_pure _)
    rw [map_eq_pure_bind]
    exact respects_bind (leaving_createWaterfallJournal ..) fun _ => respects_pure _
  · exact respects_pure _

theorem leaving_spreadOver (eventId : Uuid) (sourceType : AccountType)
    (rows : List (Uuid × ℚ)) (total remaining : ℚ) (cap : ℚ → ℚ) (stepOrder : ℕ)
    (stepType : StepType) :
    Leaving types (Waterfall.spreadOver backend eventId sourceType rows total remaining cap
      stepOrder stepType) := by
  have one : ∀ totalApplied survivor, Leaving types
      (Waterfall.collectFrom backend eventId sourceType total remaining cap totalApplied
        survivor) := fun _ _ =>
    respects_ite (respects_pure _) (respects_ite
      (respects_bind (leaving_createWaterfallJournal ..) fun _ => respects_pure _)
      (respects_pure _))
  exact respects_bind (respects_ite (respects_foldlM one _ _) (respects_pure _)) fun _ =>
    respects_bind (leaving_recordStep ..) fun _ => respects_pure _

theorem leaving_updateEventStatus (eventId : Uuid) (status : DefaultEventStatus)
    (trace : TraceContext) :
    Leaving [.defaultEvent] (Waterfall.updateEventStatus eventId status trace) :=
  respects_write fun _ => ⟨fun kind _ _ => by cases kind <;> rfl, continued_append (by simp),
    fun row member => ⟨row, member, rfl⟩, le_rfl⟩

theorem leaving_continueWith {step : ℚ → Sql (ℚ × Waterfall.StepRecord)} {closing : Sql Unit}
    (steps : ∀ loss, Leaving types (step loss)) (closes : Leaving types closing)
    (progress : ℚ × List Waterfall.StepRecord) :
    Leaving types (Waterfall.continueWith step closing progress) :=
  respects_ite (respects_bind (steps _) fun _ => respects_bind closes fun _ => respects_pure _)
    (respects_pure _)

theorem leaving_runSteps (eventId memberId : Uuid) (totalExposure : ℚ) (trace : TraceContext) :
    Leaving [.defaultEvent]
      (Waterfall.runSteps backend eventId memberId totalExposure trace) := by
  have told := fun status => leaving_updateEventStatus eventId status trace
  have margin : Leaving [.defaultEvent]
      (Waterfall.stepDefaulterMargin backend eventId memberId totalExposure 1) :=
    respects_bind respects_read fun _ => leaving_drawOn ..
  have fund : ∀ loss, Leaving [.defaultEvent]
      (Waterfall.stepDefaulterDefaultFund backend eventId memberId loss 2) := fun _ =>
    respects_bind respects_read fun _ => leaving_drawOn ..
  have equity : ∀ loss, Leaving [.defaultEvent]
      (Waterfall.stepCcpEquity backend eventId loss 3) := fun _ =>
    respects_bind respects_read fun _ => leaving_drawOn ..
  have funds : ∀ loss, Leaving [.defaultEvent]
      (Waterfall.stepSurvivingDefaultFund backend eventId memberId loss 4) := fun _ =>
    respects_bind respects_read fun _ => leaving_spreadOver ..
  have limits : ∀ loss, Leaving [.defaultEvent]
      (Waterfall.stepLossAllocation backend eventId memberId loss 5) := fun _ =>
    respects_bind respects_read fun _ => leaving_spreadOver ..
  exact respects_bind margin fun _ => respects_bind (told _) fun _ =>
    respects_bind (leaving_continueWith fund (told _) _) fun _ =>
      respects_bind (leaving_continueWith equity (told _) _) fun _ =>
        respects_bind (leaving_continueWith funds (told _) _) fun _ =>
          leaving_continueWith limits (respects_pure ()) _

/-- A write to the default events and the members. -/
theorem leaves_defaultEvent {db after : Database} (cycles : after.nettingCycles = db.nettingCycles)
    (instructions : after.settlementInstructions = db.settlementInstructions)
    (transitions : after.stateTransitions = db.stateTransitions)
    (uuids : after.nextUuid = db.nextUuid) : Leaves [.defaultEvent] db after where
  tables kind left entityId := by
    cases kind with
    | nettingCycle => rw [tableStatus, cycles, tableStatus]
    | settlementInstruction => rw [tableStatus, instructions, tableStatus]
    | defaultEvent => simp [Kind.entityType] at left
  transitions := continued_of_eq transitions
  numbered row member := ⟨row, instructions ▸ member, rfl⟩
  uuids := uuids.ge

theorem leaving_executeWaterfall (memberId : Uuid) (triggerReason : Text) (totalExposure : ℚ)
    (trace : Option TraceContext) :
    Leaving [.defaultEvent]
      (Waterfall.executeWaterfall backend memberId triggerReason totalExposure trace) := by
  have traced : Leaving [.defaultEvent] (traceOrSystem trace "liquidation-engine") := by
    cases trace with
    | some trace => exact respects_pure trace
    | none => exact respects_bind leaving_uuid4 fun _ => respects_pure _
  have declares : ∀ eventId trace, Leaving [.defaultEvent] (Waterfall.declareDefault backend
      eventId memberId triggerReason totalExposure trace) := fun _ _ =>
    respects_bind (leaving_requireMember ..) fun _ => respects_bind (leaving_castNumeric _)
      fun _ => respects_bind (respects_require _ _) fun _ =>
        respects_bind (respects_write fun _ => leaves_defaultEvent rfl rfl rfl rfl) fun _ =>
          respects_bind (respects_write fun _ => leaves_defaultEvent rfl rfl rfl rfl) fun _ =>
            respects_bind (leaving_insertOutboxEvent ..) fun _ => respects_pure _
  have resolves : ∀ eventId finalStatus remaining trace, Leaving [.defaultEvent]
      (Waterfall.resolveDefault backend eventId finalStatus remaining trace) := fun _ _ _ _ =>
    respects_bind (respects_require _ _) fun _ =>
      respects_bind (respects_write fun _ => leaves_defaultEvent rfl rfl rfl rfl) fun _ =>
        respects_bind (leaving_insertOutboxEvent ..) fun _ => respects_pure _
  exact respects_bind traced fun _ => respects_bind leaving_uuid4 fun _ =>
    respects_bind (declares _ _) fun _ => respects_bind (leaving_runSteps ..) fun _ =>
      respects_bind (resolves _ _ _ _) fun _ => respects_pure _

end Leaves

/-! ## Runs -/

section Runs

variable {kind : Kind} {entityId : Uuid}

theorem accountsFound_marked {mark : Option ProcessedEvent} {db : Database}
    {instruction : SettlementInstruction} :
    AccountsFound (markedBy mark db) instruction ↔ AccountsFound db instruction := by
  cases mark <;> exact Iff.rfl

theorem told_step {audit next : Audit} {label : AuditLabel} (told : Told kind entityId audit)
    (spares : Spares kind entityId audit label) (step : AuditStep backend audit label next) :
    Told kind entityId next := by
  cases step with
  | read pending scripted =>
      obtain ⟨inside, -, -⟩ := mem_of_pendingInstruction pending
      have opened := And.intro (told.instructions _ inside) (logs_of_script scripted)
      exact { told with
        running := List.forall_mem_append.mpr
          ⟨told.running, List.forall_mem_singleton.mpr opened⟩ }
  | @commit db after log front back instruction code rest start mark later ran accepted =>
      have call := told.running ⟨instruction, .commit code :: rest⟩ (by simp)
      have known : instruction.id < (markedBy mark db).nextUuid := by
        cases mark <;> exact call.1
      obtain ⟨steps, payment, writes, single⟩ := call.2 code (by simp) ran
      have spared : instruction.id = entityId → kind = .settlementInstruction →
          ∃ step, steps = [step] := by
        intro own same
        rcases single with one | ⟨cash, found⟩
        · exact one
        · exact absurd (accountsFound_marked.mp found)
            (spares same ⟨instruction, .commit code :: rest⟩ (by simp) own cash)
      obtain ⟨added, logging⟩ := logging_of_writes writes known spared
      have others : ∀ call ∈ front ++ ⟨instruction, rest⟩ :: back,
          call.instruction.id < db.nextUuid ∧
            ∀ code, .commit code ∈ call.actions → Logs call.instruction code :=
        forall_replaced told.running
          ⟨call.1, fun code member => call.2 code (List.mem_cons_of_mem _ member)⟩
      have before : Told kind entityId ⟨db, log, []⟩ := { told with running := by simp }
      exact before.advance logging.of_marked later others
  | @submit db log front back instruction signedTx rest =>
      have call := told.running ⟨instruction, .submit signedTx :: rest⟩ (by simp)
      exact { told with
        running := forall_replaced told.running
          ⟨call.1, fun code member => call.2 code (List.mem_cons_of_mem _ member)⟩ }
  | stop => exact { told with running := forall_removed told.running }
  | net mark later ran accepted =>
      obtain ⟨added, logging⟩ := logging_runNettingCycle entityId spares ran
      exact told.advance logging.of_marked later told.running
  | default mark later ran accepted =>
      have left : kind.entityType ∉ [StateEntityType.defaultEvent] := by
        cases kind with
        | defaultEvent => exact absurd rfl spares
        | nettingCycle => decide
        | settlementInstruction => decide
      obtain ⟨added, logging⟩ :=
        logging_of_leaves (leaving_executeWaterfall _ _ _ _ ran) left (by decide)
      exact told.advance logging.of_marked later told.running
  | elsewhere later leaves =>
      have left : kind.entityType ∉
          [StateEntityType.trade, .novatedTrade, .marginCall] := by
        cases kind <;> decide
      obtain ⟨added, logging⟩ := logging_of_leaves leaves left (by decide)
      exact told.advance logging later told.running

/-- A database whose transitions are all to come. -/
structure Unlogged (audit : Audit) : Prop where
  log : audit.log = []
  transitions : audit.committed.stateTransitions = []
  running : audit.running = []
  instructions :
    ∀ row ∈ audit.committed.settlementInstructions, row.id < audit.committed.nextUuid

/-- In a run that spares an entity, whatever the view shows of it is its status. -/
theorem tells_of_run {first last : Audit} (unlogged : Unlogged first)
    (run : Run (AuditStep backend) (Spares kind entityId) first last) :
    Tells last.log last.committed kind entityId := by
  have initially : Told kind entityId first :=
    { rows := by rw [unlogged.log, unlogged.transitions]; rfl
      instructions := unlogged.instructions
      running := by simp [unlogged.running]
      logged := by simp [unlogged.log]
      kinds := by simp [unlogged.log]
      tells := fun _ => by simp [Tells, unlogged.log, currentStatus, logOf, latest] }
  have preserved : ∀ before label after, Told kind entityId before →
      Spares kind entityId before label → AuditStep backend before label after →
        Told kind entityId after := fun _ _ _ => told_step
  have told := run.invariant preserved initially
  by_cases same : kind = .settlementInstruction
  · exact told.tells same
  · have none : currentStatus last.log kind entityId = [] :=
      currentStatus_of_unlogged fun row member own => told.kinds same row member own.1
    intro shown member
    rw [none] at member
    cases member

end Runs

/-- What a transaction leaves. -/
def afterCode (code : Sql Unit) (db : Database) : Database := (code db).toOption.elim db Prod.snd

/-- The acts of a settlement that nothing interrupts, its transactions starting one after the
other. -/
def performed (instruction : SettlementInstruction) : List Action → Timestamp → Audit → Audit
  | [], _, audit => audit
  | .submit _ :: rest, start, audit =>
      performed instruction rest start { audit with running := [⟨instruction, rest⟩] }
  | .commit code :: rest, start, audit =>
      performed instruction rest (start + 1)
        (audit.advance (afterCode code audit.committed) start [⟨instruction, rest⟩])

/-- No transaction of the settlement raises or is rejected. -/
def completes (backend : Backend) : List Action → Database → Bool
  | [], _ => true
  | .submit _ :: rest, db => completes backend rest db
  | .commit code :: rest, db =>
      (code db).toOption.isSome &&
        ((server backend).deferred db (afterCode code db)).toOption.isSome &&
          completes backend rest (afterCode code db)

theorem run_performed {allowed : Audit → AuditLabel → Prop}
    {instruction : SettlementInstruction}
    (permitted : ∀ db log rest, allowed ⟨db, log, [⟨instruction, rest⟩]⟩ (.act 0))
    {actions : List Action} {start : Timestamp} {db : Database} {log : Log}
    (later : ∀ row ∈ log, row.2 < start) (complete : completes backend actions db = true) :
    Run (AuditStep backend) allowed ⟨db, log, [⟨instruction, actions⟩]⟩
      (performed instruction actions start ⟨db, log, [⟨instruction, actions⟩]⟩) := by
  induction actions generalizing db log start with
  | nil => exact .refl _
  | cons action rest induction =>
      cases action with
      | submit signedTx =>
          have taken : AuditStep backend
              ⟨db, log, [] ++ ⟨instruction, .submit signedTx :: rest⟩ :: []⟩ (.act 0)
              ⟨db, log, [] ++ ⟨instruction, rest⟩ :: []⟩ := .submit
          exact (Run.snoc (.refl _) (permitted _ _ _) taken).trans (induction later complete)
      | commit code =>
          obtain ⟨⟨returns, accepts⟩, complete⟩ : ((code db).toOption.isSome = true ∧
              ((server backend).deferred db (afterCode code db)).toOption.isSome = true) ∧
                completes backend rest (afterCode code db) = true := by
            simpa [completes] using complete
          obtain ⟨⟨⟩, ran⟩ := ok_of_isSome db returns
          have accepted : (server backend).deferred db (afterCode code db) = .ok () := by
            obtain ⟨⟨⟩, passed⟩ := Option.isSome_iff_exists.mp accepts
            exact accepted_of_toOption passed
          have taken : AuditStep backend
              ⟨db, log, [] ++ ⟨instruction, .commit code :: rest⟩ :: []⟩ (.act 0)
              (Audit.advance ⟨db, log, []⟩ (afterCode code db) start
                ([] ++ ⟨instruction, rest⟩ :: [])) :=
            .commit none later ran accepted
          have later' : ∀ row ∈ log ++ inserted db (afterCode code db) start,
              row.2 < start + 1 := by
            intro row member
            rcases List.mem_append.mp member with old | new
            · exact (later row old).trans (Nat.lt_succ_self start)
            · obtain ⟨transition, -, rfl⟩ := List.mem_map.mp new
              exact Nat.lt_succ_self start
          exact (Run.snoc (.refl _) (permitted _ _ _) taken).trans (induction later' complete)

/-- The acts of the transfer of `dvpHouse`. -/
def dvpActions : List Action :=
  (script decimalBackend (fun _ => some (chainReporting .confirmed 2)) echoSigner systemTrace
    dvpRow dvpInstrument).getD []

/-- The transfer of `dvpHouse` logs four transitions and is shown as what it is. -/
theorem tells_of_run_dvpHouse :
    ∃ last, Run (AuditStep decimalBackend) (Spares .settlementInstruction 5) ⟨dvpHouse, [], []⟩
        last ∧
      last.log.length = 4 ∧
      currentStatus last.log .settlementInstruction 5 = [.settlementInstruction .confirmed] ∧
      Tells last.log last.committed .settlementInstruction 5 := by
  have complete : completes decimalBackend dvpActions dvpHouse = true := by decide +kernel
  have read : AuditStep decimalBackend ⟨dvpHouse, [], []⟩
      (.read 5 (fun _ => some (chainReporting .confirmed 2)) echoSigner systemTrace)
      ⟨dvpHouse, [], [⟨dvpRow, dvpActions⟩]⟩ := .read rfl rfl
  have started : Run (AuditStep decimalBackend) (Spares .settlementInstruction 5)
      ⟨dvpHouse, [], []⟩ ⟨dvpHouse, [], [⟨dvpRow, dvpActions⟩]⟩ :=
    .snoc (.refl _) (by exact trivial) read
  have permitted : ∀ db log rest, Spares .settlementInstruction 5 ⟨db, log, [⟨dvpRow, rest⟩]⟩
      (.act 0) := by
    intro db log rest _ call first _ cash
    have call_eq : ⟨dvpRow, rest⟩ = call := by simpa using first
    rw [← call_eq] at cash
    cases cash
  have run : Run (AuditStep decimalBackend) (Spares .settlementInstruction 5) ⟨dvpHouse, [], []⟩
      (performed dvpRow dvpActions 1 ⟨dvpHouse, [], [⟨dvpRow, dvpActions⟩]⟩) :=
    started.trans (run_performed permitted (by simp) complete)
  have unlogged : Unlogged ⟨dvpHouse, [], []⟩ := ⟨rfl, rfl, rfl, by decide⟩
  exact ⟨_, run, by decide +kernel, by decide +kernel, tells_of_run unlogged run⟩

/-- A house without trades. -/
def emptyHouse : Database :=
  Database.opening [⟨0, ccpLei, .active, 0⟩] [] [] 10 Database.nodup_ccp
    Database.nodup_noAccountIds Database.nodup_noAccountKeys

/-- The transaction of a netting cycle of `emptyHouse`. -/
def cycleOutcome : Except Failure (Netting.CycleResult × Database) :=
  Netting.runNettingCycle decimalBackend .manual 0 systemTrace emptyHouse

/-- A netting cycle logs `calculating` and `confirmed` at the same time. -/
theorem not_tells_emptyHouse :
    ¬∀ (kind : Kind) (entityId : Uuid) (first last : Audit), Unlogged first →
      Run (AuditStep decimalBackend) unrestricted first last →
        Tells last.log last.committed kind entityId := by
  intro claim
  have returned : cycleOutcome.toOption.isSome = true := by decide +kernel
  obtain ⟨result, ran⟩ := ok_of_isSome emptyHouse returned
  have accepted : (server decimalBackend).deferred emptyHouse
      (cycleOutcome.toOption.elim emptyHouse Prod.snd) = .ok () :=
    accepted_of_toOption (by decide +kernel)
  have step : AuditStep decimalBackend ⟨emptyHouse, [], []⟩ (.net .manual 0 systemTrace)
      (Audit.advance ⟨emptyHouse, [], []⟩ (cycleOutcome.toOption.elim emptyHouse Prod.snd) 1 []) :=
    .net none (by simp) ran accepted
  have unlogged : Unlogged ⟨emptyHouse, [], []⟩ := ⟨rfl, rfl, rfl, by simp [emptyHouse,
    Database.opening]⟩
  have told := claim .nettingCycle 10 _ _ unlogged (.snoc (.refl _) trivial step)
  exact absurd told (by decide +kernel)

end AuditView

end ClearingHouse
