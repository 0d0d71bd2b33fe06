import ClearingHouse.Idempotency
import ClearingHouse.Ledger.Growth
import ClearingHouse.Library.Deduplication
import ClearingHouse.Settlement.Payments

/-!
# Deliveries to the settlement engine

Any number of instances of the engine handle the messages of `settlement.instruction.created`
events.  A handler inserts the row of `process_if_new` in the transaction that its first commit
closes.  It can raise or be killed anywhere; an exception is swallowed and the offset committed all
the same.
-/

namespace ClearingHouse

namespace Settlement

open StepSystem Transactions Deduplication

/-- The message of a `settlement.instruction.created` event. -/
structure Message where
  eventId : Uuid
  instructionId : Uuid
  deriving DecidableEq, Repr

/-- The row that `process_if_new` inserts for a message. -/
def Message.mark (message : Message) : ProcessedEvent :=
  ⟨"settlement-engine", [.uuid message.eventId]⟩

/-- How far a handler has come.  Its mark is inserted but not committed while it is `marked` or
`settling true`. -/
inductive Stage
  | marked
  | settling (opened : Bool) (actions : List Action)
  | ended

/-- A handler of a delivery. -/
structure Handler where
  message : Message
  stage : Stage

/-- The worker that a handler is until it has ended. -/
def Handler.worker (handler : Handler) : Option (Worker ProcessedEvent) :=
  match handler.stage with
  | .marked => some ⟨handler.message.mark, true⟩
  | .settling opened _ => some ⟨handler.message.mark, opened⟩
  | .ended => none

/-- The statements of a transaction, after the insertion of the mark if that is still open. -/
def handling (opened : Bool) (message : Message) (code : Sql Unit) : Sql Unit :=
  if opened then ifNew "settlement-engine" [.uuid message.eventId] code else code

/-- The committed database, the messages of all events, their copies that are still to be delivered,
the handlers, and the instructions for which `submit_signed_tx` has been called. -/
structure Engine where
  committed : Database
  announced : List Message
  outstanding : List Message
  handlers : List Handler
  submitted : List Uuid

/-- The workers of an engine. -/
def Engine.workers (engine : Engine) : List (Worker ProcessedEvent) :=
  engine.handlers.filterMap Handler.worker

/-- What happens next.  A handler is numbered by its position. -/
inductive EngineLabel
  | deliver (message : Message)
  | read (position : ℕ) (chainRegistry : String → Option ChainAdapter)
      (sign : Bytes → String → Except Text Bytes) (trace : TraceContext)
  | act (position : ℕ)
  | raise (position : ℕ)
  | acknowledge (position : ℕ)
  | crash (position : ℕ)
  | publish (message : Message)
  | elsewhere (new : List SettlementInstruction) (added : List Message)

/-- What other services commit: new rows with one message each. -/
structure Announces (backend : Backend) (engine : Engine) (after : Database)
    (new : List SettlementInstruction) (added : List Message) : Prop
    extends Undisturbed backend engine.committed after new where
  instructions : added.map Message.instructionId = new.map SettlementInstruction.id
  events : ((engine.announced ++ added).map Message.eventId).Nodup
  unmarked : ∀ message ∈ added, message.mark ∉ engine.committed.processedEvents
  foreign : ∀ event ∈ after.processedEvents, event.serviceName = "settlement-engine" →
    event ∈ engine.committed.processedEvents

/-- One step of `consume_loop` in some instance, or of its surroundings. -/
inductive EngineStep (backend : Backend) : Engine → EngineLabel → Engine → Prop
  /-- `process_if_new` inserts the mark, once nobody else has it open. -/
  | deliver {engine : Engine} {message : Message} {middle : Database}
      (outstanding : message ∈ engine.outstanding)
      (free : ∀ worker ∈ engine.workers, worker.opened = true → worker.key ≠ message.mark)
      (isNew : processIfNew "settlement-engine" [.uuid message.eventId] engine.committed =
        .ok (true, middle)) :
      EngineStep backend engine (.deliver message)
        { engine with handlers := engine.handlers ++ [⟨message, .marked⟩] }
  /-- `process_if_new` finds the mark. -/
  | duplicate {engine : Engine} {message : Message} {middle : Database}
      (outstanding : message ∈ engine.outstanding)
      (free : ∀ worker ∈ engine.workers, worker.opened = true → worker.key ≠ message.mark)
      (isOld : processIfNew "settlement-engine" [.uuid message.eventId] engine.committed =
        .ok (false, middle)) :
      EngineStep backend engine (.deliver message)
        { engine with handlers := engine.handlers ++ [⟨message, .ended⟩] }
  /-- `settle_instruction` reads a pending row. -/
  | read {engine : Engine} (front back : List Handler) {message : Message}
      {chainRegistry : String → Option ChainAdapter} {sign : Bytes → String → Except Text Bytes}
      {trace : TraceContext} {instruction : SettlementInstruction} {instrument : Instrument}
      {actions : List Action}
      (handlers : engine.handlers = front ++ ⟨message, .marked⟩ :: back)
      (pending : pendingInstruction engine.committed message.instructionId =
        some (instruction, instrument))
      (scripted : script backend chainRegistry sign trace instruction instrument = some actions) :
      EngineStep backend engine (.read front.length chainRegistry sign trace)
        { engine with handlers := front ++ ⟨message, .settling true actions⟩ :: back }
  /-- No adapter is registered for the chain of the row, which raises. -/
  | unregistered {engine : Engine} (front back : List Handler) {message : Message}
      {chainRegistry : String → Option ChainAdapter} {sign : Bytes → String → Except Text Bytes}
      {trace : TraceContext} {instruction : SettlementInstruction} {instrument : Instrument}
      (handlers : engine.handlers = front ++ ⟨message, .marked⟩ :: back)
      (pending : pendingInstruction engine.committed message.instructionId =
        some (instruction, instrument))
      (raised : script backend chainRegistry sign trace instruction instrument = none) :
      EngineStep backend engine (.read front.length chainRegistry sign trace)
        { engine with handlers := front ++ ⟨message, .ended⟩ :: back }
  /-- There is no pending row, and nothing but the mark is left to commit. -/
  | skip {engine : Engine} (front back : List Handler) {message : Message}
      {chainRegistry : String → Option ChainAdapter} {sign : Bytes → String → Except Text Bytes}
      {trace : TraceContext}
      (handlers : engine.handlers = front ++ ⟨message, .marked⟩ :: back)
      (absent : pendingInstruction engine.committed message.instructionId = none) :
      EngineStep backend engine (.read front.length chainRegistry sign trace)
        { engine with
          handlers := front ++ ⟨message, .settling true [.commit (pure ())]⟩ :: back }
  | commit {engine : Engine} (front back : List Handler) {message : Message} {opened : Bool}
      {code : Sql Unit} {rest : List Action} {after : Database}
      (handlers : engine.handlers =
        front ++ ⟨message, .settling opened (.commit code :: rest)⟩ :: back)
      (ran : handling opened message code engine.committed = .ok ((), after))
      (accepted : (server backend).deferred engine.committed after = .ok ()) :
      EngineStep backend engine (.act front.length)
        { engine with
          committed := after
          handlers := front ++ ⟨message, .settling false rest⟩ :: back }
  | submit {engine : Engine} (front back : List Handler) {message : Message} {opened : Bool}
      {signedTx : Bytes} {rest : List Action}
      (handlers : engine.handlers =
        front ++ ⟨message, .settling opened (.submit signedTx :: rest)⟩ :: back) :
      EngineStep backend engine (.act front.length)
        { engine with
          handlers := front ++ ⟨message, .settling opened rest⟩ :: back
          submitted := engine.submitted ++ [message.instructionId] }
  /-- Nothing is left to commit. -/
  | finish {engine : Engine} (front back : List Handler) {message : Message}
      (handlers : engine.handlers = front ++ ⟨message, .settling false []⟩ :: back) :
      EngineStep backend engine (.act front.length)
        { engine with handlers := front ++ ⟨message, .ended⟩ :: back }
  /-- An exception closes the connection, and its open transaction is rolled back. -/
  | raise {engine : Engine} (front back : List Handler) {handler : Handler}
      (handlers : engine.handlers = front ++ handler :: back) :
      EngineStep backend engine (.raise front.length)
        { engine with handlers := front ++ ⟨handler.message, .ended⟩ :: back }
  /-- `consumer.commit`, whatever has happened. -/
  | acknowledge {engine : Engine} (front back : List Handler) {message : Message}
      (handlers : engine.handlers = front ++ ⟨message, .ended⟩ :: back) :
      EngineStep backend engine (.acknowledge front.length)
        { engine with
          outstanding := engine.outstanding.erase message
          handlers := front ++ back }
  | crash {engine : Engine} (front back : List Handler) {handler : Handler}
      (handlers : engine.handlers = front ++ handler :: back) :
      EngineStep backend engine (.crash front.length) { engine with handlers := front ++ back }
  /-- The publisher sends an event, possibly again. -/
  | publish {engine : Engine} {message : Message} (announced : message ∈ engine.announced) :
      EngineStep backend engine (.publish message)
        { engine with outstanding := engine.outstanding ++ [message] }
  | elsewhere {engine : Engine} {after : Database} {new : List SettlementInstruction}
      {added : List Message} (announces : Announces backend engine after new added) :
      EngineStep backend engine (.elsewhere new added)
        { engine with
          committed := after
          announced := engine.announced ++ added
          outstanding := engine.outstanding ++ added }

/-- An engine before the first delivery, with one message for each row. -/
structure Opening (backend : Backend) (engine : Engine) : Prop where
  unsettled : Unsettled backend engine.committed
  idle : engine.handlers = []
  silent : engine.submitted = []
  instructions : engine.announced.map Message.instructionId =
    engine.committed.settlementInstructions.map SettlementInstruction.id
  events : (engine.announced.map Message.eventId).Nodup
  unmarked : ∀ message ∈ engine.announced, message.mark ∉ engine.committed.processedEvents
  outstanding : engine.outstanding = engine.announced

/-- The action calls `submit_signed_tx`. -/
def Action.submits : Action → Bool
  | .submit _ => true
  | .commit _ => false

/-- Every transaction of a list of actions grows the ledger. -/
def AllGrowing (backend : Backend) (actions : List Action) : Prop :=
  ∀ code, .commit code ∈ actions → Growing backend code

variable {backend : Backend} {instruction : SettlementInstruction} {adapter : ChainAdapter}
  {trace : TraceContext}

theorem allGrowing_nil : AllGrowing backend [] := by simp [AllGrowing]

theorem AllGrowing.commit {code : Sql Unit} {rest : List Action} (head : Growing backend code)
    (tail : AllGrowing backend rest) : AllGrowing backend (.commit code :: rest) := by
  intro other member
  rcases List.mem_cons.mp member with same | inside
  · cases same
    exact head
  · exact tail other inside

theorem AllGrowing.submit {signedTx : Bytes} {rest : List Action}
    (tail : AllGrowing backend rest) : AllGrowing backend (.submit signedTx :: rest) := by
  intro other member
  rcases List.mem_cons.mp member with same | inside
  · cases same
  · exact tail other inside

theorem allGrowing_failInstruction (fromStatus : InstructionStatus) (message : Text) :
    AllGrowing backend [.commit (failInstruction instruction.id fromStatus message trace)] :=
  .commit (respected_grows.fail _ _ _ _) allGrowing_nil

theorem allGrowing_concluding (txHash : String) :
    AllGrowing backend (concluding backend instruction adapter trace txHash) := by
  rw [concluding]
  cases polled adapter txHash with
  | error message => exact allGrowing_failInstruction _ message
  | ok txResult =>
      dsimp only
      split
      · exact .commit (respected_grows.finalize _ _ _ _) allGrowing_nil
      · exact allGrowing_failInstruction _ _

theorem growing_broadcastRows (txHash : String) :
    Growing backend (broadcastRows instruction txHash trace) :=
  Transaction.respects_bind (growing_updateInstruction _ _) fun _ =>
    respected_grows.advance _ _ _ _ _

theorem allGrowing_transferring (contractAddress : Option String) (chainId : String)
    (sign : Bytes → String → Except Text Bytes) :
    AllGrowing backend
      (transferring backend instruction adapter trace contractAddress chainId sign) := by
  rw [transferring]
  cases signedTransaction instruction adapter contractAddress chainId sign with
  | error message => exact allGrowing_failInstruction _ message
  | ok signedTx =>
      refine .commit (respected_grows.advance _ _ _ _ _) (.submit ?_)
      cases adapter.submitSignedTx signedTx with
      | error message => exact allGrowing_failInstruction _ message
      | ok result => exact .commit (growing_broadcastRows _) (allGrowing_concluding _)

theorem countP_concluding (txHash : String) :
    (concluding backend instruction adapter trace txHash).countP Action.submits = 0 := by
  rw [concluding]
  cases polled adapter txHash with
  | error message => rfl
  | ok txResult =>
      dsimp only
      split <;> rfl

/-- A transfer is submitted at most once. -/
theorem countP_transferring (contractAddress : Option String) (chainId : String)
    (sign : Bytes → String → Except Text Bytes) :
    (transferring backend instruction adapter trace contractAddress chainId sign).countP
      Action.submits ≤ 1 := by
  rw [transferring]
  cases signedTransaction instruction adapter contractAddress chainId sign with
  | error message => exact Nat.zero_le 1
  | ok signedTx =>
      simp only [submitting, List.countP_cons, Action.submits]
      cases adapter.submitSignedTx signedTx with
      | error message => simp [failed, Action.submits]
      | ok result => simp [Action.submits, countP_concluding]

section Script

variable {chainRegistry : String → Option ChainAdapter} {sign : Bytes → String → Except Text Bytes}
  {instrument : Instrument} {actions : List Action}

theorem allGrowing_script
    (scripted : script backend chainRegistry sign trace instruction instrument = some actions) :
    AllGrowing backend actions := by
  by_cases cash : instruction.settlementType = .cash
  · rw [script, cash] at scripted
    cases scripted
    exact .commit (Transaction.respects_bind (respected_grows.cash _ _) fun _ =>
      Transaction.respects_pure _) allGrowing_nil
  · rcases script_cases cash scripted with ⟨rfl, -⟩ | ⟨chainId, adapter, -, -, -, rfl⟩
    · exact allGrowing_failInstruction _ _
    · exact .commit (respected_grows.advance _ _ _ _ _) (allGrowing_transferring _ _ _)

/-- A script starts with a commit and submits at most once. -/
theorem script_submits
    (scripted : script backend chainRegistry sign trace instruction instrument = some actions) :
    ∃ code rest, actions = .commit code :: rest ∧ rest.countP Action.submits ≤ 1 := by
  by_cases cash : instruction.settlementType = .cash
  · rw [script, cash] at scripted
    cases scripted
    exact ⟨_, _, rfl, Nat.zero_le 1⟩
  · rcases script_cases cash scripted with ⟨rfl, -⟩ | ⟨chainId, adapter, -, -, -, rfl⟩
    · exact ⟨_, _, rfl, Nat.zero_le 1⟩
    · exact ⟨_, _, rfl, countP_transferring _ _ _⟩

end Script

/-- The state on which a handler runs the statements of a transaction. -/
def begun (opened : Bool) (message : Message) (db : Database) : Database :=
  if opened then db.marked message.mark else db

section Begun

variable (opened : Bool) (message : Message) (db : Database)

@[simp] theorem begun_rows :
    (begun opened message db).settlementInstructions = db.settlementInstructions := by
  cases opened <;> rfl

@[simp] theorem begun_instruments : (begun opened message db).instruments = db.instruments := by
  cases opened <;> rfl

@[simp] theorem settlementJournals_begun (id : Uuid) :
    settlementJournals (begun opened message db) id = settlementJournals db id := by
  cases opened <;> rfl

variable {opened message db}

theorem freshLedger_begun (fresh : FreshLedger db) : FreshLedger (begun opened message db) := by
  cases opened <;> exact ⟨fresh.entries, fresh.journals⟩

/-- A mark that is open is not committed, and inserting it is what the transaction starts with. -/
theorem handling_eq {code : Sql Unit}
    (unmarked : opened = true → message.mark ∉ db.processedEvents) :
    handling opened message code db = code (begun opened message db) := by
  cases opened with
  | false => rfl
  | true => exact ifNew_of_not_mem rfl (unmarked rfl)

theorem mem_processed_begun (event : ProcessedEvent) :
    event ∈ (begun opened message db).processedEvents ↔
      event ∈ db.processedEvents ∨ opened = true ∧ event = message.mark := by
  cases opened <;> simp [begun, Database.marked]

end Begun

/-- Acts of one handler, with no step of anyone else between them. -/
theorem engine_of_runActions {allowed : Engine → EngineLabel → Prop}
    (permitted : ∀ engine position, allowed engine (.act position)) (message : Message)
    {actions : List Action} (opened : Bool) {db after : Database}
    (announced outstanding : List Message) (submitted : List Uuid)
    (unmarked : opened = true → message.mark ∉ db.processedEvents)
    (member : after ∈ runActions backend actions (begun opened message db)) :
    ∃ rest submitted', Run (EngineStep backend) allowed
      ⟨db, announced, outstanding, [⟨message, .settling opened actions⟩], submitted⟩
      ⟨after, announced, outstanding, [⟨message, .settling false rest⟩], submitted'⟩ := by
  induction actions generalizing opened db submitted with
  | nil => cases member
  | cons action actions induction =>
      cases action with
      | submit signedTx =>
          obtain ⟨rest, submitted', run⟩ := induction opened _ unmarked member
          exact ⟨rest, submitted', (Run.snoc (.refl _) (permitted _ _)
            (.submit [] [] rfl)).trans run⟩
      | commit code =>
          cases ran : code (begun opened message db) with
          | error failure => simp [runActions, ran] at member
          | ok pair =>
              obtain ⟨⟨⟩, committed⟩ := pair
              cases checked : (server backend).deferred (begun opened message db) committed with
              | error failure => simp [runActions, ran, checked] at member
              | ok done =>
                  have accepted : (server backend).deferred db committed = .ok () := by
                    cases opened <;> exact checked
                  have first : Run (EngineStep backend) allowed
                      ⟨db, announced, outstanding,
                        [⟨message, .settling opened (.commit code :: actions)⟩], submitted⟩
                      ⟨committed, announced, outstanding, [⟨message, .settling false actions⟩],
                        submitted⟩ :=
                    .snoc (.refl _) (permitted _ _)
                      (.commit [] [] rfl ((handling_eq unmarked).trans ran) accepted)
                  have states : runActions backend (.commit code :: actions)
                      (begun opened message db) =
                        committed :: runActions backend actions committed := by
                    simp only [runActions, ran, checked]
                  rw [states] at member
                  rcases List.mem_cons.mp member with rfl | inside
                  · exact ⟨actions, submitted, first⟩
                  · obtain ⟨rest, submitted', run⟩ :=
                      induction false submitted (by simp) inside
                    exact ⟨rest, submitted', first.trans run⟩

/-- A first delivery reaches every state that a settlement of its instruction commits, with the mark
of the message in it. -/
theorem engine_of_committedBy (allowed : Engine → EngineLabel → Prop)
    (permitted : ∀ engine label, (∀ position, label ≠ .raise position) →
      (∀ position, label ≠ .crash position) → (∀ position, label ≠ .acknowledge position) →
        allowed engine label)
    (message : Message) {db after : Database} (announced : List Message)
    (announces : message ∈ announced) (unmarked : message.mark ∉ db.processedEvents)
    (chainRegistry : String → Option ChainAdapter) (sign : Bytes → String → Except Text Bytes)
    (member : after ∈ committedBy backend chainRegistry sign trace message.instructionId
      (db.marked message.mark)) :
    ∃ rest submitted, Run (EngineStep backend) allowed ⟨db, announced, announced, [], []⟩
      ⟨after, announced, announced, [⟨message, .settling false rest⟩], submitted⟩ := by
  have same : pendingInstruction (db.marked message.mark) message.instructionId =
      pendingInstruction db message.instructionId := rfl
  cases pending : pendingInstruction db message.instructionId with
  | none => simp [committedBy, same, pending] at member
  | some pair =>
      obtain ⟨instruction, instrument⟩ := pair
      cases scripted : script backend chainRegistry sign trace instruction instrument with
      | none => simp [committedBy, same, pending, scripted] at member
      | some actions =>
          simp only [committedBy, same, pending, scripted] at member
          have delivered : Run (EngineStep backend) allowed ⟨db, announced, announced, [], []⟩
              ⟨db, announced, announced, [⟨message, .marked⟩], []⟩ :=
            .snoc (.refl _) (permitted _ (.deliver message) (by simp) (by simp) (by simp))
              (.deliver announces (by simp [Engine.workers]) (processIfNew_of_not_mem rfl unmarked))
          have started : Run (EngineStep backend) allowed ⟨db, announced, announced, [], []⟩
              ⟨db, announced, announced, [⟨message, .settling true actions⟩], []⟩ :=
            .snoc delivered (permitted _ _ (by simp) (by simp) (by simp))
              (.read [] [] rfl pending scripted)
          obtain ⟨rest, submitted, run⟩ := engine_of_runActions
            (fun engine position => permitted engine (.act position) (by simp) (by simp) (by simp))
            message true announced announced [] (fun _ => unmarked) member
          exact ⟨rest, submitted, started.trans run⟩

/-- The engine of `dvpHouse`, with the message of its instruction. -/
def dvpEngine : Engine := ⟨dvpHouse, [⟨7, 5⟩], [⟨7, 5⟩], [], []⟩

theorem opening_dvpEngine : Opening decimalBackend dvpEngine where
  unsettled := unsettled_dvpHouse
  idle := rfl
  silent := rfl
  instructions := rfl
  events := by simp [dvpEngine]
  unmarked := by simp [dvpEngine, dvpHouse, Database.opening]
  outstanding := rfl

end Settlement

end ClearingHouse
