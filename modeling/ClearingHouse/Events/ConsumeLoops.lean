import ClearingHouse.Events.Compliance
import ClearingHouse.Events.Consumption
import ClearingHouse.Ledger.Reports

/-!
# Hand-written consumer loops

Five services poll their messages in a loop of their own.  Each wraps a message in one `try` block,
logs whatever is raised in it, and commits the offset behind the block; none of them files a dead
letter.  Here is what a message has come to when its offset is committed, with every connection that
fails and every process that dies in between.
-/

namespace ClearingHouse

namespace ConsumeLoops

open Consumers StepSystem Transactions
open Transactions.Session (Keeps commit execute)

/-- The services with a `consume_loop` of their own. -/
inductive Loop
  | settlementEngine
  | liquidationEngine
  | collateralManager
  | marginEngine
  | complianceMonitor
  deriving DecidableEq, Repr

/-- `SERVICE_NAME`. -/
def Loop.name : Loop → String
  | .settlementEngine => "settlement-engine"
  | .liquidationEngine => "liquidation-engine"
  | .collateralManager => "collateral-manager"
  | .marginEngine => "margin-engine"
  | .complianceMonitor => "compliance-monitor"

/-- One polled message of a loop, decoded or not, and what its handler takes from its
surroundings. -/
structure Delivery where
  loop : Loop
  message : Except Failure Payload
  surroundings : Surroundings
  chainRegistry : String → Option Settlement.ChainAdapter
  sign : Settlement.Bytes → String → Except Text Settlement.Bytes

/-- `not instruction_id`. -/
def lacksInstruction (event : Payload) : Bool :=
  ((event.get? "instruction_id").filter truthy).isNone

variable (backend : Backend)

/-- The call of `settle_instruction`, whose query compares the identifier with a `uuid` column. -/
def settleEvent (delivery : Delivery) (event : Payload) : Session Database Failure Unit := do
  let instruction ← orRaise (valueOf event "instruction_id")
  let instructionId ← asUuid backend instruction
  let _ ← Settlement.settleInstruction backend instructionId delivery.chainRegistry delivery.sign
    (fromKafkaPayload event delivery.surroundings.generated)

/-- The handler of a loop on the connection of the message; the compliance monitor has two. -/
def Delivery.handler (delivery : Delivery) (event : Payload) : Session Database Failure Unit :=
  match delivery.loop with
  | .settlementEngine => settleEvent backend delivery event
  | .liquidationEngine => Service.liquidationEngine.body backend event delivery.surroundings
  | .collateralManager => Service.collateralManager.body backend event delivery.surroundings
  | .marginEngine => Service.marginEngine.body backend event delivery.surroundings
  | .complianceMonitor => pure ()

/-- `event_id and not process_if_new(...)`, negated. -/
def isNew (name : String) (event : Payload) : Session Database Failure Bool :=
  if eventId event = [] then pure true
  else execute (server backend) (processIfNew name (eventId event))

/-- Mark, handler and commit on the connection of a message; whether the event was new. -/
def Delivery.work (delivery : Delivery) (event : Payload) : Session Database Failure Bool := do
  let new ← isNew backend delivery.loop.name event
  if new then do
    delivery.handler backend event
    commit (server backend)
    pure true
  else do
    commit (server backend)
    pure false

/-- The mark of the compliance monitor, on a connection of its own. -/
def claimEvent (event : Payload) : Session Database Failure Bool :=
  if eventId event = [] then pure true
  else do
    let new ← execute (server backend)
      (processIfNew Loop.complianceMonitor.name (eventId event))
    commit (server backend)
    pure new

/-- How the `try` block of a message ends. -/
inductive Exit
  /-- The handler returned and its effects are committed. -/
  | handled
  /-- The handler returned, and its connection is closed without a commit of what it wrote. -/
  | uncommitted
  /-- The event was processed before. -/
  | duplicate
  /-- The event names no instruction. -/
  | unaddressed
  /-- An exception, which is logged. -/
  | raised
  deriving DecidableEq, Repr

/-- What a `try` block has committed, and how it ended. -/
structure Pass where
  commits : List Database
  exit : Exit

/-- The end of a block whose session has returned. -/
def exitOf : Except Failure Bool → Exit
  | .ok true => .handled
  | .ok false => .duplicate
  | .error _ => .raised

/-- The checks of the compliance monitor, over the connection of the read-only role. -/
def monitored (event : Payload) (db : Database) : Exit :=
  match (execute (server backend) (Compliance.handleEvent backend .readonlyUser event)
      (connect db)).1 with
  | .ok [] => .handled
  | .ok _ => .uncommitted
  | .error _ => .raised

/-- The `try` block of a message, if its connections can be opened and are not lost. -/
def Delivery.pass (delivery : Delivery) (db : Database) : Pass :=
  match delivery.message with
  | .error _ => ⟨[], .raised⟩
  | .ok event =>
      if delivery.loop = .settlementEngine ∧ lacksInstruction event = true then ⟨[], .unaddressed⟩
      else if delivery.loop = .complianceMonitor then
        let claimed := claimEvent backend event (connect db)
        ⟨claimed.2.history,
          match claimed.1 with
          | .ok true => monitored backend event claimed.2.committed
          | other => exitOf other⟩
      else
        let worked := delivery.work backend event (connect db)
        ⟨worked.2.history, exitOf worked.1⟩

/-- What may go wrong with the connections of a message: they cannot be opened, or are lost after
some commits. -/
inductive Fault
  | refused
  | lost (commits : ℕ)
  deriving DecidableEq, Repr

/-- The block as the fault leaves it.  A connection that is lost behind the last commit takes
nothing with it. -/
def Pass.under (pass : Pass) : Option Fault → Pass
  | none => pass
  | some .refused => ⟨[], if pass.exit = .unaddressed then .unaddressed else .raised⟩
  | some (.lost commits) =>
      if pass.commits.length ≤ commits then pass else ⟨pass.commits.take commits, .raised⟩

/-- Whether the offset is committed, in the block or behind it: the margin engine goes on to the
next message when it meets a duplicate. -/
def commitsOffset (loop : Loop) (exit : Exit) : Bool :=
  ¬(loop = .marginEngine ∧ exit = .duplicate)

/-- The message calls for nothing in the database. -/
def Loop.idle (loop : Loop) (event : Payload) : Bool :=
  match loop with
  | .settlementEngine => lacksInstruction event
  | .liquidationEngine =>
      eventType event ≠ [.literal "margin.call.breached"] ∧
        (eventType event = [.literal "settlement.failed"] → failedMember event = none)
  | .collateralManager =>
      eventType event ≠ [.literal "collateral.deposit.requested"] ∧
        eventType event ≠ [.literal "margin.call.issued"]
  | .marginEngine => false
  | .complianceMonitor =>
      match complianceChecks event with
      | .ok [] => true
      | _ => false

/-- The row of a message in `processed_events`. -/
def Delivery.mark (delivery : Delivery) (event : Payload) : ProcessedEvent :=
  ⟨delivery.loop.name, eventId event⟩

/-- The committed database, the marks of the events whose effects are committed or that call for
none, and the messages whose offset was committed without their effects. -/
structure Progress where
  committed : Database
  settled : List ProcessedEvent
  dropped : List Delivery

/-- A block after which nothing is left to do for its message. -/
def Delivery.finishes (delivery : Delivery) (event : Payload) (left : Pass) : Bool :=
  delivery.loop.idle event ∨ left.exit = .handled

/-- The marks settled by a message that has left a state. -/
def Progress.settle (progress : Progress) (mark : ProcessedEvent) (finished : Bool)
    (after : Database) : List ProcessedEvent :=
  if finished = true ∧ mark ∈ after.processedEvents then progress.settled ++ [mark]
  else progress.settled

/-- The effects of the event were committed by an earlier delivery. -/
def Progress.knows (progress : Progress) (delivery : Delivery) (event : Payload) : Bool :=
  eventId event ≠ [] ∧ delivery.mark event ∈ progress.settled

/-- The block of a message on the committed database, as a fault leaves it. -/
def Progress.leaves (progress : Progress) (delivery : Delivery) (fault : Option Fault) : Pass :=
  (delivery.pass backend progress.committed).under fault

/-- What a block has come to before the offset of its message is committed. -/
def Progress.process (progress : Progress) (delivery : Delivery) (fault : Option Fault) :
    Progress :=
  let left := progress.leaves backend delivery fault
  let after := left.commits.getLastD progress.committed
  match delivery.message with
  | .error _ => { progress with committed := after }
  | .ok event =>
      { progress with
        committed := after
        settled := progress.settle (delivery.mark event) (delivery.finishes event left) after }

/-- The offset of the message is committed, if the loop commits it, and drops a message that is
neither finished nor known. -/
def Progress.deliver (progress : Progress) (delivery : Delivery) (fault : Option Fault) :
    Progress :=
  let left := progress.leaves backend delivery fault
  let dropped : Bool :=
    match delivery.message with
    | .error _ => true
    | .ok event =>
        commitsOffset delivery.loop left.exit = true ∧ delivery.finishes event left = false ∧
          progress.knows delivery event = false
  { progress.process backend delivery fault with
    dropped := if dropped = true then progress.dropped ++ [delivery] else progress.dropped }

/-- A row of one of the loops. -/
def Ours (mark : ProcessedEvent) : Prop := ∃ loop : Loop, mark.serviceName = loop.name

/-- What happens next.  A process dies where the fault strikes, or behind the block. -/
inductive LoopLabel
  | deliver (delivery : Delivery) (fault : Option Fault)
  | crash (delivery : Delivery) (fault : Option Fault)
  | elsewhere

/-- One iteration of a loop, its end before the offset is committed, or a commit of another service,
which marks no event for the loops.  Messages come in any order and as often as Kafka delivers
them. -/
inductive LoopStep : Progress → LoopLabel → Progress → Prop
  | deliver {progress : Progress} (delivery : Delivery) (fault : Option Fault) :
      LoopStep progress (.deliver delivery fault) (progress.deliver backend delivery fault)
  | crash {progress : Progress} (delivery : Delivery) (fault : Option Fault) :
      LoopStep progress (.crash delivery fault) (progress.process backend delivery fault)
  | elsewhere {progress : Progress} {after : Database} (journals : JournalsConfirmed after)
      (foreign : ∀ mark, Ours mark →
        (mark ∈ after.processedEvents ↔ mark ∈ progress.committed.processedEvents)) :
      LoopStep progress .elsewhere { progress with committed := after }

section Pass

variable {backend} {delivery : Delivery} {event : Payload} {db : Database}

theorem pass_of_error {failure : Failure} (undecoded : delivery.message = .error failure) :
    delivery.pass backend db = ⟨[], .raised⟩ := by
  rw [Delivery.pass, undecoded]

theorem pass_of_work (decoded : delivery.message = .ok event)
    (addressed : ¬(delivery.loop = .settlementEngine ∧ lacksInstruction event = true))
    (works : delivery.loop ≠ .complianceMonitor) :
    delivery.pass backend db =
      ⟨(delivery.work backend event (connect db)).2.history,
        exitOf (delivery.work backend event (connect db)).1⟩ := by
  simp only [Delivery.pass, decoded, addressed, works, if_false]

theorem pass_of_claim (decoded : delivery.message = .ok event)
    (monitors : delivery.loop = .complianceMonitor) :
    delivery.pass backend db =
      ⟨(claimEvent backend event (connect db)).2.history,
        match (claimEvent backend event (connect db)).1 with
        | .ok true =>
            monitored backend event (claimEvent backend event (connect db)).2.committed
        | other => exitOf other⟩ := by
  simp only [Delivery.pass, decoded, monitors, reduceCtorEq, false_and, if_false, if_true]

end Pass

/-- Marks are kept, and only allowed ones are new. -/
structure Adds (allowed : ProcessedEvent → Prop) (db after : Database) : Prop where
  kept : db.processedEvents ⊆ after.processedEvents
  new : ∀ mark ∈ after.processedEvents, mark ∈ db.processedEvents ∨ allowed mark

variable {backend} {allowed : ProcessedEvent → Prop} {db after : Database}

theorem Adds.of_same (same : after.processedEvents = db.processedEvents) :
    Adds allowed db after :=
  ⟨fun _ member => same.symm ▸ member, fun _ member => .inl (same ▸ member)⟩

instance : Std.Refl (Adds allowed) := ⟨fun _ => .of_same rfl⟩

instance : IsTrans Database (Adds allowed) where
  trans db middle after first second := by
    refine ⟨fun mark member => second.kept (first.kept member), fun mark member => ?_⟩
    rcases second.new mark member with old | new
    · exact first.new mark old
    · exact .inr new

theorem adds_of_growing {α : Type} {code : Sql α} (growing : Growing backend code) :
    Transaction.Respects (Adds allowed) code :=
  fun _ _ _ ran => .of_same (growing ran).processed

theorem adds_processIfNew {name : String} {eventId : Text} (own : allowed ⟨name, eventId⟩) :
    Transaction.Respects (Adds allowed) (processIfNew name eventId) := by
  refine respects_processIfNew fun db => ⟨fun mark member => List.mem_append_left _ member, ?_⟩
  intro mark member
  rcases List.mem_append.mp member with old | new
  · exact .inl old
  · rw [List.mem_singleton.mp new]
    exact .inr own

/-- Sessions that commit only states with allowed marks. -/
abbrev Marking {α : Type} (allowed : ProcessedEvent → Prop) (db : Database)
    (session : Session Database Failure α) : Prop :=
  Keeps (Adds allowed db) (Adds allowed) session

theorem adds_survive (old new : Database) (before : Adds allowed db old)
    (step : Adds allowed old new) (_ : (server backend).deferred old new = .ok ()) :
    Adds allowed db new :=
  IsTrans.trans _ _ _ before step

theorem marking_commit : Marking allowed db (commit (server backend)) :=
  Session.keeps_commit adds_survive

theorem marking_settleEvent (delivery : Delivery) (event : Payload) :
    Marking allowed db (settleEvent backend delivery event) := by
  have respected : Settlement.Respected backend (Adds allowed) :=
    Settlement.respected_grows.mono fun grows => .of_same grows.processed
  exact Session.keeps_bind (keeps_orRaise _) fun _ => Session.keeps_bind (keeps_asUuid _)
    fun _ => Session.keeps_bind
      (Settlement.keeps_settleInstruction respected adds_survive _ _ _ _) fun _ =>
        Session.keeps_pure ()

theorem marking_handler (delivery : Delivery) (event : Payload) :
    Marking allowed db (delivery.handler backend event) := by
  rw [Delivery.handler]
  cases delivery.loop with
  | settlementEngine => exact marking_settleEvent delivery event
  | liquidationEngine =>
      exact keeps_handleDefaultEvent fun _ _ _ =>
        adds_of_growing (Waterfall.growing_executeWaterfall _ _ _ _)
  | collateralManager =>
      exact keeps_handleCollateralEvent
        (fun _ _ _ => adds_of_growing (Collateral.growing_depositCollateral _ _ _))
        fun _ _ => adds_of_growing (Collateral.respects_transferToMargin admitsPostings_grows ..)
  | marginEngine => exact keeps_dropped (adds_of_growing (Margin.growing_recalculateMargins _ _))
  | complianceMonitor => exact Session.keeps_pure ()

/-- The mark that a message may insert. -/
def Delivery.Own (delivery : Delivery) (event : Payload) (mark : ProcessedEvent) : Prop :=
  eventId event ≠ [] ∧ mark = delivery.mark event

theorem marking_work (delivery : Delivery) (event : Payload) :
    Marking (delivery.Own event) db (delivery.work backend event) := by
  have new : Marking (delivery.Own event) db (isNew backend delivery.loop.name event) := by
    rw [isNew]
    split
    · exact Session.keeps_pure true
    · next identified =>
        exact Session.keeps_execute (adds_processIfNew ⟨identified, rfl⟩)
  apply Session.keeps_bind new
  intro isNew
  cases isNew with
  | true => exact Session.keeps_bind (marking_handler delivery event) fun _ =>
      Session.keeps_bind marking_commit fun _ => Session.keeps_pure true
  | false => exact Session.keeps_bind marking_commit fun _ => Session.keeps_pure false

theorem marking_claimEvent {delivery : Delivery} (monitors : delivery.loop = .complianceMonitor)
    (event : Payload) : Marking (delivery.Own event) db (claimEvent backend event) := by
  rw [claimEvent]
  split
  · exact Session.keeps_pure true
  · next identified =>
      have own : delivery.Own event ⟨Loop.complianceMonitor.name, eventId event⟩ :=
        ⟨identified, by rw [Delivery.mark, monitors]⟩
      exact Session.keeps_bind (Session.keeps_execute (adds_processIfNew own)) fun new =>
        Session.keeps_bind marking_commit fun _ => Session.keeps_pure new

/-- What a block commits adds at most the mark of its message. -/
theorem adds_pass {delivery : Delivery} {event : Payload} (decoded : delivery.message = .ok event) :
    ∀ state ∈ (delivery.pass backend db).commits, Adds (delivery.Own event) db state := by
  rw [Delivery.pass]
  rw [decoded]
  dsimp only
  split
  · simp
  · split
    · next monitors =>
        exact Session.committedStates_of_keeps (marking_claimEvent monitors event) (refl db)
    · exact Session.committedStates_of_keeps (marking_work delivery event) (refl db)

/-- A fault leaves the first commits of a block. -/
theorem mem_of_under {pass : Pass} {fault : Option Fault} {state : Database}
    (member : state ∈ (pass.under fault).commits) : state ∈ pass.commits := by
  unfold Pass.under at member
  split at member
  · exact member
  · cases member
  · split at member
    · exact member
    · exact List.mem_of_mem_take member

/-- The last of some states. -/
theorem getLastD_of_forall {holds : Database → Prop} {states : List Database} (first : holds db)
    (all : ∀ state ∈ states, holds state) : holds (states.getLastD db) := by
  cases states with
  | nil => exact first
  | cons state states =>
      rw [List.getLastD_cons]
      exact all _ List.getLastD_mem_cons

section Journals

variable {transfers : AccountType → Prop} {invariant : Database → Prop}
  {relation : Database → Database → Prop} [IsTrans Database relation] [Std.Refl relation]

/-- What every operation keeps is kept by a block. -/
theorem kept_work (admits : AdmitsOperations backend transfers invariant relation)
    (delivery : Delivery) (event : Payload) :
    Keeps invariant relation (delivery.work backend event) := by
  have handles : Keeps invariant relation (delivery.handler backend event) := by
    rw [Delivery.handler]
    cases delivery.loop with
    | settlementEngine =>
        exact Session.keeps_bind (keeps_orRaise _) fun _ => Session.keeps_bind (keeps_asUuid _)
          fun _ => Session.keeps_bind
            (Settlement.kept_settleInstruction admits.survives admits.settle _ _ _) fun _ =>
              Session.keeps_pure ()
    | liquidationEngine => exact kept_handleDefaultEvent admits event _
    | collateralManager => exact kept_handleCollateralEvent admits event
    | marginEngine => exact keeps_dropped (admits.recalculate ..)
    | complianceMonitor => exact Session.keeps_pure ()
  have new : Keeps invariant relation (isNew backend delivery.loop.name event) := by
    rw [isNew]
    split
    · exact Session.keeps_pure true
    · exact Session.keeps_execute (admits.mark ..)
  apply Session.keeps_bind new
  intro isNew
  cases isNew with
  | true => exact Session.keeps_bind handles fun _ =>
      Session.keeps_bind (Settlement.kept_commit admits.survives) fun _ => Session.keeps_pure true
  | false => exact Session.keeps_bind (Settlement.kept_commit admits.survives) fun _ =>
      Session.keeps_pure false

theorem kept_claimEvent (admits : AdmitsOperations backend transfers invariant relation)
    (event : Payload) : Keeps invariant relation (claimEvent backend event) := by
  rw [claimEvent]
  split
  · exact Session.keeps_pure true
  · exact Session.keeps_bind (Session.keeps_execute (admits.mark ..)) fun _ =>
      Session.keeps_bind (Settlement.kept_commit admits.survives) fun _ => Session.keeps_pure _

/-- So is what a block commits. -/
theorem kept_pass (admits : AdmitsOperations backend transfers invariant relation)
    (delivery : Delivery) (holds : invariant db) :
    ∀ state ∈ (delivery.pass backend db).commits, invariant state := by
  rw [Delivery.pass]
  split
  · simp
  · split
    · simp
    · split
      · exact Session.committedStates_of_keeps (kept_claimEvent admits _) holds
      · exact Session.committedStates_of_keeps (kept_work admits delivery _) holds

end Journals

/-- The journals of a state that a block commits are in order again. -/
theorem journals_pass (delivery : Delivery) (journals : JournalsConfirmed db) :
    ∀ state ∈ (delivery.pass backend db).commits, JournalsConfirmed state := by
  have admits : AdmitsOperations backend Allowance.everything.margin
      (fun state => Written backend .everything db state ∧ JournalsConfirmed state)
      (Onward backend .everything db) :=
    admitsOperations_onward (fun _ => And.left)
      (fun old new holds written _ => ⟨holds.1.trans written,
        (related_of_written (fun _ _ => posts_of_writes) written).journals holds.2⟩)
      (allows_everything db)
  exact fun state member => (kept_pass admits delivery ⟨.refl, journals⟩ state member).2

theorem exitOf_eq_duplicate {outcome : Except Failure Bool} :
    exitOf outcome = .duplicate ↔ outcome = .ok false := by
  rcases outcome with failure | _ | _ <;> simp [exitOf]

/-- A session that returns no other value. -/
def Returns {α : Type} (value : α) (session : Session Database Failure α) : Prop :=
  ∀ connection other, (session connection).1 = .ok other → other = value

theorem returns_pure {α : Type} (value : α) :
    Returns value (pure value : Session Database Failure α) :=
  fun _ _ returned => (Except.ok.inj returned).symm

theorem returns_bind {α β : Type} {value : β} {first : Session Database Failure α}
    {next : α → Session Database Failure β} (last : ∀ middle, Returns value (next middle)) :
    Returns value (first >>= next) := by
  intro connection other returned
  rw [Session.bind_apply] at returned
  cases ran : first connection with
  | mk outcome after =>
      rw [ran] at returned
      cases outcome with
      | ok middle => exact last middle after other returned
      | error failure => cases returned

/-- The mark is found where an event does not count as new. -/
theorem processed_of_isNew {name : String} {event : Payload} {after : Connection Database}
    (duplicate : isNew backend name event (connect db) = (.ok false, after)) :
    eventId event ≠ [] ∧ ⟨name, eventId event⟩ ∈ db.processedEvents := by
  unfold isNew at duplicate
  split at duplicate
  · cases duplicate
  · next identified =>
      obtain ⟨working, ran, -⟩ := Session.execute_eq_ok duplicate
      obtain ⟨-, ⟨processed, -, -⟩ | ⟨-, new, -⟩⟩ := processIfNew_cases ran
      · exact ⟨identified, processed⟩
      · cases new

theorem processed_of_work {delivery : Delivery} {event : Payload}
    (duplicate : (delivery.work backend event (connect db)).1 = .ok false) :
    eventId event ≠ [] ∧ delivery.mark event ∈ db.processedEvents := by
  cases claimed : isNew backend delivery.loop.name event (connect db) with
  | mk outcome after =>
      rw [Delivery.work, Session.bind_apply, claimed] at duplicate
      cases outcome with
      | error failure => cases duplicate
      | ok new =>
          cases new with
          | false => exact processed_of_isNew claimed
          | true =>
              have handles : Returns true (do
                  delivery.handler backend event
                  commit (server backend)
                  pure true) := returns_bind fun _ => returns_bind fun _ => returns_pure true
              cases handles _ _ duplicate

theorem processed_of_claimEvent {event : Payload}
    (duplicate : (claimEvent backend event (connect db)).1 = .ok false) :
    eventId event ≠ [] ∧ ⟨Loop.complianceMonitor.name, eventId event⟩ ∈ db.processedEvents := by
  unfold claimEvent at duplicate
  split at duplicate
  · cases duplicate
  · next identified =>
    have asked : isNew backend Loop.complianceMonitor.name event =
        execute (server backend) (processIfNew Loop.complianceMonitor.name (eventId event)) :=
      if_neg identified
    rw [← asked] at duplicate
    cases claimed : isNew backend Loop.complianceMonitor.name event (connect db) with
    | mk outcome after =>
        rw [Session.bind_apply, claimed] at duplicate
        cases outcome with
        | error failure => cases duplicate
        | ok new =>
            cases new with
            | false => exact processed_of_isNew claimed
            | true => cases returns_bind (fun _ => returns_pure true) _ _ duplicate

theorem monitored_ne_duplicate (backend : Backend) (event : Payload) (db : Database) :
    monitored backend event db ≠ .duplicate := by
  rw [monitored]
  split <;> simp

/-- A block that ends as a duplicate has found the mark. -/
theorem processed_of_duplicate {delivery : Delivery} {event : Payload}
    (decoded : delivery.message = .ok event)
    (duplicate : (delivery.pass backend db).exit = .duplicate) :
    eventId event ≠ [] ∧ delivery.mark event ∈ db.processedEvents := by
  unfold Delivery.pass at duplicate
  rw [decoded] at duplicate
  dsimp only at duplicate
  split at duplicate
  · cases duplicate
  · split at duplicate
    · next monitors =>
        split at duplicate
        · exact absurd duplicate (monitored_ne_duplicate _ _ _)
        · rw [Delivery.mark, monitors]
          exact processed_of_claimEvent (exitOf_eq_duplicate.mp duplicate)
    · exact processed_of_work (exitOf_eq_duplicate.mp duplicate)

/-- The handler commits nothing, so mark and effects are committed at once. -/
def Loop.commitsOnce : Loop → Bool
  | .liquidationEngine | .collateralManager | .marginEngine => true
  | .settlementEngine | .complianceMonitor => false

theorem silent_orRaise {α : Type} (result : Except Failure α) :
    Session.Silent (orRaise result : Session Database Failure α) := by
  cases result with
  | ok value => exact Session.silent_pure value
  | error failure => exact Session.silent_raise failure

theorem silent_dropped {α : Type} (code : Sql α) :
    Session.Silent (do let _ ← execute (server backend) code) :=
  Session.silent_bind (Session.silent_execute code) fun _ => Session.silent_pure ()

theorem silent_handleCollateralEvent (event : Payload) :
    Session.Silent (handleCollateralEvent backend event) := by
  rw [handleCollateralEvent]
  split
  · exact Session.silent_bind (silent_orRaise _) fun _ =>
      Session.silent_bind (silent_orRaise _) fun _ =>
        Session.silent_bind (silent_orRaise _) fun _ => silent_dropped _
  · split
    · exact Session.silent_bind (silent_orRaise _) fun _ =>
        Session.silent_bind (silent_orRaise _) fun _ => silent_dropped _
    · exact Session.silent_pure ()

theorem silent_handleDefaultEvent (event : Payload) (trace : TraceContext) :
    Session.Silent (handleDefaultEvent backend event trace) := by
  rw [handleDefaultEvent]
  split
  · exact Session.silent_bind (silent_orRaise _) fun _ =>
      Session.silent_bind (silent_orRaise _) fun _ => silent_dropped _
  · split
    · apply Session.silent_bind (silent_orRaise _)
      intro _
      split
      · exact Session.silent_pure ()
      · exact Session.silent_bind (silent_orRaise _) fun _ => silent_dropped _
    · exact Session.silent_pure ()

theorem silent_handler {delivery : Delivery} (once : delivery.loop.commitsOnce = true)
    (event : Payload) : Session.Silent (delivery.handler backend event) := by
  rw [Delivery.handler]
  cases loop : delivery.loop with
  | liquidationEngine => exact silent_handleDefaultEvent event _
  | collateralManager => exact silent_handleCollateralEvent event
  | marginEngine => exact silent_dropped _
  | settlementEngine | complianceMonitor =>
      rw [loop] at once
      cases once

theorem silent_isNew (name : String) (event : Payload) :
    Session.Silent (isNew backend name event) := by
  rw [isNew]
  split
  · exact Session.silent_pure true
  · exact Session.silent_execute _

/-- A silent session with a commit behind it commits nothing, or returns after one commit. -/
theorem history_committed {value : Bool} {session : Session Database Failure Unit}
    (silent : Session.Silent session) (connection : Connection Database) :
    let worked := (do
      session
      commit (server backend)
      pure value : Session Database Failure Bool) connection
    worked.2.history = connection.history ∨
      worked.1 = .ok value ∧ ∃ state, worked.2.history = connection.history ++ [state] := by
  have quiet := silent connection
  dsimp only
  rw [Session.bind_apply]
  cases ran : session connection with
  | mk outcome middle =>
      rw [ran] at quiet
      cases outcome with
      | error failure => exact .inl quiet
      | ok done =>
          dsimp only at quiet ⊢
          rw [Session.bind_apply]
          rcases Session.history_commit (server backend) middle with
            ⟨failure, after, raised, same⟩ | ⟨after, returned, same | more⟩
          · rw [raised]
            exact .inl (same.trans quiet)
          · rw [returned]
            exact .inl (same.trans quiet)
          · rw [returned]
            exact .inr ⟨rfl, _, more.trans (by rw [quiet])⟩

/-- A loop that commits once does not raise behind its commit. -/
theorem history_work {delivery : Delivery} (once : delivery.loop.commitsOnce = true)
    (event : Payload) (db : Database) :
    (delivery.work backend event (connect db)).2.history = [] ∨
      ∃ new state, (delivery.work backend event (connect db)).1 = .ok new ∧
        (delivery.work backend event (connect db)).2.history = [state] := by
  have asked : (isNew backend delivery.loop.name event (connect db)).2.history = [] :=
    silent_isNew delivery.loop.name event (connect db)
  cases claimed : isNew backend delivery.loop.name event (connect db) with
  | mk outcome middle =>
      rw [claimed] at asked
      have empty : middle.history = [] := asked
      cases outcome with
      | error failure =>
          rw [Delivery.work, Session.bind_of_error claimed]
          exact .inl empty
      | ok new =>
          have step : delivery.work backend event (connect db) =
              (do
                (if new = true then delivery.handler backend event else pure ())
                commit (server backend)
                pure new : Session Database Failure Bool) middle := by
            rw [Delivery.work, Session.bind_of_ok claimed]
            cases new <;> rfl
          have silent : Session.Silent
              (if new = true then delivery.handler backend event else pure ()) := by
            split
            · exact silent_handler once event
            · exact Session.silent_pure ()
          rw [step]
          rcases history_committed silent middle with none | ⟨returned, state, one⟩
          · exact .inl (none.trans empty)
          · exact .inr ⟨new, state, returned, one.trans (by rw [empty, List.nil_append])⟩

theorem exit_of_commits {delivery : Delivery} (once : delivery.loop.commitsOnce = true)
    (committed : (delivery.pass backend db).commits ≠ []) :
    (delivery.pass backend db).commits.length = 1 ∧
      ((delivery.pass backend db).exit = .handled ∨
        (delivery.pass backend db).exit = .duplicate) := by
  cases decoded : delivery.message with
  | error failure =>
      rw [pass_of_error decoded] at committed
      exact absurd rfl committed
  | ok event =>
      have worked : delivery.pass backend db =
          ⟨(delivery.work backend event (connect db)).2.history,
            exitOf (delivery.work backend event (connect db)).1⟩ := by
        refine pass_of_work decoded ?_ ?_
        · rintro ⟨loop, -⟩
          rw [loop] at once
          cases once
        · intro loop
          rw [loop] at once
          cases once
      rw [worked] at committed ⊢
      rcases history_work once event db with none | ⟨new, state, returned, one⟩
      · exact absurd none committed
      · rw [one, returned]
        cases new with
        | true => exact ⟨rfl, .inl rfl⟩
        | false => exact ⟨rfl, .inr rfl⟩

end ConsumeLoops

end ClearingHouse
