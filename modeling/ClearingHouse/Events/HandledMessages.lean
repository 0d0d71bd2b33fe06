import ClearingHouse.Events.ConsumeLoops
import ClearingHouse.Margin.Completion
import ClearingHouse.Settlement.Completion

/-!
# Messages that are handled

What a message, the rows of the database and the answers of the chain have to be like for the block
of the message to commit its effects under the migrated schema.
-/

namespace ClearingHouse

namespace ConsumeLoops

open Consumers SchemaChecks Transactions
open Transactions.Session (bind_of_ok commit connect_eq_idleAt execute execute_idleAt idleAt)

/-- The event has no identifier, or a uuid. -/
def Identified (event : Payload) : Prop :=
  eventId event = [] ∨ (uuid? (eventId event)).isSome = true

/-- What the event says of its trace fits the columns of a transition, of which one holds the
service and the actor in at most 100 characters. -/
structure Traceable (loop : Loop) (event : Payload) : Prop where
  traceId : ∀ value, event.get? "trace_id" = some value → value = .null ∨ ∃ id, value = .uuid id
  actor : ∀ value, event.get? "actor" = some value → value = .null ∨ ∃ name : String,
    value = .literal name ∧ loop.name.length + 1 + name.length ≤ 100

/-- Off the cash path the chain of an instruction is registered, if it names one. -/
def Registered (chainRegistry : String → Option Settlement.ChainAdapter)
    (instruction : SettlementInstruction) : Prop :=
  instruction.settlementType ≠ .cash → ∀ chainId, instruction.chainId = some chainId →
    chainId ≠ "" → (chainRegistry chainId).isSome = true

/-- The event names an instruction.  If that is pending, its transitions can be written, its chain
is registered, and what it comes to post can be posted. -/
def Delivery.Settles (delivery : Delivery) (event : Payload) (db : Database) : Prop :=
  ∃ instructionId, event.get? "instruction_id" = some (.uuid instructionId) ∧
    (∀ instruction instrument,
      Settlement.pendingInstruction db instructionId = some (instruction, instrument) →
        Traceable delivery.loop event ∧ Registered delivery.chainRegistry instruction) ∧
    (Call.settleInstruction instructionId delivery.chainRegistry delivery.sign
      (fromKafkaPayload event delivery.surroundings.generated)).Admissible db

/-- Every position can be recalculated, and where margin is missing the transition of its call can
be written. -/
def Delivery.Recalculates (delivery : Delivery) (event : Payload) (db : Database) : Prop :=
  ∀ position ∈ Margin.positions migratedBackend db,
    Margin.Recalculable migratedBackend db position ∧
      (0 < Margin.shortfallOf migratedBackend db position → Traceable delivery.loop event)

/-- The checks of the event can be read and find their thresholds kept. -/
def Unalarming (event : Payload) (db : Database) : Prop :=
  ∃ checks, complianceChecks event = .ok checks ∧ ∀ check ∈ checks,
    Compliance.readable migratedBackend check = true ∧ Compliance.Quiet migratedBackend db check

/-- The message and the database let the handler through.  What the liquidation engine and the
collateral manager have to write is refused whatever they are. -/
def Delivery.Handles (delivery : Delivery) (event : Payload) (db : Database) : Prop :=
  Identified event ∧
    match delivery.loop with
    | .settlementEngine => delivery.Settles event db
    | .marginEngine => delivery.Recalculates event db
    | .complianceMonitor => Unalarming event db
    | .liquidationEngine | .collateralManager => False

variable {delivery : Delivery} {event : Payload} {db : Database}

/-- A connection that has at most inserted a mark. -/
structure Opened (db : Database) (connection : Connection Database) : Prop where
  live : connection.status ≠ .inError
  committed : connection.committed = db
  working : ∃ marks, connection.working = { db with processedEvents := marks }

theorem Opened.unposted {connection : Connection Database} (opened : Opened db connection) :
    Settlement.Unposted connection := by
  obtain ⟨marks, working⟩ := opened.working
  exact ⟨opened.live, by rw [working, opened.committed]⟩

/-- An event without a mark is new. -/
theorem isNew_opened (backend : Backend) {name : String} (identified : Identified event)
    (unmarked : eventId event ≠ [] → ⟨name, eventId event⟩ ∉ db.processedEvents) :
    ∃ connection, isNew backend name event (connect db) = (.ok true, connection) ∧
      Opened db connection := by
  rw [isNew]
  split
  · exact ⟨_, rfl, by simp [connect], rfl, db.processedEvents, rfl⟩
  · next present =>
      rcases identified with absent | known
      · exact absurd absent present
      · exact ⟨_, execute_idleAt (processIfNew_of_not_mem known (unmarked present)), by simp, rfl,
          _, rfl⟩

/-- A handler that returns, with a commit that does, makes the block handle its message. -/
theorem handled_of_returns {backend : Backend} (decoded : delivery.message = .ok event)
    (addressed : ¬(delivery.loop = .settlementEngine ∧ lacksInstruction event = true))
    (works : delivery.loop ≠ .complianceMonitor) {connection middle last : Connection Database}
    (new : isNew backend delivery.loop.name event (connect db) = (.ok true, connection))
    (handled : delivery.handler backend event connection = (.ok (), middle))
    (committed : commit (server backend) middle = (.ok (), last)) :
    (delivery.pass backend db).exit = .handled := by
  have worked : delivery.work backend event (connect db) = (.ok true, last) := by
    rw [Delivery.work, bind_of_ok new, if_pos rfl, bind_of_ok handled, bind_of_ok committed]
    rfl
  rw [pass_of_work decoded addressed works, worked]
  rfl

/-- A registered instruction has a script. -/
theorem script_of_registered {chainRegistry : String → Option Settlement.ChainAdapter}
    {sign : Settlement.Bytes → String → Except Text Settlement.Bytes} {trace : TraceContext}
    {instruction : SettlementInstruction} {instrument : Instrument}
    (registered : Registered chainRegistry instruction) :
    ∃ actions, Settlement.script migratedBackend chainRegistry sign trace instruction instrument =
      some actions := by
  rw [Settlement.script]
  cases type : instruction.settlementType with
  | cash => exact ⟨_, rfl⟩
  | dvp | physical =>
      have onChain : instruction.settlementType ≠ .cash := by simp [type]
      dsimp only
      cases chain : instruction.chainId.filter fun chainId => chainId ≠ "" with
      | none => exact ⟨_, rfl⟩
      | some chainId =>
          obtain ⟨named, given⟩ := Option.filter_eq_some_iff.mp chain
          obtain ⟨adapter, found⟩ := Option.isSome_iff_exists.mp
            (registered onChain chainId named (by simpa using given))
          dsimp only
          rw [found]
          exact ⟨_, rfl⟩

theorem handled_of_settles (settles : delivery.loop = .settlementEngine)
    (decoded : delivery.message = .ok event) (identified : Identified event)
    (unmarked : eventId event ≠ [] → delivery.mark event ∉ db.processedEvents)
    (fresh : Settlement.FreshJournals db) (condition : delivery.Settles event db) :
    (delivery.pass migratedBackend db).exit = .handled := by
  obtain ⟨instructionId, named, registered, admissible⟩ := condition
  obtain ⟨connection, new, opened⟩ := isNew_opened migratedBackend identified unmarked
  obtain ⟨marks, working⟩ := opened.working
  have addressed : ¬(delivery.loop = .settlementEngine ∧ lacksInstruction event = true) := by
    rintro ⟨-, lacks⟩
    rw [lacksInstruction, named] at lacks
    cases lacks
  set trace := fromKafkaPayload event delivery.surroundings.generated with traced
  have accepted : ∀ instruction instrument,
      Settlement.pendingInstruction connection.working instructionId =
          some (instruction, instrument) →
        ∃ actions, Settlement.script migratedBackend delivery.chainRegistry delivery.sign trace
            instruction instrument = some actions ∧
          CommitsAll migratedBackend actions connection.working := by
    intro instruction instrument pending
    rw [working] at pending ⊢
    obtain ⟨actions, scripted⟩ :=
      script_of_registered (registered instruction instrument pending).2
    refine ⟨actions, scripted, ?_⟩
    have numbered : Settlement.FreshJournals { db with processedEvents := marks } := fresh
    rw [commitsAll_script (by decide) numbered scripted, payable_iff]
    exact admissible instruction instrument pending
  obtain ⟨result, middle, last, ran, committed⟩ :=
    Settlement.settleInstruction_returns opened.unposted accepted
  have handled : delivery.handler migratedBackend event connection = (.ok (), middle) := by
    rw [Delivery.handler, settles]
    dsimp only
    rw [settleEvent, valueOf, named]
    exact bind_of_ok ran
  exact handled_of_returns decoded addressed (by simp [settles]) new handled committed

theorem handled_of_recalculates (recalculates : delivery.loop = .marginEngine)
    (decoded : delivery.message = .ok event) (identified : Identified event)
    (unmarked : eventId event ≠ [] → delivery.mark event ∉ db.processedEvents)
    (condition : delivery.Recalculates event db) :
    (delivery.pass migratedBackend db).exit = .handled := by
  obtain ⟨connection, new, opened⟩ := isNew_opened migratedBackend identified unmarked
  obtain ⟨marks, working⟩ := opened.working
  have positions : ∀ position ∈ Margin.positions migratedBackend connection.working,
      Margin.Recalculable migratedBackend connection.working position := by
    rw [working]
    exact fun position member => (condition position member).1.of_posted rfl fun _ _ _ => rfl
  obtain ⟨calls, after, ran, entries⟩ := Margin.recalculateMargins_runs
    delivery.surroundings.deadline (fromKafkaPayload event delivery.surroundings.generated)
    positions
  have handled : delivery.handler migratedBackend event connection =
      (.ok (), { connection with working := after, status := .inTransaction }) := by
    rw [Delivery.handler, recalculates]
    exact bind_of_ok (opened.unposted.execute_of_ok ran)
  exact handled_of_returns decoded (by simp [recalculates]) (by simp [recalculates]) new handled
    (opened.unposted.commit_of_accepted (accepted_of_same entries))

/-- A check that finds its threshold kept writes nothing, over whatever connection. -/
theorem runCheck_quiet (role : Compliance.Role) {check : ComplianceCheck}
    (can : Compliance.readable migratedBackend check = true)
    (quiet : Compliance.Quiet migratedBackend db check) :
    Compliance.runCheck migratedBackend role check db = .ok ([], db) := by
  cases check with
  | largeTrade trade =>
      obtain ⟨notional, read⟩ := Option.isSome_iff_exists.mp can
      have small : Compliance.largeTrade trade notional = [] :=
        if_neg (not_lt.mpr (quiet notional read))
      rw [Compliance.runCheck, read]
      dsimp only
      rw [small]
      rfl
  | memberConcentration =>
      rw [Compliance.runCheck, Transaction.bind_of_ok (Transaction.read_apply db),
        Compliance.memberConcentration_eq_nil.mpr quiet]
      rfl
  | marginCoverage =>
      rw [Compliance.runCheck, Transaction.bind_of_ok (Transaction.read_apply db),
        Compliance.marginCoverage_eq_nil.mpr quiet]
      rfl
  | allMonitors =>
      obtain ⟨unconcentrated, covered, adequate⟩ := quiet
      have nothing : ∀ {alerts : List Compliance.Alert}, alerts = [] →
          Compliance.emitAll role alerts db = .ok ([], db) := by
        rintro _ rfl
        rfl
      rw [Compliance.runCheck, Transaction.bind_of_ok (Transaction.read_apply db),
        Transaction.bind_of_ok (nothing (Compliance.memberConcentration_eq_nil.mpr unconcentrated)),
        Transaction.bind_of_ok (Transaction.read_apply db),
        Transaction.bind_of_ok (nothing (Compliance.marginCoverage_eq_nil.mpr covered)),
        Transaction.bind_of_ok (Transaction.read_apply db),
        Transaction.bind_of_ok (nothing (Compliance.defaultFundAdequacy_eq_nil.mpr adequate))]
      rfl

/-- What a check finds does not depend on marks. -/
theorem quiet_of_marks {check : ComplianceCheck} {marks : List ProcessedEvent}
    (quiet : Compliance.Quiet migratedBackend db check) :
    Compliance.Quiet migratedBackend { db with processedEvents := marks } check := by
  cases check <;> exact quiet

/-- The mark of the compliance monitor is committed before the event is handled. -/
theorem claimEvent_new (identified : Identified event)
    (unmarked : eventId event ≠ [] →
      ⟨Loop.complianceMonitor.name, eventId event⟩ ∉ db.processedEvents) :
    ∃ marks last, claimEvent migratedBackend event (connect db) = (.ok true, last) ∧
      last.committed = { db with processedEvents := marks } := by
  rw [claimEvent]
  split
  · exact ⟨db.processedEvents, connect db, rfl, rfl⟩
  · next present =>
      rcases identified with absent | known
      · exact absurd absent present
      · have accepted : (server migratedBackend).deferred db
            (db.marked ⟨Loop.complianceMonitor.name, eventId event⟩) = .ok () :=
          accepted_of_same rfl
        rw [connect_eq_idleAt,
          bind_of_ok (execute_idleAt (processIfNew_of_not_mem known (unmarked present))),
          bind_of_ok (Session.commit_inTransaction accepted)]
        exact ⟨_, _, rfl, rfl⟩

theorem runChecks_unalarming {role : Compliance.Role} {checks : List ComplianceCheck}
    (unalarming : ∀ check ∈ checks, Compliance.readable migratedBackend check = true ∧
      Compliance.Quiet migratedBackend db check) :
    Compliance.runChecks migratedBackend role checks db = .ok ([], db) := by
  induction checks with
  | nil => rfl
  | cons check checks induction =>
      obtain ⟨can, quiet⟩ := unalarming check List.mem_cons_self
      have rest := induction fun other member => unalarming other (List.mem_cons_of_mem _ member)
      rw [Compliance.runChecks, Transaction.bind_of_ok (runCheck_quiet role can quiet),
        Transaction.bind_of_ok rest]
      rfl

theorem handled_of_unalarming (monitors : delivery.loop = .complianceMonitor)
    (decoded : delivery.message = .ok event) (identified : Identified event)
    (unmarked : eventId event ≠ [] → delivery.mark event ∉ db.processedEvents)
    (unalarming : Unalarming event db) :
    (delivery.pass migratedBackend db).exit = .handled := by
  obtain ⟨checks, called, quiet⟩ := unalarming
  rw [Delivery.mark, monitors] at unmarked
  obtain ⟨marks, last, claimed, committed⟩ := claimEvent_new identified unmarked
  rw [pass_of_claim decoded monitors, claimed]
  dsimp only
  have seen : ∀ check ∈ checks, Compliance.readable migratedBackend check = true ∧
      Compliance.Quiet migratedBackend last.committed check := by
    rw [committed]
    exact fun check member => ⟨(quiet check member).1, quiet_of_marks (quiet check member).2⟩
  have ran : Compliance.handleEvent migratedBackend .readonlyUser event last.committed =
      .ok ([], last.committed) := by
    rw [Compliance.handleEvent, called]
    exact runChecks_unalarming seen
  rw [monitored, connect_eq_idleAt, execute_idleAt ran]

/-- A message that meets the condition, and has no mark, is handled. -/
theorem handled_of_handles (decoded : delivery.message = .ok event)
    (unmarked : eventId event ≠ [] → delivery.mark event ∉ db.processedEvents)
    (fresh : Settlement.FreshJournals db) (handles : delivery.Handles event db) :
    (delivery.pass migratedBackend db).exit = .handled := by
  obtain ⟨identified, condition⟩ := handles
  cases loop : delivery.loop with
  | settlementEngine =>
      rw [loop] at condition
      exact handled_of_settles loop decoded identified unmarked fresh condition
  | marginEngine =>
      rw [loop] at condition
      exact handled_of_recalculates loop decoded identified unmarked condition
  | complianceMonitor =>
      rw [loop] at condition
      exact handled_of_unalarming loop decoded identified unmarked condition
  | liquidationEngine | collateralManager =>
      rw [loop] at condition
      exact condition.elim

end ConsumeLoops

end ClearingHouse
