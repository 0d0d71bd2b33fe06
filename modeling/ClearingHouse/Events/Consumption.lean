import ClearingHouse.Events.Handlers
import ClearingHouse.Ledger.Growth
import ClearingHouse.Library.Deduplication
import ClearingHouse.Library.StepSystem
import ClearingHouse.Netting.Instructions

/-!
# Deliveries to the services

Instances of the services handle the messages of events in any order and as often as they are
delivered.  The mark, the body of the handler and its commit are one transaction, so what a handler
does is committed together with its mark or not at all.
-/

namespace ClearingHouse

namespace Consumers

open StepSystem Transactions Deduplication
open Transactions.Session (Stays execute stays_attempt stays_bind stays_execute stays_pure
  stays_raise stays_require stays_transaction)

/-- The marks of processed events are the same. -/
def SameMarks (db after : Database) : Prop := after.processedEvents = db.processedEvents

instance : Std.Refl SameMarks := ⟨fun _ => rfl⟩

instance : IsTrans Database SameMarks := ⟨fun _ _ _ first second => Eq.trans second first⟩

variable {backend : Backend}

theorem sameMarks_of_growing {α : Type} {code : Sql α} (growing : Growing backend code) :
    Transaction.Respects SameMarks code :=
  fun _ _ _ ran => (growing ran).processed

theorem stays_grown {α : Type} {code : Sql α} (growing : Growing backend code) :
    Stays SameMarks (do let _ ← execute (server backend) code) :=
  stays_bind (stays_execute (sameMarks_of_growing growing)) fun _ => stays_pure ()

theorem sameMarks_rejectTrade (tradeId : Uuid) (reason : Text) (trace : TraceContext) :
    Transaction.Respects SameMarks (Novation.rejectTrade tradeId reason trace) := by
  have growing : Growing exactBackend (Novation.rejectTrade tradeId reason trace) :=
    Novation.growing_rejectTrade tradeId reason trace
  exact sameMarks_of_growing growing

theorem stays_handleNettingTrigger (event : Payload) (surroundings : Surroundings) :
    Stays SameMarks (handleNettingTrigger backend event surroundings) := by
  refine stays_bind (stays_orRaise _) fun _ => stays_bind (stays_orRaise _) fun _ =>
    stays_bind (stays_transaction fun db result after ran => ?_) fun _ => stays_pure ()
  obtain ⟨_, _, instructed⟩ := Netting.instructed_runNettingCycle ran
  exact instructed.processed

theorem stays_handleCollateralEvent (event : Payload) :
    Stays SameMarks (handleCollateralEvent backend event) := by
  rw [handleCollateralEvent]
  split
  · exact stays_bind (stays_orRaise _) fun _ => stays_bind (stays_orRaise _) fun _ =>
      stays_bind (stays_orRaise _) fun _ =>
        stays_grown (Collateral.growing_depositCollateral _ _ _)
  · split
    · exact stays_bind (stays_orRaise _) fun _ => stays_bind (stays_orRaise _) fun _ =>
        stays_grown (Collateral.respects_transferToMargin admitsPostings_grows ..)
    · exact stays_pure ()

theorem stays_handleDefaultEvent (event : Payload) (trace : TraceContext) :
    Stays SameMarks (handleDefaultEvent backend event trace) := by
  rw [handleDefaultEvent]
  split
  · exact stays_bind (stays_orRaise _) fun _ => stays_bind (stays_orRaise _) fun _ =>
      stays_grown (Waterfall.growing_executeWaterfall _ _ _ _)
  · split
    · apply stays_bind (stays_orRaise _)
      intro _
      split
      · exact stays_pure ()
      · exact stays_bind (stays_orRaise _) fun _ =>
          stays_grown (Waterfall.growing_executeWaterfall _ _ _ _)
    · exact stays_pure ()

/-- No service commits or marks anything before its handler ends. -/
theorem stays_body (event : Payload) (surroundings : Surroundings) (service : Service) :
    Stays SameMarks (service.body backend event surroundings) := by
  cases service with
  | tradeIngestion =>
      exact stays_processTradeEvent
        (fun _ _ => sameMarks_of_growing (Novation.growing_novateTrade _ _ _))
        (sameMarks_rejectTrade · · _)
  | nettingEngine => exact stays_handleNettingTrigger event surroundings
  | marginEngine => exact stays_grown (Margin.growing_recalculateMargins _ _)
  | collateralManager => exact stays_handleCollateralEvent event
  | liquidationEngine => exact stays_handleDefaultEvent event _

/-- An event as `insert_outbox_event` emits it: its payload carries an identifier. -/
def Emitted (event : Payload) : Prop := ∃ id : Uuid, event.get? "event_id" = some (.uuid id)

/-- How far a handler has come: its mark is inserted, or its body has run and left changes, which
apply to any state that they are committed on. -/
inductive Stage
  | marked
  | worked (changes : Database → Database)

/-- A handler of a delivery, whose transaction is open. -/
structure Handler where
  service : Service
  event : Payload
  stage : Stage

/-- The row that `process_if_new` inserts. -/
def markOf (service : Service) (event : Payload) : ProcessedEvent := ⟨service.name, eventId event⟩

/-- The row of a handler. -/
def Handler.mark (handler : Handler) : ProcessedEvent := markOf handler.service handler.event

/-- The changes of a transaction that saw one state and left another: where they are applied to the
state that was seen they give what was left, and anywhere they insert the marks that were
inserted. -/
structure Applies (changes : Database → Database) (seen left : Database) : Prop where
  there : changes seen = left
  marks : ∀ db, (changes db).processedEvents =
    db.processedEvents ++ left.processedEvents.drop seen.processedEvents.length

/-- The committed database, the open handlers, and the marks of the handlers whose effects have been
committed. -/
structure Consumption where
  committed : Database
  handlers : List Handler
  handled : List ProcessedEvent

/-- The workers of the handlers; a handler ends with the commit of its mark. -/
def Consumption.workers (state : Consumption) : List (Worker ProcessedEvent) :=
  state.handlers.map fun handler => ⟨handler.mark, true⟩

/-- A connection on which `process_if_new` has returned. -/
def openedOn (committed working : Database) : Connection Database :=
  { committed, working, status := .inTransaction, history := [] }

/-- A row of one of the services. -/
def Ours (mark : ProcessedEvent) : Prop := ∃ service : Service, mark.serviceName = service.name

/-- What happens next.  A handler is numbered by its position. -/
inductive ConsumeLabel
  | deliver (service : Service) (event : Payload)
  | work (position : ℕ) (surroundings : Surroundings)
  | commit (position : ℕ)
  | stop (position : ℕ)
  | elsewhere

/-- One step of a consumer loop in some instance of a service, or of another service.  Offsets are
left out: a message may be delivered at any time. -/
inductive ConsumeStep (backend : Backend) : Consumption → ConsumeLabel → Consumption → Prop
  /-- `process_if_new` inserts the mark, once no other transaction has it inserted. -/
  | deliver {state : Consumption} {service : Service} {event : Payload} {middle : Database}
      (emitted : Emitted event)
      (free : ∀ handler ∈ state.handlers, handler.mark ≠ markOf service event)
      (isNew : processIfNew service.name (eventId event) state.committed = .ok (true, middle)) :
      ConsumeStep backend state (.deliver service event)
        { state with handlers := state.handlers ++ [⟨service, event, .marked⟩] }
  /-- `process_if_new` finds the mark, and nothing is left to do. -/
  | duplicate {state : Consumption} {service : Service} {event : Payload} {middle : Database}
      (emitted : Emitted event)
      (free : ∀ handler ∈ state.handlers, handler.mark ≠ markOf service event)
      (isOld : processIfNew service.name (eventId event) state.committed = .ok (false, middle)) :
      ConsumeStep backend state (.deliver service event) state
  /-- The body returns; it sees what is committed, and the row that `process_if_new` inserts. -/
  | work {state : Consumption} (front back : List Handler) {service : Service} {event : Payload}
      {surroundings : Surroundings} {seen : Database} {connection : Connection Database}
      {changes : Database → Database}
      (handlers : state.handlers = front ++ ⟨service, event, .marked⟩ :: back)
      (marks : processIfNew service.name (eventId event) state.committed = .ok (true, seen))
      (ran : service.body backend event surroundings (openedOn state.committed seen) =
        (.ok (), connection))
      (opened : connection.status = .inTransaction)
      (applies : Applies changes seen connection.working) :
      ConsumeStep backend state (.work front.length surroundings)
        { state with
          committed := connection.committed
          handlers := front ++ ⟨service, event, .worked changes⟩ :: back }
  /-- The body raises, or returns in an aborted transaction, whose commit is a rollback. -/
  | fail {state : Consumption} (front back : List Handler) {service : Service} {event : Payload}
      {surroundings : Surroundings} {seen : Database} {connection : Connection Database}
      {outcome : Except Failure Unit}
      (handlers : state.handlers = front ++ ⟨service, event, .marked⟩ :: back)
      (marks : processIfNew service.name (eventId event) state.committed = .ok (true, seen))
      (ran : service.body backend event surroundings (openedOn state.committed seen) =
        (outcome, connection))
      (failed : outcome ≠ .ok () ∨ connection.status = .inError) :
      ConsumeStep backend state (.work front.length surroundings)
        { state with committed := connection.committed, handlers := front ++ back }
  /-- `conn.commit()`. -/
  | commit {state : Consumption} (front back : List Handler) {service : Service} {event : Payload}
      {seen : Database} {changes : Database → Database}
      (handlers : state.handlers = front ++ ⟨service, event, .worked changes⟩ :: back)
      (marks : processIfNew service.name (eventId event) state.committed = .ok (true, seen))
      (accepted : (server backend).deferred state.committed (changes seen) = .ok ()) :
      ConsumeStep backend state (.commit front.length)
        { committed := changes seen
          handlers := front ++ back
          handled := state.handled ++ [markOf service event] }
  /-- The process is killed, the connection is lost or the commit is refused. -/
  | stop {state : Consumption} (front back : List Handler) {handler : Handler}
      (handlers : state.handlers = front ++ handler :: back) :
      ConsumeStep backend state (.stop front.length) { state with handlers := front ++ back }
  /-- Others commit, and mark no event for one of the services. -/
  | elsewhere {state : Consumption} {after : Database}
      (foreign : ∀ mark, Ours mark →
        (mark ∈ after.processedEvents ↔ mark ∈ state.committed.processedEvents)) :
      ConsumeStep backend state .elsewhere { state with committed := after }

/-- Every event has one handler at a time and none once it is marked, and the marks are those of the
handlers whose effects have been committed. -/
structure Consumed (state : Consumption) : Prop where
  exclusive : Exclusive (fun mark => mark ∈ state.committed.processedEvents) state.workers
  marks : ∀ mark, Ours mark → (mark ∈ state.committed.processedEvents ↔ mark ∈ state.handled)
  once : state.handled.Nodup
  worked : ∀ handler ∈ state.handlers, ∀ changes, handler.stage = .worked changes →
    ∀ db, (changes db).processedEvents = db.processedEvents

variable {state : Consumption} {front back : List Handler}

theorem ours_markOf (service : Service) (event : Payload) : Ours (markOf service event) :=
  ⟨service, rfl⟩

/-- A handler leaves without a commit. -/
theorem Consumed.remove (consumed : Consumed state) {handler : Handler}
    (handlers : state.handlers = front ++ handler :: back) :
    Consumed { state with handlers := front ++ back } := by
  have sublist : List.Sublist (front ++ back) state.handlers := by
    rw [handlers]
    exact List.Sublist.append_left (List.sublist_cons_self _ _) front
  exact ⟨consumed.exclusive.sublist (sublist.map _), consumed.marks, consumed.once,
    fun other member => consumed.worked other (sublist.subset member)⟩

/-- The body of a handler commits nothing and inserts no mark. -/
theorem body_kept {db seen : Database} {service : Service} {event : Payload}
    {surroundings : Surroundings} {outcome : Except Failure Unit} {connection : Connection Database}
    (ran : service.body backend event surroundings (openedOn db seen) = (outcome, connection)) :
    connection.committed = db ∧ connection.working.processedEvents = seen.processedEvents := by
  have body : Stays SameMarks (service.body backend event surroundings) :=
    stays_body event surroundings service
  have stays := body (openedOn db seen) (by simp [openedOn])
  rw [ran] at stays
  exact ⟨stays.2.1, stays.2.2.2⟩

theorem consumed_step {before after : Consumption} {label : ConsumeLabel}
    (consumed : Consumed before) (step : ConsumeStep backend before label after) :
    Consumed after := by
  cases step with
  | @deliver service event middle emitted free isNew =>
      have new := (processIfNew_new isNew).1
      refine ⟨?_, consumed.marks, consumed.once, fun handler member changes stage => ?_⟩
      · rw [Consumption.workers, List.map_append]
        apply consumed.exclusive.claim new
        intro worker member _
        obtain ⟨handler, inside, rfl⟩ := List.mem_map.mp member
        exact free handler inside
      · rcases List.mem_append.mp member with old | added
        · exact consumed.worked handler old changes stage
        · rw [List.mem_singleton.mp added] at stage
          cases stage
  | duplicate => exact consumed
  | @work front back service event surroundings seen connection changes handlers inserted ran
      opened applies =>
      obtain ⟨committed, marks⟩ := body_kept ran
      have same_workers : (front ++ (⟨service, event, .worked changes⟩ : Handler) :: back).map
          (fun handler => (⟨handler.mark, true⟩ : Worker ProcessedEvent)) = before.workers := by
        rw [Consumption.workers, handlers]
        simp [Handler.mark]
      refine ⟨?_, ?_, consumed.once, fun handler member changes' stage => ?_⟩
      · rw [Consumption.workers, same_workers, committed]
        exact consumed.exclusive
      · rw [committed]
        exact consumed.marks
      · simp only [List.mem_append, List.mem_cons] at member
        rcases member with ahead | rfl | behind
        · exact consumed.worked handler (by simp [handlers, ahead]) changes' stage
        · cases stage
          intro db
          rw [applies.marks, marks, List.drop_length, List.append_nil]
        · exact consumed.worked handler (by simp [handlers, behind]) changes' stage
  | @fail front back service event surroundings seen connection outcome handlers inserted ran
      failed =>
      rw [(body_kept ran).1]
      exact consumed.remove handlers
  | @commit front back service event seen changes handlers inserted accepted =>
      obtain rfl : seen = before.committed.marked (markOf service event) :=
        (processIfNew_new inserted).2
      have marks : (changes (before.committed.marked (markOf service event))).processedEvents =
          before.committed.processedEvents ++ [markOf service event] :=
        consumed.worked ⟨service, event, .worked changes⟩ (by simp [handlers]) changes rfl _
      have added : ∀ other,
          other ∈ (changes (before.committed.marked (markOf service event))).processedEvents ↔
            other ∈ before.committed.processedEvents ∨ other = markOf service event := by
        intro other
        rw [marks, List.mem_append, List.mem_singleton]
      have exclusive := consumed.exclusive
      have workers : before.workers =
          front.map (fun handler => (⟨handler.mark, true⟩ : Worker ProcessedEvent)) ++
            ⟨markOf service event, true⟩ :: back.map fun handler => ⟨handler.mark, true⟩ := by
        rw [Consumption.workers, handlers, List.map_append, List.map_cons]
        rfl
      rw [workers] at exclusive
      have unmarked : markOf service event ∉ before.committed.processedEvents :=
        (exclusive.opened ⟨markOf service event, true⟩ (by simp)).mp rfl
      refine ⟨?_, fun mark ours => ?_, ?_, ?_⟩
      · apply (exclusive.commit added).sublist
        rw [Consumption.workers, List.map_append]
        exact List.Sublist.append_left (List.sublist_cons_self _ _) _
      · rw [added, consumed.marks mark ours, List.mem_append, List.mem_singleton]
      · refine List.nodup_append.mpr ⟨consumed.once, by simp, fun mark old mark' new => ?_⟩
        rw [List.mem_singleton.mp new]
        rintro rfl
        exact unmarked ((consumed.marks _ (ours_markOf service event)).mpr old)
      · intro handler member
        apply consumed.worked handler
        rw [handlers]
        exact (List.Sublist.append_left (List.sublist_cons_self _ _) front).subset member
  | stop front back handlers => exact consumed.remove handlers
  | elsewhere foreign =>
      refine ⟨consumed.exclusive.congr fun worker member => ?_,
        fun mark ours => (foreign mark ours).trans (consumed.marks mark ours), consumed.once,
        consumed.worked⟩
      obtain ⟨handler, -, rfl⟩ := List.mem_map.mp member
      exact foreign _ (ours_markOf handler.service handler.event)

/-- However often the message of an event is delivered to a service and wherever its handlers fail,
their effects are committed at most once, and the mark is there if and only if they were. -/
theorem handledOnce_of_run {backend : Backend} {start last : Consumption}
    (idle : start.handlers = []) (nothing : start.handled = [])
    (unmarked : ∀ mark ∈ start.committed.processedEvents, ¬Ours mark)
    (run : Run (ConsumeStep backend) unrestricted start last) (service : Service)
    (event : Payload) :
    last.handled.count (markOf service event) ≤ 1 ∧
      (markOf service event ∈ last.committed.processedEvents ↔
        last.handled.count (markOf service event) = 1) := by
  have opening : Consumed start := by
    refine ⟨?_, fun mark ours => ?_, by simp [nothing], by simp [idle]⟩
    · rw [Consumption.workers, idle]
      exact .nil
    · rw [nothing]
      exact iff_of_false (fun member => unmarked mark member ours) (by simp)
  have consumed := run.invariant (fun _ _ _ consumed _ step => consumed_step consumed step) opening
  have once := List.nodup_iff_count_le_one.mp consumed.once (markOf service event)
  refine ⟨once, ?_⟩
  rw [consumed.marks _ (ours_markOf service event), ← List.count_pos_iff]
  omega

/-- A house in which member 1 has sold member 2 ten units. -/
def tradeHouse : Database :=
  { Database.opening [⟨0, ccpLei, .active, 0⟩, ⟨1, "LEI1", .active, 0⟩, ⟨2, "LEI2", .active, 0⟩]
      [⟨3, .cash, 1 / 10, 1 / 20, none, none, true⟩]
      [⟨7, 1, .marginIm, "USD", .available⟩, ⟨8, 1, .marginIm, "USD", .locked⟩,
        ⟨9, 2, .marginIm, "USD", .available⟩, ⟨10, 2, .marginIm, "USD", .locked⟩] 20
      Database.nodup_ccpAndTwo Database.nodup_marginAccountIds Database.nodup_marginAccountKeys with
    trades := [⟨4, 3, 2, 1, 10, 9, .submitted⟩] }

/-- An event of its submission. -/
def submission (eventId : Uuid) : Payload :=
  [("trade_id", .uuid 4), ("instrument_id", .uuid 3), ("buyer_member_id", .uuid 2),
    ("seller_member_id", .uuid 1), ("quantity", .decimal 10), ("price", .decimal 9),
    ("actor", .literal "alice"), ("event_id", .uuid eventId), ("trace_id", .uuid 6)]

/-- The first event of its submission. -/
def tradeEvent : Payload := submission 5

/-- A handler of one of them that has inserted its mark. -/
def handling (eventId : Uuid) : Handler := ⟨.tradeIngestion, submission eventId, .marked⟩

/-- The changes of a body that inserts no mark apply to any state. -/
theorem exists_applies {seen left : Database}
    (same : left.processedEvents = seen.processedEvents) :
    ∃ changes, Applies changes seen left := by
  refine ⟨fun db => { left with processedEvents := db.processedEvents }, ?_, fun db => ?_⟩
  · rw [← same]
  · simp [same]

/-- What the trade ingestion makes of the submission. -/
def tradeRun : Except Failure Unit × Connection Database :=
  Service.tradeIngestion.body decimalBackend tradeEvent ⟨0, 0, 0⟩
    (openedOn tradeHouse (tradeHouse.marked (markOf .tradeIngestion tradeEvent)))

private theorem ok_of_toOption {result : Except Failure Unit}
    (returned : result.toOption = some ()) : result = .ok () := by
  cases result with
  | ok value => rfl
  | error failure => simp [Except.toOption] at returned

private theorem facts_tradeRun :
    tradeRun.1.toOption = some () ∧ tradeRun.2.status = .inTransaction ∧
      tradeRun.2.working.novatedTrades.length = 2 ∧
      ((server decimalBackend).deferred tradeHouse tradeRun.2.working).toOption = some () := by
  decide +kernel

/-- Three deliveries of one message and one of another, to several instances: the first dies, the
second novates the trade while the other message is being handled, the third is skipped. -/
theorem handledOnce_of_run_tradeHouse :
    ∃ last, Run (ConsumeStep decimalBackend) unrestricted ⟨tradeHouse, [], []⟩ last ∧
      last.committed.novatedTrades.length = 2 ∧
      last.handlers = [handling 15] ∧
      last.handled.count (markOf .tradeIngestion tradeEvent) ≤ 1 ∧
        (markOf .tradeIngestion tradeEvent ∈ last.committed.processedEvents ↔
          last.handled.count (markOf .tradeIngestion tradeEvent) = 1) := by
  obtain ⟨returned, opened, novated, deferred⟩ := facts_tradeRun
  have unmarked : ∀ mark, mark ∉ tradeHouse.processedEvents := by
    simp [tradeHouse, Database.opening]
  have inserts : ∀ id,
      processIfNew Service.tradeIngestion.name (eventId (submission id)) tradeHouse =
        .ok (true, tradeHouse.marked (markOf .tradeIngestion (submission id))) :=
    fun _ => processIfNew_of_not_mem rfl (unmarked _)
  have apart : (handling 15).mark ≠ (handling 5).mark := by decide
  have free : ∀ {busy : Handler} {mark : ProcessedEvent}, busy.mark ≠ mark →
      ∀ handler ∈ [busy], handler.mark ≠ mark :=
    fun other handler member => (List.mem_singleton.mp member) ▸ other
  obtain ⟨outcome, connection, ran⟩ : ∃ outcome connection, tradeRun = (outcome, connection) :=
    ⟨_, _, rfl⟩
  rw [ran] at returned opened novated deferred
  obtain rfl : outcome = .ok () := ok_of_toOption returned
  obtain ⟨committed, marks⟩ := body_kept ran
  obtain ⟨changes, applies⟩ := exists_applies marks
  have first : Run (ConsumeStep decimalBackend) unrestricted ⟨tradeHouse, [], []⟩
      ⟨tradeHouse, [handling 5], []⟩ :=
    .snoc (.refl _) trivial (.deliver ⟨5, rfl⟩ (by simp) (inserts 5))
  have other : Run (ConsumeStep decimalBackend) unrestricted ⟨tradeHouse, [], []⟩
      ⟨tradeHouse, [handling 5, handling 15], []⟩ :=
    .snoc first trivial (.deliver ⟨15, rfl⟩ (free apart.symm) (inserts 15))
  have died : Run (ConsumeStep decimalBackend) unrestricted ⟨tradeHouse, [], []⟩
      ⟨tradeHouse, [handling 15], []⟩ := .snoc other trivial (.stop [] [handling 15] rfl)
  have second : Run (ConsumeStep decimalBackend) unrestricted ⟨tradeHouse, [], []⟩
      ⟨tradeHouse, [handling 15, handling 5], []⟩ :=
    .snoc died trivial (.deliver ⟨5, rfl⟩ (free apart) (inserts 5))
  have worked : Run (ConsumeStep decimalBackend) unrestricted ⟨tradeHouse, [], []⟩
      ⟨connection.committed, [handling 15, ⟨.tradeIngestion, tradeEvent, .worked changes⟩], []⟩ :=
    .snoc second trivial (.work [handling 15] [] rfl (inserts 5) ran opened applies)
  rw [committed] at worked
  have finished : Run (ConsumeStep decimalBackend) unrestricted ⟨tradeHouse, [], []⟩
      ⟨changes (tradeHouse.marked (markOf .tradeIngestion tradeEvent)), [handling 15],
        [markOf .tradeIngestion tradeEvent]⟩ :=
    .snoc worked trivial (.commit [handling 15] [] rfl (inserts 5)
      (by rw [applies.there]; exact ok_of_toOption deferred))
  rw [applies.there] at finished
  have processed : markOf .tradeIngestion tradeEvent ∈ connection.working.processedEvents := by
    rw [marks]
    exact List.mem_append_right _ (List.mem_singleton_self _)
  have skipped : processIfNew Service.tradeIngestion.name (eventId tradeEvent)
      connection.working = .ok (false, connection.working) := processIfNew_of_mem rfl processed
  have third := Run.snoc finished trivial
    (.duplicate ⟨5, rfl⟩ (free apart) skipped)
  exact ⟨_, third, novated, rfl, handledOnce_of_run rfl rfl
    (fun mark marked => absurd marked (unmarked mark)) third .tradeIngestion tradeEvent⟩

end Consumers

end ClearingHouse
