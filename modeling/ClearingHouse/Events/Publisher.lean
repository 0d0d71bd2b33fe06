import ClearingHouse.Library.StepSystem
import ClearingHouse.Statements

/-!
# The outbox publisher

A batch of outbox rows is handed to the producer, flushed and marked as published in one
transaction.  The producer sends in the background, and what a flush returns is not looked at: a row
is marked whether or not the broker has its message.
-/

namespace ClearingHouse

namespace Outbox

open StepSystem Transactions

/-- A message of a topic; its value is the JSON document of a payload. -/
structure KafkaMessage where
  topic : String
  key : Text
  value : Payload
  headers : List (String × Text)
  deriving DecidableEq, Repr

/-- The text of the header `event_id`: that of the payload or the identifier of the row.  Only texts
can be encoded. -/
def eventIdHeader (event : OutboxEvent) : Except Failure Text :=
  match event.payload.get? "event_id" with
  | none => .ok [.uuid event.id]
  | some (.string text) => .ok text
  | some _ => .error (.raised .attributeError [.literal "object has no attribute 'encode'"])

/-- What `publish_batch` hands to `producer.produce` for a row. -/
def messageOf (event : OutboxEvent) : Except Failure KafkaMessage := do
  let eventId ← eventIdHeader event
  pure
    { topic := event.topic
      key := [.uuid event.aggregateId]
      value := event.payload
      headers := [("event_id", eventId)] }

/-- The message carries the payload and the event identifier of the row. -/
structure Carries (message : KafkaMessage) (event : OutboxEvent) : Prop where
  payload : message.value = event.payload
  eventId : ∃ eventId, eventIdHeader event = .ok eventId ∧ ("event_id", eventId) ∈ message.headers

theorem messageOf_eq_ok {event : OutboxEvent} {message : KafkaMessage} :
    messageOf event = .ok message ↔
      ∃ eventId, eventIdHeader event = .ok eventId ∧
        message = ⟨event.topic, [.uuid event.aggregateId], event.payload,
          [("event_id", eventId)]⟩ := by
  rw [messageOf]
  cases eventIdHeader event with
  | ok eventId =>
      constructor
      · intro made
        cases made
        exact ⟨eventId, rfl, rfl⟩
      · rintro ⟨other, same, rfl⟩
        cases same
        rfl
  | error failure =>
      constructor
      · intro made
        cases made
      · rintro ⟨_, same, _⟩
        cases same

theorem carries_of_messageOf {event : OutboxEvent} {message : KafkaMessage}
    (made : messageOf event = .ok message) : Carries message event := by
  obtain ⟨eventId, header, rfl⟩ := messageOf_eq_ok.mp made
  exact ⟨rfl, eventId, header, List.mem_singleton_self _⟩

/-- `fetch_unpublished_batch`: rows that another transaction has locked are skipped. -/
def fetchUnpublishedBatch (db : Database) (locked : List Uuid) (batchSize : ℕ) :
    List OutboxEvent :=
  ((db.outboxEvents.filter fun event => event.publishedAt = none ∧ event.id ∉ locked).insertionSort
    fun first second => first.createdAt ≤ second.createdAt).take batchSize

/-- A row after the update. -/
def OutboxEvent.mark (event : OutboxEvent) (eventIds : List Uuid) (now : Timestamp) : OutboxEvent :=
  if event.id ∈ eventIds then { event with publishedAt := some now } else event

/-- `mark_published`. -/
def markPublished (eventIds : List Uuid) : Sql Unit :=
  Transaction.write fun db =>
    { db with outboxEvents := db.outboxEvents.map fun event =>
        OutboxEvent.mark event eventIds db.now }

/-- How far `_process_batch` has come: between two batches, with a batch of which some messages have
been produced, or after the flush. -/
inductive Stage
  | idle
  | producing (batch remaining : List OutboxEvent) (produced : List KafkaMessage)
  | flushed (batch : List OutboxEvent) (produced : List KafkaMessage)

/-- The rows that the open transaction of a batch has locked. -/
def Stage.batch : Stage → List OutboxEvent
  | .idle => []
  | .producing batch _ _ => batch
  | .flushed batch _ => batch

/-- The messages of the batch that have been produced. -/
def Stage.produced : Stage → List KafkaMessage
  | .idle => []
  | .producing _ _ produced => produced
  | .flushed _ produced => produced

/-- `_process_batch` once it has fetched: without events it rolls back and returns. -/
def Stage.fetched : List OutboxEvent → Stage
  | [] => .idle
  | event :: batch => .producing (event :: batch) (event :: batch) []

/-- A publisher process: the messages that its producer has not delivered yet, and its stage. -/
structure Publisher where
  queue : List KafkaMessage
  stage : Stage

/-- What `producer.flush(timeout)` returns: the number of messages still in the queue. -/
def Publisher.flush (publisher : Publisher) : ℕ := publisher.queue.length

/-- The committed database, the publishers, and the messages that the broker has acknowledged. -/
structure Publication where
  committed : Database
  publishers : List Publisher
  acknowledged : List KafkaMessage

/-- The rows that the publishers have locked. -/
def Publication.locked (state : Publication) : List Uuid :=
  state.publishers.flatMap fun publisher => publisher.stage.batch.map OutboxEvent.id

/-- What happens next.  A publisher is numbered by its position. -/
inductive PublishLabel
  | start
  | fetch (position batchSize : ℕ)
  | produce (position : ℕ)
  | flush (position remaining : ℕ)
  | commit (position : ℕ)
  | fail (position : ℕ)
  | crash (position : ℕ)
  | acknowledge (position : ℕ)
  | expire (position : ℕ)
  | elsewhere

/-- One step of a publisher, of its producer or of the services that write to the outbox. -/
inductive PublishStep : Publication → PublishLabel → Publication → Prop
  /-- A process starts with a new producer. -/
  | start {state : Publication} :
      PublishStep state .start { state with publishers := state.publishers ++ [⟨[], .idle⟩] }
  /-- `fetch_unpublished_batch`. -/
  | fetch {state : Publication} (front back : List Publisher) {queue : List KafkaMessage}
      {batchSize : ℕ} (publishers : state.publishers = front ++ ⟨queue, .idle⟩ :: back) :
      PublishStep state (.fetch front.length batchSize)
        { state with
          publishers := front ++
            ⟨queue, .fetched (fetchUnpublishedBatch state.committed state.locked batchSize)⟩ ::
              back }
  /-- `producer.produce` puts the message of the next event into its queue. -/
  | produce {state : Publication} (front back : List Publisher) {queue : List KafkaMessage}
      {batch remaining : List OutboxEvent} {produced : List KafkaMessage} {event : OutboxEvent}
      {message : KafkaMessage}
      (publishers : state.publishers =
        front ++ ⟨queue, .producing batch (event :: remaining) produced⟩ :: back)
      (made : messageOf event = .ok message) :
      PublishStep state (.produce front.length)
        { state with
          publishers := front ++
            ⟨queue ++ [message], .producing batch remaining (produced ++ [message])⟩ :: back }
  /-- `producer.flush()` returns, after its timeout perhaps with messages in the queue; their number
  is not used. -/
  | flush {state : Publication} (front back : List Publisher) {queue : List KafkaMessage}
      {batch : List OutboxEvent} {produced : List KafkaMessage}
      (publishers : state.publishers = front ++ ⟨queue, .producing batch [] produced⟩ :: back) :
      PublishStep state
        (.flush front.length (Publisher.flush ⟨queue, .producing batch [] produced⟩))
        { state with publishers := front ++ ⟨queue, .flushed batch produced⟩ :: back }
  /-- `mark_published` and `conn.commit()`. -/
  | commit {state : Publication} (front back : List Publisher) {queue : List KafkaMessage}
      {batch : List OutboxEvent} {produced : List KafkaMessage} {after : Database}
      (publishers : state.publishers = front ++ ⟨queue, .flushed batch produced⟩ :: back)
      (marked : markPublished (batch.map OutboxEvent.id) state.committed = .ok ((), after)) :
      PublishStep state (.commit front.length)
        { state with committed := after, publishers := front ++ ⟨queue, .idle⟩ :: back }
  /-- A statement or `produce` raises, and the handler rolls back; the producer lives on. -/
  | fail {state : Publication} (front back : List Publisher) {queue : List KafkaMessage}
      {stage : Stage} (publishers : state.publishers = front ++ ⟨queue, stage⟩ :: back) :
      PublishStep state (.fail front.length)
        { state with publishers := front ++ ⟨queue, .idle⟩ :: back }
  /-- The process is killed, and its producer with it. -/
  | crash {state : Publication} (front back : List Publisher) {publisher : Publisher}
      (publishers : state.publishers = front ++ publisher :: back) :
      PublishStep state (.crash front.length) { state with publishers := front ++ back }
  /-- The broker acknowledges a message of the queue. -/
  | acknowledge {state : Publication} (front back : List Publisher)
      (sent waiting : List KafkaMessage) {message : KafkaMessage} {stage : Stage}
      (publishers : state.publishers = front ++ ⟨sent ++ message :: waiting, stage⟩ :: back) :
      PublishStep state (.acknowledge front.length)
        { state with
          publishers := front ++ ⟨sent ++ waiting, stage⟩ :: back
          acknowledged := state.acknowledged ++ [message] }
  /-- The delivery of a message fails for good; no callback looks at its report. -/
  | expire {state : Publication} (front back : List Publisher)
      (sent waiting : List KafkaMessage) {message : KafkaMessage} {stage : Stage}
      (publishers : state.publishers = front ++ ⟨sent ++ message :: waiting, stage⟩ :: back) :
      PublishStep state (.expire front.length)
        { state with publishers := front ++ ⟨sent ++ waiting, stage⟩ :: back }
  /-- The services commit, and append rows to the outbox. -/
  | elsewhere {state : Publication} {after : Database} {added : List OutboxEvent}
      (appended : after.outboxEvents = state.committed.outboxEvents ++ added)
      (unpublished : ∀ event ∈ added, event.publishedAt = none)
      (keyed : (after.outboxEvents.map OutboxEvent.id).Nodup) :
      PublishStep state .elsewhere { state with committed := after }

/-- Every row that is marked as published has a message that the broker has acknowledged. -/
def Delivered (state : Publication) : Prop :=
  ∀ event ∈ state.committed.outboxEvents, event.publishedAt ≠ none →
    ∃ message ∈ state.acknowledged, Carries message event

/-- Every commit of a batch finds the messages of the batch acknowledged. -/
def Confirmed (state : Publication) : PublishLabel → Prop
  | .commit position =>
      ∀ publisher, state.publishers[position]? = some publisher →
        ∀ message ∈ publisher.stage.produced, message ∈ state.acknowledged
  | _ => True

/-- The same row but for its mark. -/
structure SameRow (event row : OutboxEvent) : Prop where
  id : row.id = event.id
  message : messageOf row = messageOf event

theorem SameRow.refl (event : OutboxEvent) : SameRow event event := ⟨rfl, rfl⟩

theorem SameRow.trans {event row last : OutboxEvent} (first : SameRow event row)
    (second : SameRow row last) : SameRow event last :=
  ⟨second.id.trans first.id, second.message.trans first.message⟩

/-- The messages that `publish_batch` produces for events, in order. -/
def Made (events : List OutboxEvent) (produced : List KafkaMessage) : Prop :=
  events.map messageOf = produced.map .ok

theorem Made.snoc {events : List OutboxEvent} {produced : List KafkaMessage} {event : OutboxEvent}
    {message : KafkaMessage} (made : Made events produced) (next : messageOf event = .ok message) :
    Made (events ++ [event]) (produced ++ [message]) := by
  rw [Made, List.map_append, List.map_append, made, List.map_singleton, next, List.map_singleton]

theorem Made.exists_of_mem {events : List OutboxEvent} {produced : List KafkaMessage}
    {event : OutboxEvent} (made : Made events produced) (member : event ∈ events) :
    ∃ message ∈ produced, messageOf event = .ok message := by
  have mapped : messageOf event ∈ produced.map Except.ok := made ▸ List.mem_map_of_mem member
  obtain ⟨message, inside, same⟩ := List.mem_map.mp mapped
  exact ⟨message, inside, same.symm⟩

/-- What a publisher has produced are the messages of its batch up to the remaining events. -/
def Stage.Follows : Stage → Prop
  | .idle => True
  | .producing batch remaining produced => ∃ done, batch = done ++ remaining ∧ Made done produced
  | .flushed batch produced => Made batch produced

/-- A stage follows its batch, whose rows are still there. -/
structure Stage.Faithful (rows : List OutboxEvent) (stage : Stage) : Prop where
  present : ∀ event ∈ stage.batch, ∃ row ∈ rows, SameRow event row
  follows : stage.Follows

theorem Stage.faithful_idle (rows : List OutboxEvent) : Stage.idle.Faithful rows :=
  ⟨by simp [Stage.batch], trivial⟩

/-- Where all rows are kept but for their marks, a stage stays faithful. -/
theorem Stage.Faithful.kept {rows later : List OutboxEvent} {stage : Stage}
    (faithful : stage.Faithful rows) (kept : ∀ row ∈ rows, ∃ last ∈ later, SameRow row last) :
    stage.Faithful later := by
  refine ⟨fun event member => ?_, faithful.follows⟩
  obtain ⟨row, inside, same⟩ := faithful.present event member
  obtain ⟨last, still, same'⟩ := kept row inside
  exact ⟨last, still, same.trans same'⟩

theorem mem_fetchUnpublishedBatch {db : Database} {locked : List Uuid} {batchSize : ℕ}
    {event : OutboxEvent} (fetched : event ∈ fetchUnpublishedBatch db locked batchSize) :
    event ∈ db.outboxEvents ∧ event.publishedAt = none := by
  have sorted := List.mem_of_mem_take fetched
  rw [List.mem_insertionSort, List.mem_filter] at sorted
  obtain ⟨member, chosen⟩ := sorted
  simp only [decide_eq_true_eq] at chosen
  exact ⟨member, chosen.1⟩

theorem Stage.faithful_fetched {rows batch : List OutboxEvent}
    (present : ∀ event ∈ batch, event ∈ rows) : (Stage.fetched batch).Faithful rows := by
  cases batch with
  | nil => exact Stage.faithful_idle rows
  | cons event batch =>
      exact ⟨fun other member => ⟨other, present other member, .refl other⟩, [], rfl, rfl⟩

/-- The invariant of a run. -/
structure Published (state : Publication) : Prop where
  keyed : (state.committed.outboxEvents.map OutboxEvent.id).Nodup
  delivered : ∀ event ∈ state.committed.outboxEvents, event.publishedAt ≠ none →
    ∃ message ∈ state.acknowledged, messageOf event = .ok message
  faithful : ∀ publisher ∈ state.publishers,
    publisher.stage.Faithful state.committed.outboxEvents

theorem Published.isDelivered {state : Publication} (published : Published state) :
    Delivered state := by
  intro event member marked
  obtain ⟨message, acknowledged, made⟩ := published.delivered event member marked
  exact ⟨message, acknowledged, carries_of_messageOf made⟩

@[simp] theorem mark_id (event : OutboxEvent) (eventIds : List Uuid) (now : Timestamp) :
    (OutboxEvent.mark event eventIds now).id = event.id := by
  rw [OutboxEvent.mark]
  split <;> rfl

/-- A mark changes no message. -/
@[simp] theorem messageOf_mark (event : OutboxEvent) (eventIds : List Uuid) (now : Timestamp) :
    messageOf (OutboxEvent.mark event eventIds now) = messageOf event := by
  rw [OutboxEvent.mark]
  split <;> rfl

variable {before after : Publication} {label : PublishLabel} {front back : List Publisher}

/-- A publisher goes on without any commit or acknowledgement. -/
theorem Published.replace (published : Published before) {old new : Publisher}
    (publishers : before.publishers = front ++ old :: back)
    (faithful : new.stage.Faithful before.committed.outboxEvents) :
    Published { before with publishers := front ++ new :: back } :=
  ⟨published.keyed, published.delivered,
    forall_replaced (publishers ▸ published.faithful) faithful⟩

theorem Published.stage_faithful (published : Published before) {publisher : Publisher}
    (publishers : before.publishers = front ++ publisher :: back) :
    publisher.stage.Faithful before.committed.outboxEvents :=
  published.faithful publisher (by simp [publishers])

/-- More acknowledgements do no harm. -/
theorem Published.acknowledge (published : Published before) (message : KafkaMessage) :
    Published { before with acknowledged := before.acknowledged ++ [message] } := by
  refine ⟨published.keyed, fun event member marked => ?_, published.faithful⟩
  obtain ⟨sent, acknowledged, made⟩ := published.delivered event member marked
  exact ⟨sent, List.mem_append_left _ acknowledged, made⟩

/-- A commit marks the rows of a batch whose messages have been acknowledged. -/
theorem Published.mark (published : Published before) {batch : List OutboxEvent}
    {produced : List KafkaMessage} (now : Timestamp)
    (present : ∀ event ∈ batch, ∃ row ∈ before.committed.outboxEvents, SameRow event row)
    (made : Made batch produced)
    (acknowledged : ∀ message ∈ produced, message ∈ before.acknowledged) :
    ∀ event ∈ before.committed.outboxEvents.map fun event =>
        OutboxEvent.mark event (batch.map OutboxEvent.id) now,
      event.publishedAt ≠ none →
        ∃ message ∈ before.acknowledged, messageOf event = .ok message := by
  intro event member marked
  obtain ⟨row, inside, rfl⟩ := List.mem_map.mp member
  rw [messageOf_mark]
  by_cases chosen : row.id ∈ batch.map OutboxEvent.id
  · obtain ⟨fetched, in_batch, same_id⟩ := List.mem_map.mp chosen
    obtain ⟨other, there, same⟩ := present fetched in_batch
    have unique : other = row :=
      List.inj_on_of_nodup_map published.keyed there inside (same.id.trans same_id)
    obtain ⟨message, produced_mem, sent⟩ := made.exists_of_mem in_batch
    exact ⟨message, acknowledged message produced_mem, unique ▸ same.message.trans sent⟩
  · rw [OutboxEvent.mark, if_neg chosen] at marked
    exact published.delivered row inside marked

theorem published_step (published : Published before) (confirmed : Confirmed before label)
    (step : PublishStep before label after) : Published after := by
  cases step with
  | start =>
      refine ⟨published.keyed, published.delivered, fun publisher member => ?_⟩
      rcases List.mem_append.mp member with old | new
      · exact published.faithful publisher old
      · rw [List.mem_singleton.mp new]
        exact Stage.faithful_idle _
  | fetch front back publishers =>
      exact published.replace publishers
        (Stage.faithful_fetched fun event member => (mem_fetchUnpublishedBatch member).1)
  | produce front back publishers made =>
      obtain ⟨present, done, batch_eq, produced⟩ := published.stage_faithful publishers
      refine published.replace publishers ⟨present, done ++ [_], ?_, produced.snoc made⟩
      rw [List.append_assoc]
      exact batch_eq
  | flush front back publishers =>
      obtain ⟨present, done, batch_eq, produced⟩ := published.stage_faithful publishers
      rw [List.append_nil] at batch_eq
      exact published.replace publishers ⟨present, batch_eq ▸ produced⟩
  | @commit front back queue batch produced after publishers marked =>
      cases marked
      have at_position :
          before.publishers[front.length]? = some ⟨queue, .flushed batch produced⟩ := by
        rw [publishers, List.getElem?_append_right le_rfl, Nat.sub_self]
        rfl
      obtain ⟨present, made⟩ := published.stage_faithful publishers
      have still : ∀ publisher ∈ before.publishers, publisher.stage.Faithful
          (before.committed.outboxEvents.map fun event =>
            OutboxEvent.mark event (batch.map OutboxEvent.id) before.committed.now) := by
        intro publisher member
        refine (published.faithful publisher member).kept fun row inside =>
          ⟨_, List.mem_map_of_mem inside, ?_, ?_⟩
        · exact mark_id row _ _
        · exact messageOf_mark row _ _
      rw [publishers] at still
      refine ⟨?_, published.mark before.committed.now present made (confirmed _ at_position),
        forall_replaced still (Stage.faithful_idle _)⟩
      rw [List.map_map]
      have same_ids : (OutboxEvent.id ∘ fun event : OutboxEvent =>
          OutboxEvent.mark event (batch.map OutboxEvent.id) before.committed.now) =
          OutboxEvent.id := funext fun event => mark_id event _ _
      rw [same_ids]
      exact published.keyed
  | fail front back publishers =>
      exact published.replace publishers (Stage.faithful_idle _)
  | @crash front back publisher publishers =>
      refine ⟨published.keyed, published.delivered, fun other member => ?_⟩
      apply published.faithful other
      rw [publishers]
      exact (List.Sublist.append_left (List.sublist_cons_self _ _) front).subset member
  | @acknowledge front back sent waiting message stage publishers =>
      have faithful := published.stage_faithful publishers
      have sent_on : Published
          { before with publishers := front ++ ⟨sent ++ waiting, stage⟩ :: back } :=
        published.replace publishers faithful
      exact sent_on.acknowledge message
  | expire front back sent waiting publishers =>
      have faithful := published.stage_faithful publishers
      exact published.replace publishers faithful
  | @elsewhere after added appended unpublished keyed =>
      refine ⟨keyed, fun event member marked => ?_, fun publisher member => ?_⟩
      · rw [appended] at member
        rcases List.mem_append.mp member with old | new
        · exact published.delivered event old marked
        · exact absurd (unpublished event new) marked
      · refine (published.faithful publisher member).kept fun row inside => ⟨row, ?_, .refl row⟩
        rw [appended]
        exact List.mem_append_left _ inside

/-- If every batch is committed with its messages acknowledged, no row is ever marked as published
without a message that the broker has acknowledged. -/
theorem delivered_of_run {start last : Publication}
    (keyed : (start.committed.outboxEvents.map OutboxEvent.id).Nodup)
    (unpublished : ∀ event ∈ start.committed.outboxEvents, event.publishedAt = none)
    (nobody : start.publishers = []) (run : Run PublishStep Confirmed start last) :
    Delivered last := by
  have opening : Published start :=
    ⟨keyed, fun event member marked => absurd (unpublished event member) marked,
      by simp [nobody]⟩
  exact (run.invariant (fun _ _ _ published confirmed step =>
    published_step published confirmed step) opening).isDelivered

/-- A house with the event of a novated trade in its outbox. -/
def outboxHouse : Database :=
  { Database.opening [⟨0, ccpLei, .active, 0⟩] [] [] 10 Database.nodup_ccp
      Database.nodup_noAccountIds Database.nodup_noAccountKeys with
    outboxEvents := [⟨4, "trade", 2, "trade.novated", "trades.novated",
      [("trade_id", .uuid 2), ("event_id", .uuid 3)], 1, none, none⟩] }

/-- The message of the event. -/
def outboxMessage : KafkaMessage :=
  ⟨"trades.novated", [.uuid 2], [("trade_id", .uuid 2), ("event_id", .uuid 3)],
    [("event_id", [.uuid 3])]⟩

/-- The house after its event has been marked. -/
def publishedHouse : Database :=
  { outboxHouse with
    outboxEvents := outboxHouse.outboxEvents.map fun event =>
      OutboxEvent.mark event [4] outboxHouse.now }

private theorem produced_outboxHouse (allowed : Publication → PublishLabel → Prop)
    (free : ∀ state label, (∀ position, label ≠ .commit position) → allowed state label) :
    Run PublishStep allowed ⟨outboxHouse, [], []⟩
      ⟨outboxHouse, [⟨[outboxMessage], .producing outboxHouse.outboxEvents [] [outboxMessage]⟩],
        []⟩ := by
  have started : Run PublishStep allowed ⟨outboxHouse, [], []⟩
      ⟨outboxHouse, [⟨[], .idle⟩], []⟩ :=
    .snoc (.refl _) (free _ _ (by simp)) .start
  have fetched : Run PublishStep allowed ⟨outboxHouse, [], []⟩
      ⟨outboxHouse, [⟨[], .fetched (fetchUnpublishedBatch outboxHouse [] 100)⟩], []⟩ :=
    .snoc started (free _ (.fetch 0 100) (by simp)) (.fetch [] [] rfl)
  have batch : fetchUnpublishedBatch outboxHouse [] 100 = outboxHouse.outboxEvents := by
    decide +kernel
  rw [batch] at fetched
  have produced := Run.snoc fetched (free _ (.produce 0) (by simp)) (.produce [] [] rfl rfl)
  exact produced

/-- The broker acknowledges the message before the flush returns. -/
theorem delivered_of_run_outboxHouse :
    Run PublishStep Confirmed ⟨outboxHouse, [], []⟩
        ⟨publishedHouse, [⟨[], .idle⟩], [outboxMessage]⟩ ∧
      Delivered ⟨publishedHouse, [⟨[], .idle⟩], [outboxMessage]⟩ := by
  have produced := produced_outboxHouse Confirmed fun state label other => by
    cases label with
    | commit position => exact absurd rfl (other position)
    | _ => trivial
  have acknowledged := Run.snoc produced (by exact trivial) (.acknowledge [] [] [] [] rfl)
  have flushed := Run.snoc acknowledged (by exact trivial) (.flush [] [] rfl)
  have committed : Run PublishStep Confirmed ⟨outboxHouse, [], []⟩
      ⟨publishedHouse, [⟨[], .idle⟩], [outboxMessage]⟩ := by
    refine .snoc flushed ?_ (.commit [] [] rfl rfl)
    intro publisher at_zero
    cases at_zero
    simp [Stage.produced]
  exact ⟨committed, delivered_of_run (by decide) (by decide) rfl committed⟩

/-- The broker is down for longer than the timeout of the flush, which returns 1. -/
theorem not_delivered_outboxHouse :
    ∃ last, Run PublishStep unrestricted ⟨outboxHouse, [], []⟩ last ∧ ¬Delivered last := by
  have produced := produced_outboxHouse unrestricted fun _ _ _ => trivial
  have flushed := Run.snoc produced trivial (.flush [] [] rfl)
  have committed : Run PublishStep unrestricted ⟨outboxHouse, [], []⟩
      ⟨publishedHouse, [⟨[outboxMessage], .idle⟩], []⟩ :=
    .snoc flushed trivial (.commit [] [] rfl rfl)
  refine ⟨_, committed, fun delivered => ?_⟩
  obtain ⟨message, acknowledged, -⟩ := delivered
    ⟨4, "trade", 2, "trade.novated", "trades.novated",
      [("trade_id", .uuid 2), ("event_id", .uuid 3)], 1, some outboxHouse.now, none⟩
    (by decide) (by simp)
  cases acknowledged

end Outbox

end ClearingHouse
