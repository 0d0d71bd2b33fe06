import ClearingHouse.Events.Publisher
import ClearingHouse.Oracle.Runs

/-!
# The backlog of the outbox

The services file events one after another, each under an identifier of its own, and a single
publisher hands them over batch by batch.  Where no batch fails, what has been handed over is at all
times the head of the outbox, in its order and once, and every batch shortens the backlog.
-/

namespace ClearingHouse

namespace Outbox

open Consumers (eventId)
open Oracle StepSystem Transactions
open Transactions.Transaction (bind_eq_ok)

variable {backend : Backend} {market : Market} {db after : Database}

/-- Events have identifiers of their own and are in the order of their creation. -/
structure Orderly (db : Database) : Prop where
  rows : (db.outboxEvents.map OutboxEvent.id).Nodup
  events : (db.outboxEvents.map fun row => eventId row.payload).Nodup
  numbered : ∀ row ∈ db.outboxEvents, row.id < db.nextUuid ∧
    ∃ number < db.nextUuid, row.payload.get? "event_id" = some (.uuid number)
  created : db.outboxEvents.Pairwise fun row other => row.createdAt ≤ other.createdAt
  past : ∀ row ∈ db.outboxEvents, row.createdAt ≤ db.now

theorem eventId_of_identified {event : Payload} {number : Uuid}
    (identified : event.get? "event_id" = some (.uuid number)) :
    eventId event = [.uuid number] := by
  rw [eventId, identified]
  rfl

/-- Identifiers are drawn and time passes. -/
theorem Orderly.later (orderly : Orderly db) (same : after.outboxEvents = db.outboxEvents)
    (drawn : db.nextUuid ≤ after.nextUuid) (now : db.now ≤ after.now) : Orderly after where
  rows := same ▸ orderly.rows
  events := same ▸ orderly.events
  numbered := fun row member => by
    obtain ⟨below, number, low, identified⟩ := orderly.numbered row (same ▸ member)
    exact ⟨below.trans_le drawn, number, low.trans_le drawn, identified⟩
  created := same ▸ orderly.created
  past := fun row member => (orderly.past row (same ▸ member)).trans now

/-- Another event is filed. -/
theorem Orderly.file (orderly : Orderly db) {event : OutboxEvent} (filed : event.Filed db)
    (appended : after.outboxEvents = db.outboxEvents ++ [event])
    (drawn : after.nextUuid = db.nextUuid + 2) (now : after.now = db.now) : Orderly after := by
  have fresh_row : event.id ∉ db.outboxEvents.map OutboxEvent.id := fun taken => by
    obtain ⟨row, member, same⟩ := List.mem_map.mp taken
    have below := (orderly.numbered row member).1
    rw [same, filed.numbered] at below
    exact absurd below (Nat.le_succ _).not_gt
  have fresh_event : eventId event.payload ∉
      db.outboxEvents.map fun row => eventId row.payload := fun taken => by
    obtain ⟨row, member, same⟩ := List.mem_map.mp taken
    obtain ⟨-, number, below, identified⟩ := orderly.numbered row member
    rw [eventId_of_identified identified, eventId_of_identified filed.identified] at same
    simp only [List.cons.injEq, Piece.uuid.injEq, and_true] at same
    exact absurd same below.ne
  refine ⟨?_, ?_, fun row member => ?_, ?_, fun row member => ?_⟩
  · rw [appended, List.map_append]
    exact orderly.rows.append (List.nodup_singleton _) (List.disjoint_singleton.mpr fresh_row)
  · rw [appended, List.map_append]
    exact orderly.events.append (List.nodup_singleton _) (List.disjoint_singleton.mpr fresh_event)
  · rw [appended] at member
    rw [drawn]
    rcases List.mem_append.mp member with old | new
    · obtain ⟨below, number, low, identified⟩ := orderly.numbered row old
      exact ⟨Nat.lt_add_right 2 below, number, Nat.lt_add_right 2 low, identified⟩
    · obtain rfl := List.mem_singleton.mp new
      exact ⟨filed.numbered ▸ Nat.lt_succ_self _, db.nextUuid,
        Nat.lt_add_of_pos_right two_pos, filed.identified⟩
  · rw [appended, List.pairwise_append]
    refine ⟨orderly.created, List.pairwise_singleton _ _, fun row old other new => ?_⟩
    obtain rfl := List.mem_singleton.mp new
    rw [filed.created]
    exact orderly.past row old
  · rw [appended] at member
    rw [now]
    rcases List.mem_append.mp member with old | new
    · exact orderly.past row old
    · rw [List.mem_singleton.mp new, filed.created]

/-- What statements of the services do to the outbox: they append rows. -/
structure Files (db after : Database) : Prop where
  orderly : Orderly db → Orderly after
  added : ∃ added, after.outboxEvents = db.outboxEvents ++ added ∧
    ∀ row ∈ added, row.publishedAt = none

theorem Files.of_same (same : after.outboxEvents = db.outboxEvents)
    (drawn : db.nextUuid ≤ after.nextUuid) (now : db.now ≤ after.now) : Files db after :=
  ⟨fun orderly => orderly.later same drawn now, [], by simp [same]⟩

theorem Files.of_filed {event : OutboxEvent} (filed : event.Filed db)
    (appended : after.outboxEvents = db.outboxEvents ++ [event])
    (drawn : after.nextUuid = db.nextUuid + 2) (now : after.now = db.now) : Files db after :=
  ⟨fun orderly => orderly.file filed appended drawn now, [event], appended,
    by simpa using filed.unpublished⟩

instance : Std.Refl Files := ⟨fun _ => .of_same rfl le_rfl le_rfl⟩

instance : IsTrans Database Files where
  trans db middle after head tail := by
    obtain ⟨first, first_eq, first_new⟩ := head.added
    obtain ⟨second, second_eq, second_new⟩ := tail.added
    exact ⟨tail.orderly ∘ head.orderly, first ++ second,
      by rw [second_eq, first_eq, List.append_assoc],
      List.forall_mem_append.mpr ⟨first_new, second_new⟩⟩

theorem files_of_writes {may : Allowance} (writes : RowWrites backend may db after) :
    Files db after := by
  cases writes with
  | uuid => exact .of_same rfl (Nat.le_succ _) le_rfl
  | journal => exact .of_same rfl (Nat.le_succ _) le_rfl
  | trade => exact .of_same rfl (Nat.le_succ _) le_rfl
  | outboxEvent event filed => exact .of_filed filed rfl rfl rfl
  | _ => exact .of_same rfl le_rfl le_rfl

theorem files_of_market {label : MarketLabel} (timely : Timely db label)
    (step : Markets backend market db label after) : Files db after := by
  cases step with
  | house operates =>
      exact related_of_written (fun _ _ => files_of_writes)
        (written_of_operates (allows_everything db) timely operates)
  | update committed =>
      rcases published_of_committed committed with rfl | published
      · exact refl after
      · obtain ⟨event, filed, rest⟩ := published.rest
        rw [rest]
        exact .of_filed filed rfl rfl rfl
  | tick later => exact .of_same rfl le_rfl later

/-- `publish_batch`: the messages of a batch, or the exception that one of them raises. -/
def publishBatch (events : List OutboxEvent) : Sql (List KafkaMessage) :=
  match events.mapM messageOf with
  | .ok messages => pure messages
  | .error failure => Transaction.raise failure

/-- `_process_batch` of the only publisher, where the broker acknowledges all messages. -/
def processBatch (batchSize : ℕ) : Sql (List KafkaMessage) := do
  let db ← Transaction.read
  match fetchUnpublishedBatch db [] batchSize with
  | [] => pure []
  | event :: events => do
      let messages ← publishBatch (event :: events)
      markPublished ((event :: events).map OutboxEvent.id)
      pure messages

/-- Rows that are handed over, and rows that are not yet. -/
structure Split (db : Database) (published pending : List OutboxEvent) : Prop where
  rows : db.outboxEvents = published ++ pending
  published : ∀ row ∈ published, row.publishedAt ≠ none
  pending : ∀ row ∈ pending, row.publishedAt = none

variable {published pending : List OutboxEvent}

/-- A batch is the head of the backlog. -/
theorem Split.fetch (split : Split db published pending) (orderly : Orderly db) (batchSize : ℕ) :
    fetchUnpublishedBatch db [] batchSize = pending.take batchSize := by
  have none_published : (published.filter fun row =>
      row.publishedAt = none ∧ row.id ∉ ([] : List Uuid)) = [] :=
    List.filter_eq_nil_iff.mpr fun row member => by simp [split.published row member]
  have all_pending : (pending.filter fun row =>
      row.publishedAt = none ∧ row.id ∉ ([] : List Uuid)) = pending :=
    List.filter_eq_self.mpr fun row member => by simp [split.pending row member]
  have sorted : pending.Pairwise fun row other => row.createdAt ≤ other.createdAt :=
    orderly.created.sublist (split.rows ▸ List.sublist_append_right ..)
  rw [fetchUnpublishedBatch, split.rows, List.filter_append, none_published, all_pending,
    List.nil_append, sorted.insertionSort_eq]

/-- Every event that has been filed has a message. -/
theorem exists_messageOf (orderly : Orderly db) {event : OutboxEvent}
    (listed : event ∈ db.outboxEvents) : ∃ message, messageOf event = .ok message := by
  obtain ⟨-, number, -, identified⟩ := orderly.numbered event listed
  have header : eventIdHeader event = .ok [.uuid number] := by
    simp only [eventIdHeader, identified, Json.uuid]
  exact ⟨_, messageOf_eq_ok.mpr ⟨_, header, rfl⟩⟩

theorem exists_made {events : List OutboxEvent}
    (sent : ∀ event ∈ events, ∃ message, messageOf event = .ok message) :
    ∃ messages, Made events messages ∧ events.mapM messageOf = .ok messages := by
  induction events with
  | nil => exact ⟨[], rfl, rfl⟩
  | cons event rest induction =>
      obtain ⟨⟨message, head⟩, tail⟩ := List.forall_mem_cons.mp sent
      obtain ⟨messages, made, mapped⟩ := induction tail
      refine ⟨message :: messages, ?_, ?_⟩
      · rw [Made, List.map_cons, List.map_cons, head, made]
      · rw [List.mapM_cons, head, mapped]
        rfl

/-- A row that has been handed over. -/
def OutboxEvent.publishedOn (event : OutboxEvent) (now : Timestamp) : OutboxEvent :=
  { event with publishedAt := some now }

/-- The mark falls on the head of the backlog. -/
theorem Split.marked (split : Split db published pending) (orderly : Orderly db) (count : ℕ) :
    (db.outboxEvents.map fun row =>
        OutboxEvent.mark row ((pending.take count).map OutboxEvent.id) db.now) =
      published ++ (pending.take count).map (OutboxEvent.publishedOn · db.now) ++
        pending.drop count := by
  have distinct : ((published ++ pending.take count ++ pending.drop count).map
      OutboxEvent.id).Nodup := by
    rw [List.append_assoc, List.take_append_drop, ← split.rows]
    exact orderly.rows
  rw [List.map_append, List.map_append, List.nodup_append, List.nodup_append] at distinct
  obtain ⟨⟨-, -, before⟩, -, beyond⟩ := distinct
  have kept : ∀ rows : List OutboxEvent,
      (∀ row ∈ rows, row.id ∉ (pending.take count).map OutboxEvent.id) →
        (rows.map fun row =>
          OutboxEvent.mark row ((pending.take count).map OutboxEvent.id) db.now) = rows := by
    intro rows others
    refine List.map_congr_left (fun row member => ?_) |>.trans (List.map_id' rows)
    rw [OutboxEvent.mark, if_neg (others row member)]
  have handed : (pending.take count).map (fun row =>
      OutboxEvent.mark row ((pending.take count).map OutboxEvent.id) db.now) =
        (pending.take count).map (OutboxEvent.publishedOn · db.now) := by
    apply List.map_congr_left
    intro row member
    rw [OutboxEvent.mark, if_pos (List.mem_map_of_mem member), OutboxEvent.publishedOn]
  rw [split.rows]
  conv_lhs => rw [← List.take_append_drop count pending, ← List.append_assoc]
  rw [List.map_append, List.map_append, List.take_append_drop, kept published, handed,
    kept (pending.drop count)]
  · intro row member taken
    exact beyond _ (List.mem_append_right _ taken) _ (List.mem_map_of_mem member) rfl
  · intro row member taken
    exact before _ (List.mem_map_of_mem member) _ taken rfl

/-- The marked rows are handed over. -/
theorem Split.mark (split : Split db published pending) (orderly : Orderly db) {count : ℕ}
    (marked : after.outboxEvents = db.outboxEvents.map fun row =>
      OutboxEvent.mark row ((pending.take count).map OutboxEvent.id) db.now) :
    Split after (published ++ (pending.take count).map (OutboxEvent.publishedOn · db.now))
      (pending.drop count) where
  rows := marked.trans (split.marked orderly count)
  published := List.forall_mem_append.mpr ⟨split.published, fun row member => by
    obtain ⟨old, -, rfl⟩ := List.mem_map.mp member
    exact Option.some_ne_none _⟩
  pending := fun row member => split.pending row (List.mem_of_mem_drop member)

theorem mark_createdAt (event : OutboxEvent) (eventIds : List Uuid) (now : Timestamp) :
    (OutboxEvent.mark event eventIds now).createdAt = event.createdAt := by
  rw [OutboxEvent.mark]
  split <;> rfl

theorem mark_payload (event : OutboxEvent) (eventIds : List Uuid) (now : Timestamp) :
    (OutboxEvent.mark event eventIds now).payload = event.payload := by
  rw [OutboxEvent.mark]
  split <;> rfl

/-- Marks leave the outbox in order. -/
theorem Orderly.mark (orderly : Orderly db) {eventIds : List Uuid}
    (marked : after.outboxEvents =
      db.outboxEvents.map fun row => OutboxEvent.mark row eventIds db.now)
    (drawn : after.nextUuid = db.nextUuid) (now : after.now = db.now) : Orderly after := by
  refine ⟨?_, ?_, fun row member => ?_, ?_, fun row member => ?_⟩
  · simpa [marked, List.map_map, Function.comp_def] using orderly.rows
  · simpa [marked, List.map_map, Function.comp_def, mark_payload] using orderly.events
  · rw [marked] at member
    obtain ⟨old, there, rfl⟩ := List.mem_map.mp member
    rw [mark_id, mark_payload, drawn]
    exact orderly.numbered old there
  · rw [marked, List.pairwise_map]
    simpa only [mark_createdAt] using orderly.created
  · rw [marked] at member
    obtain ⟨old, there, rfl⟩ := List.mem_map.mp member
    rw [mark_createdAt, now]
    exact orderly.past old there

/-- What a batch has done. -/
structure Handed (batchSize : ℕ) (db : Database) (published pending : List OutboxEvent)
    (messages : List KafkaMessage) (after : Database) : Prop where
  made : Made (pending.take batchSize) messages
  orderly : Orderly after
  split : Split after (published ++ (pending.take batchSize).map (OutboxEvent.publishedOn · db.now))
    (pending.drop batchSize)

/-- A batch succeeds and hands over the head of the backlog. -/
theorem handed_processBatch (split : Split db published pending) (orderly : Orderly db)
    (batchSize : ℕ) :
    ∃ messages after, processBatch batchSize db = .ok (messages, after) ∧
      Handed batchSize db published pending messages after := by
  have listed : ∀ event ∈ pending.take batchSize, ∃ message, messageOf event = .ok message :=
    fun event member => exists_messageOf orderly
      (split.rows ▸ List.mem_append_right _ (List.mem_of_mem_take member))
  obtain ⟨messages, made, mapped⟩ := exists_made listed
  have fetched := split.fetch orderly batchSize
  cases head : pending.take batchSize with
  | nil =>
      rw [head] at made fetched mapped
      obtain rfl : [] = messages := Except.ok.inj mapped
      have unmarked : db.outboxEvents = db.outboxEvents.map fun row =>
          OutboxEvent.mark row ((pending.take batchSize).map OutboxEvent.id) db.now := by
        simp [head, OutboxEvent.mark]
      refine ⟨[], db, ?_, head ▸ made, orderly, split.mark orderly unmarked⟩
      rw [processBatch, Transaction.bind_of_ok (Transaction.read_apply db), fetched]
      rfl
  | cons event events =>
      rw [head] at fetched mapped
      obtain ⟨⟨⟩, after, marked⟩ : ∃ value after,
          markPublished ((event :: events).map OutboxEvent.id) db = .ok (value, after) :=
        ⟨_, _, rfl⟩
      have ran : processBatch batchSize db = .ok (messages, after) := by
        rw [processBatch, Transaction.bind_of_ok (Transaction.read_apply db), fetched]
        simp only [publishBatch, mapped]
        rw [Transaction.bind_of_ok (Transaction.pure_apply messages db),
          Transaction.bind_of_ok marked]
        rfl
      rw [← head] at marked
      cases marked
      exact ⟨messages, _, ran, made, orderly.mark rfl rfl rfl, split.mark orderly rfl⟩

/-- The house, and the messages that its publisher has handed over. -/
structure Backlog where
  committed : Database
  messages : List KafkaMessage

/-- What happens next. -/
inductive BacklogLabel
  | market (label : MarketLabel)
  | batch (batchSize : ℕ)

/-- The house goes on, or the publisher processes a batch. -/
inductive BacklogStep (backend : Backend) (market : Market) :
    Backlog → BacklogLabel → Backlog → Prop
  | market {db after : Database} {messages : List KafkaMessage} {label : MarketLabel}
      (step : Markets backend market db label after) :
      BacklogStep backend market ⟨db, messages⟩ (.market label) ⟨after, messages⟩
  | batch {db after : Database} {messages handed : List KafkaMessage} {batchSize : ℕ}
      (processed : processBatch batchSize db = .ok (handed, after)) :
      BacklogStep backend market ⟨db, messages⟩ (.batch batchSize) ⟨after, messages ++ handed⟩

/-- Nothing but operations in the house. -/
def InTime (state : Backlog) : BacklogLabel → Prop
  | .market label => Timely state.committed label
  | .batch _ => True

/-- The messages are those of the head of the outbox, one for each event, in its order. -/
structure InSequence (state : Backlog) : Prop where
  orderly : Orderly state.committed
  sequence : ∃ published pending, Split state.committed published pending ∧
    Made published state.messages

theorem Made.append {events others : List OutboxEvent} {produced more : List KafkaMessage}
    (made : Made events produced) (made' : Made others more) :
    Made (events ++ others) (produced ++ more) := by
  rw [Made, List.map_append, List.map_append, made, made']

theorem Made.publishedOn {events : List OutboxEvent} {produced : List KafkaMessage}
    (made : Made events produced) (now : Timestamp) :
    Made (events.map (OutboxEvent.publishedOn · now)) produced := by
  rw [Made, List.map_map]
  exact made

theorem InSequence.grow {messages : List KafkaMessage} (sequence : InSequence ⟨db, messages⟩)
    (files : Files db after) : InSequence ⟨after, messages⟩ := by
  obtain ⟨published, pending, split, made⟩ := sequence.sequence
  obtain ⟨added, appended, unpublished⟩ := files.added
  refine ⟨files.orderly sequence.orderly, published, pending ++ added, ⟨?_, split.published, ?_⟩,
    made⟩
  · rw [appended, split.rows, List.append_assoc]
  · exact List.forall_mem_append.mpr ⟨split.pending, unpublished⟩

theorem InSequence.hand {messages handed : List KafkaMessage} {batchSize : ℕ}
    (sequence : InSequence ⟨db, messages⟩)
    (processed : processBatch batchSize db = .ok (handed, after)) :
    InSequence ⟨after, messages ++ handed⟩ := by
  obtain ⟨published, pending, split, made⟩ := sequence.sequence
  obtain ⟨handed', after', ran, hands⟩ := handed_processBatch split sequence.orderly batchSize
  cases processed.symm.trans ran
  exact ⟨hands.orderly, _, _, hands.split, made.append (hands.made.publishedOn _)⟩

theorem inSequence_of_start {first : Database} (orderly : Orderly first)
    (unpublished : ∀ row ∈ first.outboxEvents, row.publishedAt = none) :
    InSequence ⟨first, []⟩ :=
  ⟨orderly, [], first.outboxEvents, ⟨rfl, nofun, unpublished⟩, rfl⟩

theorem inSequence_of_step {before later : Backlog} {label : BacklogLabel}
    (sequence : InSequence before) (inTime : InTime before label)
    (step : BacklogStep backend market before label later) : InSequence later := by
  cases step with
  | market step => exact sequence.grow (files_of_market inTime step)
  | batch processed => exact sequence.hand processed

/-- At all times the messages that have been handed over are those of the head of the outbox. -/
theorem inSequence_of_run {first : Database} {last : Backlog} (orderly : Orderly first)
    (unpublished : ∀ row ∈ first.outboxEvents, row.publishedAt = none)
    (run : Run (BacklogStep backend market) InTime ⟨first, []⟩ last) : InSequence last :=
  run.invariant (fun _ _ _ sequence inTime step => inSequence_of_step sequence inTime step)
    (inSequence_of_start orderly unpublished)

theorem orderly_tradelessHouse : Orderly tradelessHouse :=
  ⟨by decide, by decide, nofun, by decide, nofun⟩

private theorem handed_tradelessHouse :
    ∃ submitted ∈ Session.committedStates
        (called decimalBackend none (tenUnits.body decimalBackend)) tradelessHouse,
      ∃ batch ∈ (processBatch 1 submitted).toOption,
        ∃ novated ∈ Session.committedStates
          (called decimalBackend none (submittedUnits.body decimalBackend)) batch.2,
          batch.1.length = 1 ∧ novated.outboxEvents.length = 2 := by
  decide +kernel

/-- A trade is submitted, its event is handed over, and the trade is novated. -/
theorem handing_tradelessHouse :
    ∃ last, Run (BacklogStep decimalBackend (bitcoinMarket true)) InTime ⟨tradelessHouse, []⟩ last ∧
      last.messages.length = 1 ∧ last.committed.outboxEvents.length = 2 := by
  obtain ⟨submitted, submit, ⟨handed, after⟩, batch, novated, novate, count, events⟩ :=
    handed_tradelessHouse
  have processed : processBatch 1 submitted = .ok (handed, after) := by
    cases ran : processBatch 1 submitted with
    | error => simp [ran, Except.toOption] at batch
    | ok => simpa [ran, Except.toOption] using batch
  have operating : ∀ db operation mark messages,
      InTime ⟨db, messages⟩ (.market (.house (.operation operation mark))) :=
    fun db operation mark _ => operating_operation db operation mark
  have run : Run (BacklogStep decimalBackend (bitcoinMarket true)) InTime ⟨tradelessHouse, []⟩
      ⟨novated, [] ++ handed⟩ :=
    .snoc (.snoc (.snoc (.refl _) (operating _ _ _ _) (.market (.house (.operation submit))))
      (by exact trivial) (.batch processed)) (operating _ _ _ _)
      (.market (.house (.operation novate)))
  exact ⟨_, run, count, events⟩

theorem inSequence_of_run_tradelessHouse :
    ∃ last, last.messages.length = 1 ∧ InSequence last := by
  obtain ⟨last, run, count, -⟩ := handing_tradelessHouse
  exact ⟨last, count, inSequence_of_run orderly_tradelessHouse nofun run⟩

theorem made_of_mapM {events : List OutboxEvent} {messages : List KafkaMessage}
    (mapped : events.mapM messageOf = .ok messages) : Made events messages := by
  induction events generalizing messages with
  | nil =>
      cases mapped
      rfl
  | cons event rest induction =>
      rw [List.mapM_cons] at mapped
      cases head : messageOf event with
      | error failure =>
          rw [head] at mapped
          cases mapped
      | ok message =>
          cases tail : rest.mapM messageOf with
          | error failure =>
              rw [head, tail] at mapped
              cases mapped
          | ok others =>
              rw [head, tail] at mapped
              cases mapped
              rw [Made, List.map_cons, List.map_cons, head, induction tail]

/-- The broker acknowledges each message as it is produced. -/
theorem run_producing {batch remaining : List OutboxEvent}
    {produced messages acknowledged : List KafkaMessage} (made : Made remaining messages) :
    Run PublishStep Confirmed
      ⟨db, [⟨[], .producing batch remaining produced⟩], acknowledged⟩
      ⟨db, [⟨[], .producing batch [] (produced ++ messages)⟩], acknowledged ++ messages⟩ := by
  induction remaining generalizing produced messages acknowledged with
  | nil =>
      obtain rfl : messages = [] := List.map_eq_nil_iff.mp made.symm
      simpa using Run.refl _
  | cons event rest induction =>
      cases messages with
      | nil => cases made
      | cons message others =>
          obtain ⟨head, tail⟩ := List.cons.inj made
          have produce : PublishStep
              ⟨db, [⟨[], .producing batch (event :: rest) produced⟩], acknowledged⟩ (.produce 0)
              ⟨db, [⟨[] ++ [message], .producing batch rest (produced ++ [message])⟩],
                acknowledged⟩ := .produce [] [] rfl head
          have received : Run PublishStep Confirmed
              ⟨db, [⟨[], .producing batch (event :: rest) produced⟩], acknowledged⟩
              ⟨db, [⟨[], .producing batch rest (produced ++ [message])⟩],
                acknowledged ++ [message]⟩ :=
            .snoc (.snoc (.refl _) (by exact trivial) produce) (by exact trivial)
              (.acknowledge [] [] [] [] rfl)
          have others := received.trans (induction tail)
          rwa [List.append_assoc, List.append_assoc] at others

/-- A batch of the only publisher is a run of the system of publishers. -/
theorem run_processBatch {batchSize : ℕ} {handed acknowledged : List KafkaMessage}
    (processed : processBatch batchSize db = .ok (handed, after)) :
    Run PublishStep Confirmed ⟨db, [⟨[], .idle⟩], acknowledged⟩
      ⟨after, [⟨[], .idle⟩], acknowledged ++ handed⟩ := by
  have fetched : Run PublishStep Confirmed ⟨db, [⟨[], .idle⟩], acknowledged⟩
      ⟨db, [⟨[], .fetched (fetchUnpublishedBatch db [] batchSize)⟩], acknowledged⟩ :=
    .snoc (.refl _) (by exact trivial) (.fetch [] [] rfl)
  rw [processBatch, Transaction.bind_of_ok (Transaction.read_apply db)] at processed
  cases events : fetchUnpublishedBatch db [] batchSize with
  | nil =>
      rw [events] at processed fetched
      cases processed
      simpa [Stage.fetched] using fetched
  | cons event rest =>
      rw [events] at processed fetched
      obtain ⟨messages, _, published, marking⟩ := bind_eq_ok.mp processed
      cases mapped : (event :: rest).mapM messageOf with
      | error failure =>
          simp only [publishBatch, mapped] at published
          cases published
      | ok made =>
          simp only [publishBatch, mapped] at published
          cases published
          obtain ⟨⟨⟩, marked, marks, done⟩ := bind_eq_ok.mp marking
          cases done
          have flushed := Run.snoc (fetched.trans (run_producing (made_of_mapM mapped)))
            (by exact trivial) (.flush [] [] rfl)
          refine .snoc flushed ?_ (.commit [] [] rfl marks)
          intro publisher there message member
          cases there
          exact List.mem_append_right _ member

/-- The house and its publisher are a run of the system of publishers in which every commit finds
its messages acknowledged. -/
theorem publication_of_run {first last : Backlog} (sequence : InSequence first)
    (run : Run (BacklogStep backend market) InTime first last) :
    InSequence last ∧ Run PublishStep Confirmed
      ⟨first.committed, [⟨[], .idle⟩], first.messages⟩
      ⟨last.committed, [⟨[], .idle⟩], last.messages⟩ := by
  induction run with
  | refl => exact ⟨sequence, .refl _⟩
  | snoc _ inTime step induction =>
      obtain ⟨sequence, reached⟩ := induction
      cases step with
      | market step =>
          have files := files_of_market inTime step
          obtain ⟨added, appended, unpublished⟩ := files.added
          have later := sequence.grow files
          exact ⟨later, .snoc reached (by exact trivial)
            (.elsewhere appended unpublished later.orderly.rows)⟩
      | batch processed =>
          exact ⟨sequence.hand processed, reached.trans (run_processBatch processed)⟩

/-- Some rounds of `poll_and_publish`. -/
def processBatches (batchSize : ℕ) : ℕ → Sql (List KafkaMessage)
  | 0 => pure []
  | rounds + 1 => do
      let handed ← processBatch batchSize
      let others ← processBatches batchSize rounds
      pure (handed ++ others)

/-- Every round succeeds and hands over as much of the backlog as fits. -/
theorem handed_processBatches (split : Split db published pending) (orderly : Orderly db)
    (batchSize rounds : ℕ) :
    ∃ handed after, processBatches batchSize rounds db = .ok (handed, after) ∧
      Made (pending.take (rounds * batchSize)) handed ∧
        ∃ published', Split after published' (pending.drop (rounds * batchSize)) := by
  induction rounds generalizing db published pending with
  | zero => exact ⟨[], db, rfl, by simp [Made], published, by simpa using split⟩
  | succ rounds induction =>
      obtain ⟨handed, middle, first, hands⟩ := handed_processBatch split orderly batchSize
      obtain ⟨others, after, rest, made, published', split'⟩ :=
        induction hands.split hands.orderly
      refine ⟨handed ++ others, after, ?_, ?_, published', ?_⟩
      · rw [processBatches, Transaction.bind_of_ok first, Transaction.bind_of_ok rest]
        rfl
      · rw [Nat.succ_mul, Nat.add_comm, List.take_add]
        exact hands.made.append made
      · rwa [Nat.succ_mul, Nat.add_comm, ← List.drop_drop]

/-- Enough rounds publish everything, in order and once. -/
theorem drained_of_run {first : Database} {last : Backlog} (orderly : Orderly first)
    (unpublished : ∀ row ∈ first.outboxEvents, row.publishedAt = none)
    (run : Run (BacklogStep backend market) InTime ⟨first, []⟩ last) {batchSize rounds : ℕ}
    (enough : (last.committed.outboxEvents.countP fun row => row.publishedAt = none) ≤
      rounds * batchSize) :
    ∃ handed after, processBatches batchSize rounds last.committed = .ok (handed, after) ∧
      (∀ row ∈ after.outboxEvents, row.publishedAt ≠ none) ∧
        Made last.committed.outboxEvents (last.messages ++ handed) := by
  have sequence : InSequence last :=
    run.invariant (fun _ _ _ sequence inTime step => inSequence_of_step sequence inTime step)
      (inSequence_of_start orderly unpublished)
  obtain ⟨published, pending, split, made⟩ := sequence.sequence
  obtain ⟨handed, after, ran, others, published', split'⟩ :=
    handed_processBatches split sequence.orderly batchSize rounds
  have few : pending.length ≤ rounds * batchSize := by
    have counted : (last.committed.outboxEvents.countP fun row => row.publishedAt = none) =
        pending.length := by
      rw [split.rows, List.countP_append, List.countP_eq_zero.mpr, List.countP_eq_length.mpr,
        Nat.zero_add]
      · exact fun row member => decide_eq_true (split.pending row member)
      · exact fun row member marked => split.published row member (of_decide_eq_true marked)
    exact counted ▸ enough
  rw [List.take_of_length_le few] at others
  rw [List.drop_of_length_le few] at split'
  refine ⟨handed, after, ran, ?_, ?_⟩
  · rw [split'.rows, List.append_nil]
    exact split'.published
  · rw [split.rows]
    exact made.append others

/-- One round more for the novation. -/
theorem drained_of_run_tradelessHouse :
    ∃ (last : Backlog) (handed : List KafkaMessage) (after : Database), last.messages.length = 1 ∧
      processBatches 100 1 last.committed = .ok (handed, after) ∧
        (∀ row ∈ after.outboxEvents, row.publishedAt ≠ none) ∧
          Made last.committed.outboxEvents (last.messages ++ handed) := by
  obtain ⟨last, run, count, events⟩ := handing_tradelessHouse
  have enough : (last.committed.outboxEvents.countP fun row => row.publishedAt = none) ≤
      1 * 100 := List.countP_le_length.trans (by rw [events]; decide)
  obtain ⟨handed, after, drained⟩ := drained_of_run orderly_tradelessHouse nofun run enough
  exact ⟨last, handed, after, count, drained⟩

end Outbox

end ClearingHouse
