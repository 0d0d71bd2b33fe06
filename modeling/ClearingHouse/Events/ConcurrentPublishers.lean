import ClearingHouse.Events.Publisher

/-!
# Concurrent publishers

Instances of the publisher fetch their batches row by row: a row that another instance has locked is
skipped, and a row that has been published since the statement started is found out when it is
locked.  So no two instances have a row at a time, and nobody has a row that is published.
-/

namespace ClearingHouse

namespace Outbox

open StepSystem Transactions

/-- How far an instance has come with a batch: the rows its statement has still to visit, those it
has locked and how many more it may take; the rows that are locked and those still to be produced;
the rows that are produced, and marked. -/
inductive BatchStage
  | idle
  | scanning (ahead batch : List OutboxEvent) (room : ℕ)
  | producing (produced remaining : List OutboxEvent)
  | flushed (produced : List OutboxEvent)
  | marked (produced : List OutboxEvent)

namespace BatchStage

/-- The rows of the batch that have been handed to Kafka. -/
def produced : BatchStage → List OutboxEvent
  | .idle | .scanning _ _ _ => []
  | .producing produced _ | .flushed produced | .marked produced => produced

/-- The locked rows that have not been handed to Kafka. -/
def unproduced : BatchStage → List OutboxEvent
  | .idle | .flushed _ | .marked _ => []
  | .scanning _ batch _ => batch
  | .producing _ remaining => remaining

/-- The rows that the open transaction has locked. -/
def locked (stage : BatchStage) : List Uuid :=
  (stage.produced ++ stage.unproduced).map OutboxEvent.id

/-- The statement returns: without rows the transaction is rolled back. -/
def returned : List OutboxEvent → BatchStage
  | [] => .idle
  | event :: batch => .producing [] (event :: batch)

end BatchStage

/-- The committed database, the instances, and what has been handed to Kafka: the row, and whether
it was committed as published at that time. -/
structure Fleet where
  committed : Database
  instances : List BatchStage
  handed : List (Uuid × Bool)

/-- The rows that some instance has locked. -/
def Fleet.locked (fleet : Fleet) : List Uuid := fleet.instances.flatMap BatchStage.locked

/-- A row is committed as published. -/
def isPublished (db : Database) (id : Uuid) : Bool :=
  db.outboxEvents.any fun event => event.id = id ∧ event.publishedAt ≠ none

/-- The rows that `fetch_unpublished_batch` sees when it starts, in their order. -/
def unpublishedRows (db : Database) : List OutboxEvent :=
  (db.outboxEvents.filter fun event => event.publishedAt = none).insertionSort
    fun first second => first.createdAt ≤ second.createdAt

/-- What happens next.  An instance is numbered by its position. -/
inductive FleetLabel
  | start
  | select (position batchSize : ℕ)
  | visit (position : ℕ)
  | finish (position : ℕ)
  | produce (position : ℕ)
  | flush (position : ℕ)
  | mark (position : ℕ)
  | commit (position : ℕ)
  | rollback (position : ℕ)
  | crash (position : ℕ)
  | elsewhere

/-- One step of an instance or of the services that write to the outbox. -/
inductive FleetStep : Fleet → FleetLabel → Fleet → Prop
  | start {fleet : Fleet} :
      FleetStep fleet .start { fleet with instances := fleet.instances ++ [.idle] }
  /-- `fetch_unpublished_batch` starts. -/
  | select {fleet : Fleet} (front back : List BatchStage) {batchSize : ℕ}
      (instances : fleet.instances = front ++ .idle :: back) :
      FleetStep fleet (.select front.length batchSize)
        { fleet with
          instances := front ++ .scanning (unpublishedRows fleet.committed) [] batchSize :: back }
  /-- It locks the next row, whose latest version is still unpublished. -/
  | lock {fleet : Fleet} (front back : List BatchStage) {event row : OutboxEvent}
      {ahead batch : List OutboxEvent} {room : ℕ}
      (instances : fleet.instances =
        front ++ .scanning (event :: ahead) batch (room + 1) :: back)
      (unlocked : event.id ∉ fleet.locked) (latest : row ∈ fleet.committed.outboxEvents)
      (same : row.id = event.id) (unpublished : row.publishedAt = none) :
      FleetStep fleet (.visit front.length)
        { fleet with instances := front ++ .scanning ahead (batch ++ [row]) room :: back }
  /-- It skips the next row, which is locked or published. -/
  | skip {fleet : Fleet} (front back : List BatchStage) {event : OutboxEvent}
      {ahead batch : List OutboxEvent} {room : ℕ}
      (instances : fleet.instances =
        front ++ .scanning (event :: ahead) batch (room + 1) :: back)
      (unavailable : event.id ∈ fleet.locked ∨ isPublished fleet.committed event.id = true) :
      FleetStep fleet (.visit front.length)
        { fleet with instances := front ++ .scanning ahead batch (room + 1) :: back }
  /-- It returns what it has locked, at the end of the rows or at the limit. -/
  | finish {fleet : Fleet} (front back : List BatchStage) {ahead batch : List OutboxEvent}
      {room : ℕ} (instances : fleet.instances = front ++ .scanning ahead batch room :: back)
      (ended : ahead = [] ∨ room = 0) :
      FleetStep fleet (.finish front.length)
        { fleet with instances := front ++ .returned batch :: back }
  /-- `producer.produce`. -/
  | produce {fleet : Fleet} (front back : List BatchStage) {event : OutboxEvent}
      {produced remaining : List OutboxEvent} {message : KafkaMessage}
      (instances : fleet.instances = front ++ .producing produced (event :: remaining) :: back)
      (made : messageOf event = .ok message) :
      FleetStep fleet (.produce front.length)
        { fleet with
          instances := front ++ .producing (produced ++ [event]) remaining :: back
          handed := fleet.handed ++ [(event.id, isPublished fleet.committed event.id)] }
  | flush {fleet : Fleet} (front back : List BatchStage) {produced : List OutboxEvent}
      (instances : fleet.instances = front ++ .producing produced [] :: back) :
      FleetStep fleet (.flush front.length)
        { fleet with instances := front ++ .flushed produced :: back }
  /-- `mark_published`; nobody else sees the update yet. -/
  | mark {fleet : Fleet} (front back : List BatchStage) {produced : List OutboxEvent}
      (instances : fleet.instances = front ++ .flushed produced :: back) :
      FleetStep fleet (.mark front.length)
        { fleet with instances := front ++ .marked produced :: back }
  | commit {fleet : Fleet} (front back : List BatchStage) {produced : List OutboxEvent}
      {after : Database} (instances : fleet.instances = front ++ .marked produced :: back)
      (marked : markPublished (produced.map OutboxEvent.id) fleet.committed = .ok ((), after)) :
      FleetStep fleet (.commit front.length)
        { fleet with committed := after, instances := front ++ .idle :: back }
  /-- A statement, `produce` or the commit raises. -/
  | rollback {fleet : Fleet} (front back : List BatchStage) {stage : BatchStage}
      (instances : fleet.instances = front ++ stage :: back) :
      FleetStep fleet (.rollback front.length)
        { fleet with instances := front ++ .idle :: back }
  | crash {fleet : Fleet} (front back : List BatchStage) {stage : BatchStage}
      (instances : fleet.instances = front ++ stage :: back) :
      FleetStep fleet (.crash front.length) { fleet with instances := front ++ back }
  /-- The services commit, and append rows to the outbox. -/
  | elsewhere {fleet : Fleet} {after : Database} {added : List OutboxEvent}
      (appended : after.outboxEvents = fleet.committed.outboxEvents ++ added)
      (unpublished : ∀ event ∈ added, event.publishedAt = none)
      (keyed : (after.outboxEvents.map OutboxEvent.id).Nodup) :
      FleetStep fleet .elsewhere { fleet with committed := after }

/-- No instance crashes or rolls back after it has produced. -/
def Steady (fleet : Fleet) : FleetLabel → Prop
  | .rollback position | .crash position =>
      ∀ stage, fleet.instances[position]? = some stage → stage.produced = []
  | _ => True

/-- Every row is locked by one instance at most, no locked row is published, and nothing has been
handed to Kafka that was published. -/
structure Held (fleet : Fleet) : Prop where
  keyed : (fleet.committed.outboxEvents.map OutboxEvent.id).Nodup
  exclusive : fleet.locked.Nodup
  unpublished : ∀ id ∈ fleet.locked, isPublished fleet.committed id = false
  present : ∀ id ∈ fleet.locked, id ∈ fleet.committed.outboxEvents.map OutboxEvent.id
  handed : ∀ entry ∈ fleet.handed, entry.2 = false

variable {fleet before after : Fleet} {label : FleetLabel} {front back : List BatchStage}
  {stage stage' : BatchStage}

theorem locked_perm (front back : List BatchStage) (stage : BatchStage) :
    ((front ++ stage :: back).flatMap BatchStage.locked).Perm
      (stage.locked ++ (front ++ back).flatMap BatchStage.locked) :=
  List.Perm.flatMap_right BatchStage.locked List.perm_middle

theorem isPublished_eq_false {db : Database} {id : Uuid} :
    isPublished db id = false ↔
      ∀ event ∈ db.outboxEvents, event.id = id → event.publishedAt = none := by
  simp [isPublished]

/-- An instance goes on with locks it has or with an unpublished row that was not locked. -/
theorem Held.replace (held : Held fleet) (instances : fleet.instances = front ++ stage :: back)
    (added : List Uuid) (locked : List.Subperm stage'.locked (added ++ stage.locked))
    (free : (added ++ fleet.locked).Nodup)
    (unpublished : ∀ id ∈ added, isPublished fleet.committed id = false)
    (present : ∀ id ∈ added, id ∈ fleet.committed.outboxEvents.map OutboxEvent.id) :
    Held { fleet with instances := front ++ stage' :: back } := by
  have split : fleet.locked.Perm (stage.locked ++ (front ++ back).flatMap BatchStage.locked) := by
    rw [Fleet.locked, instances]
    exact locked_perm front back stage
  have within : List.Subperm ((front ++ stage' :: back).flatMap BatchStage.locked)
      (added ++ fleet.locked) := by
    apply (locked_perm front back stage').subperm.trans
    apply (locked.append (List.Subperm.refl _)).trans
    rw [List.append_assoc]
    exact (split.symm.append_left added).subperm
  obtain ⟨rows, permuted, sublist⟩ := within
  refine ⟨held.keyed, permuted.nodup_iff.mp (free.sublist sublist), fun id member => ?_,
    fun id member => ?_, held.handed⟩
  · rcases List.mem_append.mp (sublist.subset (permuted.mem_iff.mpr member)) with new | old
    · exact unpublished id new
    · exact held.unpublished id old
  · rcases List.mem_append.mp (sublist.subset (permuted.mem_iff.mpr member)) with new | old
    · exact present id new
    · exact held.present id old

/-- An instance goes on with some of its locks. -/
theorem Held.keep (held : Held fleet) (instances : fleet.instances = front ++ stage :: back)
    (locked : List.Subperm stage'.locked stage.locked) :
    Held { fleet with instances := front ++ stage' :: back } :=
  held.replace instances [] locked held.exclusive (by simp) (by simp)

theorem mem_locked (instances : fleet.instances = front ++ stage :: back) {id : Uuid}
    (mine : id ∈ stage.locked) : id ∈ fleet.locked := by
  rw [Fleet.locked, instances]
  exact List.mem_flatMap.mpr ⟨stage, by simp, mine⟩

/-- The rows of a batch are those of the committed table with the mark set. -/
theorem isPublished_markPublished {db after : Database} {ids : List Uuid}
    (marked : markPublished ids db = .ok ((), after)) (id : Uuid) :
    isPublished after id =
      (isPublished db id ||
        decide (id ∈ ids ∧ id ∈ db.outboxEvents.map OutboxEvent.id)) := by
  cases marked
  rw [Bool.eq_iff_iff]
  simp only [isPublished, List.any_map, List.any_eq_true, Bool.or_eq_true, decide_eq_true_eq,
    Function.comp_apply, mark_id, List.mem_map]
  constructor
  · rintro ⟨event, inside, rfl, marked⟩
    by_cases chosen : event.id ∈ ids
    · exact .inr ⟨chosen, event, inside, rfl⟩
    · rw [OutboxEvent.mark, if_neg chosen] at marked
      exact .inl ⟨event, inside, rfl, marked⟩
  · rintro (⟨event, inside, rfl, marked⟩ | ⟨chosen, event, inside, rfl⟩)
    · refine ⟨event, inside, rfl, ?_⟩
      rw [OutboxEvent.mark]
      split
      · simp
      · exact marked
    · exact ⟨event, inside, rfl, by simp [OutboxEvent.mark, chosen]⟩

theorem ids_markPublished {db after : Database} {ids : List Uuid}
    (marked : markPublished ids db = .ok ((), after)) :
    after.outboxEvents.map OutboxEvent.id = db.outboxEvents.map OutboxEvent.id := by
  cases marked
  simp [List.map_map, Function.comp_def]

theorem held_step (held : Held before) (step : FleetStep before label after) : Held after := by
  cases step with
  | start =>
      have same : Fleet.locked { before with instances := before.instances ++ [.idle] } =
          before.locked := by
        simp [Fleet.locked, BatchStage.locked, BatchStage.produced, BatchStage.unproduced]
      exact ⟨held.keyed, same ▸ held.exclusive, same ▸ held.unpublished, same ▸ held.present,
        held.handed⟩
  | select front back instances => exact held.keep instances (List.nil_subperm)
  | @lock front back event row ahead batch room instances unlocked latest same unpublished =>
      refine held.replace instances [row.id] ?_ ?_ ?_ ?_
      · simpa [BatchStage.locked, BatchStage.produced, BatchStage.unproduced] using
          (List.perm_append_singleton row.id (batch.map OutboxEvent.id)).subperm
      · exact List.nodup_cons.mpr ⟨same ▸ unlocked, held.exclusive⟩
      · intro id member
        rw [List.mem_singleton.mp member, isPublished_eq_false]
        intro other inside same_id
        rw [List.inj_on_of_nodup_map held.keyed inside latest same_id]
        exact unpublished
      · intro id member
        rw [List.mem_singleton.mp member]
        exact List.mem_map_of_mem latest
  | skip front back instances unavailable => exact held.keep instances (List.Subperm.refl _)
  | @finish front back ahead batch room instances ended =>
      apply held.keep instances
      cases batch with
      | nil => exact List.nil_subperm
      | cons event batch => exact List.Subperm.refl _
  | @produce front back event produced remaining message instances made =>
      have kept : Held { before with
          instances := front ++ .producing (produced ++ [event]) remaining :: back } := by
        apply held.keep instances
        simp [BatchStage.locked, BatchStage.produced, BatchStage.unproduced, List.Subperm.refl]
      have mine : event.id ∈ before.locked := mem_locked instances
        (by simp [BatchStage.locked, BatchStage.produced, BatchStage.unproduced])
      refine ⟨kept.keyed, kept.exclusive, kept.unpublished, kept.present, fun entry member => ?_⟩
      rcases List.mem_append.mp member with old | new
      · exact held.handed entry old
      · rw [List.mem_singleton.mp new]
        exact held.unpublished event.id mine
  | flush front back instances =>
      apply held.keep instances
      simp [BatchStage.locked, BatchStage.produced, BatchStage.unproduced, List.Subperm.refl]
  | mark front back instances => exact held.keep instances (List.Subperm.refl _)
  | @commit front back produced after instances marked =>
      have released : Held { before with instances := front ++ .idle :: back } :=
        held.keep instances List.nil_subperm
      refine ⟨?_, released.exclusive, fun id member => ?_, fun id member => ?_, held.handed⟩
      · rw [ids_markPublished marked]
        exact held.keyed
      · -- What the others have locked is not in this batch.
        rw [isPublished_markPublished marked, released.unpublished id member, Bool.false_or,
          decide_eq_false_iff_not]
        rintro ⟨chosen, -⟩
        have split := held.exclusive
        rw [Fleet.locked, instances, (locked_perm front back _).nodup_iff,
          List.nodup_append] at split
        have theirs : id ∈ (front ++ back).flatMap BatchStage.locked := by
          have inside := (locked_perm front back .idle).mem_iff.mp member
          simpa [BatchStage.locked, BatchStage.produced, BatchStage.unproduced] using inside
        exact split.2.2 id (by
          simpa [BatchStage.locked, BatchStage.produced, BatchStage.unproduced] using chosen)
          id theirs rfl
      · rw [ids_markPublished marked]
        exact released.present id member
  | rollback front back instances => exact held.keep instances List.nil_subperm
  | @crash front back stage instances =>
      have sublist : List.Sublist ((front ++ back).flatMap BatchStage.locked) before.locked := by
        rw [Fleet.locked, instances]
        exact (List.Sublist.append_left (List.sublist_cons_self _ _) front).flatMap _
      exact ⟨held.keyed, held.exclusive.sublist sublist,
        fun id member => held.unpublished id (sublist.subset member),
        fun id member => held.present id (sublist.subset member), held.handed⟩
  | @elsewhere after added appended unpublished keyed =>
      have published : ∀ id, isPublished after id = isPublished before.committed id := by
        intro id
        have none_new : added.any (fun event => event.id = id ∧ event.publishedAt ≠ none) =
            false := by
          rw [List.any_eq_false]
          intro event member
          simp [unpublished event member]
        rw [isPublished, appended, List.any_append, none_new, Bool.or_false]
        rfl
      refine ⟨keyed, held.exclusive, fun id member => ?_, fun id member => ?_, held.handed⟩
      · rw [published]
        exact held.unpublished id member
      · rw [appended, List.map_append]
        exact List.mem_append_left _ (held.present id member)

/-- The rows that have been handed to Kafka in a batch that is still open. -/
def producedIds (instances : List BatchStage) : List Uuid :=
  instances.flatMap fun stage => stage.produced.map OutboxEvent.id

/-- Every row has been handed to Kafka once if it is published or in an open batch, and else not at
all. -/
structure Counted (fleet : Fleet) : Prop extends Held fleet where
  counts : ∀ id, (fleet.handed.map Prod.fst).count id =
    (if isPublished fleet.committed id then 1 else 0) + (producedIds fleet.instances).count id

theorem count_producedIds (front back : List BatchStage) (stage : BatchStage) (id : Uuid) :
    (producedIds (front ++ stage :: back)).count id =
      (stage.produced.map OutboxEvent.id).count id + (producedIds (front ++ back)).count id := by
  simp only [producedIds, List.flatMap_append, List.flatMap_cons, List.count_append]
  omega

/-- An instance goes on without producing. -/
theorem Counted.keep (counted : Counted fleet)
    (instances : fleet.instances = front ++ stage :: back)
    (held : Held { fleet with instances := front ++ stage' :: back })
    (produced : stage'.produced = stage.produced) :
    Counted { fleet with instances := front ++ stage' :: back } := by
  refine ⟨held, fun id => ?_⟩
  rw [counted.counts id, instances, count_producedIds, count_producedIds, produced]

theorem getElem?_middle (front back : List BatchStage) (stage : BatchStage) :
    (front ++ stage :: back)[front.length]? = some stage := by
  simp

theorem counted_step (counted : Counted before) (steady : Steady before label)
    (step : FleetStep before label after) : Counted after := by
  have held := held_step counted.toHeld step
  cases step with
  | start =>
      refine ⟨held, fun id => ?_⟩
      rw [counted.counts id]
      simp [producedIds, BatchStage.produced]
  | select front back instances => exact counted.keep instances held rfl
  | lock front back instances unlocked latest same unpublished =>
      exact counted.keep instances held rfl
  | skip front back instances unavailable => exact counted.keep instances held rfl
  | @finish front back ahead batch room instances ended =>
      apply counted.keep instances held
      cases batch <;> rfl
  | @produce front back event produced remaining message instances made =>
      refine ⟨held, fun id => ?_⟩
      have counts := counted.counts id
      rw [instances, count_producedIds] at counts
      rw [count_producedIds]
      simp only [BatchStage.produced, List.map_append, List.map_cons, List.map_nil,
        List.count_append] at counts ⊢
      omega
  | flush front back instances => exact counted.keep instances held rfl
  | mark front back instances => exact counted.keep instances held rfl
  | @commit front back produced after instances marked =>
      refine ⟨held, fun id => ?_⟩
      have counts := counted.counts id
      rw [instances, count_producedIds] at counts
      rw [count_producedIds, counts, isPublished_markPublished marked]
      have mine : ∀ id, id ∈ produced.map OutboxEvent.id → id ∈ before.locked := fun id member =>
        mem_locked instances
          (by simpa [BatchStage.locked, BatchStage.produced, BatchStage.unproduced] using member)
      by_cases chosen : id ∈ produced.map OutboxEvent.id
      · have once : (produced.map OutboxEvent.id).count id = 1 := by
          have distinct := counted.exclusive
          rw [Fleet.locked, instances, (locked_perm front back _).nodup_iff,
            List.nodup_append] at distinct
          refine List.count_eq_one_of_mem ?_ chosen
          simpa [BatchStage.locked, BatchStage.produced, BatchStage.unproduced] using distinct.1
        have there : id ∈ before.committed.outboxEvents.map OutboxEvent.id :=
          counted.present id (mine id chosen)
        have fresh : isPublished before.committed id = false :=
          counted.unpublished id (mine id chosen)
        have now_published :
            decide (id ∈ produced.map OutboxEvent.id ∧
              id ∈ before.committed.outboxEvents.map OutboxEvent.id) = true :=
          decide_eq_true ⟨chosen, there⟩
        rw [fresh, now_published]
        simp [BatchStage.produced, once]
      · have none : (produced.map OutboxEvent.id).count id = 0 :=
          List.count_eq_zero_of_not_mem chosen
        have not_now :
            decide (id ∈ produced.map OutboxEvent.id ∧
              id ∈ before.committed.outboxEvents.map OutboxEvent.id) = false :=
          decide_eq_false fun both => chosen both.1
        rw [not_now, Bool.or_false]
        simp [BatchStage.produced, none]
  | @rollback front back stage instances =>
      have nothing : stage.produced = [] := steady stage (by rw [instances, getElem?_middle])
      exact counted.keep instances held nothing.symm
  | @crash front back stage instances =>
      have nothing : stage.produced = [] := steady stage (by rw [instances, getElem?_middle])
      refine ⟨held, fun id => ?_⟩
      rw [counted.counts id, instances, count_producedIds, nothing]
      simp
  | @elsewhere after added appended unpublished keyed =>
      have published : ∀ id, isPublished after id = isPublished before.committed id := by
        intro id
        have none_new : added.any (fun event => event.id = id ∧ event.publishedAt ≠ none) =
            false := by
          rw [List.any_eq_false]
          intro event member
          simp [unpublished event member]
        rw [isPublished, appended, List.any_append, none_new, Bool.or_false]
        rfl
      refine ⟨held, fun id => ?_⟩
      rw [published]
      exact counted.counts id

/-- A published row has been handed to Kafka once, and any other row at most once. -/
structure HandedOnce (fleet : Fleet) : Prop where
  published : ∀ event ∈ fleet.committed.outboxEvents, event.publishedAt ≠ none →
    (fleet.handed.map Prod.fst).count event.id = 1
  unpublished : ∀ event ∈ fleet.committed.outboxEvents, event.publishedAt = none →
    (fleet.handed.map Prod.fst).count event.id ≤ 1

theorem nodup_producedIds (held : Held fleet) : (producedIds fleet.instances).Nodup := by
  refine held.exclusive.sublist ?_
  rw [Fleet.locked, producedIds]
  apply List.Sublist.flatMap_right _
  intro stage _
  rw [BatchStage.locked, List.map_append]
  exact List.sublist_append_left _ _

theorem Counted.handedOnce (counted : Counted fleet) : HandedOnce fleet := by
  have at_most := fun id =>
    List.nodup_iff_count_le_one.mp (nodup_producedIds counted.toHeld) id
  refine ⟨fun event member marked => ?_, fun event member unmarked => ?_⟩
  · have published : isPublished fleet.committed event.id = true := by
      simp only [isPublished, List.any_eq_true, decide_eq_true_eq]
      exact ⟨event, member, rfl, marked⟩
    have free : event.id ∉ producedIds fleet.instances := by
      intro inside
      obtain ⟨stage, there, produced⟩ := List.mem_flatMap.mp inside
      have locked : event.id ∈ fleet.locked := by
        refine List.mem_flatMap.mpr ⟨stage, there, ?_⟩
        rw [BatchStage.locked, List.map_append]
        exact List.mem_append_left _ produced
      rw [counted.unpublished event.id locked] at published
      cases published
    rw [counted.counts, published, List.count_eq_zero_of_not_mem free]
    rfl
  · have not_published : isPublished fleet.committed event.id = false := by
      rw [isPublished_eq_false]
      intro other inside same
      rw [List.inj_on_of_nodup_map counted.keyed inside member same]
      exact unmarked
    rw [counted.counts, not_published]
    simpa using at_most event.id

/-- However many instances run, nothing is handed to Kafka that is published, and while none of them
crashes or rolls back after producing, a published row has been handed over once. -/
theorem handedOnce_of_run {first last : Fleet}
    (keyed : (first.committed.outboxEvents.map OutboxEvent.id).Nodup)
    (unpublished : ∀ event ∈ first.committed.outboxEvents, event.publishedAt = none)
    (nobody : first.instances = []) (nothing : first.handed = [])
    (run : Run FleetStep unrestricted first last) :
    (∀ entry ∈ last.handed, entry.2 = false) ∧
      (Run FleetStep Steady first last → HandedOnce last) := by
  have held : Held first := by
    refine ⟨keyed, ?_, ?_, ?_, ?_⟩ <;> simp [Fleet.locked, nobody, nothing]
  have counted : Counted first := by
    refine ⟨held, fun id => ?_⟩
    have fresh : isPublished first.committed id = false :=
      isPublished_eq_false.mpr fun event member _ => unpublished event member
    simp [fresh, nobody, nothing, producedIds]
  exact ⟨(run.invariant (fun _ _ _ held _ step => held_step held step) held).handed,
    fun steady => (steady.invariant
      (fun _ _ _ counted permitted step => counted_step counted permitted step)
      counted).handedOnce⟩

/-- Of two instances whose statements see the event of the house, one locks and publishes it and the
other skips it. -/
private theorem published_outboxHouse :
    Run FleetStep Steady ⟨outboxHouse, [], []⟩ ⟨publishedHouse, [.idle, .idle], [(4, false)]⟩ := by
  have rows : unpublishedRows outboxHouse = outboxHouse.outboxEvents := by decide +kernel
  have first : Run FleetStep Steady ⟨outboxHouse, [], []⟩ ⟨outboxHouse, [.idle], []⟩ :=
    .snoc (.refl _) (by exact trivial) .start
  have second : Run FleetStep Steady ⟨outboxHouse, [], []⟩ ⟨outboxHouse, [.idle, .idle], []⟩ :=
    .snoc first (by exact trivial) .start
  have selected : Run FleetStep Steady ⟨outboxHouse, [], []⟩
      ⟨outboxHouse, [.scanning (unpublishedRows outboxHouse) [] 100, .idle], []⟩ :=
    .snoc second (by exact trivial) (.select [] [.idle] rfl)
  have both : Run FleetStep Steady ⟨outboxHouse, [], []⟩
      ⟨outboxHouse, [.scanning (unpublishedRows outboxHouse) [] 100,
        .scanning (unpublishedRows outboxHouse) [] 100], []⟩ :=
    .snoc selected (by exact trivial)
      (.select [.scanning (unpublishedRows outboxHouse) [] 100] [] rfl)
  rw [rows] at both
  have locked := Run.snoc both (by exact trivial)
    (.lock [] [.scanning outboxHouse.outboxEvents [] 100] rfl (by decide)
      (List.mem_singleton_self _) rfl rfl)
  have skipped := Run.snoc locked (by exact trivial)
    (.skip [.scanning [] outboxHouse.outboxEvents 99] [] rfl (.inl (by decide)))
  have passed := Run.snoc skipped (by exact trivial)
    (.finish [.scanning [] outboxHouse.outboxEvents 99] [] rfl (.inl rfl))
  have returned := Run.snoc passed (by exact trivial) (.finish [] [.idle] rfl (.inl rfl))
  have produced := Run.snoc returned (by exact trivial) (.produce [] [.idle] rfl rfl)
  have flushed := Run.snoc produced (by exact trivial) (.flush [] [.idle] rfl)
  have marked := Run.snoc flushed (by exact trivial) (.mark [] [.idle] rfl)
  exact .snoc marked (by exact trivial) (.commit [] [.idle] rfl rfl)

theorem handedOnce_of_run_outboxHouse :
    (∀ entry ∈ [((4 : Uuid), false)], entry.2 = false) ∧
      HandedOnce ⟨publishedHouse, [.idle, .idle], [(4, false)]⟩ := by
  have run := published_outboxHouse
  obtain ⟨unpublished, once⟩ := handedOnce_of_run (by decide) (by decide) rfl rfl
    (run.mono fun _ _ _ => trivial)
  exact ⟨unpublished, once run⟩

end Outbox

end ClearingHouse
