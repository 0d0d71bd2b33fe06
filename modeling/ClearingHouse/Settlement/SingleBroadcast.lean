import ClearingHouse.Settlement.Deliveries

/-!
# At most one broadcast

The first commit of a handler carries the mark of its message, and no script submits before it has
committed.  So an instruction has one handler at a time that can submit or pay, and none after it.
-/

namespace ClearingHouse

namespace Settlement

open StepSystem Transactions Deduplication

/-- What a handler that settles has left to do. -/
structure Progress (backend : Backend) (db : Database) (submitted : List Uuid) (message : Message)
    (opened : Bool) (actions : List Action) : Prop where
  growing : AllGrowing backend actions
  settles : actions = [] ∨ (opened = true ∧ actions = [.commit (pure ())]) ∨
    ∃ instruction : SettlementInstruction, instruction.id = message.instructionId ∧
      Settles backend instruction actions
  commits : opened = true → ∀ signedTx rest, actions ≠ .submit signedTx :: rest
  submits : submitted.count message.instructionId + actions.countP Action.submits ≤ 1
  unpaid : actions ≠ [] → settlementJournals db message.instructionId = []

/-- Every instruction has at most one handler that can settle it, and nothing is done for it before
its mark is committed. -/
structure Guarded (backend : Backend) (engine : Engine) : Prop where
  fresh : FreshLedger engine.committed
  instructions : engine.announced.map Message.instructionId =
    engine.committed.settlementInstructions.map SettlementInstruction.id
  distinct : (engine.announced.map Message.instructionId).Nodup
  outstanding : engine.outstanding ⊆ engine.announced
  handled : ∀ handler ∈ engine.handlers, handler.message ∈ engine.announced
  exclusive : Exclusive (fun event => event ∈ engine.committed.processedEvents) engine.workers
  submitted : ∀ id ∈ engine.submitted, id ∈ engine.announced.map Message.instructionId
  untouched : ∀ message ∈ engine.announced, message.mark ∉ engine.committed.processedEvents →
    engine.submitted.count message.instructionId = 0 ∧
      settlementJournals engine.committed message.instructionId = []
  once : ∀ message ∈ engine.announced, engine.submitted.count message.instructionId ≤ 1 ∧
    (settlementJournals engine.committed message.instructionId).length ≤ 1
  progress : ∀ handler ∈ engine.handlers, ∀ opened actions,
    handler.stage = .settling opened actions →
      Progress backend engine.committed engine.submitted handler.message opened actions

variable {backend : Backend} {engine : Engine} {front back : List Handler} {message : Message}
  {stage : Stage}

theorem workers_eq (front back : List Handler) (handler : Handler)
    (handlers : engine.handlers = front ++ handler :: back) :
    engine.workers = front.filterMap Handler.worker ++
      (handler.worker.toList ++ back.filterMap Handler.worker) := by
  rw [Engine.workers, handlers, List.filterMap_append, List.filterMap_cons]
  cases handler.worker <;> rfl

theorem Guarded.mem (guarded : Guarded backend engine)
    (handlers : engine.handlers = front ++ ⟨message, stage⟩ :: back) : message ∈ engine.announced :=
  guarded.handled ⟨message, stage⟩ (by simp [handlers])

/-- A handler has its message open exactly if the mark is not committed. -/
theorem Guarded.opened_iff (guarded : Guarded backend engine) {front back : List Handler}
    {opened : Bool} {actions : List Action}
    (handlers : engine.handlers = front ++ ⟨message, .settling opened actions⟩ :: back) :
    opened = true ↔ message.mark ∉ engine.committed.processedEvents := by
  refine guarded.exclusive.opened ⟨message.mark, opened⟩ ?_
  simp [workers_eq _ _ _ handlers, Handler.worker]

theorem Guarded.progress_at (guarded : Guarded backend engine) {opened : Bool}
    {actions : List Action}
    (handlers : engine.handlers = front ++ ⟨message, .settling opened actions⟩ :: back) :
    Progress backend engine.committed engine.submitted message opened actions :=
  guarded.progress ⟨message, .settling opened actions⟩ (by simp [handlers]) opened actions rfl

/-- Another handler that settles is about another instruction. -/
theorem Guarded.apart (guarded : Guarded backend engine) {opened opened' : Bool}
    {actions actions' : List Action} {other : Handler}
    (handlers : engine.handlers = front ++ ⟨message, .settling opened actions⟩ :: back)
    (member : other ∈ front ∨ other ∈ back) (settling : other.stage = .settling opened' actions') :
    other.message.instructionId ≠ message.instructionId := by
  have worker : other.worker = some ⟨other.message.mark, opened'⟩ := by
    rw [Handler.worker, settling]
  have exclusive := guarded.exclusive
  rw [workers_eq _ _ _ handlers] at exclusive
  have keys : other.message.mark ≠ message.mark :=
    Exclusive.ne_of_mem ⟨message.mark, opened⟩ exclusive (member.imp
      (fun ahead => List.mem_filterMap.mpr ⟨other, ahead, worker⟩)
      (fun behind => List.mem_filterMap.mpr ⟨other, behind, worker⟩))
  have announced : other.message ∈ engine.announced := by
    apply guarded.handled other
    simp only [handlers, List.mem_append, List.mem_cons]
    exact member.imp_right .inr
  intro same
  exact keys (congrArg Message.mark
    (List.inj_on_of_nodup_map guarded.distinct announced (guarded.mem handlers) same))

/-- A handler goes on, stops or ends, and nothing else changes. -/
theorem Guarded.replace (guarded : Guarded backend engine) {handler : Handler}
    (handlers : engine.handlers = front ++ handler :: back) {stage' : Stage}
    (worker : (⟨handler.message, stage'⟩ : Handler).worker = none ∨
      (⟨handler.message, stage'⟩ : Handler).worker = handler.worker)
    (progress : ∀ opened actions, stage' = .settling opened actions →
      Progress backend engine.committed engine.submitted handler.message opened actions) :
    Guarded backend { engine with handlers := front ++ ⟨handler.message, stage'⟩ :: back } := by
  have workers := workers_eq front back handler handlers
  refine ⟨guarded.fresh, guarded.instructions, guarded.distinct, guarded.outstanding,
    fun other member => ?_, ?_, guarded.submitted, guarded.untouched, guarded.once,
    fun other member opened actions settling => ?_⟩
  · simp only [List.mem_append, List.mem_cons] at member
    rcases member with ahead | rfl | behind
    · exact guarded.handled other (by simp [handlers, ahead])
    · exact guarded.handled handler (by simp [handlers])
    · exact guarded.handled other (by simp [handlers, behind])
  · apply guarded.exclusive.sublist
    rw [workers, workers_eq front back ⟨handler.message, stage'⟩ rfl]
    refine List.Sublist.append_left (List.Sublist.append_right ?_ _) _
    rcases worker with gone | same
    · rw [gone]
      exact List.nil_sublist _
    · rw [same]
  · simp only [List.mem_append, List.mem_cons] at member
    rcases member with ahead | rfl | behind
    · exact guarded.progress other (by simp [handlers, ahead]) opened actions settling
    · exact progress opened actions settling
    · exact guarded.progress other (by simp [handlers, behind]) opened actions settling

/-- A handler leaves. -/
theorem Guarded.remove (guarded : Guarded backend engine) {handler : Handler}
    (handlers : engine.handlers = front ++ handler :: back) {outstanding : List Message}
    (remaining : outstanding ⊆ engine.outstanding) :
    Guarded backend { engine with outstanding, handlers := front ++ back } := by
  have kept : ∀ {other}, other ∈ front ++ back → other ∈ engine.handlers := by
    intro other member
    rw [handlers]
    exact (List.Sublist.append_left (List.sublist_cons_self _ _) front).subset member
  refine ⟨guarded.fresh, guarded.instructions, guarded.distinct,
    fun copy member => guarded.outstanding (remaining member),
    fun other member => guarded.handled other (kept member),
    ?_, guarded.submitted, guarded.untouched, guarded.once,
    fun other member => guarded.progress other (kept member)⟩
  apply guarded.exclusive.sublist
  rw [Engine.workers, Engine.workers, handlers]
  exact (List.Sublist.append_left (List.sublist_cons_self _ _) front).filterMap _

/-- What a transaction of a handler leaves of the settlement tables. -/
structure Effect (db : Database) (message : Message) (opened : Bool) (rest : List Action)
    (after : Database) : Prop where
  processed : ∀ event, event ∈ after.processedEvents ↔
    event ∈ db.processedEvents ∨ opened = true ∧ event = message.mark
  fresh : FreshLedger after
  ids : after.settlementInstructions.map SettlementInstruction.id =
    db.settlementInstructions.map SettlementInstruction.id
  others : ∀ id, id ≠ message.instructionId → settlementJournals after id = settlementJournals db id
  unpaid : rest ≠ [] → settlementJournals after message.instructionId = []
  once : (settlementJournals after message.instructionId).length ≤ 1

theorem effect_of_writes {db after : Database} {opened : Bool} {rest : List Action}
    {instruction : SettlementInstruction} {steps : List StatusStep} {payment : Option Payment}
    (fresh : FreshLedger db) (own : instruction.id = message.instructionId)
    (unpaid : settlementJournals db message.instructionId = [])
    (processed : after.processedEvents = (begun opened message db).processedEvents)
    (writes : Writes instruction.id steps payment (begun opened message db) after)
    (last : rest ≠ [] → payment = none) : Effect db message opened rest after := by
  have nothing : payment = none → settlementJournals after message.instructionId = [] := by
    rintro rfl
    rw [writes.settlementJournals_unpaid, settlementJournals_begun, unpaid]
  refine ⟨fun event => by rw [processed, mem_processed_begun],
    (freshLedger_begun fresh).of_writes writes, by rw [writes.ids_eq, begun_rows],
    fun id other => ?_,
    fun more => nothing (last more), ?_⟩
  · rw [writes.settlementJournals_other (own ▸ other), settlementJournals_begun]
  · cases payment with
    | none => simp [nothing rfl]
    | some payment =>
        obtain ⟨journal, journals, -⟩ := writes.settlementJournals_paid (freshLedger_begun fresh)
        rw [← own, journals, settlementJournals_begun, own, unpaid]
        exact le_rfl

/-- A transaction of a handler, and what it has left to do afterwards. -/
theorem Progress.commit {db after : Database} {submitted : List Uuid} {opened : Bool}
    {code : Sql Unit} {rest : List Action}
    (progress : Progress backend db submitted message opened (.commit code :: rest))
    (fresh : FreshLedger db) (unmarked : opened = true → message.mark ∉ db.processedEvents)
    (ran : handling opened message code db = .ok ((), after)) :
    Effect db message opened rest after ∧
      Progress backend after submitted message false rest := by
  rw [handling_eq unmarked] at ran
  have unpaid := progress.unpaid (by simp)
  have processed := (progress.growing code (by simp) ran).processed
  have submits : submitted.count message.instructionId + rest.countP Action.submits ≤ 1 := by
    simpa [List.countP_cons, Action.submits] using progress.submits
  have growing : AllGrowing backend rest := fun code member =>
    progress.growing code (List.mem_cons_of_mem _ member)
  have goes_on : Effect db message opened rest after →
      (rest = [] ∨ ∃ instruction : SettlementInstruction, instruction.id = message.instructionId ∧
        Settles backend instruction rest) → Progress backend after submitted message false rest :=
    fun later settles => ⟨growing, settles.imp_right .inr, by simp, submits, later.unpaid⟩
  rcases progress.settles with empty | ⟨-, skipped⟩ | ⟨instruction, own, settles⟩
  · cases empty
  · cases skipped
    cases ran
    have effect : Effect db message opened [] (begun opened message db) :=
      ⟨mem_processed_begun, freshLedger_begun fresh, by simp, by simp, by simp, by simp [unpaid]⟩
    exact ⟨effect, goes_on effect (.inl rfl)⟩
  · rcases settles ran with ⟨-, steps, final, -, -, writes, settles'⟩ | ⟨last, steps, -, writes⟩ |
      ⟨last, steps, payment, -, writes, -⟩
    · have effect : Effect db message opened rest after :=
        effect_of_writes fresh own unpaid processed writes fun _ => rfl
      exact ⟨effect, goes_on effect (.inr ⟨instruction, own, settles'⟩)⟩
    · have effect : Effect db message opened rest after :=
        effect_of_writes fresh own unpaid processed writes fun _ => rfl
      exact ⟨effect, goes_on effect (.inl last)⟩
    · have effect : Effect db message opened rest after :=
        effect_of_writes fresh own unpaid processed writes fun more => absurd last more
      exact ⟨effect, goes_on effect (.inl last)⟩

theorem Progress.of_same {db after : Database} {submitted submitted' : List Uuid} {opened : Bool}
    {actions : List Action} (progress : Progress backend db submitted message opened actions)
    (count : submitted'.count message.instructionId = submitted.count message.instructionId)
    (journals : settlementJournals after message.instructionId =
      settlementJournals db message.instructionId) :
    Progress backend after submitted' message opened actions :=
  ⟨progress.growing, progress.settles, progress.commits, by rw [count]; exact progress.submits,
    fun unfinished => journals.trans (progress.unpaid unfinished)⟩

/-- A handler commits. -/
theorem Guarded.commit (guarded : Guarded backend engine) {opened : Bool} {code : Sql Unit}
    {rest : List Action} {after : Database}
    (handlers : engine.handlers =
      front ++ ⟨message, .settling opened (.commit code :: rest)⟩ :: back)
    (ran : handling opened message code engine.committed = .ok ((), after)) :
    Guarded backend
      { engine with
        committed := after
        handlers := front ++ ⟨message, .settling false rest⟩ :: back } := by
  have open_iff := guarded.opened_iff handlers
  obtain ⟨effect, progress⟩ := (guarded.progress_at handlers).commit
    guarded.fresh open_iff.mp ran
  have marked : message.mark ∈ after.processedEvents := by
    rw [effect.processed]
    cases opened with
    | true => exact .inr ⟨rfl, rfl⟩
    | false => exact .inl (by simpa using open_iff)
  have elsewhere : ∀ other ∈ engine.announced, other.mark ≠ message.mark →
      settlementJournals after other.instructionId =
        settlementJournals engine.committed other.instructionId := by
    intro other announced apart
    refine effect.others _ fun same => apart ?_
    exact congrArg Message.mark
      (List.inj_on_of_nodup_map guarded.distinct announced (guarded.mem handlers) same)
  refine ⟨effect.fresh, guarded.instructions.trans effect.ids.symm, guarded.distinct,
    guarded.outstanding, fun other member => ?_, ?_, guarded.submitted,
    fun other announced unmarked => ?_, fun other announced => ?_,
    fun other member opened' actions settling => ?_⟩
  · simp only [List.mem_append, List.mem_cons] at member
    rcases member with ahead | rfl | behind
    · exact guarded.handled other (by simp [handlers, ahead])
    · exact guarded.mem handlers
    · exact guarded.handled other (by simp [handlers, behind])
  · have exclusive := guarded.exclusive
    rw [workers_eq _ _ _ handlers] at exclusive
    rw [workers_eq front back ⟨message, .settling false rest⟩ rfl]
    simp only [Handler.worker, Option.toList_some, List.singleton_append] at exclusive ⊢
    cases opened with
    | true => exact exclusive.commit fun other => (effect.processed other).trans (by simp)
    | false => exact exclusive.congr fun worker _ => (effect.processed worker.key).trans (by simp)
  · have before : other.mark ∉ engine.committed.processedEvents := fun processed =>
      unmarked ((effect.processed _).mpr (.inl processed))
    have apart : other.mark ≠ message.mark := fun same => unmarked (same ▸ marked)
    obtain ⟨unsent, unpaid⟩ := guarded.untouched other announced before
    exact ⟨unsent, (elsewhere other announced apart).trans unpaid⟩
  · obtain ⟨sent, paid⟩ := guarded.once other announced
    refine ⟨sent, ?_⟩
    by_cases same : other.instructionId = message.instructionId
    · rw [same]
      exact effect.once
    · rw [effect.others _ same]
      exact paid
  · simp only [List.mem_append, List.mem_cons] at member
    have others : other ∈ front ∨ other ∈ back →
        Progress backend after engine.submitted other.message opened' actions := by
      intro aside
      have inside : other ∈ engine.handlers := by
        simp only [handlers, List.mem_append, List.mem_cons]
        exact aside.imp_right .inr
      exact (guarded.progress other inside _ _ settling).of_same rfl
        (effect.others _ (guarded.apart handlers aside settling))
    rcases member with ahead | rfl | behind
    · exact others (.inl ahead)
    · cases settling
      exact progress
    · exact others (.inr behind)

/-- A handler submits. -/
theorem Guarded.submit (guarded : Guarded backend engine) {opened : Bool} {signedTx : Bytes}
    {rest : List Action}
    (handlers : engine.handlers =
      front ++ ⟨message, .settling opened (.submit signedTx :: rest)⟩ :: back) :
    Guarded backend
      { engine with
        handlers := front ++ ⟨message, .settling opened rest⟩ :: back
        submitted := engine.submitted ++ [message.instructionId] } := by
  have progress := guarded.progress_at handlers
  have announced := guarded.mem handlers
  have committed : opened = false := by
    cases opened with
    | false => rfl
    | true => exact absurd rfl (progress.commits rfl _ _)
  have marked : message.mark ∈ engine.committed.processedEvents := by
    simpa [committed] using guarded.opened_iff handlers
  have submits : engine.submitted.count message.instructionId +
      (rest.countP Action.submits + 1) ≤ 1 := by
    simpa [List.countP_cons, Action.submits] using progress.submits
  have count : ∀ id, id ≠ message.instructionId →
      (engine.submitted ++ [message.instructionId]).count id = engine.submitted.count id := by
    intro id other
    simp [List.count_append, Ne.symm other]
  have own : (engine.submitted ++ [message.instructionId]).count message.instructionId =
      engine.submitted.count message.instructionId + 1 := by
    simp [List.count_append]
  have settles : rest = [] ∨ (opened = true ∧ rest = [.commit (pure ())]) ∨
      ∃ instruction : SettlementInstruction, instruction.id = message.instructionId ∧
        Settles backend instruction rest := by
    rcases progress.settles with empty | ⟨-, skipped⟩ | ⟨instruction, same, settles⟩
    · cases empty
    · cases skipped
    · exact .inr (.inr ⟨instruction, same, settles.2⟩)
  refine ⟨guarded.fresh, guarded.instructions, guarded.distinct, guarded.outstanding,
    fun other member => ?_, ?_, fun id member => ?_, fun other inside unmarked => ?_,
    fun other inside => ?_, fun other member opened' actions settling => ?_⟩
  · simp only [List.mem_append, List.mem_cons] at member
    rcases member with ahead | rfl | behind
    · exact guarded.handled other (by simp [handlers, ahead])
    · exact announced
    · exact guarded.handled other (by simp [handlers, behind])
  · have exclusive := guarded.exclusive
    rw [workers_eq _ _ _ handlers] at exclusive
    rwa [workers_eq front back ⟨message, .settling opened rest⟩ rfl]
  · rcases List.mem_append.mp member with old | new
    · exact guarded.submitted id old
    · rw [List.mem_singleton.mp new]
      exact List.mem_map_of_mem announced
  · obtain ⟨unsent, unpaid⟩ := guarded.untouched other inside unmarked
    refine ⟨?_, unpaid⟩
    rw [count, unsent]
    intro same
    have same_message := List.inj_on_of_nodup_map guarded.distinct inside announced same
    exact unmarked (same_message ▸ marked)
  · obtain ⟨sent, paid⟩ := guarded.once other inside
    refine ⟨?_, paid⟩
    by_cases same : other.instructionId = message.instructionId
    · rw [same, own]
      omega
    · rw [count _ same]
      exact sent
  · simp only [List.mem_append, List.mem_cons] at member
    have others : other ∈ front ∨ other ∈ back →
        Progress backend engine.committed (engine.submitted ++ [message.instructionId])
          other.message opened' actions := by
      intro aside
      have inside : other ∈ engine.handlers := by
        simp only [handlers, List.mem_append, List.mem_cons]
        exact aside.imp_right .inr
      exact (guarded.progress other inside _ _ settling).of_same
        (count _ (guarded.apart handlers aside settling)) rfl
    rcases member with ahead | rfl | behind
    · exact others (.inl ahead)
    · cases settling
      refine ⟨fun code inside => progress.growing code (List.mem_cons_of_mem _ inside), settles,
        by simp [committed], ?_, fun _ => progress.unpaid (by simp)⟩
      rw [own]
      omega
    · exact others (.inr behind)

theorem mem_processed_of_processIfNew {serviceName : String} {eventId : Text} {isNew : Bool}
    {db middle : Database} (asked : processIfNew serviceName eventId db = .ok (isNew, middle)) :
    ⟨serviceName, eventId⟩ ∈ db.processedEvents ↔ isNew = false := by
  obtain ⟨-, ⟨processed, rfl, -⟩ | ⟨new, rfl, -⟩⟩ := processIfNew_cases asked
  · simp [processed]
  · simp [new]

/-- A handler starts. -/
theorem Guarded.append (guarded : Guarded backend engine)
    (outstanding : message ∈ engine.outstanding)
    (unsettling : ∀ opened actions, stage ≠ .settling opened actions)
    (exclusive : Exclusive (fun event => event ∈ engine.committed.processedEvents)
      (engine.workers ++ (⟨message, stage⟩ : Handler).worker.toList)) :
    Guarded backend { engine with handlers := engine.handlers ++ [⟨message, stage⟩] } := by
  refine ⟨guarded.fresh, guarded.instructions, guarded.distinct, guarded.outstanding,
    fun other member => ?_, ?_, guarded.submitted, guarded.untouched, guarded.once,
    fun other member opened actions settling => ?_⟩
  · rcases List.mem_append.mp member with old | new
    · exact guarded.handled other old
    · rw [List.mem_singleton.mp new]
      exact guarded.outstanding outstanding
  · rw [workers_eq engine.handlers [] ⟨message, stage⟩ rfl]
    simpa [Engine.workers] using exclusive
  · rcases List.mem_append.mp member with old | new
    · exact guarded.progress other old opened actions settling
    · rw [List.mem_singleton.mp new] at settling
      exact absurd settling (unsettling opened actions)

theorem Guarded.announce (guarded : Guarded backend engine) {after : Database}
    {new : List SettlementInstruction} {added : List Message}
    (announces : Announces backend engine after new added) :
    Guarded backend
      { engine with
        committed := after
        announced := engine.announced ++ added
        outstanding := engine.outstanding ++ added } := by
  have instructions : (engine.announced ++ added).map Message.instructionId =
      after.settlementInstructions.map SettlementInstruction.id := by
    rw [List.map_append, announces.rows, List.map_append, guarded.instructions,
      announces.instructions]
  have distinct : ((engine.announced ++ added).map Message.instructionId).Nodup :=
    instructions ▸ announces.distinct
  have marks : ∀ message : Message, message.mark ∈ after.processedEvents ↔
      message.mark ∈ engine.committed.processedEvents := fun message =>
    ⟨fun processed => announces.foreign _ processed rfl, fun old => announces.processed old⟩
  have keys : ∀ worker ∈ engine.workers, ∃ message : Message, worker.key = message.mark := by
    intro worker member
    obtain ⟨handler, -, found⟩ := List.mem_filterMap.mp member
    refine ⟨handler.message, ?_⟩
    unfold Handler.worker at found
    split at found <;> cases found <;> rfl
  -- the instructions of new messages are new rows, for which nothing has happened
  have fresh : ∀ message ∈ added, engine.submitted.count message.instructionId = 0 ∧
      settlementJournals after message.instructionId = [] := by
    intro message inside
    have listed := List.mem_map_of_mem (f := Message.instructionId) inside
    refine ⟨List.count_eq_zero.mpr fun sent => ?_, ?_⟩
    · rw [List.map_append, List.nodup_append] at distinct
      exact distinct.2.2 _ (guarded.submitted _ sent) _ listed rfl
    · rw [announces.instructions] at listed
      obtain ⟨row, row_new, row_id⟩ := List.mem_map.mp listed
      rw [announces.journals, ← row_id]
      exact (announces.untouched row row_new).unpaid
  refine ⟨announces.fresh, instructions, distinct, fun message member => ?_,
    fun handler member => List.mem_append_left _ (guarded.handled handler member),
    guarded.exclusive.congr fun worker member => ?_, fun id sent => ?_,
    fun message announced unmarked => ?_, fun message announced => ?_,
    fun handler member opened actions settling => ?_⟩
  · rcases List.mem_append.mp member with old | inside
    · exact List.mem_append_left _ (guarded.outstanding old)
    · exact List.mem_append_right _ inside
  · obtain ⟨message, key⟩ := keys worker member
    rw [key]
    exact marks message
  · rw [List.map_append]
    exact List.mem_append_left _ (guarded.submitted id sent)
  · rcases List.mem_append.mp announced with old | inside
    · rw [announces.journals]
      exact guarded.untouched message old fun processed => unmarked ((marks message).mpr processed)
    · exact fresh message inside
  · rcases List.mem_append.mp announced with old | inside
    · rw [announces.journals]
      exact guarded.once message old
    · obtain ⟨unsent, unpaid⟩ := fresh message inside
      exact ⟨unsent.trans_le (Nat.zero_le 1), by simp [unpaid]⟩
  · exact (guarded.progress handler member opened actions settling).of_same rfl
      (announces.journals _)

/-- Every step keeps an instruction to one handler. -/
theorem guarded_step {before after : Engine} {label : EngineLabel}
    (guarded : Guarded backend before) (step : EngineStep backend before label after) :
    Guarded backend after := by
  cases step with
  | deliver outstanding free isNew =>
      refine guarded.append outstanding (by simp) (guarded.exclusive.claim ?_ free)
      exact fun processed => by simpa using (mem_processed_of_processIfNew isNew).mp processed
  | duplicate outstanding free isOld =>
      apply guarded.append outstanding (by simp)
      simpa [Handler.worker] using guarded.exclusive
  | @read front back message chainRegistry sign trace instruction instrument actions handlers
      pending scripted =>
      refine guarded.replace handlers (.inr rfl) fun opened actions' settling => ?_
      cases settling
      obtain ⟨code, rest, rfl, submits⟩ := script_submits scripted
      have announced := guarded.mem handlers
      have unmarked : message.mark ∉ before.committed.processedEvents := by
        refine (guarded.exclusive.opened ⟨message.mark, true⟩ ?_).mp rfl
        simp [workers_eq _ _ _ handlers, Handler.worker]
      obtain ⟨unsent, unpaid⟩ := guarded.untouched message announced unmarked
      refine ⟨allGrowing_script scripted, .inr (.inr ⟨instruction,
        (mem_of_pendingInstruction pending).2.1, settles_script scripted⟩), by simp, ?_,
        fun _ => unpaid⟩
      simpa [unsent, List.countP_cons, Action.submits] using submits
  | unregistered front back handlers pending raised =>
      exact guarded.replace handlers (.inl rfl) (by simp)
  | @skip front back message chainRegistry sign trace handlers absent =>
      refine guarded.replace handlers (.inr rfl) fun opened actions settling => ?_
      cases settling
      have announced := guarded.mem handlers
      have unmarked : message.mark ∉ before.committed.processedEvents := by
        refine (guarded.exclusive.opened ⟨message.mark, true⟩ ?_).mp rfl
        simp [workers_eq _ _ _ handlers, Handler.worker]
      obtain ⟨unsent, unpaid⟩ := guarded.untouched message announced unmarked
      refine ⟨.commit (Transaction.respects_pure ()) allGrowing_nil, .inr (.inl ⟨rfl, rfl⟩),
        by simp, ?_, fun _ => unpaid⟩
      simp [unsent, Action.submits]
  | commit front back handlers ran accepted => exact guarded.commit handlers ran
  | submit front back handlers => exact guarded.submit handlers
  | finish front back handlers => exact guarded.replace handlers (.inl rfl) (by simp)
  | raise front back handlers => exact guarded.replace handlers (.inl rfl) (by simp)
  | acknowledge front back handlers =>
      exact guarded.remove handlers fun copy member => List.mem_of_mem_erase member
  | crash front back handlers => exact guarded.remove handlers fun copy member => member
  | publish announced =>
      refine ⟨guarded.fresh, guarded.instructions, guarded.distinct, fun copy member => ?_,
        guarded.handled, guarded.exclusive, guarded.submitted, guarded.untouched, guarded.once,
        guarded.progress⟩
      rcases List.mem_append.mp member with old | new
      · exact guarded.outstanding old
      · rw [List.mem_singleton.mp new]
        exact announced
  | elsewhere announces => exact guarded.announce announces

theorem guarded_opening (opening : Opening backend engine) : Guarded backend engine := by
  have unpaid : ∀ message ∈ engine.announced,
      settlementJournals engine.committed message.instructionId = [] := by
    intro message announced
    have listed := List.mem_map_of_mem (f := Message.instructionId) announced
    rw [opening.instructions] at listed
    obtain ⟨row, member, row_id⟩ := List.mem_map.mp listed
    rw [← row_id]
    exact (opening.unsettled.untouched row member).unpaid
  refine ⟨opening.unsettled.fresh, opening.instructions,
    opening.instructions ▸ opening.unsettled.distinct, by simp [opening.outstanding],
    by simp [opening.idle], ?_, by simp [opening.silent],
    fun message announced _ => ⟨by simp [opening.silent], unpaid message announced⟩,
    fun message announced => ⟨by simp [opening.silent], by simp [unpaid message announced]⟩,
    by simp [opening.idle]⟩
  rw [Engine.workers, opening.idle]
  exact .nil

/-- However often the messages are delivered, and wherever handlers raise or are killed, at most one
transaction is submitted for an instruction and at most one settlement journal committed. -/
theorem broadcastOnce_of_run {backend : Backend} {start last : Engine}
    (opening : Opening backend start) (run : Run (EngineStep backend) unrestricted start last) :
    ∀ row ∈ last.committed.settlementInstructions,
      last.submitted.count row.id ≤ 1 ∧ (settlementJournals last.committed row.id).length ≤ 1 := by
  have guarded := run.invariant (fun _ _ _ guarded _ step => guarded_step guarded step)
    (guarded_opening opening)
  intro row member
  have listed := List.mem_map_of_mem (f := SettlementInstruction.id) member
  rw [← guarded.instructions] at listed
  obtain ⟨message, announced, same⟩ := List.mem_map.mp listed
  rw [← same]
  exact guarded.once message announced

/-- The transfer of `dvpHouse` is submitted and paid, and its message is delivered again while the
handler of the first delivery is still there. -/
theorem broadcastOnce_of_run_dvpEngine :
    ∃ last, Run (EngineStep decimalBackend) unrestricted dvpEngine last ∧
      last.handlers.map Handler.message = [⟨7, 5⟩, ⟨7, 5⟩] ∧
      (settlementJournals last.committed 5).length = 1 ∧
      ∀ row ∈ last.committed.settlementInstructions,
        last.submitted.count row.id ≤ 1 ∧
          (settlementJournals last.committed row.id).length ≤ 1 := by
  have paid : ∃ state ∈ committedBy decimalBackend (fun _ => some (chainReporting .confirmed 2))
      echoSigner systemTrace 5 (dvpHouse.marked (⟨7, 5⟩ : Message).mark),
      (settlementJournals state 5).length = 1 ∧
        (⟨7, 5⟩ : Message).mark ∈ state.processedEvents := by decide +kernel
  obtain ⟨state, committed, journals, marked⟩ := paid
  obtain ⟨rest, submitted, settled⟩ := engine_of_committedBy unrestricted
    (fun _ _ _ _ _ => trivial) ⟨7, 5⟩ [⟨7, 5⟩] (by simp)
    (by simp [dvpHouse, Database.opening]) _ _ committed
  have again := Run.snoc settled trivial
    (.duplicate (by simp) (by simp [Engine.workers, Handler.worker])
      (processIfNew_of_mem rfl marked))
  exact ⟨_, again, rfl, journals, broadcastOnce_of_run opening_dvpEngine again⟩

end Settlement

end ClearingHouse
