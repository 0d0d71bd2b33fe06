import ClearingHouse.Settlement.SingleBroadcast

/-!
# Orphaned instructions

A handler that ends before its first commit leaves no mark, and a further delivery starts over.
Once the mark is committed nothing but that handler moves the instruction.  So an instruction ends
in a terminal status unless a handler is lost between its first and its last commit, or the offset
of a message is committed although its handling was rolled back.
-/

namespace ClearingHouse

namespace Settlement

open StepSystem Transactions Deduplication

/-- Statuses without a successor. -/
def terminalStatuses : List InstructionStatus := [.confirmed, .failed, .cancelled]

/-- An instruction that no delivery and no handler is about is in a terminal status. -/
def NoOrphans (engine : Engine) : Prop :=
  ∀ row ∈ engine.committed.settlementInstructions,
    (∀ message ∈ engine.outstanding, message.instructionId ≠ row.id) →
      (∀ handler ∈ engine.handlers, handler.message.instructionId ≠ row.id) →
        row.status ∈ terminalStatuses

/-- No handler is lost between its first and its last commit, and no offset is committed for a
message whose handling was rolled back, unless another copy is still to be delivered. -/
def Steady (engine : Engine) : EngineLabel → Prop
  | .raise position | .crash position =>
      ∀ handler ∈ engine.handlers[position]?, ∀ actions,
        handler.stage = .settling false actions → actions = []
  | .acknowledge position =>
      ∀ handler ∈ engine.handlers[position]?,
        handler.message.mark ∈ engine.committed.processedEvents ∨
          handler.message ∈ engine.outstanding.erase handler.message
  | _ => True

/-- A handler is between its first and its last commit for a message. -/
def Moving (engine : Engine) (message : Message) : Prop :=
  ∃ handler ∈ engine.handlers, handler.message = message ∧
    ∃ actions, actions ≠ [] ∧ handler.stage = .settling false actions

/-- An event whose mark is not committed is to be delivered and its instruction pending; if the mark
is committed, a handler moves the instruction or it is in a terminal status. -/
structure Driven (backend : Backend) (engine : Engine) : Prop where
  guarded : Guarded backend engine
  events : (engine.announced.map Message.eventId).Nodup
  located : ∀ row ∈ engine.committed.settlementInstructions,
    ∃ instrument ∈ engine.committed.instruments, instrument.id = row.instrumentId
  settling : ∀ handler ∈ engine.handlers, ∀ opened actions,
    handler.stage = .settling opened actions → (opened = true → actions ≠ []) ∧
      ∃ instruction : SettlementInstruction, instruction.id = handler.message.instructionId ∧
        Settles backend instruction actions
  waiting : ∀ message ∈ engine.announced, message.mark ∉ engine.committed.processedEvents →
    message ∈ engine.outstanding ∧ ∀ row ∈ engine.committed.settlementInstructions,
      row.id = message.instructionId → row.status = .pending
  moving : ∀ message ∈ engine.announced, message.mark ∈ engine.committed.processedEvents →
    Moving engine message ∨ ∀ row ∈ engine.committed.settlementInstructions,
      row.id = message.instructionId → row.status ∈ terminalStatuses

variable {backend : Backend} {engine : Engine} {front back : List Handler} {message : Message}
  {stage : Stage}

theorem mark_injective {message message' : Message} (same : message.mark = message'.mark) :
    message.eventId = message'.eventId := by
  simpa [Message.mark] using same

/-- A pending row with an instrument is found. -/
theorem pendingInstruction_ne_none {db : Database} {row : SettlementInstruction}
    (member : row ∈ db.settlementInstructions) (pending : row.status = .pending)
    (located : ∀ row ∈ db.settlementInstructions,
      ∃ instrument ∈ db.instruments, instrument.id = row.instrumentId) :
    pendingInstruction db row.id ≠ none := by
  rw [pendingInstruction]
  cases found : db.settlementInstructions.find? fun other =>
      other.id = row.id ∧ other.status = .pending with
  | none =>
      rw [List.find?_eq_none] at found
      exact absurd (found row member) (by simp [pending])
  | some instruction =>
      obtain ⟨instrument, listed, same⟩ := located instruction (List.mem_of_find?_eq_some found)
      cases traded : db.instruments.find? fun other => other.id = instruction.instrumentId with
      | none =>
          rw [List.find?_eq_none] at traded
          exact absurd (traded instrument listed) (by simp [same])
      | some instrument => simp [traded]

/-- A handler that is not between its commits moves nothing. -/
theorem Moving.of_kept {handlers : List Handler} {old : Handler} (moving : Moving engine message)
    (idle : ∀ actions, old.stage = .settling false actions → actions = [])
    (kept : ∀ handler ∈ engine.handlers, handler ≠ old → handler ∈ handlers)
    (outstanding : List Message) :
    Moving { engine with outstanding, handlers } message := by
  obtain ⟨handler, member, same, actions, unfinished, settling⟩ := moving
  refine ⟨handler, kept handler member ?_, same, actions, unfinished, settling⟩
  rintro rfl
  exact unfinished (idle actions settling)

theorem mem_replaced {old new handler : Handler} (member : handler ∈ front ++ old :: back)
    (other : handler ≠ old) : handler ∈ front ++ new :: back := by
  simp only [List.mem_append, List.mem_cons] at member ⊢
  rcases member with ahead | same | behind
  · exact .inl ahead
  · exact absurd same other
  · exact .inr (.inr behind)

theorem mem_removed {old handler : Handler} (member : handler ∈ front ++ old :: back)
    (other : handler ≠ old) : handler ∈ front ++ back := by
  simp only [List.mem_append, List.mem_cons] at member ⊢
  rcases member with ahead | same | behind
  · exact .inl ahead
  · exact absurd same other
  · exact .inr behind

/-- A handler that is not between its commits goes on or ends. -/
theorem Driven.replace (driven : Driven backend engine) {handler : Handler} {stage' : Stage}
    (handlers : engine.handlers = front ++ handler :: back)
    (idle : ∀ actions, handler.stage = .settling false actions → actions = [])
    (guarded : Guarded backend
      { engine with handlers := front ++ ⟨handler.message, stage'⟩ :: back })
    (settling : ∀ opened actions, stage' = .settling opened actions →
      (opened = true → actions ≠ []) ∧ ∃ instruction : SettlementInstruction,
        instruction.id = handler.message.instructionId ∧ Settles backend instruction actions) :
    Driven backend { engine with handlers := front ++ ⟨handler.message, stage'⟩ :: back } := by
  refine ⟨guarded, driven.events, driven.located, fun other member opened actions same => ?_,
    driven.waiting, fun message announced processed => ?_⟩
  · simp only [List.mem_append, List.mem_cons] at member
    rcases member with ahead | rfl | behind
    · exact driven.settling other (by simp [handlers, ahead]) opened actions same
    · exact settling opened actions same
    · exact driven.settling other (by simp [handlers, behind]) opened actions same
  · apply (driven.moving message announced processed).imp_left
    intro moving
    exact moving.of_kept idle (fun other member apart => mem_replaced (handlers ▸ member) apart) _

/-- A handler that is not between its commits leaves. -/
theorem Driven.remove (driven : Driven backend engine) {handler : Handler}
    {outstanding : List Message} (handlers : engine.handlers = front ++ handler :: back)
    (idle : ∀ actions, handler.stage = .settling false actions → actions = [])
    (guarded : Guarded backend { engine with outstanding, handlers := front ++ back })
    (kept : ∀ message ∈ engine.outstanding,
      message.mark ∉ engine.committed.processedEvents → message ∈ outstanding) :
    Driven backend { engine with outstanding, handlers := front ++ back } := by
  refine ⟨guarded, driven.events, driven.located, fun other member => driven.settling other ?_,
    fun message announced unmarked => ?_, fun message announced processed => ?_⟩
  · rw [handlers]
    exact (List.Sublist.append_left (List.sublist_cons_self _ _) front).subset member
  · obtain ⟨delivered, pending⟩ := driven.waiting message announced unmarked
    exact ⟨kept message delivered unmarked, pending⟩
  · apply (driven.moving message announced processed).imp_left
    intro moving
    exact moving.of_kept idle (fun other member apart => mem_removed (handlers ▸ member) apart) _

/-- A handler starts. -/
theorem Driven.append (driven : Driven backend engine)
    (unsettling : ∀ opened actions, stage ≠ .settling opened actions)
    (guarded : Guarded backend { engine with handlers := engine.handlers ++ [⟨message, stage⟩] }) :
    Driven backend { engine with handlers := engine.handlers ++ [⟨message, stage⟩] } := by
  refine ⟨guarded, driven.events, driven.located, fun other member opened actions same => ?_,
    driven.waiting, fun message announced processed => ?_⟩
  · rcases List.mem_append.mp member with old | new
    · exact driven.settling other old opened actions same
    · rw [List.mem_singleton.mp new] at same
      exact absurd same (unsettling opened actions)
  · apply (driven.moving message announced processed).imp_left
    rintro ⟨handler, member, rest⟩
    exact ⟨handler, List.mem_append_left _ member, rest⟩

/-- A handler commits. -/
theorem Driven.commit (driven : Driven backend engine) {opened : Bool} {code : Sql Unit}
    {rest : List Action} {after : Database}
    (handlers : engine.handlers =
      front ++ ⟨message, .settling opened (.commit code :: rest)⟩ :: back)
    (ran : handling opened message code engine.committed = .ok ((), after)) :
    Driven backend
      { engine with
        committed := after
        handlers := front ++ ⟨message, .settling false rest⟩ :: back } := by
  have guarded := driven.guarded
  have open_iff := guarded.opened_iff handlers
  have announced := guarded.mem handlers
  obtain ⟨effect, -⟩ := (guarded.progress_at handlers).commit guarded.fresh open_iff.mp ran
  obtain ⟨-, instruction, own, settles⟩ :=
    driven.settling ⟨message, .settling opened (.commit code :: rest)⟩ (by simp [handlers]) _ _ rfl
  have marked : message.mark ∈ after.processedEvents := by
    rw [effect.processed]
    cases opened with
    | true => exact .inr ⟨rfl, rfl⟩
    | false => exact .inl (by simpa using open_iff)
  have statements := ran
  rw [handling_eq open_iff.mp] at statements
  -- what differs between the outcomes is the status that the own row ends in
  have finish : ∀ {steps payment final}, Ends steps final →
      Writes instruction.id steps payment (begun opened message engine.committed) after →
      (rest = [] → final ∈ terminalStatuses) → Settles backend instruction rest →
      Driven backend
        { engine with
          committed := after
          handlers := front ++ ⟨message, .settling false rest⟩ :: back } := by
    intro steps payment final ends writes terminal settles'
    have rows : ∀ row ∈ after.settlementInstructions,
        ∃ old ∈ engine.committed.settlementInstructions, terms row = terms old ∧
          (old.id ≠ message.instructionId → row = old) ∧
            (old.id = message.instructionId → row.status = final) := by
      intro row member
      obtain ⟨old, inside, rest⟩ := writes.row_of_mem ends member
      rw [begun_rows] at inside
      rw [own] at rest
      exact ⟨old, inside, rest⟩
    -- the rows of other messages stay as they are
    have others : ∀ other ∈ engine.announced, other ≠ message →
        ∀ row ∈ after.settlementInstructions, row.id = other.instructionId →
          row ∈ engine.committed.settlementInstructions := by
      intro other inside apart row member same
      obtain ⟨old, old_mem, row_terms, kept, -⟩ := rows row member
      have old_id : old.id ≠ message.instructionId := by
        rw [← id_of_terms row_terms, same]
        exact fun equal => apart
          (List.inj_on_of_nodup_map guarded.distinct inside announced equal)
      rw [kept old_id]
      exact old_mem
    have instruments : after.instruments = engine.committed.instruments := by
      rw [writes.instruments, begun_instruments]
    refine ⟨guarded.commit handlers ran, driven.events, fun row member => ?_,
      fun other member opened' actions same => ?_, fun other inside unmarked => ?_,
      fun other inside processed => ?_⟩
    · obtain ⟨old, old_mem, row_terms, -⟩ := rows row member
      obtain ⟨instrument, listed, traded⟩ := driven.located old old_mem
      simp only [terms, Prod.mk.injEq] at row_terms
      exact ⟨instrument, instruments ▸ listed, traded.trans row_terms.2.2.2.2.2.1.symm⟩
    · simp only [List.mem_append, List.mem_cons] at member
      rcases member with ahead | rfl | behind
      · exact driven.settling other (by simp [handlers, ahead]) opened' actions same
      · cases same
        exact ⟨by simp, instruction, own, settles'⟩
      · exact driven.settling other (by simp [handlers, behind]) opened' actions same
    · have before : other.mark ∉ engine.committed.processedEvents := fun processed =>
        unmarked ((effect.processed _).mpr (.inl processed))
      obtain ⟨delivered, pending⟩ := driven.waiting other inside before
      refine ⟨delivered, fun row member same => pending row ?_ same⟩
      exact others other inside (fun equal => unmarked (equal ▸ marked)) row member same
    · by_cases equal : other = message
      · rw [equal]
        by_cases unfinished : rest = []
        · refine .inr fun row member same => ?_
          obtain ⟨old, -, row_terms, -, arrived⟩ := rows row member
          rw [arrived ((id_of_terms row_terms).symm.trans same)]
          exact terminal unfinished
        · exact .inl ⟨⟨message, .settling false rest⟩, by simp, rfl, rest, unfinished, rfl⟩
      · have before : other.mark ∈ engine.committed.processedEvents := by
          rcases (effect.processed _).mp processed with old | ⟨-, same⟩
          · exact old
          · exact absurd (List.inj_on_of_nodup_map driven.events inside announced
              (mark_injective same)) equal
        rcases driven.moving other inside before with
          ⟨handler, member, own', actions, unfinished, settling⟩ | settled
        · refine .inl ⟨handler, ?_, own', actions, unfinished, settling⟩
          apply mem_replaced (handlers ▸ member)
          rintro rfl
          exact equal own'.symm
        · exact .inr fun row member same =>
            settled row (others other inside equal row member same) same
  rcases settles statements with ⟨more, steps, final, -, ends, writes, settles'⟩ |
      ⟨last, steps, ends, writes⟩ | ⟨last, steps, payment, ends, writes, -⟩
  · exact finish ends writes (fun done => absurd done more) settles'
  · exact finish ends writes (fun _ => by decide) (last ▸ trivial)
  · exact finish ends writes (fun _ => by decide) (last ▸ trivial)

/-- A handler submits. -/
theorem Driven.submit (driven : Driven backend engine) {opened : Bool} {signedTx : Bytes}
    {rest : List Action}
    (handlers : engine.handlers =
      front ++ ⟨message, .settling opened (.submit signedTx :: rest)⟩ :: back) :
    Driven backend
      { engine with
        handlers := front ++ ⟨message, .settling opened rest⟩ :: back
        submitted := engine.submitted ++ [message.instructionId] } := by
  obtain ⟨-, instruction, own, more, settles⟩ := driven.settling
    ⟨message, .settling opened (.submit signedTx :: rest)⟩ (by simp [handlers]) _ _ rfl
  refine ⟨driven.guarded.submit handlers, driven.events, driven.located,
    fun other member opened' actions same => ?_, driven.waiting,
    fun other inside processed => (driven.moving other inside processed).imp_left ?_⟩
  · simp only [List.mem_append, List.mem_cons] at member
    rcases member with ahead | rfl | behind
    · exact driven.settling other (by simp [handlers, ahead]) opened' actions same
    · cases same
      exact ⟨fun _ => more, instruction, own, settles⟩
    · exact driven.settling other (by simp [handlers, behind]) opened' actions same
  · rintro ⟨handler, member, own', actions, unfinished, settling⟩
    by_cases equal : handler = ⟨message, .settling opened (.submit signedTx :: rest)⟩
    · subst equal
      cases settling
      exact ⟨⟨message, .settling false rest⟩, by simp, own', rest, more, rfl⟩
    · exact ⟨handler, mem_replaced (handlers ▸ member) equal, own', actions, unfinished, settling⟩

theorem Driven.announce (driven : Driven backend engine) {after : Database}
    {new : List SettlementInstruction} {added : List Message}
    (announces : Announces backend engine after new added) :
    Driven backend
      { engine with
        committed := after
        announced := engine.announced ++ added
        outstanding := engine.outstanding ++ added } := by
  have guarded := driven.guarded.announce announces
  have marks : ∀ message : Message, message.mark ∈ after.processedEvents ↔
      message.mark ∈ engine.committed.processedEvents := fun message =>
    ⟨fun processed => announces.foreign _ processed rfl, fun old => announces.processed old⟩
  have rows : ∀ row ∈ after.settlementInstructions,
      row ∈ engine.committed.settlementInstructions ∨ row ∈ new := by
    intro row member
    rwa [announces.rows, List.mem_append] at member
  have distinct := guarded.distinct
  simp only [List.map_append, List.nodup_append] at distinct
  refine ⟨guarded, announces.events, fun row member => ?_, driven.settling,
    fun message announced unmarked => ?_, fun message announced processed => ?_⟩
  · rcases rows row member with old | inside
    · obtain ⟨instrument, listed, traded⟩ := driven.located row old
      exact ⟨instrument, announces.instruments listed, traded⟩
    · exact announces.located row inside
  · rcases List.mem_append.mp announced with old | inside
    · obtain ⟨delivered, pending⟩ :=
        driven.waiting message old fun processed => unmarked ((marks message).mpr processed)
      refine ⟨List.mem_append_left _ delivered, fun row member same => ?_⟩
      rcases rows row member with before | recent
      · exact pending row before same
      · exact (announces.untouched row recent).pending
    · refine ⟨List.mem_append_right _ inside, fun row member same => ?_⟩
      rcases rows row member with before | recent
      · have listed := List.mem_map_of_mem (f := SettlementInstruction.id) before
        rw [← driven.guarded.instructions] at listed
        exact absurd same (distinct.2.2 _ listed _ (List.mem_map_of_mem inside))
      · exact (announces.untouched row recent).pending
  · rcases List.mem_append.mp announced with old | inside
    · refine (driven.moving message old ((marks message).mp processed)).imp_right
        fun settled row member same => ?_
      rcases rows row member with before | recent
      · exact settled row before same
      · have listed := List.mem_map_of_mem (f := SettlementInstruction.id) recent
        rw [← announces.instructions] at listed
        exact absurd same.symm (distinct.2.2 _ (List.mem_map_of_mem old) _ listed)
    · exact absurd ((marks message).mp processed) (announces.unmarked message inside)

/-- Every steady step keeps the instructions driven. -/
theorem driven_step {before after : Engine} {label : EngineLabel} (driven : Driven backend before)
    (steady : Steady before label) (step : EngineStep backend before label after) :
    Driven backend after := by
  have guarded := guarded_step driven.guarded step
  cases step with
  | deliver outstanding free isNew => exact driven.append (by simp) guarded
  | duplicate outstanding free isOld => exact driven.append (by simp) guarded
  | read front back handlers pending scripted =>
      apply driven.replace handlers (by simp) guarded
      intro opened actions settling
      cases settling
      obtain ⟨code, rest, rfl, -⟩ := script_submits scripted
      exact ⟨by simp, _, (mem_of_pendingInstruction pending).2.1, settles_script scripted⟩
  | unregistered front back handlers pending raised =>
      exact driven.replace handlers (by simp) guarded (by simp)
  | @skip front back message chainRegistry sign trace handlers absent =>
      -- the row of the message exists and is pending, so it is found
      have announced := driven.guarded.mem handlers
      have unmarked : message.mark ∉ before.committed.processedEvents := by
        refine (driven.guarded.exclusive.opened ⟨message.mark, true⟩ ?_).mp rfl
        simp [workers_eq _ _ _ handlers, Handler.worker]
      have listed := List.mem_map_of_mem (f := Message.instructionId) announced
      rw [driven.guarded.instructions] at listed
      obtain ⟨row, member, same⟩ := List.mem_map.mp listed
      have pending := (driven.waiting message announced unmarked).2 row member same
      rw [← same] at absent
      exact absurd absent (pendingInstruction_ne_none member pending driven.located)
  | commit front back handlers ran accepted => exact driven.commit handlers ran
  | submit front back handlers => exact driven.submit handlers
  | finish front back handlers =>
      refine driven.replace handlers (fun actions settling => ?_) guarded (by simp)
      cases settling
      rfl
  | @raise front back handler handlers =>
      refine driven.replace handlers (fun actions settling => ?_) guarded (by simp)
      exact steady handler (by simp [handlers]) actions settling
  | @acknowledge front back message handlers =>
      apply driven.remove handlers (by simp) guarded
      intro copy delivered unmarked
      by_cases same : copy = message
      · rcases steady ⟨message, .ended⟩ (by simp [handlers]) with processed | remaining
        · exact absurd (same ▸ processed) unmarked
        · exact same ▸ remaining
      · exact (List.mem_erase_of_ne same).mpr delivered
  | @crash front back handler handlers =>
      refine driven.remove handlers (fun actions settling => ?_) guarded
        fun _ delivered _ => delivered
      exact steady handler (by simp [handlers]) actions settling
  | publish announced =>
      refine ⟨guarded, driven.events, driven.located, driven.settling,
        fun message inside unmarked => ?_, fun message inside processed => ?_⟩
      · obtain ⟨delivered, pending⟩ := driven.waiting message inside unmarked
        exact ⟨List.mem_append_left _ delivered, pending⟩
      · exact driven.moving message inside processed
  | elsewhere announces => exact driven.announce announces

theorem driven_opening (opening : Opening backend engine) : Driven backend engine := by
  refine ⟨guarded_opening opening, opening.events, opening.unsettled.located,
    by simp [opening.idle],
    fun message announced _ => ⟨opening.outstanding ▸ announced, fun row member _ => ?_⟩,
    fun message announced processed => absurd processed (opening.unmarked message announced)⟩
  exact (opening.unsettled.untouched row member).pending

theorem Driven.noOrphans (driven : Driven backend engine) : NoOrphans engine := by
  intro row member undelivered unhandled
  have listed := List.mem_map_of_mem (f := SettlementInstruction.id) member
  rw [← driven.guarded.instructions] at listed
  obtain ⟨message, announced, same⟩ := List.mem_map.mp listed
  by_cases processed : message.mark ∈ engine.committed.processedEvents
  · rcases driven.moving message announced processed with ⟨handler, handled, own, -⟩ | settled
    · exact absurd (own ▸ same) (unhandled handler handled)
    · exact settled row member same.symm
  · exact absurd same (undelivered message (driven.waiting message announced processed).1)

/-- If no handler is lost between its first and its last commit and no offset is committed for a
message whose handling was rolled back, an instruction that nothing drives any more is in a terminal
status. -/
theorem noOrphans_of_run {backend : Backend} {start last : Engine}
    (opening : Opening backend start) (run : Run (EngineStep backend) Steady start last) :
    NoOrphans last :=
  (run.invariant (fun _ _ _ driven steady step => driven_step driven steady step)
    (driven_opening opening)).noOrphans

/-- The message of `dvpHouse` is handled and acknowledged, and its instruction is confirmed. -/
theorem noOrphans_of_run_dvpEngine :
    ∃ last, Run (EngineStep decimalBackend) Steady dvpEngine last ∧ last.outstanding = [] ∧
      last.handlers = [] ∧
      (∃ row ∈ last.committed.settlementInstructions, row.status = .confirmed) ∧
      NoOrphans last := by
  have paid : ∃ state ∈ committedBy decimalBackend (fun _ => some (chainReporting .confirmed 2))
      echoSigner systemTrace 5 (dvpHouse.marked (⟨7, 5⟩ : Message).mark),
      (settlementJournals state 5).length = 1 ∧
        ∃ row ∈ state.settlementInstructions, row.status = .confirmed := by decide +kernel
  obtain ⟨state, committed, journals, confirmed⟩ := paid
  obtain ⟨rest, submitted, run⟩ := engine_of_committedBy Steady
    (fun engine label raises crashes acknowledges => by
      cases label with
      | raise position => exact absurd rfl (raises position)
      | crash position => exact absurd rfl (crashes position)
      | acknowledge position => exact absurd rfl (acknowledges position)
      | _ => trivial)
    ⟨7, 5⟩ [⟨7, 5⟩] (by simp) (by simp [dvpHouse, Database.opening]) _ _
    committed
  have guarded := (run.invariant (fun _ _ _ driven steady step => driven_step driven steady step)
    (driven_opening opening_dvpEngine)).guarded
  have alone : (⟨state, [⟨7, 5⟩], [⟨7, 5⟩], [⟨⟨7, 5⟩, .settling false rest⟩], submitted⟩ :
      Engine).handlers = [] ++ ⟨⟨7, 5⟩, .settling false rest⟩ :: [] := rfl
  have marked := guarded.opened_iff alone
  obtain rfl : rest = [] := by
    by_contra unfinished
    have unpaid := (guarded.progress_at alone).unpaid unfinished
    rw [unpaid] at journals
    cases journals
  have ended : Run (EngineStep decimalBackend) Steady dvpEngine
      ⟨state, [⟨7, 5⟩], [⟨7, 5⟩], [⟨⟨7, 5⟩, .ended⟩], submitted⟩ :=
    .snoc run (by exact trivial) (.finish [] [] alone)
  have acknowledged : Run (EngineStep decimalBackend) Steady dvpEngine
      ⟨state, [⟨7, 5⟩], ([⟨7, 5⟩] : List Message).erase ⟨7, 5⟩, [], submitted⟩ := by
    refine .snoc ended ?_ (.acknowledge [] [] rfl)
    intro handler at_zero
    cases at_zero
    exact .inl (by simpa using marked)
  exact ⟨_, acknowledged, by simp, rfl, confirmed, noOrphans_of_run opening_dvpEngine acknowledged⟩

/-- If no adapter is registered for its chain, the message is acknowledged and the instruction stays
pending. -/
theorem orphaned_dvpEngine :
    ∃ last, Run (EngineStep decimalBackend) unrestricted dvpEngine last ∧ ¬NoOrphans last := by
  have found : pendingInstruction dvpHouse 5 = some (dvpRow, dvpInstrument) := rfl
  have unregistered : script decimalBackend (fun _ => none) echoSigner systemTrace dvpRow
      dvpInstrument = none := by decide +kernel
  have delivered : Run (EngineStep decimalBackend) unrestricted dvpEngine
      { dvpEngine with handlers := [⟨⟨7, 5⟩, .marked⟩] } :=
    .snoc (.refl _) trivial (.deliver (by simp [dvpEngine]) (by simp [Engine.workers, dvpEngine])
      (processIfNew_of_not_mem rfl (by simp [dvpEngine, dvpHouse, Database.opening])))
  have raised : Run (EngineStep decimalBackend) unrestricted dvpEngine
      { dvpEngine with handlers := [⟨⟨7, 5⟩, .ended⟩] } :=
    .snoc delivered trivial (.unregistered [] [] rfl found unregistered)
  have acknowledged := Run.snoc raised trivial (.acknowledge [] [] rfl)
  refine ⟨_, acknowledged, fun noOrphans => ?_⟩
  have terminal := noOrphans dvpRow (List.mem_singleton_self _) (by simp [dvpEngine]) (by simp)
  exact absurd terminal (by decide)

end Settlement

end ClearingHouse
