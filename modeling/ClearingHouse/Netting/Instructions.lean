import ClearingHouse.Netting.Obligations

/-!
# What a netting cycle writes

A cycle appends one pending settlement instruction for each of its obligations, under a fresh
identifier and without a chain, and leaves the ledger and the records of settlements alone.
-/

namespace ClearingHouse

namespace Netting

open Transactions Transactions.Transaction

/-- The instruction that a cycle writes for an obligation. -/
structure Instructs (backend : Backend) (ccpMemberId cycleId : Uuid) (obligation : Obligation)
    (row : SettlementInstruction) : Prop where
  settlementType : row.settlementType = obligation.settlementType
  nettingCycle : row.nettingCycleId = some cycleId
  fromMember : row.fromMemberId = (settlementParties obligation ccpMemberId).1
  toMember : row.toMemberId = (settlementParties obligation ccpMemberId).2
  instrument : row.instrumentId = obligation.instrumentId
  quantity : backend.store (backend.abs obligation.netQuantity) = some row.quantity
  amount : backend.store obligation.settlementAmount = some row.amount
  chain : row.chainId = none
  status : row.status = .pending

/-- Everything that settlements read or write, save the instructions, is as before; records are
added of netting cycles only. -/
structure Beside (db after : Database) : Prop where
  members : after.members = db.members
  instruments : after.instruments = db.instruments
  accounts : after.accounts = db.accounts
  journals : after.journals = db.journals
  journalEntries : after.journalEntries = db.journalEntries
  priceFeeds : after.priceFeeds = db.priceFeeds
  transitions : ∃ added, after.stateTransitions = db.stateTransitions ++ added ∧
    ∀ record ∈ added, record.entityType = .nettingCycle
  uuids : db.nextUuid ≤ after.nextUuid
  processed : after.processedEvents = db.processedEvents

instance : Std.Refl Beside :=
  ⟨fun _ => ⟨rfl, rfl, rfl, rfl, rfl, rfl, ⟨[], by simp, by simp⟩, le_rfl, rfl⟩⟩

instance : IsTrans Database Beside where
  trans db middle after first second := by
    obtain ⟨head, head_eq, head_cycles⟩ := first.transitions
    obtain ⟨tail, tail_eq, tail_cycles⟩ := second.transitions
    refine ⟨second.members.trans first.members, second.instruments.trans first.instruments,
      second.accounts.trans first.accounts, second.journals.trans first.journals,
      second.journalEntries.trans first.journalEntries, second.priceFeeds.trans first.priceFeeds,
      ⟨head ++ tail, by rw [tail_eq, head_eq, List.append_assoc], fun record member => ?_⟩,
      first.uuids.trans second.uuids, second.processed.trans first.processed⟩
    rcases List.mem_append.mp member with old | new
    · exact head_cycles record old
    · exact tail_cycles record new

/-- A step that leaves the instructions and the legs alone as well. -/
structure Aside (db after : Database) : Prop extends Beside db after where
  instructions : after.settlementInstructions = db.settlementInstructions
  legs : after.novatedTrades = db.novatedTrades

instance : Std.Refl Aside := ⟨fun db => ⟨refl db, rfl, rfl⟩⟩

instance : IsTrans Database Aside where
  trans _ _ _ first second :=
    ⟨IsTrans.trans _ _ _ first.toBeside second.toBeside,
      second.instructions.trans first.instructions, second.legs.trans first.legs⟩

theorem aside_uuid4 : Respects Aside uuid4 := by
  intro db value after ran
  cases ran
  exact ⟨⟨rfl, rfl, rfl, rfl, rfl, rfl, ⟨[], by simp, by simp⟩, Nat.le_succ _, rfl⟩, rfl, rfl⟩

theorem aside_insertOutboxEvent (aggregateType : String) (aggregateId : Uuid)
    (eventType topic : String) (payload : Payload) (traceId : Option Uuid) :
    Respects Aside
      (insertOutboxEvent aggregateType aggregateId eventType topic payload traceId) := by
  refine respects_bind aside_uuid4 fun _ => respects_bind aside_uuid4 fun _ =>
    respects_bind (respects_write fun db => ?_) fun _ => respects_pure _
  exact ⟨⟨rfl, rfl, rfl, rfl, rfl, rfl, ⟨[], by simp, by simp⟩, le_rfl, rfl⟩, rfl, rfl⟩

theorem aside_advanceCycle (cycleId : Uuid) (fromStatus toStatus : NettingCycleStatus)
    (trace : TraceContext) : Respects Aside (advanceCycle cycleId fromStatus toStatus trace) := by
  intro db value after ran
  cases ran
  exact ⟨⟨rfl, rfl, rfl, rfl, rfl, rfl, ⟨_, rfl, by simp⟩, le_rfl, rfl⟩, rfl, rfl⟩

theorem aside_openCycle (cycleId : Uuid) (cycleType : NettingCycleType) (cutOffTime : Timestamp)
    (trace : TraceContext) : Respects Aside (openCycle cycleId cycleType cutOffTime trace) :=
  respects_bind
    (respects_write fun db =>
      ⟨⟨rfl, rfl, rfl, rfl, rfl, rfl, ⟨[], by simp, by simp⟩, le_rfl, rfl⟩, rfl, rfl⟩)
    fun _ => aside_advanceCycle ..

theorem aside_closeCycle (cycleId : Uuid) (cycleType : NettingCycleType)
    (obligationCount tradesNetted : ℕ) (instructionIds : List Uuid) (trace : TraceContext) :
    Respects Aside
      (closeCycle cycleId cycleType obligationCount tradesNetted instructionIds trace) :=
  respects_bind (aside_advanceCycle ..) fun _ => respects_bind (aside_insertOutboxEvent ..) fun _ =>
    respects_forM (fun _ => respects_bind (aside_insertOutboxEvent ..) fun _ => respects_pure _) _

theorem aside_castNumeric (backend : Backend) (x : ℚ) : Respects Aside (castNumeric backend x) := by
  intro db value after ran
  obtain ⟨-, rfl⟩ := castNumeric_eq_ok.mp ran
  exact refl db

theorem aside_requireMember (memberId : Uuid) (constraint : String) :
    Respects Aside (requireMember memberId constraint) :=
  respects_bind respects_read fun _ => respects_require _ _

theorem aside_insertNetObligation (backend : Backend) (cycleId : Uuid) (obligation : Obligation) :
    Respects Aside (insertNetObligation backend cycleId obligation) := by
  refine respects_bind aside_uuid4 fun _ => respects_bind (aside_castNumeric ..) fun _ =>
    respects_bind (aside_castNumeric ..) fun _ => respects_bind (aside_castNumeric ..) fun _ =>
    respects_bind respects_read fun _ => respects_bind (respects_require _ _) fun _ =>
    respects_bind (aside_requireMember ..) fun _ => respects_bind (respects_require _ _) fun _ =>
    respects_write fun db => ?_
  exact ⟨⟨rfl, rfl, rfl, rfl, rfl, rfl, ⟨[], by simp, by simp⟩, le_rfl, rfl⟩, rfl, rfl⟩

/-- The instructions appended for some obligations. -/
structure Instructed (backend : Backend) (ccpMemberId cycleId : Uuid)
    (obligations : List Obligation) (ids : List Uuid) (db after : Database) : Prop
    extends Beside db after where
  rows : ∃ rows, List.Forall₂ (Instructs backend ccpMemberId cycleId) obligations rows ∧
    rows.map SettlementInstruction.id = ids ∧
    after.settlementInstructions = db.settlementInstructions ++ rows
  fresh : ∀ id ∈ ids, db.nextUuid ≤ id ∧ id < after.nextUuid
  distinct : ids.Nodup

theorem Instructed.of_aside {backend : Backend} {ccpMemberId cycleId : Uuid} {db after : Database}
    (aside : Aside db after) : Instructed backend ccpMemberId cycleId [] [] db after :=
  ⟨aside.toBeside, ⟨[], .nil, rfl, by simp [aside.instructions]⟩, by simp, List.nodup_nil⟩

theorem Instructed.append {backend : Backend} {ccpMemberId cycleId : Uuid}
    {obligations obligations' : List Obligation} {ids ids' : List Uuid} {db middle after : Database}
    (head : Instructed backend ccpMemberId cycleId obligations ids db middle)
    (tail : Instructed backend ccpMemberId cycleId obligations' ids' middle after) :
    Instructed backend ccpMemberId cycleId (obligations ++ obligations') (ids ++ ids') db
      after := by
  obtain ⟨rows, instructs, numbered, extended⟩ := head.rows
  obtain ⟨rows', instructs', numbered', extended'⟩ := tail.rows
  refine ⟨IsTrans.trans _ _ _ head.toBeside tail.toBeside,
    ⟨rows ++ rows', List.rel_append instructs instructs',
      by rw [List.map_append, numbered, numbered'],
      by rw [extended', extended, List.append_assoc]⟩, fun id member => ?_, ?_⟩
  · rcases List.mem_append.mp member with old | new
    · exact ⟨(head.fresh id old).1, (head.fresh id old).2.trans_le tail.uuids⟩
    · exact ⟨head.uuids.trans (tail.fresh id new).1, (tail.fresh id new).2⟩
  · refine List.nodup_append.mpr ⟨head.distinct, tail.distinct, fun id old id' new => ?_⟩
    exact ne_of_lt ((head.fresh id old).2.trans_le (tail.fresh id' new).1)

theorem instructed_insertInstruction {backend : Backend} {cycleId : Uuid} {obligation : Obligation}
    {ccpMemberId id : Uuid} {db after : Database}
    (ran : insertInstruction backend cycleId obligation ccpMemberId db = .ok (id, after)) :
    Instructed backend ccpMemberId cycleId [obligation] [id] db after := by
  simp only [insertInstruction, uuid4, requireMember, bind_eq_ok, castNumeric_eq_ok,
    require_eq_ok, Transaction.write_apply, Transaction.read_apply, Transaction.pure_apply,
    Except.ok.injEq, Prod.mk.injEq] at ran
  obtain ⟨_, _, ⟨_, _, ⟨rfl, rfl⟩, _, _, ⟨-, rfl⟩, rfl, rfl⟩, quantity, _, ⟨stored, rfl⟩, amount, _,
    ⟨stored', rfl⟩, _, _, ⟨rfl, rfl⟩, -, _, ⟨-, rfl⟩, -, _, ⟨_, _, ⟨rfl, rfl⟩, -, rfl⟩, -, _,
    ⟨_, _, ⟨rfl, rfl⟩, -, rfl⟩, -, _, ⟨-, rfl⟩, -, _, ⟨-, rfl⟩, rfl, rfl⟩ := ran
  refine ⟨⟨rfl, rfl, rfl, rfl, rfl, rfl, ⟨[], by simp, by simp⟩, Nat.le_succ _, rfl⟩,
    ⟨_, .cons ?_ .nil, rfl, rfl⟩, ?_, List.nodup_singleton _⟩
  · exact ⟨rfl, rfl, rfl, rfl, rfl, stored, stored', rfl, rfl⟩
  · intro id member
    rw [List.mem_singleton.mp member]
    exact ⟨le_rfl, Nat.lt_succ_self _⟩

theorem instructed_insertObligationsAndInstructions {backend : Backend} {cycleId : Uuid}
    {ccpMemberId : Uuid} {obligations : List Obligation} {ids : List Uuid} {db after : Database}
    (ran : insertObligationsAndInstructions backend cycleId obligations ccpMemberId db =
      .ok (ids, after)) :
    Instructed backend ccpMemberId cycleId obligations ids db after := by
  induction obligations generalizing db ids with
  | nil =>
      cases ran
      exact .of_aside (refl after)
  | cons obligation obligations induction =>
      rw [insertObligationsAndInstructions, List.mapM_cons] at ran
      obtain ⟨id, middle, one, ran⟩ := bind_eq_ok.mp ran
      obtain ⟨⟨⟩, noted, note, instruct⟩ := bind_eq_ok.mp one
      obtain ⟨rest, last, others, done⟩ := bind_eq_ok.mp ran
      cases done
      have stored : Instructed backend ccpMemberId cycleId [] [] db noted :=
        .of_aside (aside_insertNetObligation backend cycleId obligation note)
      exact (stored.append (instructed_insertInstruction instruct)).append (induction others)

theorem aside_getCcpMemberId {db after : Database} {ccpMemberId : Uuid}
    (ran : getCcpMemberId db = .ok (ccpMemberId, after)) :
    after = db ∧ ∃ ccp, findCcp db = some ccp ∧ ccp.id = ccpMemberId := by
  simp only [getCcpMemberId, bind_eq_ok, Transaction.read_apply, Except.ok.injEq,
    Prod.mk.injEq] at ran
  obtain ⟨_, _, ⟨rfl, rfl⟩, ran⟩ := ran
  cases found : findCcp db with
  | none => simp [found] at ran
  | some ccp =>
      rw [found] at ran
      cases ran
      exact ⟨rfl, ccp, rfl, rfl⟩

/-- The obligations of a cycle over the legs that are open at its start. -/
def cycleObligations (backend : Backend) (cutOffTime : Timestamp) (db : Database) :
    List Obligation :=
  calculateNetObligations backend (pricedPositions (quote db) (openLegs db cutOffTime))

/-- A cycle writes an instruction for every obligation of the legs that are open at its start. -/
theorem instructed_runNettingCycle {backend : Backend} {cycleType : NettingCycleType}
    {cutOffTime : Timestamp} {trace : TraceContext} {result : CycleResult} {db after : Database}
    (ran : runNettingCycle backend cycleType cutOffTime trace db = .ok (result, after)) :
    ∃ ccp, findCcp db = some ccp ∧
      Instructed backend ccp.id result.cycleId (cycleObligations backend cutOffTime db)
        result.instructionIds db after := by
  obtain ⟨cycleId, numbered, number, ran⟩ := bind_eq_ok.mp ran
  obtain ⟨⟨⟩, opened, opening, ran⟩ := bind_eq_ok.mp ran
  obtain ⟨ccpMemberId, found, find, ran⟩ := bind_eq_ok.mp ran
  obtain ⟨positions, priced, pricing, ran⟩ := bind_eq_ok.mp ran
  obtain ⟨ids, instructed, instruct, ran⟩ := bind_eq_ok.mp ran
  obtain ⟨tradesNetted, marked, marking, ran⟩ := bind_eq_ok.mp ran
  obtain ⟨⟨⟩, closed, closing, done⟩ := bind_eq_ok.mp ran
  cases done
  have before : Aside db opened :=
    IsTrans.trans _ _ _ (aside_uuid4 number) (aside_openCycle _ _ _ _ opening)
  obtain ⟨rfl, ccp, house, rfl⟩ := aside_getCcpMemberId find
  cases pricing
  have finish : Instructed backend ccp.id cycleId [] [] marked after :=
    .of_aside (aside_closeCycle _ _ _ _ _ _ closing)
  have marks : Instructed backend ccp.id cycleId [] [] instructed marked := by
    cases marking
    exact ⟨⟨rfl, rfl, rfl, rfl, rfl, rfl, ⟨[], by simp, by simp⟩, le_rfl, rfl⟩,
      ⟨[], .nil, rfl, by simp⟩, by simp, List.nodup_nil⟩
  have obligations := instructed_insertObligationsAndInstructions instruct
  have same_house : findCcp db = some ccp := by
    rw [← house, findCcp, findCcp, before.members]
  have same_quote : quote found = quote db := by
    funext instrumentId
    simp only [quote, latestFeed, before.instruments, before.priceFeeds]
  have same_legs : openLegs found cutOffTime = openLegs db cutOffTime := by
    rw [openLegs, openLegs, before.legs]
  refine ⟨ccp, same_house, ?_⟩
  have whole := (((Instructed.of_aside before).append obligations).append marks).append finish
  rw [cycleObligations, ← same_quote, ← same_legs]
  simpa [pricedPositions] using whole

end Netting

end ClearingHouse
