import ClearingHouse.Library.StepSystem
import ClearingHouse.Netting.Instructions
import ClearingHouse.Novation.Effects

/-!
# Interleaved netting cycles

Netting cycles run side by side with each other and with novations, at READ COMMITTED: a statement
sees what is committed when it starts, and an update waits for a row that another transaction has
updated and then looks at the row again.  A cycle counts the legs that one statement returns and
marks the legs that a later one finds.
-/

namespace ClearingHouse

namespace Netting

open StepSystem Transactions Transactions.Transaction

/-- How far a cycle has come: the legs that its positions were summed over, the quotes it has added
to them, and of the rows that its update has found those it has still to reach and those it has
updated. -/
inductive CycleStage
  | started
  | fetched (legs : List NovatedTrade)
  | enriched (legs : List NovatedTrade) (quote : Uuid → ℚ × SettlementType)
  | updating (legs : List NovatedTrade) (quote : Uuid → ℚ × SettlementType)
      (waiting updated : List Uuid)

/-- A cycle whose transaction is open. -/
structure RunningCycle where
  cycleType : NettingCycleType
  cutOffTime : Timestamp
  trace : TraceContext
  stage : CycleStage

namespace RunningCycle

/-- The legs that a cycle has counted. -/
def legs (cycle : RunningCycle) : List NovatedTrade :=
  match cycle.stage with
  | .started => []
  | .fetched legs | .enriched legs _ | .updating legs _ _ _ => legs

/-- The rows that a cycle has updated, which stay locked until it ends. -/
def updated (cycle : RunningCycle) : List Uuid :=
  match cycle.stage with
  | .updating _ _ _ updated => updated
  | _ => []

/-- The positions have been fetched, and the update has not started. -/
def Between (cycle : RunningCycle) : Prop :=
  match cycle.stage with
  | .fetched _ | .enriched _ _ => True
  | _ => False

end RunningCycle

/-- What a committed cycle has counted, at which quotes, and the rows it has marked. -/
structure CommittedCycle where
  cycleId : Uuid
  legs : List NovatedTrade
  quote : Uuid → ℚ × SettlementType
  updated : List Uuid

/-- The obligations that a cycle has stored. -/
def CommittedCycle.obligations (backend : Backend) (cycle : CommittedCycle) : List Obligation :=
  calculateNetObligations backend (pricedPositions cycle.quote cycle.legs)

/-- The committed database, the cycles in flight and the committed ones. -/
structure Clearing where
  committed : Database
  running : List RunningCycle
  cycles : List CommittedCycle

/-- What happens next.  A running cycle is numbered by its position. -/
inductive ClearingLabel
  | begin (cycleType : NettingCycleType) (cutOffTime : Timestamp) (trace : TraceContext)
  | fetch (position : ℕ)
  | enrich (position : ℕ)
  | update (position : ℕ)
  | reach (position : ℕ) (id : Uuid)
  | commit (position : ℕ) (updated : List Uuid)
  | stop (position : ℕ)
  | novate (tradeId : Uuid) (data : Novation.TradeData) (trace : TraceContext)
      (started : Timestamp)
  | elsewhere

/-- The statements of a cycle that has counted some legs and updated some rows. -/
def finishCycle (backend : Backend) (cycle : RunningCycle) (legs : List NovatedTrade)
    (quote : Uuid → ℚ × SettlementType) (updated : List Uuid) : Sql CycleResult :=
  cycleWith backend cycle.cycleType cycle.cutOffTime cycle.trace
    (pure (pricedPositions quote legs)) (markLegs fun leg => leg.id ∈ updated)

/-- One statement of a cycle, or the commit of another transaction.  What a cycle inserts is visible
to nobody before its commit, and a novation writes no row that others write. -/
inductive ClearingStep (backend : Backend) : Clearing → ClearingLabel → Clearing → Prop
  | begin {state : Clearing} {cycleType : NettingCycleType} {cutOffTime : Timestamp}
      {trace : TraceContext} :
      ClearingStep backend state (.begin cycleType cutOffTime trace)
        { state with running := state.running ++ [⟨cycleType, cutOffTime, trace, .started⟩] }
  /-- The statement of `_fetch_open_positions`. -/
  | fetch {state : Clearing} (front back : List RunningCycle) {cycle : RunningCycle}
      (running : state.running = front ++ cycle :: back) (stage : cycle.stage = .started) :
      ClearingStep backend state (.fetch front.length)
        { state with
          running := front ++
            { cycle with stage := .fetched (openLegs state.committed cycle.cutOffTime) } ::
              back }
  /-- The statement of `_enrich_with_prices`. -/
  | enrich {state : Clearing} (front back : List RunningCycle) {cycle : RunningCycle}
      {legs : List NovatedTrade} (running : state.running = front ++ cycle :: back)
      (stage : cycle.stage = .fetched legs) :
      ClearingStep backend state (.enrich front.length)
        { state with
          running := front ++
            { cycle with stage := .enriched legs (quote state.committed) } :: back }
  /-- `_mark_trades_closed` finds its rows. -/
  | update {state : Clearing} (front back : List RunningCycle) {cycle : RunningCycle}
      {legs : List NovatedTrade} {quote : Uuid → ℚ × SettlementType}
      (running : state.running = front ++ cycle :: back)
      (stage : cycle.stage = .enriched legs quote) :
      ClearingStep backend state (.update front.length)
        { state with
          running := front ++
            { cycle with
              stage := .updating legs quote
                ((openLegs state.committed cycle.cutOffTime).map NovatedTrade.id) [] } :: back }
  /-- The update reaches a row that nobody else has updated, and the row still meets its
  condition. -/
  | reach {state : Clearing} (front back : List RunningCycle) {cycle : RunningCycle}
      {legs : List NovatedTrade} {quote : Uuid → ℚ × SettlementType} {waiting updated : List Uuid}
      {leg : NovatedTrade} (running : state.running = front ++ cycle :: back)
      (stage : cycle.stage = .updating legs quote waiting updated) (found : leg.id ∈ waiting)
      (unlocked : leg.id ∉ state.running.flatMap RunningCycle.updated)
      (present : leg ∈ openLegs state.committed cycle.cutOffTime) :
      ClearingStep backend state (.reach front.length leg.id)
        { state with
          running := front ++
            { cycle with
              stage := .updating legs quote (waiting.filter fun id => id ≠ leg.id)
                (updated ++ [leg.id]) } :: back }
  /-- The update reaches a row that has been netted in the meantime. -/
  | pass {state : Clearing} (front back : List RunningCycle) {cycle : RunningCycle}
      {legs : List NovatedTrade} {quote : Uuid → ℚ × SettlementType} {waiting updated : List Uuid}
      {id : Uuid} (running : state.running = front ++ cycle :: back)
      (stage : cycle.stage = .updating legs quote waiting updated) (found : id ∈ waiting)
      (unlocked : id ∉ state.running.flatMap RunningCycle.updated)
      (missing : ∀ leg ∈ openLegs state.committed cycle.cutOffTime, leg.id ≠ id) :
      ClearingStep backend state (.reach front.length id)
        { state with
          running := front ++
            { cycle with
              stage := .updating legs quote (waiting.filter fun other => other ≠ id) updated } ::
                back }
  /-- The update has reached all its rows, and the transaction commits. -/
  | commit {state : Clearing} (front back : List RunningCycle) {cycle : RunningCycle}
      {legs : List NovatedTrade} {quote : Uuid → ℚ × SettlementType} {updated : List Uuid}
      {result : CycleResult} {after : Database}
      (running : state.running = front ++ cycle :: back)
      (stage : cycle.stage = .updating legs quote [] updated)
      (ran : finishCycle backend cycle legs quote updated state.committed = .ok (result, after))
      (accepted : (server backend).deferred state.committed after = .ok ()) :
      ClearingStep backend state (.commit front.length updated)
        { committed := after
          running := front ++ back
          cycles := state.cycles ++ [⟨result.cycleId, legs, quote, updated⟩] }
  /-- The cycle raises, is chosen as the victim of a deadlock, or loses its connection. -/
  | stop {state : Clearing} (front back : List RunningCycle) {cycle : RunningCycle}
      (running : state.running = front ++ cycle :: back) :
      ClearingStep backend state (.stop front.length) { state with running := front ++ back }
  /-- A novation commits; its legs carry the time at which its transaction started. -/
  | novate {state : Clearing} {tradeId : Uuid} {data : Novation.TradeData} {trace : TraceContext}
      {started : Timestamp} {ids : Uuid × Uuid} {after : Database}
      (ran : Novation.novateSubmitted backend tradeId data trace
        { state.committed with now := started } = .ok (ids, after))
      (accepted : (server backend).deferred state.committed after = .ok ()) :
      ClearingStep backend state (.novate tradeId data trace started)
        { state with committed := after }
  /-- Others commit, and write no leg. -/
  | elsewhere {state : Clearing} {after : Database}
      (legs : after.novatedTrades = state.committed.novatedTrades)
      (uuids : state.committed.nextUuid ≤ after.nextUuid) :
      ClearingStep backend state .elsewhere { state with committed := after }

/-- The legs are as before, and identifiers only go up. -/
structure SameLegs (db after : Database) : Prop where
  legs : after.novatedTrades = db.novatedTrades
  uuids : db.nextUuid ≤ after.nextUuid

instance : Std.Refl SameLegs := ⟨fun _ => ⟨rfl, le_rfl⟩⟩

instance : IsTrans Database SameLegs where
  trans _ _ _ first second :=
    ⟨second.legs.trans first.legs, first.uuids.trans second.uuids⟩

theorem Aside.sameLegs {db after : Database} (aside : Aside db after) : SameLegs db after :=
  ⟨aside.legs, aside.uuids⟩

theorem sameLegs_insertInstruction (backend : Backend) (cycleId : Uuid) (obligation : Obligation)
    (ccpMemberId : Uuid) :
    Respects SameLegs (insertInstruction backend cycleId obligation ccpMemberId) := by
  have aside : ∀ {α : Type} {code : Sql α}, Respects Aside code → Respects SameLegs code :=
    fun respects _ _ _ ran => (respects ran).sameLegs
  refine respects_bind (aside aside_uuid4) fun _ =>
    respects_bind (aside (aside_castNumeric ..)) fun _ =>
    respects_bind (aside (aside_castNumeric ..)) fun _ => respects_bind respects_read fun _ =>
    respects_bind (respects_require _ _) fun _ =>
    respects_bind (aside (aside_requireMember ..)) fun _ =>
    respects_bind (aside (aside_requireMember ..)) fun _ =>
    respects_bind (respects_require _ _) fun _ =>
    respects_bind (respects_write fun _ => ⟨rfl, le_rfl⟩) fun _ => respects_pure _

theorem sameLegs_insertObligationsAndInstructions (backend : Backend) (cycleId : Uuid)
    (obligations : List Obligation) (ccpMemberId : Uuid) :
    Respects SameLegs
      (insertObligationsAndInstructions backend cycleId obligations ccpMemberId) := by
  have noted : ∀ obligation, Respects SameLegs (insertNetObligation backend cycleId obligation) :=
    fun _ _ _ _ ran => (aside_insertNetObligation _ _ _ ran).sameLegs
  exact respects_mapM (fun obligation =>
    respects_bind (noted obligation) fun _ => sameLegs_insertInstruction ..) _

/-- Whatever positions it reads, a cycle marks the legs that it selects and changes no other row of
them. -/
theorem cycleWith_apply {backend : Backend} {cycleType : NettingCycleType}
    {cutOffTime : Timestamp} {trace : TraceContext} {readPositions : Sql (List Position)}
    {selected : NovatedTrade → Bool} {result : CycleResult} {db after : Database}
    (reads : Respects SameLegs readPositions)
    (ran : cycleWith backend cycleType cutOffTime trace readPositions (markLegs selected) db =
      .ok (result, after)) :
    after.novatedTrades = db.novatedTrades.map (NovatedTrade.nettedIf selected) ∧
      db.nextUuid ≤ after.nextUuid := by
  obtain ⟨cycleId, numbered, number, ran⟩ := bind_eq_ok.mp ran
  obtain ⟨⟨⟩, opened, opening, ran⟩ := bind_eq_ok.mp ran
  obtain ⟨ccpMemberId, found, find, ran⟩ := bind_eq_ok.mp ran
  obtain ⟨positions, priced, pricing, ran⟩ := bind_eq_ok.mp ran
  obtain ⟨ids, instructed, instruct, ran⟩ := bind_eq_ok.mp ran
  obtain ⟨tradesNetted, marked, marking, ran⟩ := bind_eq_ok.mp ran
  obtain ⟨⟨⟩, closed, closing, done⟩ := bind_eq_ok.mp ran
  cases done
  cases marking
  obtain ⟨rfl, -⟩ := aside_getCcpMemberId find
  have before : SameLegs db instructed :=
    IsTrans.trans _ _ _ (aside_uuid4 number).sameLegs
      (IsTrans.trans _ _ _ (aside_openCycle _ _ _ _ opening).sameLegs
        (IsTrans.trans _ _ _ (reads pricing)
          (sameLegs_insertObligationsAndInstructions _ _ _ _ instruct)))
  have finish := (aside_closeCycle _ _ _ _ _ _ closing).sameLegs
  refine ⟨?_, before.uuids.trans finish.uuids⟩
  rw [finish.legs, ← before.legs]

/-- A cycle that has counted and updated its rows marks the rows that it has updated. -/
theorem finishCycle_apply {backend : Backend} {cycle : RunningCycle} {legs : List NovatedTrade}
    {quote : Uuid → ℚ × SettlementType} {updated : List Uuid} {result : CycleResult}
    {db after : Database}
    (ran : finishCycle backend cycle legs quote updated db = .ok (result, after)) :
    after.novatedTrades =
        db.novatedTrades.map (NovatedTrade.nettedIf fun leg => leg.id ∈ updated) ∧
      db.nextUuid ≤ after.nextUuid :=
  cycleWith_apply (respects_pure _) ran

theorem mem_openLegs {db : Database} {cutOffTime : Timestamp} {leg : NovatedTrade} :
    leg ∈ openLegs db cutOffTime ↔ leg ∈ db.novatedTrades ∧ leg.OpenBy cutOffTime := by
  rw [openLegs, List.mem_filter, decide_eq_true_eq]

/-- The rows that a commit has marked are open no more, and no other row has changed. -/
theorem mem_openLegs_netted {db after : Database} {updated : List Uuid}
    (netted : after.novatedTrades =
      db.novatedTrades.map (NovatedTrade.nettedIf fun leg => leg.id ∈ updated))
    {cutOffTime : Timestamp} {leg : NovatedTrade} :
    leg ∈ openLegs after cutOffTime ↔ leg ∈ openLegs db cutOffTime ∧ leg.id ∉ updated := by
  rw [mem_openLegs, mem_openLegs, netted, List.mem_map]
  constructor
  · rintro ⟨⟨old, member, rfl⟩, opened⟩
    by_cases marked : old.id ∈ updated
    · have closed := opened.1
      simp [NovatedTrade.nettedIf, marked] at closed
    · have same : old.nettedIf (fun leg => leg.id ∈ updated) = old := by
        simp [NovatedTrade.nettedIf, marked]
      rw [same] at opened ⊢
      exact ⟨⟨member, opened⟩, marked⟩
  · rintro ⟨⟨member, opened⟩, unmarked⟩
    exact ⟨⟨leg, member, by simp [NovatedTrade.nettedIf, unmarked]⟩, opened⟩

theorem mem_openLegs_append {db after : Database} {legs : List NovatedTrade}
    (appended : after.novatedTrades = db.novatedTrades ++ legs) {cutOffTime : Timestamp}
    {leg : NovatedTrade} :
    leg ∈ openLegs after cutOffTime ↔
      leg ∈ openLegs db cutOffTime ∨ leg ∈ legs ∧ leg.OpenBy cutOffTime := by
  rw [mem_openLegs, mem_openLegs, appended, List.mem_append, or_and_right]

/-- Every leg has its own identifier, every row is locked by one cycle at most, and what is locked
is open. -/
structure Locked (state : Clearing) : Prop where
  distinct : (state.committed.novatedTrades.map NovatedTrade.id).Nodup
  fresh : ∀ leg ∈ state.committed.novatedTrades, leg.id < state.committed.nextUuid
  exclusive : (state.running.flatMap RunningCycle.updated).Nodup
  present : ∀ cycle ∈ state.running, ∀ id ∈ cycle.updated,
    ∃ leg ∈ openLegs state.committed cycle.cutOffTime, leg.id = id

variable {backend : Backend} {state before after : Clearing} {label : ClearingLabel}
  {front back : List RunningCycle} {cycle : RunningCycle}

theorem updated_perm (front back : List RunningCycle) (cycle : RunningCycle) :
    ((front ++ cycle :: back).flatMap RunningCycle.updated).Perm
      (cycle.updated ++ (front ++ back).flatMap RunningCycle.updated) :=
  List.Perm.flatMap_right RunningCycle.updated List.perm_middle

theorem mem_others {other : RunningCycle} (member : other ∈ front ++ back) :
    other ∈ front ++ cycle :: back :=
  (List.Sublist.append_left (List.sublist_cons_self _ _) front).subset member

theorem mem_replaced {other cycle' : RunningCycle} (member : other ∈ front ++ cycle' :: back) :
    other = cycle' ∨ other ∈ front ++ back := by
  simp only [List.mem_append, List.mem_cons] at member ⊢
  tauto

/-- No other cycle has updated a row of a cycle. -/
theorem Locked.apart (locked : Locked state) (running : state.running = front ++ cycle :: back)
    {other : RunningCycle} (member : other ∈ front ++ back) {id : Uuid}
    (mine : id ∈ cycle.updated) : id ∉ other.updated := by
  intro theirs
  have exclusive := locked.exclusive
  rw [running, (updated_perm front back cycle).nodup_iff, List.nodup_append] at exclusive
  exact exclusive.2.2 id mine id (List.mem_flatMap.mpr ⟨other, member, theirs⟩) rfl

theorem Locked.remove (locked : Locked state) (running : state.running = front ++ cycle :: back) :
    Locked { state with running := front ++ back } := by
  have exclusive := locked.exclusive
  rw [running, (updated_perm front back cycle).nodup_iff, List.nodup_append] at exclusive
  exact ⟨locked.distinct, locked.fresh, exclusive.2.1, fun other member =>
    locked.present other (running ▸ mem_others member)⟩

/-- A cycle goes on, and perhaps locks an open row that was not locked. -/
theorem Locked.replace (locked : Locked state) (running : state.running = front ++ cycle :: back)
    {stage : CycleStage} (added : List Uuid)
    (updated : ({ cycle with stage } : RunningCycle).updated = cycle.updated ++ added)
    (unlocked : (added ++ state.running.flatMap RunningCycle.updated).Nodup)
    (present : ∀ id ∈ added, ∃ leg ∈ openLegs state.committed cycle.cutOffTime, leg.id = id) :
    Locked { state with running := front ++ { cycle with stage } :: back } := by
  refine ⟨locked.distinct, locked.fresh, ?_, fun other member id marked => ?_⟩
  · rw [(updated_perm front back _).nodup_iff, updated, List.append_assoc]
    rw [running, ((updated_perm front back cycle).append_left added).nodup_iff] at unlocked
    exact (List.perm_append_comm_assoc _ _ _).nodup_iff.mpr unlocked
  · rcases mem_replaced member with rfl | others
    · rw [updated] at marked
      rcases List.mem_append.mp marked with old | new
      · exact locked.present cycle (by simp [running]) id old
      · exact present id new
    · exact locked.present other (running ▸ mem_others others) id marked

/-- A cycle goes on without a lock. -/
theorem Locked.advance (locked : Locked state) (running : state.running = front ++ cycle :: back)
    {stage : CycleStage}
    (updated : ({ cycle with stage } : RunningCycle).updated = cycle.updated) :
    Locked { state with running := front ++ { cycle with stage } :: back } :=
  locked.replace running [] (by simp [updated]) locked.exclusive (by simp)

theorem updated_of_stage {stage : CycleStage} (same : cycle.stage = stage) :
    cycle.updated = ({ cycle with stage } : RunningCycle).updated := by
  rw [← same]

theorem locked_step (locked : Locked before) (step : ClearingStep backend before label after) :
    Locked after := by
  cases step with
  | begin =>
      refine ⟨locked.distinct, locked.fresh, ?_, fun cycle member => ?_⟩
      · simpa [RunningCycle.updated] using locked.exclusive
      · rcases List.mem_append.mp member with old | new
        · exact locked.present cycle old
        · rw [List.mem_singleton.mp new]
          simp [RunningCycle.updated]
  | fetch front back running stage =>
      exact locked.advance running (updated_of_stage stage).symm
  | enrich front back running stage =>
      exact locked.advance running (updated_of_stage stage).symm
  | update front back running stage =>
      exact locked.advance running (updated_of_stage stage).symm
  | @reach front back cycle legs quote waiting updated leg running stage found unlocked present =>
      refine locked.replace running [leg.id] ?_ ?_ ?_
      · rw [updated_of_stage stage]
        rfl
      · exact List.nodup_cons.mpr ⟨unlocked, locked.exclusive⟩
      · intro id member
        rw [List.mem_singleton.mp member]
        exact ⟨leg, present, rfl⟩
  | pass front back running stage found unlocked missing =>
      exact locked.advance running (updated_of_stage stage).symm
  | @commit front back cycle legs quote updated result after running stage ran accepted =>
      obtain ⟨netted, uuids⟩ := finishCycle_apply ran
      have others := locked.remove running
      have mine : updated = cycle.updated := (updated_of_stage stage).symm
      refine ⟨?_, fun leg member => ?_, others.exclusive, fun other member id marked => ?_⟩
      · rw [netted, List.map_map]
        simpa [Function.comp_def] using locked.distinct
      · rw [netted] at member
        obtain ⟨old, inside, rfl⟩ := List.mem_map.mp member
        rw [NovatedTrade.nettedIf_id]
        exact (locked.fresh old inside).trans_le uuids
      · obtain ⟨leg, opened, rfl⟩ := others.present other member id marked
        refine ⟨leg, (mem_openLegs_netted netted).mpr ⟨opened, fun taken => ?_⟩, rfl⟩
        exact locked.apart running member (mine ▸ taken) marked
  | stop front back running => exact locked.remove running
  | @novate tradeId data trace started ids after ran accepted =>
      have novates := Novation.novates_novateSubmitted ran
      obtain ⟨quantity, price, -, -, legs⟩ := novates.legs
      have uuids : before.committed.nextUuid ≤ after.nextUuid :=
        (novates.fresh.trans novates.apart.le).trans novates.uuids.le
      refine ⟨?_, fun leg member => ?_, locked.exclusive, fun cycle member id marked => ?_⟩
      · rw [legs, List.map_append, List.nodup_append]
        refine ⟨locked.distinct, ?_, fun id old id' new => ?_⟩
        · simpa [Novation.legOf] using novates.apart.ne
        · obtain ⟨leg, inside, rfl⟩ := List.mem_map.mp old
          have earlier : leg.id < ids.1 := (locked.fresh leg inside).trans_le novates.fresh
          have one_of : id' = ids.1 ∨ id' = ids.2 := by simpa [Novation.legOf] using new
          rcases one_of with rfl | rfl
          · exact earlier.ne
          · exact (earlier.trans novates.apart).ne
      · rw [legs] at member
        rcases List.mem_append.mp member with old | new
        · exact (locked.fresh leg old).trans_le uuids
        · simp only [List.mem_cons, List.not_mem_nil, or_false] at new
          rcases new with rfl | rfl
          · exact novates.apart.trans novates.uuids
          · exact novates.uuids
      · obtain ⟨leg, opened, same⟩ := locked.present cycle member id marked
        exact ⟨leg, (mem_openLegs_append legs).mpr (.inl opened), same⟩
  | elsewhere legs uuids =>
      refine ⟨?_, fun leg member => ?_, locked.exclusive, fun cycle member id marked => ?_⟩
      · rw [legs]
        exact locked.distinct
      · rw [legs] at member
        exact (locked.fresh leg member).trans_le uuids
      · rw [openLegs, legs]
        exact locked.present cycle member id marked

/-! ## Counting each leg once -/

/-- How often the committed cycles have counted a leg. -/
def Clearing.contributions (state : Clearing) (id : Uuid) : ℕ :=
  ((state.cycles.flatMap CommittedCycle.legs).map NovatedTrade.id).count id

/-- A netted leg has been counted by one cycle and an open leg by none, and a cycle marks only legs
that it has counted. -/
structure CountedOnce (state : Clearing) : Prop where
  netted : ∀ leg ∈ state.committed.novatedTrades, leg.status = .netted →
    state.contributions leg.id = 1
  untouched : ∀ leg ∈ state.committed.novatedTrades, leg.status = .open →
    state.contributions leg.id = 0
  marked : ∀ cycle ∈ state.cycles, ∀ id ∈ cycle.updated, id ∈ cycle.legs.map NovatedTrade.id

/-- Between the fetch of a cycle and its update no novation commits that started by its cut-off,
and until its end no other cycle commits that has updated a leg it has counted. -/
def Undisturbed (state : Clearing) : ClearingLabel → Prop
  | .novate _ _ _ started => ∀ cycle ∈ state.running, cycle.Between → cycle.cutOffTime < started
  | .commit position updated =>
      ∀ cycle ∈ state.running.eraseIdx position, ∀ leg ∈ cycle.legs, leg.id ∉ updated
  | _ => True

/-- The cycles in flight have counted what is open, and their updates find what they have
counted. -/
structure Counts (state : Clearing) : Prop extends Locked state, CountedOnce state where
  counted : ∀ cycle ∈ state.running, ∀ leg ∈ cycle.legs,
    leg ∈ openLegs state.committed cycle.cutOffTime
  separate : ∀ cycle ∈ state.running, (cycle.legs.map NovatedTrade.id).Nodup
  complete : ∀ cycle ∈ state.running, cycle.Between →
    ∀ leg ∈ openLegs state.committed cycle.cutOffTime, leg ∈ cycle.legs
  found : ∀ cycle ∈ state.running, ∀ legs quote waiting updated,
    cycle.stage = .updating legs quote waiting updated →
      ∀ id, id ∈ legs.map NovatedTrade.id ↔ id ∈ waiting ∨ id ∈ updated
  known : ∀ cycle ∈ state.cycles, ∀ leg ∈ cycle.legs, leg.id < state.committed.nextUuid

theorem legs_of_stage {stage : CycleStage} (same : cycle.stage = stage) :
    cycle.legs = ({ cycle with stage } : RunningCycle).legs := by
  rw [← same]

theorem CountedOnce.rerun (counted : CountedOnce state) (running : List RunningCycle) :
    CountedOnce { state with running } :=
  ⟨counted.netted, counted.untouched, counted.marked⟩

theorem Counts.remove (counts : Counts state) (running : state.running = front ++ cycle :: back) :
    Counts { state with running := front ++ back } := by
  have within : ∀ other ∈ front ++ back, other ∈ state.running := fun other member =>
    running ▸ mem_others member
  exact ⟨counts.toLocked.remove running, counts.toCountedOnce.rerun (front ++ back),
    fun other member => counts.counted other (within other member),
    fun other member => counts.separate other (within other member),
    fun other member => counts.complete other (within other member),
    fun other member => counts.found other (within other member), counts.known⟩

/-- A cycle goes on and keeps the invariant. -/
theorem Counts.replace (counts : Counts state) (running : state.running = front ++ cycle :: back)
    {stage : CycleStage}
    (locked : Locked { state with running := front ++ { cycle with stage } :: back })
    (counted : ∀ leg ∈ ({ cycle with stage } : RunningCycle).legs,
      leg ∈ openLegs state.committed cycle.cutOffTime)
    (separate : (({ cycle with stage } : RunningCycle).legs.map NovatedTrade.id).Nodup)
    (complete : ({ cycle with stage } : RunningCycle).Between →
      ∀ leg ∈ openLegs state.committed cycle.cutOffTime,
        leg ∈ ({ cycle with stage } : RunningCycle).legs)
    (found : ∀ legs quote waiting updated, stage = .updating legs quote waiting updated →
      ∀ id, id ∈ legs.map NovatedTrade.id ↔ id ∈ waiting ∨ id ∈ updated) :
    Counts { state with running := front ++ { cycle with stage } :: back } := by
  have within : ∀ other ∈ front ++ back, other ∈ state.running := fun other member =>
    running ▸ mem_others member
  refine ⟨locked, counts.toCountedOnce.rerun _, fun other member => ?_, fun other member => ?_,
    fun other member => ?_, fun other member => ?_, counts.known⟩
  · rcases mem_replaced member with rfl | others
    · exact counted
    · exact counts.counted other (within other others)
  · rcases mem_replaced member with rfl | others
    · exact separate
    · exact counts.separate other (within other others)
  · rcases mem_replaced member with rfl | others
    · exact complete
    · exact counts.complete other (within other others)
  · rcases mem_replaced member with rfl | others
    · exact found
    · exact counts.found other (within other others)

theorem openLegs_nodup {db : Database} (distinct : (db.novatedTrades.map NovatedTrade.id).Nodup)
    (cutOffTime : Timestamp) : ((openLegs db cutOffTime).map NovatedTrade.id).Nodup :=
  distinct.sublist (List.filter_sublist.map NovatedTrade.id)

/-- The commit of a cycle that still finds the legs it has counted. -/
theorem Counts.commit (counts : Counts state) (running : state.running = front ++ cycle :: back)
    {legs : List NovatedTrade} {quote : Uuid → ℚ × SettlementType} {updated : List Uuid}
    {result : CycleResult} {committed : Database}
    (stage : cycle.stage = .updating legs quote [] updated)
    (undisturbed : ∀ other ∈ front ++ back, ∀ leg ∈ other.legs, leg.id ∉ updated)
    (ran : finishCycle backend cycle legs quote updated state.committed = .ok (result, committed))
    (locked : Locked ⟨committed, front ++ back,
      state.cycles ++ [⟨result.cycleId, legs, quote, updated⟩]⟩) :
    Counts ⟨committed, front ++ back,
      state.cycles ++ [⟨result.cycleId, legs, quote, updated⟩]⟩ := by
  obtain ⟨netted, uuids⟩ := finishCycle_apply ran
  have mine : cycle ∈ state.running := by simp [running]
  have own_legs : cycle.legs = legs := legs_of_stage stage
  have same_rows : ∀ id, id ∈ legs.map NovatedTrade.id ↔ id ∈ updated := fun id => by
    simpa using counts.found cycle mine legs quote [] updated stage id
  have separate : (legs.map NovatedTrade.id).Nodup := own_legs ▸ counts.separate cycle mine
  have contributions : ∀ id,
      Clearing.contributions ⟨committed, front ++ back,
          state.cycles ++ [⟨result.cycleId, legs, quote, updated⟩]⟩ id =
        state.contributions id + (legs.map NovatedTrade.id).count id := by
    intro id
    simp [Clearing.contributions]
  have within : ∀ other ∈ front ++ back, other ∈ state.running := fun other member =>
    running ▸ mem_others member
  have kept : ∀ leg cutOffTime, leg ∈ openLegs committed cutOffTime ↔
      leg ∈ openLegs state.committed cutOffTime ∧ leg.id ∉ updated :=
    fun leg cutOffTime => mem_openLegs_netted netted
  refine ⟨locked, ⟨fun leg member status => ?_, fun leg member status => ?_,
    fun other member id marked => ?_⟩, fun other member leg inside => ?_,
    fun other member => counts.separate other (within other member),
    fun other member between leg opened => ?_,
    fun other member => counts.found other (within other member),
    fun other member leg inside => ?_⟩
  · rw [netted] at member
    obtain ⟨old, inside, rfl⟩ := List.mem_map.mp member
    rw [NovatedTrade.nettedIf_id, contributions]
    by_cases marked : old.id ∈ updated
    · -- A leg that the cycle has marked is the row it has counted, and was open.
      have counted : old.id ∈ legs.map NovatedTrade.id := (same_rows old.id).mpr marked
      obtain ⟨leg, leg_counted, same⟩ := List.mem_map.mp counted
      have opened := mem_openLegs.mp (counts.counted cycle mine leg (own_legs ▸ leg_counted))
      have old_open : old.status = .open := by
        rw [← List.inj_on_of_nodup_map counts.distinct opened.1 inside same]
        exact opened.2.1
      rw [counts.untouched old inside old_open, List.count_eq_one_of_mem separate counted]
    · have same : old.nettedIf (fun leg => leg.id ∈ updated) = old := by
        simp [NovatedTrade.nettedIf, marked]
      rw [same] at status
      rw [counts.netted old inside status,
        List.count_eq_zero_of_not_mem fun counted => marked ((same_rows old.id).mp counted)]
  · rw [netted] at member
    obtain ⟨old, inside, rfl⟩ := List.mem_map.mp member
    rw [NovatedTrade.nettedIf_id, contributions]
    by_cases marked : old.id ∈ updated
    · simp [NovatedTrade.nettedIf, marked] at status
    · have same : old.nettedIf (fun leg => leg.id ∈ updated) = old := by
        simp [NovatedTrade.nettedIf, marked]
      rw [same] at status
      rw [counts.untouched old inside status,
        List.count_eq_zero_of_not_mem fun counted => marked ((same_rows old.id).mp counted)]
  · rcases List.mem_append.mp member with old | new
    · exact counts.marked other old id marked
    · rw [List.mem_singleton.mp new] at marked ⊢
      exact (same_rows id).mpr marked
  · exact (kept leg _).mpr ⟨counts.counted other (within other member) leg inside,
      undisturbed other member leg inside⟩
  · exact counts.complete other (within other member) between leg ((kept leg _).mp opened).1
  · rcases List.mem_append.mp member with old | new
    · exact (counts.known other old leg inside).trans_le uuids
    · rw [List.mem_singleton.mp new] at inside
      have opened := mem_openLegs.mp (counts.counted cycle mine leg (own_legs ▸ inside))
      exact (counts.fresh leg opened.1).trans_le uuids

theorem eraseIdx_length (front back : List RunningCycle) (cycle : RunningCycle) :
    (front ++ cycle :: back).eraseIdx front.length = front ++ back := by
  simp [List.eraseIdx_append_of_length_le]

theorem counts_step (counts : Counts before) (permitted : Undisturbed before label)
    (step : ClearingStep backend before label after) : Counts after := by
  have locked := locked_step counts.toLocked step
  cases step with
  | begin =>
      refine ⟨locked, counts.toCountedOnce.rerun _, fun cycle member => ?_,
        fun cycle member => ?_, fun cycle member => ?_, fun cycle member => ?_, counts.known⟩
      all_goals
        rcases List.mem_append.mp member with old | new
      · exact counts.counted cycle old
      · simp [List.mem_singleton.mp new, RunningCycle.legs]
      · exact counts.separate cycle old
      · simp [List.mem_singleton.mp new, RunningCycle.legs]
      · exact counts.complete cycle old
      · simp [List.mem_singleton.mp new, RunningCycle.Between]
      · exact counts.found cycle old
      · simp [List.mem_singleton.mp new]
  | fetch front back running stage =>
      exact counts.replace running locked (fun _ inside => inside)
        (openLegs_nodup counts.distinct _) (fun _ _ inside => inside) (by simp)
  | @enrich front back cycle legs running stage =>
      have mine : cycle ∈ before.running := by simp [running]
      have own_legs : cycle.legs = legs := legs_of_stage stage
      refine counts.replace running locked (own_legs ▸ counts.counted cycle mine)
        (own_legs ▸ counts.separate cycle mine) (fun _ => ?_) (by simp)
      exact own_legs ▸ counts.complete cycle mine (by simp [RunningCycle.Between, stage])
  | @update front back cycle legs quote running stage =>
      have mine : cycle ∈ before.running := by simp [running]
      have own_legs : cycle.legs = legs := legs_of_stage stage
      have complete := counts.complete cycle mine (by simp [RunningCycle.Between, stage])
      refine counts.replace running locked (own_legs ▸ counts.counted cycle mine)
        (own_legs ▸ counts.separate cycle mine) (by simp [RunningCycle.Between]) ?_
      intro legs' quote' waiting updated same id
      cases same
      rw [List.mem_map, List.mem_map]
      constructor
      · rintro ⟨leg, inside, rfl⟩
        exact .inl ⟨leg, counts.counted cycle mine leg (own_legs ▸ inside), rfl⟩
      · rintro (⟨leg, opened, rfl⟩ | none)
        · exact ⟨leg, own_legs ▸ complete leg opened, rfl⟩
        · cases none
  | @reach front back cycle legs quote waiting updated leg running stage found unlocked present =>
      have mine : cycle ∈ before.running := by simp [running]
      have own_legs : cycle.legs = legs := legs_of_stage stage
      refine counts.replace running locked (own_legs ▸ counts.counted cycle mine)
        (own_legs ▸ counts.separate cycle mine) (by simp [RunningCycle.Between]) ?_
      intro legs' quote' waiting' updated' same id
      cases same
      rw [counts.found cycle mine legs quote waiting updated stage id, List.mem_filter,
        List.mem_append, List.mem_singleton, decide_eq_true_eq]
      by_cases here : id = leg.id
      · simp [here, found]
      · simp [here]
  | @pass front back cycle legs quote waiting updated id running stage found unlocked missing =>
      have mine : cycle ∈ before.running := by simp [running]
      have own_legs : cycle.legs = legs := legs_of_stage stage
      -- The row has been counted, so nobody can have netted it.
      have counted := (counts.found cycle mine legs quote waiting updated stage id).mpr (.inl found)
      obtain ⟨leg, inside, same⟩ := List.mem_map.mp counted
      exact absurd same (missing leg (counts.counted cycle mine leg (own_legs ▸ inside)))
  | commit front back running stage ran accepted =>
      refine counts.commit running stage (fun other member => ?_) ran locked
      apply permitted other
      rw [running, eraseIdx_length]
      exact member
  | stop front back running => exact counts.remove running
  | @novate tradeId data trace started ids after ran accepted =>
      have novates := Novation.novates_novateSubmitted ran
      obtain ⟨quantity, price, -, -, legs⟩ := novates.legs
      have uuids : before.committed.nextUuid ≤ after.nextUuid :=
        (novates.fresh.trans novates.apart.le).trans novates.uuids.le
      have unknown : ∀ id, before.committed.nextUuid ≤ id → before.contributions id = 0 := by
        intro id numbered
        apply List.count_eq_zero_of_not_mem
        intro member
        obtain ⟨leg, inside, rfl⟩ := List.mem_map.mp member
        obtain ⟨cycle, committed, counted⟩ := List.mem_flatMap.mp inside
        exact absurd (counts.known cycle committed leg counted) numbered.not_gt
      have new_leg : ∀ leg ∈ after.novatedTrades, leg ∈ before.committed.novatedTrades ∨
          leg.status = .open ∧ leg.novatedAt = started ∧ before.committed.nextUuid ≤ leg.id := by
        intro leg member
        rw [legs] at member
        rcases List.mem_append.mp member with old | new
        · exact .inl old
        · simp only [List.mem_cons, List.not_mem_nil, or_false] at new
          rcases new with rfl | rfl
          · exact .inr ⟨rfl, rfl, novates.fresh⟩
          · exact .inr ⟨rfl, rfl, novates.fresh.trans novates.apart.le⟩
      refine ⟨locked, ⟨fun leg member status => ?_, fun leg member status => ?_, counts.marked⟩,
        fun cycle member leg inside => ?_, counts.separate,
        fun cycle member between leg opened => ?_,
        counts.found, fun cycle member leg inside => ?_⟩
      · rcases new_leg leg member with old | ⟨opened, -, -⟩
        · exact counts.netted leg old status
        · rw [opened] at status
          cases status
      · rcases new_leg leg member with old | ⟨-, -, numbered⟩
        · exact counts.untouched leg old status
        · exact unknown leg.id numbered
      · exact (mem_openLegs_append legs).mpr (.inl (counts.counted cycle member leg inside))
      · obtain ⟨present, is_open, by_cutoff⟩ := mem_openLegs.mp opened
        rcases new_leg leg present with old | ⟨-, novated, -⟩
        · exact counts.complete cycle member between leg
            (mem_openLegs.mpr ⟨old, is_open, by_cutoff⟩)
        · exact absurd (novated ▸ by_cutoff) (permitted cycle member between).not_ge
      · exact (counts.known cycle member leg inside).trans_le uuids
  | @elsewhere after legs uuids =>
      have opened : ∀ cutOffTime, openLegs after cutOffTime =
          openLegs before.committed cutOffTime := fun cutOffTime => by
        rw [openLegs, legs, openLegs]
      refine ⟨locked, ⟨fun leg member => ?_, fun leg member => ?_, counts.marked⟩,
        fun cycle member leg inside => ?_, counts.separate,
        fun cycle member between leg inside => ?_,
        counts.found, fun cycle member leg inside => ?_⟩
      · rw [legs] at member
        exact counts.netted leg member
      · rw [legs] at member
        exact counts.untouched leg member
      · rw [opened]
        exact counts.counted cycle member leg inside
      · rw [opened] at inside
        exact counts.complete cycle member between leg inside
      · exact (counts.known cycle member leg inside).trans_le uuids

/-- In every run in which nothing disturbs a cycle between its statements, every netted leg has been
counted by one cycle and every open leg by none. -/
theorem countedOnce_of_run {db : Database} (none : db.novatedTrades = []) {last : Clearing}
    (run : Run (ClearingStep backend) Undisturbed ⟨db, [], []⟩ last) : CountedOnce last := by
  have opening : Counts ⟨db, [], []⟩ := by
    refine ⟨⟨?_, ?_, ?_, ?_⟩, ⟨?_, ?_, ?_⟩, ?_, ?_, ?_, ?_, ?_⟩ <;> simp [none]
  exact (run.invariant (fun _ _ _ counts permitted step => counts_step counts permitted step)
    opening).toCountedOnce

/-- One cycle runs, the others stand before their first statement, and nobody else commits. -/
def Alone (db : Database) (cutOffTime : Timestamp) (state : Clearing) : ClearingLabel → Prop
  | .fetch position => state.committed = db ∧
      ∀ cycle, state.running[position]? = some cycle → cycle.cutOffTime = cutOffTime
  | .commit position _ => ∀ cycle ∈ state.running.eraseIdx position, cycle.stage = .started
  | .novate .. | .elsewhere => False
  | _ => True

theorem legs_of_started (started : cycle.stage = .started) : cycle.legs = [] := by
  rw [RunningCycle.legs, started]

theorem updated_of_started (started : cycle.stage = .started) : cycle.updated = [] := by
  rw [RunningCycle.updated, started]

theorem Alone.undisturbed {db : Database} {cutOffTime : Timestamp}
    (alone : Alone db cutOffTime state label) : Undisturbed state label := by
  cases label with
  | commit position updated =>
      intro cycle other leg counted
      rw [legs_of_started (alone cycle other)] at counted
      cases counted
  | novate => cases alone
  | _ => exact trivial

/-- The update of a cycle alone reaches its rows one by one. -/
theorem run_reach {db : Database} (cycle : RunningCycle) {legs : List NovatedTrade}
    {quote : Uuid → ℚ × SettlementType} {others : List RunningCycle}
    {cycles : List CommittedCycle} (waiting : ∀ other ∈ others, other.stage = .started)
    (rest : List NovatedTrade) (updated : List Uuid)
    (present : ∀ leg ∈ rest, leg ∈ openLegs db cycle.cutOffTime)
    (distinct : (updated ++ rest.map NovatedTrade.id).Nodup) :
    Run (ClearingStep backend) (Alone db cycle.cutOffTime)
      ⟨db, { cycle with stage := .updating legs quote (rest.map NovatedTrade.id) updated } ::
        others, cycles⟩
      ⟨db, { cycle with
        stage := .updating legs quote [] (updated ++ rest.map NovatedTrade.id) } :: others,
        cycles⟩ := by
  induction rest generalizing updated with
  | nil =>
      rw [List.map_nil, List.append_nil]
      exact .refl _
  | cons leg rest induction =>
      have left : ((leg :: rest).map NovatedTrade.id).filter (fun id => id ≠ leg.id) =
          rest.map NovatedTrade.id := by
        have fresh : leg.id ∉ rest.map NovatedTrade.id :=
          (List.nodup_cons.mp (List.nodup_append.mp distinct).2.1).1
        rw [List.map_cons, List.filter_cons_of_neg (by simp), List.filter_eq_self]
        intro id member
        simpa using ne_of_mem_of_not_mem member fresh
      have unlocked : leg.id ∉ updated ++ others.flatMap RunningCycle.updated := by
        rw [List.mem_append, List.mem_flatMap]
        rintro (taken | ⟨other, inside, taken⟩)
        · exact (List.nodup_append.mp distinct).2.2 leg.id taken leg.id (by simp) rfl
        · rw [updated_of_started (waiting other inside)] at taken
          cases taken
      have reached : ClearingStep backend
          ⟨db, { cycle with
            stage := .updating legs quote ((leg :: rest).map NovatedTrade.id) updated } :: others,
            cycles⟩
          (.reach 0 leg.id)
          ⟨db, { cycle with
            stage := .updating legs quote (rest.map NovatedTrade.id) (updated ++ [leg.id]) } ::
              others, cycles⟩ := by
        rw [← left]
        exact @ClearingStep.reach backend _ [] others
          { cycle with
            stage := .updating legs quote ((leg :: rest).map NovatedTrade.id) updated }
          legs quote _ updated leg rfl rfl (by simp) unlocked (present leg List.mem_cons_self)
      have moved : updated ++ (leg :: rest).map NovatedTrade.id =
          (updated ++ [leg.id]) ++ rest.map NovatedTrade.id := by simp
      rw [moved]
      refine Run.trans (.snoc (.refl _) (by exact trivial) reached) (induction (updated ++ [leg.id])
        (fun other inside => present other (List.mem_cons_of_mem leg inside)) ?_)
      rw [← moved]
      exact distinct

/-- `run_netting_cycle` reads the legs, the prices and the marks of the state it starts in. -/
theorem finishCycle_of_runNettingCycle {cycleType : NettingCycleType} {cutOffTime : Timestamp}
    {trace : TraceContext} {stage : CycleStage} {result : CycleResult} {db after : Database}
    (distinct : (db.novatedTrades.map NovatedTrade.id).Nodup)
    (ran : runNettingCycle backend cycleType cutOffTime trace db = .ok (result, after)) :
    finishCycle backend ⟨cycleType, cutOffTime, trace, stage⟩ (openLegs db cutOffTime) (quote db)
      ((openLegs db cutOffTime).map NovatedTrade.id) db = .ok (result, after) := by
  obtain ⟨cycleId, numbered, number, ran⟩ := bind_eq_ok.mp ran
  obtain ⟨⟨⟩, opened, opening, ran⟩ := bind_eq_ok.mp ran
  obtain ⟨ccpMemberId, found, find, ran⟩ := bind_eq_ok.mp ran
  obtain ⟨positions, priced, pricing, ran⟩ := bind_eq_ok.mp ran
  obtain ⟨ids, instructed, instruct, ran⟩ := bind_eq_ok.mp ran
  obtain ⟨tradesNetted, marked, marking, closing⟩ := bind_eq_ok.mp ran
  have before : Aside db opened :=
    IsTrans.trans _ _ _ (aside_uuid4 number) (aside_openCycle _ _ _ _ opening)
  obtain ⟨rfl, -⟩ := aside_getCcpMemberId find
  have same_quote : quote found = quote db := by
    funext instrumentId
    simp only [quote, latestFeed, before.instruments, before.priceFeeds]
  have same_legs : openLegs found cutOffTime = openLegs db cutOffTime := by
    rw [openLegs, openLegs, before.legs]
  have legs : instructed.novatedTrades = db.novatedTrades := by
    cases pricing
    exact (sameLegs_insertObligationsAndInstructions _ _ _ _ instruct).legs.trans before.legs
  -- By identifier or by status and time: the same rows, since identifiers are unique.
  have selects : ∀ leg ∈ instructed.novatedTrades,
      decide (leg.id ∈ (openLegs db cutOffTime).map NovatedTrade.id) =
        decide (leg.OpenBy cutOffTime) := by
    intro leg inside
    rw [legs] at inside
    rw [decide_eq_decide, List.mem_map]
    constructor
    · rintro ⟨other, member, same⟩
      obtain ⟨present, opened⟩ := mem_openLegs.mp member
      rw [← List.inj_on_of_nodup_map distinct present inside same]
      exact opened
    · intro opened
      exact ⟨leg, mem_openLegs.mpr ⟨inside, opened⟩, rfl⟩
  have same_mark : markLegs (fun leg => leg.id ∈ (openLegs db cutOffTime).map NovatedTrade.id)
      instructed = .ok (tradesNetted, marked) := by
    rw [← marking, markTradesClosed, markLegs, markLegs]
    have rows : instructed.novatedTrades.map (NovatedTrade.nettedIf fun leg =>
          leg.id ∈ (openLegs db cutOffTime).map NovatedTrade.id) =
        instructed.novatedTrades.map (NovatedTrade.nettedIf fun leg => leg.OpenBy cutOffTime) :=
      List.map_congr_left fun leg inside => by
        simp only [NovatedTrade.nettedIf, selects leg inside]
    have number : instructed.novatedTrades.countP (fun leg =>
          leg.id ∈ (openLegs db cutOffTime).map NovatedTrade.id) =
        instructed.novatedTrades.countP fun leg => leg.OpenBy cutOffTime :=
      List.countP_congr fun leg inside => by rw [selects leg inside]
    simp only [bind_apply, read_apply, write_apply, pure_apply, rows, number]
  have positions_eq : positions = pricedPositions (quote db) (openLegs db cutOffTime) := by
    cases pricing
    rw [← same_quote, ← same_legs]
    rfl
  obtain rfl : priced = found := by cases pricing; rfl
  rw [finishCycle, cycleWith, bind_of_ok number, bind_of_ok opening, bind_of_ok find,
    bind_of_ok (pure_apply _ _), ← positions_eq, bind_of_ok instruct, bind_of_ok same_mark]
  exact closing

/-- A cycle that has begun does what a call of `run_netting_cycle` does, while the others wait. -/
theorem run_of_started {cycleType : NettingCycleType} {cutOffTime : Timestamp}
    {trace : TraceContext} {result : CycleResult} {db after : Database}
    {others : List RunningCycle} (cycles : List CommittedCycle)
    (waiting : ∀ other ∈ others, other.stage = .started)
    (distinct : (db.novatedTrades.map NovatedTrade.id).Nodup)
    (ran : runNettingCycle backend cycleType cutOffTime trace db = .ok (result, after))
    (accepted : (server backend).deferred db after = .ok ()) :
    Run (ClearingStep backend) (Alone db cutOffTime)
      ⟨db, ⟨cycleType, cutOffTime, trace, .started⟩ :: others, cycles⟩
      ⟨after, others, cycles ++ [⟨result.cycleId, openLegs db cutOffTime, quote db,
        (openLegs db cutOffTime).map NovatedTrade.id⟩]⟩ := by
  have fetched : Run (ClearingStep backend) (Alone db cutOffTime)
      ⟨db, ⟨cycleType, cutOffTime, trace, .started⟩ :: others, cycles⟩ _ :=
    .snoc (.refl _) (by simp [Alone]) (.fetch [] others rfl rfl)
  have enriched := Run.snoc fetched (by exact trivial) (.enrich [] others rfl rfl)
  have found := Run.snoc enriched (by exact trivial) (.update [] others rfl rfl)
  have updated := found.trans
    (run_reach ⟨cycleType, cutOffTime, trace, .started⟩ waiting (openLegs db cutOffTime) []
      (fun leg inside => inside)
      (openLegs_nodup distinct cutOffTime))
  exact Run.snoc updated (by exact waiting)
    (.commit [] others rfl rfl (finishCycle_of_runNettingCycle distinct ran) accepted)

/-- A call of `run_netting_cycle` that nobody interrupts is a run of the steps above. -/
theorem run_of_runNettingCycle {cycleType : NettingCycleType} {cutOffTime : Timestamp}
    {trace : TraceContext} {result : CycleResult} {db after : Database}
    (cycles : List CommittedCycle) (distinct : (db.novatedTrades.map NovatedTrade.id).Nodup)
    (ran : runNettingCycle backend cycleType cutOffTime trace db = .ok (result, after))
    (accepted : (server backend).deferred db after = .ok ()) :
    Run (ClearingStep backend) (Alone db cutOffTime) ⟨db, [], cycles⟩
      ⟨after, [], cycles ++ [⟨result.cycleId, openLegs db cutOffTime, quote db,
        (openLegs db cutOffTime).map NovatedTrade.id⟩]⟩ :=
  Run.trans (.snoc (.refl _) (by exact trivial) .begin)
    (run_of_started cycles (List.forall_mem_nil _) distinct ran accepted)

/-- A house to which the trade of ten units between its two members has been submitted. -/
def oneTrade : Database :=
  { Database.opening [⟨0, ccpLei, .active, 0⟩, ⟨1, "LEI1", .active, 0⟩, ⟨2, "LEI2", .active, 0⟩]
      [⟨3, .cash, 1 / 10, 1 / 20, none, none, true⟩]
      [⟨7, 1, .marginIm, "USD", .available⟩, ⟨8, 1, .marginIm, "USD", .locked⟩,
        ⟨9, 2, .marginIm, "USD", .available⟩, ⟨10, 2, .marginIm, "USD", .locked⟩] 20
      Database.nodup_ccpAndTwo Database.nodup_marginAccountIds Database.nodup_marginAccountKeys with
    trades := [⟨4, 3, 1, 2, 10, 9, .submitted⟩]
    now := 1 }

/-- The terms of the trade. -/
def oneTradeData : Novation.TradeData := ⟨4, 1, 2, 3, 10, 9⟩

/-- The trace of its submission. -/
def oneTradeTrace : TraceContext := ⟨6, "alice", none⟩

/-- The house once the trade is novated. -/
def oneTradeNovated : Database :=
  (Novation.novateSubmitted decimalBackend 4 oneTradeData oneTradeTrace oneTrade).toOption.elim
    oneTrade Prod.snd

theorem novates_oneTrade :
    ∃ ids, Novation.novateSubmitted decimalBackend 4 oneTradeData oneTradeTrace oneTrade =
        .ok (ids, oneTradeNovated) ∧
      (server decimalBackend).deferred oneTrade oneTradeNovated = .ok () := by
  have returned : (Novation.novateSubmitted decimalBackend 4 oneTradeData oneTradeTrace
      oneTrade).toOption.isSome = true := by decide +kernel
  have balanced : ((server decimalBackend).deferred oneTrade oneTradeNovated).toOption =
      some () := by decide +kernel
  obtain ⟨ids, ran⟩ := ok_of_isSome oneTrade returned
  exact ⟨ids, ran, accepted_of_toOption balanced⟩

theorem run_novate_oneTrade (running : List RunningCycle) (cycles : List CommittedCycle) :
    ClearingStep decimalBackend ⟨oneTrade, running, cycles⟩
      (.novate 4 oneTradeData oneTradeTrace 1) ⟨oneTradeNovated, running, cycles⟩ := by
  obtain ⟨ids, ran, accepted⟩ := novates_oneTrade
  exact .novate ran accepted

theorem distinct_oneTradeNovated :
    (oneTradeNovated.novatedTrades.map NovatedTrade.id).Nodup := by decide +kernel

/-- What a cycle over the house returns, and the house once it is over. -/
def netOneTrade (db : Database) : Except Failure (CycleResult × Database) :=
  runNettingCycle decimalBackend .manual 5 oneTradeTrace db

/-- The house once its two legs are netted. -/
def oneTradeNetted : Database :=
  (netOneTrade oneTradeNovated).toOption.elim oneTradeNovated Prod.snd

private theorem nets_oneTrade {db : Database} (returned : (netOneTrade db).toOption.isSome = true) :
    ∃ result, netOneTrade db = .ok (result, (netOneTrade db).toOption.elim db Prod.snd) :=
  ok_of_isSome db returned

/-- Two cycles begin side by side: one nets the two legs of the trade, and the other none. -/
theorem countedOnce_of_run_oneTrade :
    ∃ last, Run (ClearingStep decimalBackend) Undisturbed ⟨oneTrade, [], []⟩ last ∧
      last.cycles.map CommittedCycle.updated = [[20, 21], []] ∧ CountedOnce last := by
  have first : (netOneTrade oneTradeNovated).toOption.isSome = true := by decide +kernel
  have second : (netOneTrade oneTradeNetted).toOption.isSome = true := by decide +kernel
  have balanced : ((server decimalBackend).deferred oneTradeNovated oneTradeNetted).toOption =
      some () := by decide +kernel
  have balanced' : ((server decimalBackend).deferred oneTradeNetted
      ((netOneTrade oneTradeNetted).toOption.elim oneTradeNetted Prod.snd)).toOption =
      some () := by decide +kernel
  have distinct : (oneTradeNetted.novatedTrades.map NovatedTrade.id).Nodup := by decide +kernel
  have counted : (openLegs oneTradeNovated 5).map NovatedTrade.id = [20, 21] := by decide +kernel
  have none : (openLegs oneTradeNetted 5).map NovatedTrade.id = [] := by decide +kernel
  obtain ⟨_, nets⟩ := nets_oneTrade first
  obtain ⟨_, nets'⟩ := nets_oneTrade second
  have novated : Run (ClearingStep decimalBackend) Undisturbed ⟨oneTrade, [], []⟩
      ⟨oneTradeNovated, [], []⟩ :=
    .snoc (.refl _) (by simp [Undisturbed]) (run_novate_oneTrade [] [])
  have begun : Run (ClearingStep decimalBackend) Undisturbed ⟨oneTrade, [], []⟩
      ⟨oneTradeNovated, [⟨.manual, 5, oneTradeTrace, .started⟩,
        ⟨.manual, 5, oneTradeTrace, .started⟩], []⟩ :=
    .snoc (.snoc novated (by exact trivial) .begin) (by exact trivial) .begin
  have netted := begun.trans ((run_of_started [] (by simp) distinct_oneTradeNovated nets
    (accepted_of_toOption balanced)).mono fun _ _ alone => alone.undisturbed)
  have run := netted.trans ((run_of_started _ (by simp) distinct nets'
    (accepted_of_toOption balanced')).mono fun _ _ alone => alone.undisturbed)
  exact ⟨_, run, by simp [counted, none], countedOnce_of_run rfl run⟩

/-- The trade is novated while a cycle stands between its fetch and its update: its legs are netted
although no cycle has counted them. -/
theorem not_countedOnce_oneTrade :
    ∃ last, Run (ClearingStep decimalBackend) unrestricted ⟨oneTrade, [], []⟩ last ∧
      ¬CountedOnce last := by
  have rows : (openLegs oneTradeNovated 5).map NovatedTrade.id = [20, 21] := by decide +kernel
  have facts : ((finishCycle decimalBackend ⟨.manual, 5, oneTradeTrace, .started⟩ []
        (quote oneTrade) [20, 21] oneTradeNovated).toOption.map fun pair =>
      (pair.2.novatedTrades.any (fun leg => leg.status = .netted),
        ((server decimalBackend).deferred oneTradeNovated pair.2).toOption)) =
        some (true, some ()) := by decide +kernel
  cases ran : finishCycle decimalBackend ⟨.manual, 5, oneTradeTrace, .started⟩ []
      (quote oneTrade) [20, 21] oneTradeNovated with
  | error failure => simp [ran, Except.toOption] at facts
  | ok pair =>
      obtain ⟨result, after⟩ := pair
      simp only [ran, Except.toOption, Option.map_some, Option.some.injEq, Prod.mk.injEq,
        List.any_eq_true, decide_eq_true_eq] at facts
      obtain ⟨⟨leg, member, status⟩, balanced⟩ := facts
      have begun : Run (ClearingStep decimalBackend) unrestricted ⟨oneTrade, [], []⟩
          ⟨oneTrade, [⟨.manual, 5, oneTradeTrace, .started⟩], []⟩ :=
        .snoc (.refl _) trivial .begin
      have fetched := Run.snoc begun trivial (.fetch [] [] rfl rfl)
      have enriched := Run.snoc fetched trivial (.enrich [] [] rfl rfl)
      have novated := Run.snoc enriched trivial (run_novate_oneTrade _ _)
      have found := Run.snoc novated trivial (.update [] [] rfl rfl)
      have updated := found.trans ((run_reach ⟨.manual, 5, oneTradeTrace, .started⟩
        (List.forall_mem_nil _) (openLegs oneTradeNovated 5) [] (fun leg inside => inside)
          (openLegs_nodup distinct_oneTradeNovated 5)).mono
          fun _ _ _ => trivial)
      rw [List.nil_append, rows] at updated
      have finished := Run.snoc updated trivial
        (.commit [] [] rfl rfl ran (accepted_of_toOption balanced))
      refine ⟨_, finished, fun counted => ?_⟩
      have once := counted.netted leg member status
      simp [Clearing.contributions, openLegs, oneTrade, Database.opening] at once

end Netting

end ClearingHouse
