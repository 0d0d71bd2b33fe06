import ClearingHouse.Netting.Interleaving

/-!
# The matched book

A novation inserts a buy and a sell leg with the same terms in one transaction, and an update that
finds one of them finds the other.  So the book stays a list of pairs whatever cycles run side by
side, and what is open is flat in every instrument.  The net quantities of a cycle are flat as well
when its totals fit the arithmetic of the service.
-/

namespace ClearingHouse

namespace Netting

open Fibers StepSystem

/-- The two legs of a trade. -/
structure LegPair where
  buy : NovatedTrade
  sell : NovatedTrade
  buys : buy.side = .buy
  sells : sell.side = .sell
  trade : sell.originalTradeId = buy.originalTradeId
  instrument : sell.instrumentId = buy.instrumentId
  quantity : sell.quantity = buy.quantity
  price : sell.price = buy.price
  novatedAt : sell.novatedAt = buy.novatedAt
  status : sell.status = buy.status

namespace LegPair

/-- Both legs. -/
def legs (pair : LegPair) : List NovatedTrade := [pair.buy, pair.sell]

theorem openBy_iff (pair : LegPair) (cutOffTime : Timestamp) :
    pair.sell.OpenBy cutOffTime ↔ pair.buy.OpenBy cutOffTime := by
  rw [NovatedTrade.OpenBy, NovatedTrade.OpenBy, pair.status, pair.novatedAt]

end LegPair

/-- Some legs, as a list of pairs. -/
def Paired (legs : List NovatedTrade) : Prop :=
  ∃ pairs : List LegPair, legs = pairs.flatMap LegPair.legs

theorem flatMap_filter {selects : NovatedTrade → Bool} (pairs : List LegPair)
    (together : ∀ pair ∈ pairs, selects pair.sell = selects pair.buy) :
    (pairs.flatMap LegPair.legs).filter selects =
      (pairs.filter fun pair => selects pair.buy).flatMap LegPair.legs := by
  induction pairs with
  | nil => rfl
  | cons pair pairs induction =>
      have tail := induction fun other inside => together other (List.mem_cons_of_mem pair inside)
      have both := together pair List.mem_cons_self
      rw [List.flatMap_cons, List.filter_append, tail]
      cases selected : selects pair.buy with
      | true => simp [LegPair.legs, selected, both]
      | false => simp [LegPair.legs, selected, both]

/-- Pairs are flat in every instrument. -/
theorem Paired.flat {legs : List NovatedTrade} (paired : Paired legs) (instrumentId : Uuid) :
    fiberSum NovatedTrade.instrumentId Margin.signedQuantity legs instrumentId = 0 := by
  obtain ⟨pairs, rfl⟩ := paired
  induction pairs with
  | nil => rfl
  | cons pair pairs induction =>
      rw [List.flatMap_cons, fiberSum_append, induction, LegPair.legs, fiberSum_cons,
        fiberSum_cons, fiberSum_nil, pair.instrument, Margin.signedQuantity,
        Margin.signedQuantity, pair.buys, pair.sells, pair.quantity]
      split <;> ring

theorem Paired.openLegs {db : Database} (paired : Paired db.novatedTrades)
    (cutOffTime : Timestamp) : Paired (openLegs db cutOffTime) := by
  obtain ⟨pairs, split⟩ := paired
  refine ⟨pairs.filter fun pair => pair.buy.OpenBy cutOffTime, ?_⟩
  rw [Netting.openLegs, split]
  exact flatMap_filter pairs fun pair _ => decide_eq_decide.mpr (pair.openBy_iff cutOffTime)

theorem Paired.open {db : Database} (paired : Paired db.novatedTrades) :
    Paired (db.novatedTrades.filter fun leg => leg.status = .open) := by
  obtain ⟨pairs, split⟩ := paired
  refine ⟨pairs.filter fun pair => pair.buy.status = .open, ?_⟩
  rw [split]
  exact flatMap_filter pairs fun pair _ => by simp [pair.status]

/-- The totals of both sides of every member in every instrument, and their difference, pass through
the arithmetic of the service unrounded. -/
def FitsContext (backend : Backend) (legs : List NovatedTrade) : Prop :=
  ∀ k, (∀ side, backend.round (sideTotal legs k side) = sideTotal legs k side) ∧
    backend.round (netTotal legs k) = netTotal legs k

theorem netQuantityAt_of_fits {backend : Backend} {legs : List NovatedTrade}
    (fits : FitsContext backend legs) (k : Uuid × Uuid) :
    netQuantityAt backend legs k = netTotal legs k := by
  obtain ⟨sides, net⟩ := fits k
  rw [netQuantityAt, Backend.sub, sides, sides, ← netTotal_eq, net]

/-- At any prices, the exact amounts of the obligations of a cycle cancel. -/
theorem sum_obligations {backend : Backend} {quote : Uuid → ℚ × SettlementType}
    {legs : List NovatedTrade} (paired : Paired legs) (fits : FitsContext backend legs)
    (price : Uuid → ℚ) :
    ((calculateNetObligations backend (pricedPositions quote legs)).map fun obligation =>
      obligation.netQuantity * price obligation.instrumentId).sum = 0 := by
  have dropped : (((obligationKeys backend quote legs).filter fun k =>
        netQuantityAt backend legs k ≠ 0).map fun k =>
          netQuantityAt backend legs k * price k.2).sum =
      ((obligationKeys backend quote legs).map fun k =>
        netQuantityAt backend legs k * price k.2).sum := by
    apply sum_map_filter_of_zero
    intro k _ flat
    have zero : netQuantityAt backend legs k = 0 := by simpa using flat
    rw [zero, zero_mul]
  have totals : (fun k : Uuid × Uuid => netQuantityAt backend legs k * price k.2) =
      fun k => netTotal legs k * price k.2 := funext fun k => by
    rw [netQuantityAt_of_fits fits]
  rw [calculateNetObligations_eq, List.map_map]
  calc _ = ((obligationKeys backend quote legs).map fun k =>
        netQuantityAt backend legs k * price k.2).sum := dropped
    _ = ((legs.map legKey).dedup.map fun k => netTotal legs k * price k.2).sum := by
        rw [totals, (obligationKeys_perm.map _).sum_eq]
    _ = 0 := sum_netTotal_mul paired.flat price

/-- The rows that the update of a cycle has found, as long as they may be marked by it. -/
def RunningCycle.claimed (cycle : RunningCycle) : List Uuid :=
  match cycle.stage with
  | .updating _ _ waiting updated => waiting ++ updated
  | _ => []

/-- A cycle claims both legs of an open pair or neither. -/
def Together (pairs : List LegPair) (cycle : RunningCycle) : Prop :=
  ∀ pair ∈ pairs, pair.buy.OpenBy cycle.cutOffTime →
    (pair.buy.id ∈ cycle.claimed ↔ pair.sell.id ∈ cycle.claimed)

/-- Legs that a cycle may count. -/
structure Countable (backend : Backend) (legs : List NovatedTrade) : Prop where
  paired : Paired legs
  fits : FitsContext backend legs

theorem countable_nil (backend : Backend) : Countable backend [] :=
  ⟨⟨[], rfl⟩, fun k => by simp [sideTotal, netTotal, backend.round_zero]⟩

/-- The book is paired, and no cycle takes a pair apart. -/
structure Booked (backend : Backend) (state : Clearing) : Prop extends Locked state where
  pairs : ∃ pairs : List LegPair, state.committed.novatedTrades = pairs.flatMap LegPair.legs ∧
    ∀ cycle ∈ state.running, Together pairs cycle
  numbered : ∀ cycle ∈ state.running, ∀ id ∈ cycle.claimed, id < state.committed.nextUuid
  counted : ∀ cycle ∈ state.running, Countable backend cycle.legs
  cycles : ∀ cycle ∈ state.cycles, Countable backend cycle.legs

/-- Whenever a cycle fetches its positions, the totals of the legs it counts fit the arithmetic of
the service. -/
def Fitting (backend : Backend) (state : Clearing) : ClearingLabel → Prop
  | .fetch position => ∀ cycle, state.running[position]? = some cycle →
      FitsContext backend (openLegs state.committed cycle.cutOffTime)
  | _ => True

variable {backend : Backend} {state before after : Clearing} {label : ClearingLabel}
  {front back : List RunningCycle} {cycle : RunningCycle} {pairs : List LegPair}

theorem mem_of_pair {legs : List NovatedTrade} (split : legs = pairs.flatMap LegPair.legs)
    {pair : LegPair} (member : pair ∈ pairs) : pair.buy ∈ legs ∧ pair.sell ∈ legs := by
  have both : ∀ leg ∈ pair.legs, leg ∈ legs := fun leg inside =>
    split ▸ List.mem_flatMap.mpr ⟨pair, member, inside⟩
  exact ⟨both pair.buy (by simp [LegPair.legs]), both pair.sell (by simp [LegPair.legs])⟩

theorem Booked.paired (booked : Booked backend state) : Paired state.committed.novatedTrades := by
  obtain ⟨pairs, split, -⟩ := booked.pairs
  exact ⟨pairs, split⟩

theorem Booked.remove (booked : Booked backend state)
    (running : state.running = front ++ cycle :: back) :
    Booked backend { state with running := front ++ back } := by
  have within : ∀ other ∈ front ++ back, other ∈ state.running := fun other member =>
    running ▸ mem_others member
  obtain ⟨pairs, split, together⟩ := booked.pairs
  exact ⟨booked.toLocked.remove running,
    ⟨pairs, split, fun other member => together other (within other member)⟩,
    fun other member => booked.numbered other (within other member),
    fun other member => booked.counted other (within other member), booked.cycles⟩

/-- A cycle goes on and takes no pair apart. -/
theorem Booked.replace (booked : Booked backend state)
    (running : state.running = front ++ cycle :: back) {stage : CycleStage}
    (locked : Locked { state with running := front ++ { cycle with stage } :: back })
    (together : ∀ pairs, state.committed.novatedTrades = pairs.flatMap LegPair.legs →
      Together pairs cycle → Together pairs { cycle with stage })
    (numbered : ∀ id ∈ ({ cycle with stage } : RunningCycle).claimed,
      id < state.committed.nextUuid)
    (counted : Countable backend ({ cycle with stage } : RunningCycle).legs) :
    Booked backend { state with running := front ++ { cycle with stage } :: back } := by
  have within : ∀ other ∈ front ++ back, other ∈ state.running := fun other member =>
    running ▸ mem_others member
  obtain ⟨pairs, split, others_together⟩ := booked.pairs
  refine ⟨locked, ⟨pairs, split, fun other member => ?_⟩, fun other member => ?_,
    fun other member => ?_, booked.cycles⟩
  · rcases mem_replaced member with rfl | others
    · exact together pairs split (others_together cycle (by simp [running]))
    · exact others_together other (within other others)
  · rcases mem_replaced member with rfl | others
    · exact numbered
    · exact booked.numbered other (within other others)
  · rcases mem_replaced member with rfl | others
    · exact counted
    · exact booked.counted other (within other others)

theorem together_of_claimed {stage : CycleStage}
    (claimed : ∀ id, id ∈ ({ cycle with stage } : RunningCycle).claimed ↔ id ∈ cycle.claimed)
    (together : Together pairs cycle) : Together pairs { cycle with stage } := by
  intro pair member opened
  rw [claimed, claimed]
  exact together pair member opened

/-- Both legs marked. -/
def LegPair.netted (pair : LegPair) : LegPair :=
  { pair with
    buy := { pair.buy with status := .netted }
    sell := { pair.sell with status := .netted }
    status := rfl }

/-- A pair after a commit that marks both its legs or neither. -/
def LegPair.nettedIn (updated : List Uuid) (pair : LegPair) : LegPair :=
  if pair.buy.id ∈ updated then pair.netted else pair

theorem nettedIn_legs {updated : List Uuid} {pair : LegPair}
    (together : pair.buy.id ∈ updated ↔ pair.sell.id ∈ updated) :
    (pair.nettedIn updated).legs =
      pair.legs.map (NovatedTrade.nettedIf fun leg => leg.id ∈ updated) := by
  rw [LegPair.nettedIn]
  by_cases marked : pair.buy.id ∈ updated
  · rw [if_pos marked]
    simp [LegPair.legs, LegPair.netted, NovatedTrade.nettedIf, marked, together.mp marked]
  · rw [if_neg marked]
    simp [LegPair.legs, NovatedTrade.nettedIf, marked, together.not.mp marked]

theorem nettedIn_open {updated : List Uuid} {pair : LegPair} {cutOffTime : Timestamp}
    (opened : (pair.nettedIn updated).buy.OpenBy cutOffTime) : pair.nettedIn updated = pair := by
  unfold LegPair.nettedIn at opened ⊢
  split at opened
  · cases opened.1
  · next unmarked => rw [if_neg unmarked]

/-- A locked leg of a pair is open, so its cycle claims the other one as well. -/
theorem Booked.updated_iff (booked : Booked backend state)
    (split : state.committed.novatedTrades = pairs.flatMap LegPair.legs)
    (together : Together pairs cycle) (running : cycle ∈ state.running)
    {legs : List NovatedTrade} {quote : Uuid → ℚ × SettlementType} {updated : List Uuid}
    (stage : cycle.stage = .updating legs quote [] updated) {pair : LegPair}
    (member : pair ∈ pairs) : pair.buy.id ∈ updated ↔ pair.sell.id ∈ updated := by
  have claimed : cycle.claimed = updated := by simp [RunningCycle.claimed, stage]
  have mine : cycle.updated = updated := by simp [RunningCycle.updated, stage]
  obtain ⟨buy_inside, sell_inside⟩ := mem_of_pair split member
  have open_of : ∀ leg ∈ state.committed.novatedTrades, leg.id ∈ updated →
      leg.OpenBy cycle.cutOffTime := by
    intro leg inside marked
    obtain ⟨row, opened, same⟩ := booked.present cycle running leg.id (mine ▸ marked)
    obtain ⟨row_inside, row_open⟩ := mem_openLegs.mp opened
    exact List.inj_on_of_nodup_map booked.distinct row_inside inside same ▸ row_open
  rw [← claimed]
  constructor
  · intro marked
    exact (together pair member (open_of pair.buy buy_inside (claimed ▸ marked))).mp marked
  · intro marked
    have opened := open_of pair.sell sell_inside (claimed ▸ marked)
    exact (together pair member ((pair.openBy_iff _).mp opened)).mpr marked

theorem Booked.commit (booked : Booked backend state)
    (running : state.running = front ++ cycle :: back) {legs : List NovatedTrade}
    {quote : Uuid → ℚ × SettlementType} {updated : List Uuid} {result : CycleResult}
    {committed : Database} (stage : cycle.stage = .updating legs quote [] updated)
    (ran : finishCycle backend cycle legs quote updated state.committed = .ok (result, committed))
    (locked : Locked ⟨committed, front ++ back,
      state.cycles ++ [⟨result.cycleId, legs, quote, updated⟩]⟩) :
    Booked backend ⟨committed, front ++ back,
      state.cycles ++ [⟨result.cycleId, legs, quote, updated⟩]⟩ := by
  obtain ⟨marked, uuids⟩ := finishCycle_apply ran
  have mine : cycle ∈ state.running := by simp [running]
  have own_legs : cycle.legs = legs := legs_of_stage stage
  have within : ∀ other ∈ front ++ back, other ∈ state.running := fun other member =>
    running ▸ mem_others member
  obtain ⟨pairs, split, together⟩ := booked.pairs
  refine ⟨locked, ⟨pairs.map (LegPair.nettedIn updated), ?_, fun other member => ?_⟩,
    fun other member id claimed => (booked.numbered other (within other member) id
      claimed).trans_le uuids,
    fun other member => booked.counted other (within other member), fun other member => ?_⟩
  · rw [marked, split, List.map_flatMap, List.flatMap_map]
    refine List.flatMap_congr fun pair inside => (nettedIn_legs ?_).symm
    exact booked.updated_iff split (together cycle mine) mine stage inside
  · intro pair inside opened
    obtain ⟨old, old_inside, rfl⟩ := List.mem_map.mp inside
    have same := nettedIn_open opened
    rw [same] at opened ⊢
    exact together other (within other member) old old_inside opened
  · rcases List.mem_append.mp member with old | new
    · exact booked.cycles other old
    · rw [List.mem_singleton.mp new]
      exact own_legs ▸ booked.counted cycle mine

/-- The two legs that a novation appends. -/
def novatedPair (tradeId : Uuid) (data : Novation.TradeData) (ids : Uuid × Uuid)
    (quantity price : ℚ) (novatedAt : Timestamp) : LegPair where
  buy := Novation.legOf tradeId data .buy data.buyerMemberId ids.1 quantity price novatedAt
  sell := Novation.legOf tradeId data .sell data.sellerMemberId ids.2 quantity price novatedAt
  buys := rfl
  sells := rfl
  trade := rfl
  instrument := rfl
  quantity := rfl
  price := rfl
  novatedAt := rfl
  status := rfl

theorem Booked.novate (booked : Booked backend state) {tradeId : Uuid} {data : Novation.TradeData}
    {started : Timestamp} {ids : Uuid × Uuid} {committed : Database}
    (novates : Novation.Novates backend tradeId data ids { state.committed with now := started }
      committed)
    (locked : Locked { state with committed }) : Booked backend { state with committed } := by
  obtain ⟨quantity, price, -, -, legs⟩ := novates.legs
  have numbered : state.committed.nextUuid ≤ ids.1 := novates.fresh
  have uuids : state.committed.nextUuid ≤ committed.nextUuid :=
    (numbered.trans novates.apart.le).trans novates.uuids.le
  obtain ⟨pairs, split, together⟩ := booked.pairs
  refine ⟨locked, ⟨pairs ++ [novatedPair tradeId data ids quantity price started], ?_,
    fun cycle member pair inside opened => ?_⟩,
    fun cycle member id claimed => (booked.numbered cycle member id claimed).trans_le uuids,
    booked.counted, booked.cycles⟩
  · rw [List.flatMap_append, ← split]
    exact legs
  · rcases List.mem_append.mp inside with old | new
    · exact together cycle member pair old opened
    · -- The new legs are numbered beyond every row that an update has found.
      rw [List.mem_singleton.mp new]
      have unclaimed : ∀ id, state.committed.nextUuid ≤ id → id ∉ cycle.claimed :=
        fun id later claimed => (booked.numbered cycle member id claimed).not_ge later
      exact iff_of_false (unclaimed ids.1 numbered)
        (unclaimed ids.2 (numbered.trans novates.apart.le))

theorem booked_step (booked : Booked backend before) (permitted : Fitting backend before label)
    (step : ClearingStep backend before label after) : Booked backend after := by
  have locked := locked_step booked.toLocked step
  cases step with
  | begin =>
      obtain ⟨pairs, split, together⟩ := booked.pairs
      refine ⟨locked, ⟨pairs, split, fun cycle member => ?_⟩, fun cycle member => ?_,
        fun cycle member => ?_, booked.cycles⟩
      all_goals
        rcases List.mem_append.mp member with old | new
      · exact together cycle old
      · simp [List.mem_singleton.mp new, Together, RunningCycle.claimed]
      · exact booked.numbered cycle old
      · simp [List.mem_singleton.mp new, RunningCycle.claimed]
      · exact booked.counted cycle old
      · rw [List.mem_singleton.mp new]
        exact countable_nil backend
  | @fetch front back cycle running stage =>
      have fits := permitted cycle (by simp [running])
      refine booked.replace running locked (fun _ _ => together_of_claimed ?_)
        (by simp [RunningCycle.claimed]) ⟨booked.paired.openLegs _, fits⟩
      simp [RunningCycle.claimed, stage]
  | @enrich front back cycle legs running stage =>
      have own_legs : cycle.legs = legs := legs_of_stage stage
      refine booked.replace running locked (fun _ _ => together_of_claimed ?_)
        (by simp [RunningCycle.claimed]) (own_legs ▸ booked.counted cycle (by simp [running]))
      simp [RunningCycle.claimed, stage]
  | @update front back cycle legs quote running stage =>
      have own_legs : cycle.legs = legs := legs_of_stage stage
      refine booked.replace running locked (fun pairs split _ pair member opened => ?_) ?_
        (own_legs ▸ booked.counted cycle (by simp [running]))
      · obtain ⟨buy_inside, sell_inside⟩ := mem_of_pair split member
        have sell_open := (pair.openBy_iff _).mpr opened
        simp only [RunningCycle.claimed, List.append_nil]
        exact iff_of_true
          (List.mem_map_of_mem (mem_openLegs.mpr ⟨buy_inside, opened⟩))
          (List.mem_map_of_mem (mem_openLegs.mpr ⟨sell_inside, sell_open⟩))
      · intro id claimed
        simp only [RunningCycle.claimed, List.append_nil] at claimed
        obtain ⟨leg, opened, rfl⟩ := List.mem_map.mp claimed
        exact booked.fresh leg (mem_openLegs.mp opened).1
  | @reach front back cycle legs quote waiting updated leg running stage found unlocked present =>
      have own_legs : cycle.legs = legs := legs_of_stage stage
      have mine : cycle ∈ before.running := by simp [running]
      have claimed : ∀ id, id ∈ ({ cycle with
          stage := .updating legs quote (waiting.filter fun id => id ≠ leg.id)
            (updated ++ [leg.id]) } : RunningCycle).claimed ↔ id ∈ cycle.claimed := by
        intro id
        by_cases here : id = leg.id
        · simp [RunningCycle.claimed, stage, here, found]
        · simp [RunningCycle.claimed, stage, here]
      exact booked.replace running locked (fun _ _ => together_of_claimed claimed)
        (fun id member => booked.numbered cycle mine id ((claimed id).mp member))
        (own_legs ▸ booked.counted cycle mine)
  | @pass front back cycle legs quote waiting updated id running stage found unlocked missing =>
      have own_legs : cycle.legs = legs := legs_of_stage stage
      have mine : cycle ∈ before.running := by simp [running]
      have claimed : ∀ other, other ≠ id → (other ∈ ({ cycle with
          stage := .updating legs quote (waiting.filter fun other => other ≠ id) updated } :
            RunningCycle).claimed ↔ other ∈ cycle.claimed) := by
        intro other apart
        simp [RunningCycle.claimed, stage, apart]
      refine booked.replace running locked (fun pairs split together pair member opened => ?_)
        (fun other member => booked.numbered cycle mine other ?_)
        (own_legs ▸ booked.counted cycle mine)
      · -- An open pair has no leg that the update gives up.
        obtain ⟨buy_inside, sell_inside⟩ := mem_of_pair split member
        have sell_open := (pair.openBy_iff _).mpr opened
        rw [claimed _ (missing pair.buy (mem_openLegs.mpr ⟨buy_inside, opened⟩)),
          claimed _ (missing pair.sell (mem_openLegs.mpr ⟨sell_inside, sell_open⟩))]
        exact together pair member opened
      · simp only [RunningCycle.claimed, List.mem_append, List.mem_filter] at member
        simp only [RunningCycle.claimed, stage, List.mem_append]
        exact member.imp_left And.left
  | commit front back running stage ran accepted =>
      exact booked.commit running stage ran locked
  | stop front back running => exact booked.remove running
  | novate ran accepted => exact booked.novate (Novation.novates_novateSubmitted ran) locked
  | elsewhere legs uuids =>
      obtain ⟨pairs, split, together⟩ := booked.pairs
      exact ⟨locked, ⟨pairs, legs.trans split, together⟩,
        fun cycle member id claimed => (booked.numbered cycle member id claimed).trans_le uuids,
        booked.counted, booked.cycles⟩

/-- The legs are pairs of a buy and a sell leg with the same terms and status, what is open is flat
in every instrument, and so are the net quantities and the exact amounts of every cycle. -/
structure MatchedBook (backend : Backend) (state : Clearing) : Prop where
  pairs : ∃ pairs : List LegPair, state.committed.novatedTrades = pairs.flatMap LegPair.legs
  flat : ∀ instrumentId, fiberSum NovatedTrade.instrumentId Margin.signedQuantity
    (state.committed.novatedTrades.filter fun leg => leg.status = .open) instrumentId = 0
  quantities : ∀ cycle ∈ state.cycles, ∀ instrumentId,
    fiberSum Obligation.instrumentId Obligation.netQuantity (cycle.obligations backend)
      instrumentId = 0
  amounts : ∀ cycle ∈ state.cycles, ∀ instrumentId,
    fiberSum Obligation.instrumentId
      (fun obligation => obligation.netQuantity * (cycle.quote instrumentId).1)
      (cycle.obligations backend) instrumentId = 0

theorem Booked.matchedBook (booked : Booked backend state) : MatchedBook backend state := by
  have weighted : ∀ cycle ∈ state.cycles, ∀ instrumentId price,
      fiberSum Obligation.instrumentId (fun obligation => obligation.netQuantity * price)
        (cycle.obligations backend) instrumentId = 0 := by
    intro cycle member instrumentId price
    obtain ⟨paired, fits⟩ := booked.cycles cycle member
    have total : (fun obligation : Obligation =>
          if obligation.instrumentId = instrumentId then obligation.netQuantity * price else 0) =
        fun obligation => obligation.netQuantity *
          if obligation.instrumentId = instrumentId then price else 0 := by
      funext obligation
      rw [mul_ite, mul_zero]
    rw [fiberSum_eq_sum_ite, total]
    exact sum_obligations paired fits fun other => if other = instrumentId then price else 0
  refine ⟨booked.paired, booked.paired.open.flat, fun cycle member instrumentId => ?_,
    fun cycle member instrumentId => weighted cycle member instrumentId _⟩
  simpa using weighted cycle member instrumentId 1

/-- In every run whose cycles count legs with totals that fit the arithmetic of the service, the
book is matched. -/
theorem matchedBook_of_run {db : Database} (none : db.novatedTrades = []) {last : Clearing}
    (run : Run (ClearingStep backend) (Fitting backend) ⟨db, [], []⟩ last) :
    MatchedBook backend last := by
  have opening : Booked backend ⟨db, [], []⟩ := by
    refine ⟨⟨?_, ?_, ?_, ?_⟩, ⟨[], none, ?_⟩, ?_, ?_, ?_⟩ <;> simp [none]
  exact (run.invariant (fun _ _ _ booked permitted step => booked_step booked permitted step)
    opening).matchedBook

theorem Alone.fitting {db : Database} {cutOffTime : Timestamp}
    (alone : Alone db cutOffTime state label)
    (fits : FitsContext backend (openLegs db cutOffTime)) :
    Fitting backend state label := by
  cases label with
  | fetch position =>
      obtain ⟨committed, cutOff⟩ : state.committed = db ∧ ∀ cycle,
        state.running[position]? = some cycle → cycle.cutOffTime = cutOffTime := alone
      intro cycle at_position
      rw [committed, cutOff cycle at_position]
      exact fits
  | _ => exact trivial

private theorem fitsContext_oneTradeNovated :
    FitsContext decimalBackend (openLegs oneTradeNovated 5) := by
  have rows : openLegs oneTradeNovated 5 =
      [Novation.legOf 4 oneTradeData .buy 1 20 10 9 1,
        Novation.legOf 4 oneTradeData .sell 2 21 10 9 1] := by decide +kernel
  have ten : decimalBackend.round 10 = 10 := by decide +kernel
  have minus_ten : decimalBackend.round (-10) = -10 := by decide +kernel
  intro k
  rw [rows]
  simp only [sideTotal, netTotal, fiberSum_cons, fiberSum_nil, add_zero]
  refine ⟨fun side => ?_, ?_⟩
  · split_ifs with first second second
    · have same : groupKey (Novation.legOf 4 oneTradeData .buy 1 20 10 9 1) ≠
          groupKey (Novation.legOf 4 oneTradeData .sell 2 21 10 9 1) := by decide
      exact absurd (first.trans second.symm) same
    · simpa [Novation.legOf] using ten
    · simpa [Novation.legOf] using ten
    · simpa using decimalBackend.round_zero
  · split_ifs with first second second
    · have same : legKey (Novation.legOf 4 oneTradeData .buy 1 20 10 9 1) ≠
          legKey (Novation.legOf 4 oneTradeData .sell 2 21 10 9 1) := by decide
      exact absurd (first.trans second.symm) same
    · simpa [Novation.legOf, Margin.signedQuantity] using ten
    · simpa [Novation.legOf, Margin.signedQuantity] using minus_ten
    · simpa using decimalBackend.round_zero

/-- The trade of ten units fits. -/
theorem matchedBook_of_run_oneTrade :
    ∃ last, Run (ClearingStep decimalBackend) (Fitting decimalBackend) ⟨oneTrade, [], []⟩ last ∧
      last.cycles ≠ [] ∧ MatchedBook decimalBackend last := by
  have facts : ((runNettingCycle decimalBackend .manual 5 oneTradeTrace
        oneTradeNovated).toOption.map fun pair =>
      ((server decimalBackend).deferred oneTradeNovated pair.2).toOption) =
        some (some ()) := by decide +kernel
  cases ran : runNettingCycle decimalBackend .manual 5 oneTradeTrace oneTradeNovated with
  | error failure => simp [ran, Except.toOption] at facts
  | ok pair =>
      obtain ⟨result, after⟩ := pair
      simp only [ran, Except.toOption, Option.map_some, Option.some.injEq] at facts
      have novated : Run (ClearingStep decimalBackend) (Fitting decimalBackend) ⟨oneTrade, [], []⟩
          ⟨oneTradeNovated, [], []⟩ :=
        .snoc (.refl _) (by exact trivial) (run_novate_oneTrade [] [])
      have run := novated.trans ((run_of_runNettingCycle [] distinct_oneTradeNovated ran
        (accepted_of_toOption facts)).mono fun _ _ alone =>
          alone.fitting fitsContext_oneTradeNovated)
      exact ⟨_, run, by simp, matchedBook_of_run rfl run⟩

/-- Three members with trades of about the largest quantity that a column holds: member 1 buys from
member 2, buys from member 3 and sells to member 3. -/
def largeTrades : Database :=
  { Database.opening
      [⟨0, ccpLei, .active, 0⟩, ⟨1, "LEI1", .active, 0⟩, ⟨2, "LEI2", .active, 0⟩,
        ⟨3, "LEI3", .active, 0⟩]
      [⟨4, .cash, 1 / 10, 1 / 20, none, none, true⟩]
      [⟨8, 1, .marginIm, "USD", .available⟩, ⟨9, 1, .marginIm, "USD", .locked⟩,
        ⟨10, 2, .marginIm, "USD", .available⟩, ⟨11, 2, .marginIm, "USD", .locked⟩,
        ⟨12, 3, .marginIm, "USD", .available⟩, ⟨13, 3, .marginIm, "USD", .locked⟩] 20
      Database.nodup_ccpAndThree (by decide) (by decide) with
    trades := [⟨5, 4, 1, 2, 6 * 10 ^ 19 + 1 / 10 ^ 8, 1 / 10 ^ 8, .submitted⟩,
      ⟨6, 4, 1, 3, 6 * 10 ^ 19, 1 / 10 ^ 8, .submitted⟩,
      ⟨7, 4, 3, 1, 6 * 10 ^ 19, 1 / 10 ^ 8, .submitted⟩]
    priceFeeds := [⟨4, 1 / 10 ^ 8, 1⟩]
    now := 1 }

/-- The terms of its trades. -/
def largeData : List Novation.TradeData :=
  [⟨5, 1, 2, 4, 6 * 10 ^ 19 + 1 / 10 ^ 8, 1 / 10 ^ 8⟩, ⟨6, 1, 3, 4, 6 * 10 ^ 19, 1 / 10 ^ 8⟩,
    ⟨7, 3, 1, 4, 6 * 10 ^ 19, 1 / 10 ^ 8⟩]

/-- A database after a novation. -/
def afterNovation (db : Database) (data : Novation.TradeData) : Database :=
  (Novation.novateSubmitted decimalBackend data.tradeId data oneTradeTrace
    { db with now := 1 }).toOption.elim db Prod.snd

/-- The house once the three trades are novated. -/
def largeNovated : Database := largeData.foldl afterNovation largeTrades

private theorem run_largeNovated :
    Run (ClearingStep decimalBackend) unrestricted ⟨largeTrades, [], []⟩
      ⟨largeNovated, [], []⟩ := by
  have novates : ∀ (db : Database) (data : Novation.TradeData),
      (Novation.novateSubmitted decimalBackend data.tradeId data oneTradeTrace
        { db with now := 1 }).toOption.isSome = true →
      ((server decimalBackend).deferred db (afterNovation db data)).toOption = some () →
      ClearingStep decimalBackend ⟨db, [], []⟩ (.novate data.tradeId data oneTradeTrace 1)
        ⟨afterNovation db data, [], []⟩ := by
    intro db data returned balanced
    obtain ⟨ids, ran⟩ := ok_of_isSome db returned
    exact .novate ran (accepted_of_toOption balanced)
  refine .snoc (.snoc (.snoc (.refl _) trivial (novates largeTrades _ ?_ ?_)) trivial
    (novates _ _ ?_ ?_)) trivial (novates _ _ ?_ ?_) <;> decide +kernel

/-- The purchases of member 1 add up to 29 digits, and its net quantity loses the last one. -/
theorem not_matchedBook_largeTrades :
    ∃ last, Run (ClearingStep decimalBackend) unrestricted ⟨largeTrades, [], []⟩ last ∧
      ¬MatchedBook decimalBackend last := by
  have facts : ((runNettingCycle decimalBackend .manual 5 oneTradeTrace
        largeNovated).toOption.map fun pair =>
      ((server decimalBackend).deferred largeNovated pair.2).toOption) =
        some (some ()) := by decide +kernel
  have lost : fiberSum Obligation.instrumentId Obligation.netQuantity
      (calculateNetObligations decimalBackend
        (pricedPositions (quote largeNovated) (openLegs largeNovated 5))) 4 = -1 / 10 ^ 8 := by
    decide +kernel
  have distinct : (largeNovated.novatedTrades.map NovatedTrade.id).Nodup := by decide +kernel
  cases ran : runNettingCycle decimalBackend .manual 5 oneTradeTrace largeNovated with
  | error failure => simp [ran, Except.toOption] at facts
  | ok pair =>
      obtain ⟨result, after⟩ := pair
      simp only [ran, Except.toOption, Option.map_some, Option.some.injEq] at facts
      have cycle := run_of_runNettingCycle [] distinct ran (accepted_of_toOption facts)
      refine ⟨_, run_largeNovated.trans (cycle.mono fun _ _ _ => trivial), fun matched => ?_⟩
      have flat := matched.quantities _ (List.mem_singleton_self _) 4
      rw [CommittedCycle.obligations, lost] at flat
      norm_num at flat

end Netting

end ClearingHouse
