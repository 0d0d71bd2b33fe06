import ClearingHouse.Netting.Valuation

/-!
# What extinguished positions are paid with

A cycle marks the legs it has selected whether or not their instrument has a price.  The instruction
of a position carries a price of a feed only if there is one and the product survives the rounding
to the column.
-/

namespace ClearingHouse

namespace Netting

open Fibers Transactions Transactions.Transaction

variable {backend : Backend} {db after : Database} {cutOffTime : Timestamp} {k : Uuid × Uuid}
  {cycleType : NettingCycleType} {trace : TraceContext} {result : CycleResult} {ccp : Member}

/-- The legs of a member in an instrument that were open before a cycle and are netted after it.  An
update leaves the rows in their places. -/
def markedLegs (db after : Database) (k : Uuid × Uuid) : List NovatedTrade :=
  ((db.novatedTrades.zip after.novatedTrades).filter fun rows =>
    legKey rows.1 = k ∧ rows.1.status = .open ∧ rows.2.status = .netted).map Prod.fst

/-- The signed quantity of the legs that a cycle has marked. -/
def markedQuantity (db after : Database) (k : Uuid × Uuid) : ℚ :=
  Margin.netQuantity (markedLegs db after k)

/-- The instruction is between a member and the house, in an instrument. -/
def InstructionOf (ccpMemberId : Uuid) (k : Uuid × Uuid) (row : SettlementInstruction) : Prop :=
  row.instrumentId = k.2 ∧ ((row.fromMemberId, row.toMemberId) = (k.1, ccpMemberId) ∨
    (row.fromMemberId, row.toMemberId) = (ccpMemberId, k.1))

instance (ccpMemberId : Uuid) (k : Uuid × Uuid) (row : SettlementInstruction) :
    Decidable (InstructionOf ccpMemberId k row) :=
  inferInstanceAs (Decidable (_ ∧ _))

/-- An amount is positive, and it is a quantity at the price of some feed of the instrument. -/
structure PaidAtFeed (db : Database) (instrumentId : Uuid) (quantity amount : ℚ) : Prop where
  positive : 0 < amount
  feed : ∃ feed ∈ db.priceFeeds, feed.instrumentId = instrumentId ∧ amount = |quantity| * feed.price

/-- Every position that a cycle extinguishes is paid for, by the one instruction that it has created
for it. -/
def PaidFor (ccpMemberId : Uuid) (db after : Database) : Prop :=
  ∀ k, markedQuantity db after k ≠ 0 →
    ∃ row,
      (addedInstructions db after).filter (fun row => InstructionOf ccpMemberId k row) = [row] ∧
        PaidAtFeed db k.2 (markedQuantity db after k) row.amount

/-- The instrument of a position has a feed, and what the service makes of the quantity at the price
of the latest one, stored, is the quantity at a positive price of a feed. -/
def Priced (backend : Backend) (db : Database) (cutOffTime : Timestamp) (k : Uuid × Uuid) : Prop :=
  ∃ feed, latestFeed db k.2 = some feed ∧
    ∃ other ∈ db.priceFeeds, other.instrumentId = k.2 ∧ 0 < other.price ∧
      backend.store (backend.abs
          (backend.mul (netQuantityAt backend (openLegs db cutOffTime) k) feed.price)) =
        some (|nettedQuantity db cutOffTime k| * other.price)

/-- A cycle marks the legs that are open at its start, up to its cut-off. -/
theorem novatedTrades_runNettingCycle
    (ran : runNettingCycle backend cycleType cutOffTime trace db = .ok (result, after)) :
    after.novatedTrades =
      db.novatedTrades.map (NovatedTrade.nettedIf fun leg => leg.OpenBy cutOffTime) := by
  have reads : Respects SameLegs
      (do let positions ← fetchOpenPositions cutOffTime; enrichWithPrices positions) :=
    respects_bind (respects_bind respects_read fun _ => respects_pure _) fun _ =>
      respects_bind respects_read fun _ => respects_pure _
  exact (cycleWith_apply reads ran).1

/-- An open leg is marked if it is of the cut-off. -/
theorem marked_iff (leg : NovatedTrade) :
    leg.status = .open ∧ (leg.nettedIf fun leg => leg.OpenBy cutOffTime).status = .netted ↔
      leg.OpenBy cutOffTime := by
  by_cases selected : leg.OpenBy cutOffTime
  · simp [NovatedTrade.nettedIf, selected, selected.1]
  · simp only [NovatedTrade.nettedIf, selected, decide_false, Bool.false_eq_true, if_false,
      iff_false]
    rintro ⟨isOpen, isNetted⟩
    cases isOpen.symm.trans isNetted

theorem markedLegs_eq
    (ran : runNettingCycle backend cycleType cutOffTime trace db = .ok (result, after))
    (k : Uuid × Uuid) : markedLegs db after k = legsOf db cutOffTime k := by
  have first : Prod.fst ∘ (fun leg : NovatedTrade =>
      (leg, leg.nettedIf fun leg => leg.OpenBy cutOffTime)) = id := rfl
  rw [markedLegs, novatedTrades_runNettingCycle ran, ← List.map_prod_left_eq_zip,
    List.filter_map, List.map_map, first, List.map_id, legsOf, openLegs, List.filter_filter]
  apply List.filter_congr
  intro leg _
  rw [Function.comp_apply, ← Bool.decide_and, decide_eq_decide]
  exact and_congr_right' (marked_iff leg)

theorem markedQuantity_eq
    (ran : runNettingCycle backend cycleType cutOffTime trace db = .ok (result, after))
    (k : Uuid × Uuid) : markedQuantity db after k = nettedQuantity db cutOffTime k := by
  rw [markedQuantity, markedLegs_eq ran, nettedQuantity_eq]

/-- Of the instructions of a cycle, each is that of one member in one instrument. -/
theorem instructionOf_iff {ccpMemberId cycleId : Uuid} {k' : Uuid × Uuid}
    {row : SettlementInstruction}
    (instructs : Instructs backend ccpMemberId cycleId
      (obligationAt backend (quote db) (openLegs db cutOffTime) k) row) :
    InstructionOf ccpMemberId k' row ↔ k' = k := by
  have parties : (row.fromMemberId, row.toMemberId) = (k.1, ccpMemberId) ∨
      (row.fromMemberId, row.toMemberId) = (ccpMemberId, k.1) := by
    rw [instructs.fromMember, instructs.toMember, settlementParties]
    split
    · exact .inl rfl
    · exact .inr rfl
  have instrument : row.instrumentId = k.2 := instructs.instrument
  simp only [Prod.mk.injEq] at parties
  simp only [InstructionOf, Prod.ext_iff]
  grind

/-- The members and instruments that a cycle writes an instruction for, in the arithmetic of the
service. -/
def instructedKeys (backend : Backend) (db : Database) (cutOffTime : Timestamp) :
    List (Uuid × Uuid) :=
  (obligationKeys backend (quote db) (openLegs db cutOffTime)).filter fun k =>
    netQuantityAt backend (openLegs db cutOffTime) k ≠ 0

/-- A member that nets a quantity of an instrument has a leg in it. -/
theorem mem_legKeys_of_nettedQuantity (nonzero : nettedQuantity db cutOffTime k ≠ 0) :
    k ∈ (openLegs db cutOffTime).map legKey := by
  by_contra missing
  apply nonzero
  rw [nettedQuantity, netTotal, fiberSum, List.filter_eq_nil_iff.mpr]
  · rfl
  · intro leg inside same
    exact missing (List.mem_map.mpr ⟨leg, inside, of_decide_eq_true same⟩)

/-- The instruction that a cycle has created for a position. -/
theorem instruction_of_ran (house : findCcp db = some ccp) (references : LegReferences db)
    (ran : runNettingCycle backend cycleType cutOffTime trace db = .ok (result, after))
    (nonzero : nettedQuantity db cutOffTime k ≠ 0) :
    (netQuantityAt backend (openLegs db cutOffTime) k = 0 ∧
        (addedInstructions db after).filter (fun row => InstructionOf ccp.id k row) = []) ∨
      ∃ row, (addedInstructions db after).filter (fun row => InstructionOf ccp.id k row) = [row] ∧
        backend.store (backend.abs (backend.mul (netQuantityAt backend (openLegs db cutOffTime) k)
          (nettingPrice db k.2))) = some row.amount := by
  obtain ⟨found, find, instructed⟩ := instructed_runNettingCycle ran
  obtain rfl : ccp = found := Option.some.inj (house.symm.trans find)
  obtain ⟨rows, instructs, -, appended⟩ := instructed.rows
  have added : addedInstructions db after = rows := by
    rw [addedInstructions, appended, List.drop_left]
  have distinct : (instructedKeys backend db cutOffTime).Nodup := nodup_obligationKeys.filter _
  have apart : ∀ k k' row, Instructs backend ccp.id result.cycleId
      (obligationAt backend (quote db) (openLegs db cutOffTime) k) row →
        (decide (InstructionOf ccp.id k' row) = true ↔ k' = k) :=
    fun _ _ _ instruct => decide_eq_true_iff.trans (instructionOf_iff instruct)
  have leg := mem_legKeys_of_nettedQuantity nonzero
  rw [cycleObligations, calculateNetObligations_eq, List.forall₂_map_left_iff] at instructs
  obtain ⟨listed, missing⟩ := filter_of_forall₂ apart distinct instructs k
  rw [added]
  by_cases flat : netQuantityAt backend (openLegs db cutOffTime) k = 0
  · exact .inl ⟨flat, missing fun member => of_decide_eq_true (List.mem_filter.mp member).2 flat⟩
  · obtain ⟨row, found, instruct⟩ := listed
      (List.mem_filter.mpr ⟨(mem_obligationKeys k).mpr leg, by simpa using flat⟩)
    obtain ⟨traded, inside, same⟩ := List.mem_map.mp leg
    have known : k.2 ∈ db.instruments.map Instrument.id :=
      congrArg Prod.snd same ▸ (references traded (mem_openLegs.mp inside).1).2
    refine .inr ⟨row, found, ?_⟩
    rw [← quote_price known]
    exact instruct.amount

/-- No quantity, or no price, is stored as zero. -/
theorem store_abs_mul_of_zero {x y : ℚ} (zero : x * y = 0) :
    backend.store (backend.abs (backend.mul x y)) = some 0 := by
  rw [Backend.mul, zero, backend.round_zero, Backend.abs, abs_zero, backend.round_zero,
    backend.store_zero]

theorem paidAtFeed_iff {amount : ℚ} (nonzero : nettedQuantity db cutOffTime k ≠ 0)
    (stored : backend.store (backend.abs (backend.mul
      (netQuantityAt backend (openLegs db cutOffTime) k) (nettingPrice db k.2))) = some amount) :
    PaidAtFeed db k.2 (nettedQuantity db cutOffTime k) amount ↔
      Priced backend db cutOffTime k := by
  have positive := abs_pos.mpr nonzero
  cases latest : latestFeed db k.2 with
  | none =>
      have price : nettingPrice db k.2 = 0 := by rw [nettingPrice, latest]; rfl
      rw [price, store_abs_mul_of_zero (mul_zero _), Option.some.injEq] at stored
      constructor
      · exact fun paid => absurd stored paid.positive.ne
      · rintro ⟨feed, found, -⟩
        cases latest.symm.trans found
  | some feed =>
      have price : nettingPrice db k.2 = feed.price := by rw [nettingPrice, latest]; rfl
      rw [price] at stored
      constructor
      · rintro ⟨paid, other, inside, instrument, equal⟩
        rw [equal] at paid stored
        exact ⟨feed, latest, other, inside, instrument, pos_of_mul_pos_right paid positive.le,
          stored⟩
      · rintro ⟨found, find, other, inside, instrument, worth, product⟩
        obtain rfl : feed = found := Option.some.inj (latest.symm.trans find)
        obtain rfl : amount = |nettedQuantity db cutOffTime k| * other.price :=
          Option.some.inj (stored.symm.trans product)
        exact ⟨mul_pos positive worth, other, inside, instrument, rfl⟩

/-- A cycle takes no position for free exactly when every position that it extinguishes is
priced. -/
theorem paidFor_iff (house : findCcp db = some ccp) (references : LegReferences db)
    (ran : runNettingCycle backend cycleType cutOffTime trace db = .ok (result, after)) :
    PaidFor ccp.id db after ↔
      ∀ k, nettedQuantity db cutOffTime k ≠ 0 → Priced backend db cutOffTime k := by
  apply forall_congr'
  intro k
  rw [markedQuantity_eq ran]
  apply imp_congr_right
  intro nonzero
  rcases instruction_of_ran house references ran nonzero with ⟨flat, none⟩ | ⟨row, one, stored⟩
  · rw [none]
    constructor
    · rintro ⟨row, one, -⟩
      cases one
    · rintro ⟨feed, -, other, -, -, worth, product⟩
      rw [flat, store_abs_mul_of_zero (zero_mul _), Option.some.injEq] at product
      exact absurd product (mul_pos (abs_pos.mpr nonzero) worth).ne
  · rw [one]
    constructor
    · rintro ⟨other, same, paid⟩
      cases same
      exact (paidAtFeed_iff nonzero stored).mp paid
    · intro priced
      exact ⟨row, rfl, (paidAtFeed_iff nonzero stored).mpr priced⟩

/-- A price does not help a quantity of dust: the column keeps nothing of the product. -/
example : decimalBackend.store
    (decimalBackend.abs (decimalBackend.mul (1 / 10 ^ 8) (1 / 10))) = some 0 := by decide +kernel

/-- In `oneTradePriced` both legs are paid for. -/
theorem paidFor_oneTradePriced :
    ∃ result after, runNettingCycle decimalBackend .manual 5 oneTradeTrace oneTradePriced =
      .ok (result, after) ∧ PaidFor 0 oneTradePriced after := by
  have house : findCcp oneTradePriced = some ⟨0, ccpLei, .active, 0⟩ := by decide +kernel
  have references : LegReferences oneTradePriced := by
    rw [LegReferences]
    decide +kernel
  have returned : (runNettingCycle decimalBackend .manual 5 oneTradeTrace
      oneTradePriced).toOption.isSome = true := by decide +kernel
  obtain ⟨result, ran⟩ := ok_of_isSome oneTradePriced returned
  refine ⟨result, _, ran, (paidFor_iff house references ran).mpr fun k nonzero => ?_⟩
  have keys : (openLegs oneTradePriced 5).map legKey = [(1, 3), (2, 3)] := by decide +kernel
  have leg := mem_legKeys_of_nettedQuantity nonzero
  rw [keys, List.mem_pair] at leg
  rcases leg with rfl | rfl
  · exact ⟨⟨3, 11, 2⟩, by decide +kernel, ⟨3, 11, 2⟩, by decide +kernel, rfl, by norm_num,
      by decide +kernel⟩
  · exact ⟨⟨3, 11, 2⟩, by decide +kernel, ⟨3, 11, 2⟩, by decide +kernel, rfl, by norm_num,
      by decide +kernel⟩

/-- Before its instrument has a price, the trade of `oneTradeNovated` is netted for nothing. -/
theorem not_paidFor_oneTradeNovated :
    ∃ result after, runNettingCycle decimalBackend .manual 5 oneTradeTrace oneTradeNovated =
      .ok (result, after) ∧ markedQuantity oneTradeNovated after (1, 3) = 10 ∧
        ¬PaidFor 0 oneTradeNovated after := by
  have returned : (runNettingCycle decimalBackend .manual 5 oneTradeTrace
      oneTradeNovated).toOption.isSome = true := by decide +kernel
  obtain ⟨result, ran⟩ := ok_of_isSome oneTradeNovated returned
  have netted : nettedQuantity oneTradeNovated 5 (1, 3) = 10 := by decide +kernel
  have quantity := (markedQuantity_eq ran (1, 3)).trans netted
  refine ⟨result, _, ran, quantity, fun paid => ?_⟩
  have no_feed : oneTradeNovated.priceFeeds = [] := by decide +kernel
  obtain ⟨row, -, settled⟩ := paid (1, 3) (by rw [quantity]; norm_num)
  obtain ⟨feed, inside, -⟩ := settled.feed
  rw [no_feed] at inside
  cases inside

end Netting

end ClearingHouse
