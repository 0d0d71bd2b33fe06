import ClearingHouse.Margin.Positions
import ClearingHouse.Netting.MatchedBook

/-!
# Variation margin and mark to market

A recalculation marks a position from one average price over the legs of both sides.  That is the
profit of the legs at the latest price only for a member that bought and sold at one average price,
and a member that is flat has no position to carry what its legs have made.
-/

namespace ClearingHouse

namespace Margin

open Fibers

/-- Whether a leg sells. -/
def sells (leg : NovatedTrade) : Bool := leg.side = .sell

/-- Quantity of the legs of one side. -/
def sideQuantity (legs : List NovatedTrade) (side : Side) : ℚ :=
  ((legs.filter fun leg => leg.side = side).map NovatedTrade.quantity).sum

/-- Value of the legs of one side, at their own prices. -/
def sideValue (legs : List NovatedTrade) (side : Side) : ℚ :=
  ((legs.filter fun leg => leg.side = side).map fun leg => leg.quantity * leg.price).sum

/-- What the legs have cost, sales deducted. -/
def netValue (legs : List NovatedTrade) : ℚ := sideValue legs .buy - sideValue legs .sell

/-- Profit of the legs at a price. -/
def markToMarket (legs : List NovatedTrade) (price : ℚ) : ℚ :=
  (legs.map fun leg => signedQuantity leg * (price - leg.price)).sum

theorem signedQuantity_eq : signedQuantity = Lots.signed sells NovatedTrade.quantity := by
  funext leg
  cases side : leg.side <;> simp [signedQuantity, Lots.signed, sells, side]

theorem filter_not_sells (legs : List NovatedTrade) :
    (legs.filter fun leg => !sells leg) = legs.filter fun leg => leg.side = .buy := by
  apply List.filter_congr
  intro leg _
  cases side : leg.side <;> simp [sells, side]

theorem netQuantity_eq_sides (legs : List NovatedTrade) :
    netQuantity legs = sideQuantity legs .buy - sideQuantity legs .sell := by
  have sides := Lots.total_signed sells NovatedTrade.quantity legs
  rwa [← signedQuantity_eq, filter_not_sells] at sides

theorem sum_quantity_eq_sides (legs : List NovatedTrade) :
    (legs.map NovatedTrade.quantity).sum = sideQuantity legs .buy + sideQuantity legs .sell := by
  have sides := Lots.total_eq_add sells NovatedTrade.quantity legs
  rwa [filter_not_sells] at sides

theorem sum_value_eq_sides (legs : List NovatedTrade) :
    (legs.map fun leg => leg.quantity * leg.price).sum =
      sideValue legs .buy + sideValue legs .sell := by
  have sides := Lots.total_eq_add sells (fun leg => leg.quantity * leg.price) legs
  rwa [filter_not_sells] at sides

theorem netValue_eq_cost (legs : List NovatedTrade) :
    netValue legs = Lots.cost sells NovatedTrade.quantity NovatedTrade.price legs := by
  rw [Lots.cost, Lots.total_signed, filter_not_sells]
  rfl

theorem markToMarket_eq (legs : List NovatedTrade) (price : ℚ) :
    markToMarket legs price = netQuantity legs * price - netValue legs := by
  rw [netValue_eq_cost, netQuantity, signedQuantity_eq]
  exact (congrArg List.sum (by rw [signedQuantity_eq])).trans (Lots.profit_eq legs price)

/-- The variation that the loop body computes for a position; nothing where it raises. -/
def computedVariation (backend : Backend) (position : Position) : Option ℚ :=
  match markPrice position, position.avgPrice with
  | some latestPrice, some previousMark =>
      some (calculateVariationMargin backend position.netQuantity latestPrice previousMark)
  | _, _ => none

theorem computedVariation_getD (backend : Backend) (position : Position) :
    (computedVariation backend position).getD 0 = vmAmount backend position := by
  unfold computedVariation vmAmount
  cases markPrice position with
  | none => rfl
  | some price => cases position.avgPrice <;> rfl

/-- What the view keeps of the legs is enough for their profit at a price: both sides have one
average price.  A price of zero is taken for a missing one. -/
def Summarized (legs : List NovatedTrade) (price : ℚ) : Prop :=
  sideQuantity legs .buy + sideQuantity legs .sell ≠ 0 ∧
    if price = 0 then sideValue legs .buy = sideValue legs .sell
    else sideQuantity legs .buy * sideValue legs .sell =
      sideQuantity legs .sell * sideValue legs .buy

theorem avgPrice_exactBackend (legs : List NovatedTrade) :
    avgPrice exactBackend legs =
      if sideQuantity legs .buy + sideQuantity legs .sell = 0 then none
      else some ((sideValue legs .buy + sideValue legs .sell) /
        (sideQuantity legs .buy + sideQuantity legs .sell)) := by
  rw [avgPrice, sum_quantity_eq_sides, sum_value_eq_sides]
  rfl

theorem calculateVariationMargin_exactBackend (netQuantity currentPrice previousMark : ℚ) :
    calculateVariationMargin exactBackend netQuantity currentPrice previousMark =
      (currentPrice - previousMark) * netQuantity := rfl

/-- A position is marked right exactly when its legs are summarized. -/
theorem computedVariation_eq_markToMarket_iff {db : Database} {memberId : Uuid}
    {instrument : Instrument} {price : ℚ} (latest : latestPriceOf db instrument.id = some price) :
    computedVariation exactBackend (positionAt exactBackend db memberId instrument) =
        some (markToMarket (openLegs db memberId instrument.id) price) ↔
      Summarized (openLegs db memberId instrument.id) price := by
  have marked : (positionAt exactBackend db memberId instrument).latestPrice = some price := latest
  have averaged : (positionAt exactBackend db memberId instrument).avgPrice =
      avgPrice exactBackend (openLegs db memberId instrument.id) := rfl
  have netted : (positionAt exactBackend db memberId instrument).netQuantity =
      netQuantity (openLegs db memberId instrument.id) := rfl
  generalize openLegs db memberId instrument.id = legs at averaged netted ⊢
  rw [computedVariation, markPrice, marked, averaged, netted, avgPrice_exactBackend,
    markToMarket_eq, netQuantity_eq_sides, netValue, Summarized]
  by_cases whole : sideQuantity legs .buy + sideQuantity legs .sell = 0
  · by_cases free : price = 0 <;> simp [whole, free]
  · rw [if_neg whole]
    by_cases free : price = 0
    · subst free
      simp only [if_true, calculateVariationMargin_exactBackend, sub_self, zero_mul, mul_zero,
        zero_sub, Option.some.injEq, zero_eq_neg, sub_eq_zero, ne_eq, whole, not_false_eq_true,
        true_and]
    · simp only [if_neg free, calculateVariationMargin_exactBackend, Option.some.injEq, ne_eq,
        whole, not_false_eq_true, true_and]
      exact Lots.average_profit_iff whole price

/-- The open legs in an instrument. -/
def heldIn (db : Database) (instrumentId : Uuid) : List NovatedTrade :=
  db.novatedTrades.filter fun leg => leg.status = .open ∧ leg.instrumentId = instrumentId

/-- The members with open legs in an instrument. -/
def holders (db : Database) (instrumentId : Uuid) : List Uuid :=
  ((heldIn db instrumentId).map NovatedTrade.memberId).dedup

/-- Whether the open legs of a member in an instrument net to zero. -/
def isFlat (db : Database) (instrumentId memberId : Uuid) : Bool :=
  netQuantity (openLegs db memberId instrumentId) = 0

/-- The rows of the position query in an instrument. -/
def positionsIn (backend : Backend) (db : Database) (instrumentId : Uuid) : List Position :=
  (positions backend db).filter fun position => position.instrumentId = instrumentId

variable {backend : Backend} {db : Database} {instrumentId : Uuid} {instrument : Instrument}

theorem openLegs_eq_filter (db : Database) (memberId instrumentId : Uuid) :
    openLegs db memberId instrumentId =
      (heldIn db instrumentId).filter fun leg => leg.memberId = memberId := by
  rw [openLegs, heldIn, List.filter_filter]
  apply List.filter_congr
  intro leg _
  rw [← Bool.decide_and, decide_eq_decide]
  exact and_left_comm

theorem mem_holders {memberId : Uuid} :
    memberId ∈ holders db instrumentId ↔ openLegs db memberId instrumentId ≠ [] := by
  rw [holders, List.mem_dedup, openLegs_eq_filter, Ne, List.filter_eq_nil_iff]
  simp

/-- The rows in an instrument are those of its holders that are not flat. -/
theorem positionsIn_perm (found : findInstrument db instrumentId = some instrument) :
    (positionsIn backend db instrumentId).Perm
      (((holders db instrumentId).filter fun memberId => !isFlat db instrumentId memberId).map
        fun memberId => positionAt backend db memberId instrument) := by
  have named := id_of_findInstrument found
  have distinct : (positionsIn backend db instrumentId).Nodup :=
    (nodup_positions backend db).of_map.filter _
  have one_each : ((holders db instrumentId).filter fun memberId =>
      !isFlat db instrumentId memberId).Nodup := (List.nodup_dedup _).filter _
  refine (List.perm_ext_iff_of_nodup distinct (one_each.map fun memberId memberId' same =>
    congrArg Position.memberId same)).mpr fun position => ?_
  simp only [positionsIn, List.mem_filter, List.mem_map, mem_positions, decide_eq_true_eq,
    mem_holders, isFlat, Bool.not_eq_true', decide_eq_false_iff_not]
  constructor
  · rintro ⟨⟨memberId, instrumentId', instrument', found', nonzero, rfl⟩, here⟩
    have same : instrumentId' = instrumentId := (id_of_findInstrument found').symm.trans here
    subst same
    rw [found, Option.some.injEq] at found'
    subst found'
    refine ⟨memberId, ⟨fun none => nonzero ?_, nonzero⟩, rfl⟩
    rw [none]
    rfl
  · rintro ⟨memberId, ⟨-, nonzero⟩, rfl⟩
    exact ⟨⟨memberId, instrumentId, instrument, found, nonzero, rfl⟩, named⟩

/-- The profits of both legs of a trade cancel. -/
theorem markToMarket_of_paired {legs : List NovatedTrade} (paired : Netting.Paired legs)
    (price : ℚ) : markToMarket legs price = 0 := by
  obtain ⟨pairs, rfl⟩ := paired
  induction pairs with
  | nil => rfl
  | cons pair pairs induction =>
      rw [markToMarket] at induction ⊢
      rw [List.flatMap_cons, List.map_append, List.sum_append, induction, Netting.LegPair.legs]
      simp only [List.map_cons, List.map_nil, List.sum_cons, List.sum_nil, signedQuantity,
        pair.buys, pair.sells, pair.quantity, pair.price]
      ring

/-- Profit of a member in an instrument. -/
def profitIn (db : Database) (instrumentId : Uuid) (price : ℚ) (memberId : Uuid) : ℚ :=
  markToMarket (openLegs db memberId instrumentId) price

/-- The profits of the holders add up to that of all legs in the instrument. -/
theorem total_profitIn_holders (db : Database) (instrumentId : Uuid) (price : ℚ) :
    Lots.total (profitIn db instrumentId price) (holders db instrumentId) =
      markToMarket (heldIn db instrumentId) price := by
  have attributed := sum_fiberSum (List.nodup_dedup _) NovatedTrade.memberId
    (fun leg => signedQuantity leg * (price - leg.price))
    fun leg (inside : leg ∈ heldIn db instrumentId) =>
      List.mem_dedup.mpr (List.mem_map_of_mem inside)
  rw [markToMarket, ← attributed]
  refine congrArg List.sum (List.map_congr_left fun memberId _ => ?_)
  rw [profitIn, markToMarket, openLegs_eq_filter]
  rfl

/-- The variation of every position is the profit of its legs at the latest price, and where the
legs in an instrument are those of whole trades the variations cancel. -/
structure MarksToMarket (db : Database) : Prop where
  profit : ∀ position ∈ positions exactBackend db, ∀ price, position.latestPrice = some price →
    computedVariation exactBackend position =
      some (markToMarket (openLegs db position.memberId position.instrumentId) price)
  zeroSum : ∀ instrumentId ∈ db.instruments.map Instrument.id, ∀ price,
    latestPriceOf db instrumentId = some price → Netting.Paired (heldIn db instrumentId) →
      ((positionsIn exactBackend db instrumentId).map (vmAmount exactBackend)).sum = 0

/-- The legs of every position are summarized, and flat members have paid as much as they have got
for what they hold of whole trades. -/
structure Summarizable (db : Database) : Prop where
  sides : ∀ position ∈ positions exactBackend db, ∀ price, position.latestPrice = some price →
    Summarized (openLegs db position.memberId position.instrumentId) price
  flats : ∀ instrumentId ∈ db.instruments.map Instrument.id, ∀ price,
    latestPriceOf db instrumentId = some price → Netting.Paired (heldIn db instrumentId) →
      (((holders db instrumentId).filter (isFlat db instrumentId)).map fun memberId =>
        netValue (openLegs db memberId instrumentId)).sum = 0

/-- Where positions are marked right, their variations lack what the flat members have made. -/
theorem sum_vmAmount (found : findInstrument db instrumentId = some instrument) {price : ℚ}
    (latest : latestPriceOf db instrumentId = some price)
    (profit : ∀ position ∈ positions exactBackend db, ∀ price,
      position.latestPrice = some price → computedVariation exactBackend position =
        some (markToMarket (openLegs db position.memberId position.instrumentId) price))
    (paired : Netting.Paired (heldIn db instrumentId)) :
    ((positionsIn exactBackend db instrumentId).map (vmAmount exactBackend)).sum =
      (((holders db instrumentId).filter (isFlat db instrumentId)).map fun memberId =>
        netValue (openLegs db memberId instrumentId)).sum := by
  have named := id_of_findInstrument found
  subst named
  have marked : ∀ memberId ∈ (holders db instrument.id).filter fun memberId =>
      !isFlat db instrument.id memberId,
      vmAmount exactBackend (positionAt exactBackend db memberId instrument) =
        profitIn db instrument.id price memberId := by
    intro memberId member
    have nonzero : netQuantity (openLegs db memberId instrument.id) ≠ 0 := by
      simpa [isFlat] using (List.mem_filter.mp member).2
    have computed := profit _ (mem_positions.mpr ⟨memberId, _, instrument, found, nonzero, rfl⟩)
      price latest
    rw [← computedVariation_getD, computed]
    rfl
  have flat : ∀ memberId ∈ (holders db instrument.id).filter (isFlat db instrument.id),
      profitIn db instrument.id price memberId =
        -netValue (openLegs db memberId instrument.id) := by
    intro memberId member
    have zero : netQuantity (openLegs db memberId instrument.id) = 0 := by
      simpa [isFlat] using (List.mem_filter.mp member).2
    rw [profitIn, markToMarket_eq, zero, zero_mul, zero_sub]
  have all := Lots.total_eq_add (isFlat db instrument.id) (profitIn db instrument.id price)
    (holders db instrument.id)
  rw [total_profitIn_holders, markToMarket_of_paired paired] at all
  have flats : Lots.total (profitIn db instrument.id price)
      ((holders db instrument.id).filter (isFlat db instrument.id)) =
      -(((holders db instrument.id).filter (isFlat db instrument.id)).map fun memberId =>
        netValue (openLegs db memberId instrument.id)).sum := by
    rw [Lots.total, List.map_congr_left flat, List.sum_neg, List.map_map]
    rfl
  calc ((positionsIn exactBackend db instrument.id).map (vmAmount exactBackend)).sum
      = Lots.total (profitIn db instrument.id price) ((holders db instrument.id).filter
          fun memberId => !isFlat db instrument.id memberId) := by
        rw [((positionsIn_perm found).map _).sum_eq, List.map_map, Lots.total]
        exact congrArg List.sum (List.map_congr_left marked)
    _ = _ := by linarith

/-- Variation margin is mark to market exactly when both sides of every position have one average
price and flat members have made nothing. -/
theorem marksToMarket_iff (db : Database) : MarksToMarket db ↔ Summarizable db := by
  have each : ∀ position ∈ positions exactBackend db, ∀ price,
      position.latestPrice = some price →
        (computedVariation exactBackend position =
          some (markToMarket (openLegs db position.memberId position.instrumentId) price) ↔
            Summarized (openLegs db position.memberId position.instrumentId) price) := by
    intro position member price latest
    obtain ⟨memberId, instrumentId, instrument, -, -, rfl⟩ := mem_positions.mp member
    exact computedVariation_eq_markToMarket_iff latest
  have known : ∀ instrumentId ∈ db.instruments.map Instrument.id,
      ∃ instrument, findInstrument db instrumentId = some instrument := by
    intro instrumentId member
    obtain ⟨instrument, inside, named⟩ := List.mem_map.mp member
    exact Option.isSome_iff_exists.mp
      (List.find?_isSome.mpr ⟨instrument, inside, by simpa using named⟩)
  constructor
  · intro right
    refine ⟨fun position member price latest =>
      (each position member price latest).mp (right.profit position member price latest),
      fun instrumentId member price latest paired => ?_⟩
    obtain ⟨instrument, found⟩ := known instrumentId member
    rw [← sum_vmAmount found latest right.profit paired]
    exact right.zeroSum instrumentId member price latest paired
  · intro enough
    have profit := fun position member price latest =>
      (each position member price latest).mpr (enough.sides position member price latest)
    refine ⟨profit, fun instrumentId member price latest paired => ?_⟩
    obtain ⟨instrument, found⟩ := known instrumentId member
    rw [sum_vmAmount found latest profit paired]
    exact enough.flats instrumentId member price latest paired

/-- Two whole trades: the first member has bought ten at a hundred from the second and sold it four
back at a hundred and ten. -/
def twoTradeBook : Database :=
  { Database.opening [⟨0, ccpLei, .active, 0⟩, ⟨1, "LEI1", .active, 0⟩, ⟨2, "LEI2", .active, 0⟩]
      [⟨3, .cash, 1 / 10, 1 / 20, none, none, true⟩] [] 20
      Database.nodup_ccpAndTwo Database.nodup_noAccountIds Database.nodup_noAccountKeys with
    trades := [⟨4, 3, 1, 2, 10, 100, .novated⟩, ⟨5, 3, 2, 1, 4, 110, .novated⟩]
    novatedTrades :=
      [⟨6, 4, 1, 3, .buy, 10, 100, .open, 1⟩, ⟨7, 4, 2, 3, .sell, 10, 100, .open, 1⟩,
        ⟨8, 5, 2, 3, .buy, 4, 110, .open, 1⟩, ⟨9, 5, 1, 3, .sell, 4, 110, .open, 1⟩]
    priceFeeds := [⟨3, 105, 2⟩]
    latestPrices := [⟨3, 105⟩] }

/-- The first member of `twoTradeBook` has made seventy and is marked at less than thirteen. -/
theorem not_marksToMarket_twoTradeBook : ¬ ∀ db, MarksToMarket db := by
  intro claim
  have wrong : ∃ position ∈ positions exactBackend twoTradeBook,
      position.latestPrice = some 105 ∧
        markToMarket (openLegs twoTradeBook position.memberId position.instrumentId) 105 = 70 ∧
        computedVariation exactBackend position ≠ some 70 := by
    decide +kernel
  obtain ⟨position, member, latest, made, computed⟩ := wrong
  have right := (claim twoTradeBook).profit position member 105 latest
  rw [made] at right
  exact computed right

end Margin

end ClearingHouse
