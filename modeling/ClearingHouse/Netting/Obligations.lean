import ClearingHouse.Margin
import ClearingHouse.Netting

/-!
# Net obligations

The grouped query has at most one row for each side of a member in an instrument, so the dictionary
that `calculate_net_obligations` builds holds, for each member and instrument with a selected leg,
the rounded totals of both sides.
-/

namespace ClearingHouse

namespace Netting

open Fibers

/-- Member and instrument of a leg. -/
def legKey (leg : NovatedTrade) : Uuid × Uuid := (leg.memberId, leg.instrumentId)

/-- Total quantity on one side of a member in an instrument. -/
def sideTotal (legs : List NovatedTrade) (k : Uuid × Uuid) (side : Side) : ℚ :=
  fiberSum groupKey NovatedTrade.quantity legs (k.1, k.2, side)

/-- Net quantity of a member in an instrument. -/
def netTotal (legs : List NovatedTrade) (k : Uuid × Uuid) : ℚ :=
  fiberSum legKey Margin.signedQuantity legs k

theorem netTotal_eq (legs : List NovatedTrade) (k : Uuid × Uuid) :
    netTotal legs k = sideTotal legs k .buy - sideTotal legs k .sell := by
  induction legs with
  | nil => simp [netTotal, sideTotal]
  | cons leg legs induction =>
      simp only [netTotal, sideTotal] at induction
      simp only [netTotal, sideTotal, fiberSum_cons, induction]
      obtain ⟨memberId, instrumentId⟩ := k
      cases side : leg.side with
      | buy =>
          simp only [legKey, groupKey, Margin.signedQuantity, side, Prod.mk.injEq, and_true,
            reduceCtorEq, and_false, if_false]
          ring
      | sell =>
          simp only [legKey, groupKey, Margin.signedQuantity, side, Prod.mk.injEq, and_true,
            reduceCtorEq, and_false, if_false]
          split <;> ring

/-- If every instrument is bought as much as it is sold, the amounts at one price for each
instrument cancel. -/
theorem sum_netTotal_mul {legs : List NovatedTrade}
    (flat : ∀ instrumentId,
      fiberSum NovatedTrade.instrumentId Margin.signedQuantity legs instrumentId = 0)
    (price : Uuid → ℚ) :
    ((legs.map legKey).dedup.map fun k => netTotal legs k * price k.2).sum = 0 := by
  have by_member : ((legs.map legKey).dedup.map fun k => netTotal legs k * price k.2).sum =
      (legs.map fun leg => Margin.signedQuantity leg * price leg.instrumentId).sum := by
    rw [← sum_fiberSum (List.nodup_dedup (legs.map legKey)) legKey
      (fun leg => Margin.signedQuantity leg * price leg.instrumentId)
      fun leg inside => List.mem_dedup.mpr (List.mem_map_of_mem inside)]
    refine congrArg List.sum (List.map_congr_left fun k _ => ?_)
    exact (fiberSum_mul legKey Margin.signedQuantity (fun k => price k.2) legs k).symm
  have by_instrument :
      (legs.map fun leg => Margin.signedQuantity leg * price leg.instrumentId).sum = 0 := by
    rw [← sum_fiberSum (List.nodup_dedup (legs.map NovatedTrade.instrumentId))
      NovatedTrade.instrumentId (fun leg => Margin.signedQuantity leg * price leg.instrumentId)
      fun leg inside => List.mem_dedup.mpr (List.mem_map_of_mem inside)]
    apply List.sum_eq_zero
    intro amount member
    obtain ⟨instrumentId, -, rfl⟩ := List.mem_map.mp member
    rw [fiberSum_mul NovatedTrade.instrumentId Margin.signedQuantity price, flat, zero_mul]
  exact by_member.trans by_instrument

/-- The position of a group, with the quote of its instrument. -/
def pricedPosition (quote : Uuid → ℚ × SettlementType) (legs : List NovatedTrade)
    (key : Uuid × Uuid × Side) : Position where
  memberId := key.1
  instrumentId := key.2.1
  side := key.2.2
  totalQuantity := fiberSum groupKey NovatedTrade.quantity legs key
  totalValue := fiberSum groupKey (fun leg => leg.quantity * leg.price) legs key
  latestPrice := some (quote key.2.1).1
  settlementType := some (quote key.2.1).2

/-- The priced positions of the selected legs. -/
def pricedPositions (quote : Uuid → ℚ × SettlementType) (legs : List NovatedTrade) :
    List Position :=
  (groupPositions legs).map (Position.withQuote quote)

theorem pricedPositions_eq (quote : Uuid → ℚ × SettlementType) (legs : List NovatedTrade) :
    pricedPositions quote legs =
      (legs.map groupKey).dedup.map (pricedPosition quote legs) := by
  rw [pricedPositions, groupPositions, List.map_map]
  rfl

/-- The entry of `grouped` under a member and an instrument. -/
def groupedEntry (backend : Backend) (quote : Uuid → ℚ × SettlementType)
    (legs : List NovatedTrade) (k : Uuid × Uuid) : Grouped where
  buyQty := backend.round (sideTotal legs k .buy)
  sellQty := backend.round (sideTotal legs k .sell)
  latestPrice := (quote k.2).1
  settlementType := (quote k.2).2

variable {backend : Backend} {quote : Uuid → ℚ × SettlementType} {legs : List NovatedTrade}

theorem mem_legKeys (k : Uuid × Uuid) :
    k ∈ legs.map legKey ↔
      (k.1, k.2, Side.buy) ∈ legs.map groupKey ∨ (k.1, k.2, Side.sell) ∈ legs.map groupKey := by
  obtain ⟨memberId, instrumentId⟩ := k
  simp only [List.mem_map, legKey, groupKey, Prod.mk.injEq]
  constructor
  · rintro ⟨leg, inside, member, instrument⟩
    cases side : leg.side with
    | buy => exact .inl ⟨leg, inside, member, instrument, side⟩
    | sell => exact .inr ⟨leg, inside, member, instrument, side⟩
  · rintro (⟨leg, inside, member, instrument, -⟩ | ⟨leg, inside, member, instrument, -⟩)
    · exact ⟨leg, inside, member, instrument⟩
    · exact ⟨leg, inside, member, instrument⟩

theorem sideTotal_of_not_mem {k : Uuid × Uuid} {side : Side}
    (missing : (k.1, k.2, side) ∉ legs.map groupKey) : sideTotal legs k side = 0 := by
  rw [sideTotal, fiberSum, List.filter_eq_nil_iff.mpr]
  · rfl
  · intro leg inside
    have other : groupKey leg ≠ (k.1, k.2, side) := fun same =>
      missing (same ▸ List.mem_map_of_mem inside)
    simpa using other

/-- The rows of the grouped query under one member and instrument. -/
theorem groups_of_key (legs : List NovatedTrade) (k : Uuid × Uuid) :
    ((legs.map groupKey).dedup.filter fun key => (key.1, key.2.1) = k).Nodup ∧
      ∀ key ∈ (legs.map groupKey).dedup.filter fun key => (key.1, key.2.1) = k,
        key = (k.1, k.2, .buy) ∨ key = (k.1, k.2, .sell) := by
  refine ⟨(List.nodup_dedup _).filter _, fun key member => ?_⟩
  obtain ⟨memberId, instrumentId, side⟩ := key
  have same := (List.mem_filter.mp member).2
  simp only [decide_eq_true_eq] at same
  subst same
  cases side with
  | buy => exact .inl rfl
  | sell => exact .inr rfl

theorem valueAt_grouped (k : Uuid × Uuid) :
    valueAt k (grouped backend (pricedPositions quote legs)) =
      if k ∈ legs.map legKey then some (groupedEntry backend quote legs k) else none := by
  have rows : (pricedPositions quote legs).filter (fun position => position.key = k) =
      ((legs.map groupKey).dedup.filter fun key => (key.1, key.2.1) = k).map
        (pricedPosition quote legs) := by
    rw [pricedPositions_eq, List.filter_map]
    rfl
  have buys : (k.1, k.2, Side.buy) ∈ legs.map groupKey ↔ (k.1, k.2, Side.buy) ∈
      (legs.map groupKey).dedup.filter fun key => (key.1, key.2.1) = k := by
    simp
  have sells : (k.1, k.2, Side.sell) ∈ legs.map groupKey ↔ (k.1, k.2, Side.sell) ∈
      (legs.map groupKey).dedup.filter fun key => (key.1, key.2.1) = k := by
    simp
  obtain ⟨distinct, two⟩ := groups_of_key legs k
  rw [grouped, valueAt_collect, rows]
  -- At most one row a side, in either order; an absent side totals zero.
  rcases eq_of_nodup_pair distinct two with none | buy | sell | both | swapped
  · have absent : k ∉ legs.map legKey := by simp [mem_legKeys, buys, sells, none]
    rw [none, if_neg absent]
    rfl
  · have present : k ∈ legs.map legKey := by simp [mem_legKeys, buys, buy]
    have no_sell : sideTotal legs k .sell = 0 :=
      sideTotal_of_not_mem (by rw [sells, buy]; simp)
    rw [buy, if_pos present]
    simp [groupedEntry, Grouped.add, Grouped.start, pricedPosition, Backend.add, no_sell,
      backend.round_zero]
    rfl
  · have present : k ∈ legs.map legKey := by simp [mem_legKeys, sells, sell]
    have no_buy : sideTotal legs k .buy = 0 :=
      sideTotal_of_not_mem (by rw [buys, sell]; simp)
    rw [sell, if_pos present]
    simp [groupedEntry, Grouped.add, Grouped.start, pricedPosition, Backend.add, no_buy,
      backend.round_zero]
    rfl
  · have present : k ∈ legs.map legKey := by simp [mem_legKeys, buys, both]
    rw [both, if_pos present]
    simp [groupedEntry, Grouped.add, Grouped.start, pricedPosition, Backend.add, sideTotal]
  · have present : k ∈ legs.map legKey := by simp [mem_legKeys, buys, swapped]
    rw [swapped, if_pos present]
    simp [groupedEntry, Grouped.add, Grouped.start, pricedPosition, Backend.add, sideTotal]

/-- Member and instrument of every selected leg, in some order without repetitions. -/
def obligationKeys (backend : Backend) (quote : Uuid → ℚ × SettlementType)
    (legs : List NovatedTrade) : List (Uuid × Uuid) :=
  (grouped backend (pricedPositions quote legs)).map Prod.fst

theorem nodup_obligationKeys : (obligationKeys backend quote legs).Nodup :=
  nodup_keys_collect _

theorem mem_obligationKeys (k : Uuid × Uuid) :
    k ∈ obligationKeys backend quote legs ↔ k ∈ legs.map legKey := by
  rw [obligationKeys, grouped, mem_keys_collect, pricedPositions_eq, List.map_map]
  simp only [List.mem_map, List.mem_dedup, Function.comp_apply]
  constructor
  · rintro ⟨key, ⟨leg, inside, rfl⟩, rfl⟩
    exact ⟨leg, inside, rfl⟩
  · rintro ⟨leg, inside, rfl⟩
    exact ⟨groupKey leg, ⟨leg, inside, rfl⟩, rfl⟩

theorem obligationKeys_perm : (obligationKeys backend quote legs).Perm (legs.map legKey).dedup := by
  apply (List.perm_ext_iff_of_nodup nodup_obligationKeys (List.nodup_dedup _)).mpr
  intro k
  rw [mem_obligationKeys, List.mem_dedup]

theorem grouped_eq :
    grouped backend (pricedPositions quote legs) =
      (obligationKeys backend quote legs).map fun k => (k, groupedEntry backend quote legs k) := by
  rw [obligationKeys, List.map_map]
  refine (List.map_id _).symm.trans (List.map_congr_left fun entry inside => ?_)
  have at_key := valueAt_of_mem (nodup_keys_collect _) inside
  have present : entry.1 ∈ legs.map legKey :=
    (mem_obligationKeys entry.1).mp (List.mem_map_of_mem inside)
  rw [← grouped, valueAt_grouped, if_pos present, Option.some.injEq] at at_key
  simp [at_key]

/-- Net quantity of a key in the arithmetic of the service. -/
def netQuantityAt (backend : Backend) (legs : List NovatedTrade) (k : Uuid × Uuid) : ℚ :=
  backend.sub (backend.round (sideTotal legs k .buy)) (backend.round (sideTotal legs k .sell))

/-- The obligation of a key. -/
def obligationAt (backend : Backend) (quote : Uuid → ℚ × SettlementType)
    (legs : List NovatedTrade) (k : Uuid × Uuid) : Obligation where
  memberId := k.1
  instrumentId := k.2
  netQuantity := netQuantityAt backend legs k
  netAmount := backend.mul (netQuantityAt backend legs k) (quote k.2).1
  settlementAmount := backend.abs (backend.mul (netQuantityAt backend legs k) (quote k.2).1)
  settlementType := (quote k.2).2

/-- The obligations are those of the keys whose net quantity is not zero. -/
theorem calculateNetObligations_eq :
    calculateNetObligations backend (pricedPositions quote legs) =
      ((obligationKeys backend quote legs).filter fun k => netQuantityAt backend legs k ≠ 0).map
        (obligationAt backend quote legs) := by
  rw [calculateNetObligations, grouped_eq, List.filterMap_map, ← List.filterMap_eq_map,
    List.filterMap_filter]
  apply List.filterMap_congr
  intro k _
  by_cases flat : netQuantityAt backend legs k = 0
  · rw [if_neg (by simp [flat])]
    exact if_pos flat
  · rw [if_pos (by simp [flat])]
    exact if_neg flat

theorem obligation_of_mem {obligation : Obligation}
    (member : obligation ∈ calculateNetObligations backend (pricedPositions quote legs)) :
    ∃ k ∈ legs.map legKey, netQuantityAt backend legs k ≠ 0 ∧
      obligation = obligationAt backend quote legs k := by
  rw [calculateNetObligations_eq] at member
  obtain ⟨k, selected, rfl⟩ := List.mem_map.mp member
  obtain ⟨inside, nonzero⟩ := List.mem_filter.mp selected
  exact ⟨k, (mem_obligationKeys k).mp inside, by simpa using nonzero, rfl⟩

end Netting

end ClearingHouse
