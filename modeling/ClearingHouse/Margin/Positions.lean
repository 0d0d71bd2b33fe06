import ClearingHouse.Library.Lots
import ClearingHouse.Margin.Runs

/-!
# Positions of a book

The query of a recalculation has one row for each member and instrument whose open legs do not net
to zero.  The row keeps the net quantity and the average price of the legs of both sides.
-/

namespace ClearingHouse

namespace Margin

open Fibers

/-- Price of an instrument in `latest_prices`. -/
def latestPriceOf (db : Database) (instrumentId : Uuid) : Option ℚ :=
  (db.latestPrices.find? fun row => row.instrumentId = instrumentId).map LatestPrice.price

/-- The row of the position query for a member in an instrument. -/
def positionAt (backend : Backend) (db : Database) (memberId : Uuid) (instrument : Instrument) :
    Position where
  memberId := memberId
  instrumentId := instrument.id
  netQuantity := netQuantity (openLegs db memberId instrument.id)
  avgPrice := avgPrice backend (openLegs db memberId instrument.id)
  rateIm := instrument.marginRateIm
  rateVm := instrument.marginRateVm
  latestPrice := latestPriceOf db instrument.id

/-- First instrument with an identifier. -/
def findInstrument (db : Database) (instrumentId : Uuid) : Option Instrument :=
  db.instruments.find? fun instrument => instrument.id = instrumentId

variable {backend : Backend} {db : Database}

theorem id_of_findInstrument {instrumentId : Uuid} {instrument : Instrument}
    (found : findInstrument db instrumentId = some instrument) : instrument.id = instrumentId := by
  simpa using List.find?_some found

/-- Member and instrument of the open legs. -/
def openKeys (db : Database) : List (Uuid × Uuid) :=
  ((db.novatedTrades.filter fun leg => leg.status = .open).map fun leg =>
    (leg.memberId, leg.instrumentId)).dedup

theorem mem_openKeys {memberId instrumentId : Uuid} :
    (memberId, instrumentId) ∈ openKeys db ↔ openLegs db memberId instrumentId ≠ [] := by
  rw [openKeys, List.mem_dedup, openLegs, Ne, List.filter_eq_nil_iff]
  simp only [List.mem_map, List.mem_filter, decide_eq_true_eq, Prod.mk.injEq, not_forall, not_not]
  constructor
  · rintro ⟨leg, ⟨inside, opened⟩, member, instrument⟩
    exact ⟨leg, inside, opened, member, instrument⟩
  · rintro ⟨leg, inside, opened, member, instrument⟩
    exact ⟨leg, ⟨inside, opened⟩, member, instrument⟩

/-- The row of a key, if its instrument exists and its legs do not net to zero. -/
def positionOf (backend : Backend) (db : Database) (key : Uuid × Uuid) : Option Position :=
  match findInstrument db key.2 with
  | none => none
  | some instrument =>
      if netQuantity (openLegs db key.1 key.2) = 0 then none
      else some (positionAt backend db key.1 instrument)

theorem positions_eq (backend : Backend) (db : Database) :
    positions backend db = (openKeys db).filterMap (positionOf backend db) := by
  apply List.filterMap_congr
  intro key _
  obtain ⟨memberId, instrumentId⟩ := key
  rw [positionOf]
  change (match findInstrument db instrumentId with | none => none | some instrument => _) = _
  cases found : findInstrument db instrumentId with
  | none => rfl
  | some instrument =>
      have named := id_of_findInstrument found
      subst named
      rfl

theorem mem_positions {position : Position} :
    position ∈ positions backend db ↔
      ∃ memberId instrumentId instrument, findInstrument db instrumentId = some instrument ∧
        netQuantity (openLegs db memberId instrumentId) ≠ 0 ∧
        position = positionAt backend db memberId instrument := by
  rw [positions_eq, List.mem_filterMap]
  constructor
  · rintro ⟨⟨memberId, instrumentId⟩, -, made⟩
    unfold positionOf at made
    cases found : findInstrument db instrumentId with
    | none => simp [found] at made
    | some instrument =>
        simp only [found, Option.ite_none_left_eq_some, Option.some.injEq] at made
        exact ⟨memberId, instrumentId, instrument, found, made.1, made.2.symm⟩
  · rintro ⟨memberId, instrumentId, instrument, found, nonzero, rfl⟩
    refine ⟨(memberId, instrumentId), mem_openKeys.mpr fun none => ?_, ?_⟩
    · rw [none] at nonzero
      exact nonzero rfl
    · simp only [positionOf, found, if_neg nonzero]

/-- A pair has a row exactly when its instrument exists and its legs do not net to zero. -/
theorem mem_keys_positions {memberId instrumentId : Uuid} :
    (memberId, instrumentId) ∈ (positions backend db).map Position.key ↔
      (findInstrument db instrumentId).isSome ∧
        netQuantity (openLegs db memberId instrumentId) ≠ 0 := by
  simp only [List.mem_map, mem_positions, Position.key, Prod.mk.injEq]
  constructor
  · rintro ⟨position, ⟨memberId', instrumentId', instrument, found, nonzero, rfl⟩, rfl, rfl⟩
    have named := id_of_findInstrument found
    subst named
    exact ⟨by simp [positionAt, found], nonzero⟩
  · rintro ⟨known, nonzero⟩
    obtain ⟨instrument, found⟩ := Option.isSome_iff_exists.mp known
    exact ⟨_, ⟨memberId, instrumentId, instrument, found, nonzero, rfl⟩, rfl,
      id_of_findInstrument found⟩

end Margin

end ClearingHouse
