import ClearingHouse.Margin.Convergence
import ClearingHouse.Margin.MarkToMarket

/-!
# Freshness of the requirements

A run visits the positions that exist when it starts.  The requirements of all other members and
instruments keep the amounts of earlier runs, whatever has become of the legs they were for.
-/

namespace ClearingHouse

namespace Margin

open Transactions Transactions.Transaction

/-- Member and instrument of a requirement. -/
def requirementKey (row : MarginRequirement) : Uuid × Uuid := (row.memberId, row.instrumentId)

/-- The requirements of other members and instruments are as before. -/
def OthersKept (keys : List (Uuid × Uuid)) (db after : Database) : Prop :=
  ∀ row, requirementKey row ∉ keys → (row ∈ after.marginRequirements ↔ row ∈ db.marginRequirements)

variable {keys : List (Uuid × Uuid)}

instance : Std.Refl (OthersKept keys) := ⟨fun _ _ _ => Iff.rfl⟩

instance : IsTrans Database (OthersKept keys) where
  trans _ _ _ first second := fun row away => (second row away).trans (first row away)

theorem OthersKept.of_rows {db after : Database}
    (same : after.marginRequirements = db.marginRequirements) : OthersKept keys db after :=
  fun row _ => by rw [same]

variable {backend : Backend} {deadline : Timestamp} {trace : TraceContext}

theorem othersKept_upserted {memberId instrumentId : Uuid}
    (inside : (memberId, instrumentId) ∈ keys)
    (marginType : MarginType) (amount : ℚ) (db : Database) :
    OthersKept keys db (upserted memberId instrumentId marginType amount db) := by
  have named : ∀ row, Concerns memberId instrumentId marginType row →
      requirementKey row ∈ keys := by
    rintro row ⟨rfl, rfl, -⟩
    exact inside
  intro row away
  rw [upserted]
  split
  · simp only [List.mem_map]
    constructor
    · rintro ⟨old, member, rfl⟩
      split at away
      · next concerned => exact absurd (named old concerned) away
      · next other =>
          rw [if_neg other]
          exact member
    · intro member
      exact ⟨row, member, if_neg fun concerned => away (named row concerned)⟩
  · simp only [List.mem_append, List.mem_singleton, or_iff_left_iff_imp]
    rintro rfl
    exact absurd inside away

theorem othersKept_updateMarginRequirement {memberId instrumentId : Uuid}
    (inside : (memberId, instrumentId) ∈ keys) (marginType : MarginType) (required : ℚ) :
    Respects (OthersKept keys)
      (updateMarginRequirement backend memberId instrumentId marginType required) := by
  intro db value after ran
  obtain ⟨stored, -, rfl⟩ := updateMarginRequirement_eq_ok ran
  exact othersKept_upserted inside marginType stored db

theorem othersKept_orTypeError (value : Option ℚ) :
    Respects (OthersKept keys) (orTypeError value) := by
  cases value with
  | none => exact respects_raise _
  | some value => exact respects_pure value

theorem othersKept_processVariation {memberId instrumentId : Uuid}
    (inside : (memberId, instrumentId) ∈ keys) (vm : ℚ) :
    Respects (OthersKept keys)
      (runWhen (vm ≠ 0) (processVariationMargin backend memberId instrumentId vm)) := by
  intro db value after ran
  rcases processVariation_ran ran with ⟨-, rfl⟩ | ⟨available, locked, stored, -, -, -, rfl⟩
  · exact refl after
  · have posted := sameMargins_variationPosted instrumentId available.id locked.id vm stored db
    exact IsTrans.trans _ _ _ (OthersKept.of_rows posted.rows)
      (othersKept_upserted inside .variation stored _)

theorem othersKept_recalculatePosition {position : Position} (inside : position.key ∈ keys)
    (calls : List Payload) :
    Respects (OthersKept keys) (recalculatePosition backend deadline trace calls position) := by
  refine respects_bind (othersKept_orTypeError _) fun _ =>
    respects_bind (othersKept_updateMarginRequirement inside ..) fun _ =>
    respects_bind (othersKept_orTypeError _) fun _ =>
    respects_bind (othersKept_processVariation inside _) fun _ =>
    respects_bind respects_read fun _ => respects_ite ?_ (respects_pure _)
  refine respects_bind (fun db payload after ran => ?_) fun _ => respects_pure _
  obtain ⟨call, -, -, -, same, -⟩ := issueMarginCall_eq_ok ran
  exact .of_rows same.rows

/-- A run leaves the requirements without a position alone. -/
theorem othersKept_recalculateMargins {calls : List Payload} {db after : Database}
    (ran : recalculateMargins backend deadline trace db = .ok (calls, after)) :
    OthersKept ((positions backend db).map Position.key) db after := by
  obtain ⟨_, _, reading, ran⟩ := bind_eq_ok.mp ran
  cases reading
  have visits : ∀ visited ⊆ positions backend db, ∀ calls, Respects
      (OthersKept ((positions backend db).map Position.key))
      (visited.foldlM (recalculatePosition backend deadline trace) calls) := by
    intro visited
    induction visited with
    | nil => exact fun _ _ => respects_pure _
    | cons position visited induction =>
        intro within calls
        obtain ⟨head, tail⟩ := List.cons_subset.mp within
        rw [List.foldlM_cons]
        exact respects_bind (othersKept_recalculatePosition (List.mem_map_of_mem head) calls)
          fun calls => induction tail calls
  exact visits _ (List.Subset.refl _) [] ran

/-- Initial margin of the open legs of a member in an instrument, at the latest price or, without
one, at their average price. -/
def legMargin (backend : Backend) (db : Database) (memberId instrumentId : Uuid) : ℚ :=
  let legs := openLegs db memberId instrumentId
  let price := (latestPriceOf db instrumentId <|> avgPrice backend legs).getD 0
  let rate := ((findInstrument db instrumentId).map Instrument.marginRateIm).getD 0
  calculateInitialMargin backend (netQuantity legs) price rate

theorem calculateInitialMargin_zero_quantity (backend : Backend) (price rate : ℚ) :
    calculateInitialMargin backend 0 price rate = 0 := by
  simp [calculateInitialMargin, Backend.mul, Backend.abs, backend.round_zero]

theorem calculateInitialMargin_zero_price (backend : Backend) (quantity rate : ℚ) :
    calculateInitialMargin backend quantity 0 rate = 0 := by
  simp [calculateInitialMargin, Backend.mul, backend.round_zero]

theorem calculateInitialMargin_zero_rate (backend : Backend) (quantity price : ℚ) :
    calculateInitialMargin backend quantity price 0 = 0 := by
  simp [calculateInitialMargin, Backend.mul, backend.round_zero]

variable {db after : Database} {memberId instrumentId : Uuid} {instrument : Instrument}

/-- Without a position nothing is asked for. -/
theorem legMargin_of_not_mem
    (missing : (memberId, instrumentId) ∉ (positions backend db).map Position.key) :
    legMargin backend db memberId instrumentId = 0 := by
  rw [legMargin]
  cases found : findInstrument db instrumentId with
  | none => exact calculateInitialMargin_zero_rate ..
  | some instrument =>
      have flat : netQuantity (openLegs db memberId instrumentId) = 0 := by
        by_contra nonzero
        exact missing (mem_keys_positions.mpr ⟨by simp [found], nonzero⟩)
      simp only [flat]
      exact calculateInitialMargin_zero_quantity ..

/-- The service asks for the same, except that it takes a price of zero for a missing one. -/
theorem imRequired_positionAt (found : findInstrument db instrument.id = some instrument)
    (priced : latestPriceOf db instrument.id ≠ some 0) :
    imRequired backend (positionAt backend db memberId instrument) =
      legMargin backend db memberId instrument.id := by
  have latest : (positionAt backend db memberId instrument).latestPrice =
      latestPriceOf db instrument.id := rfl
  have average : (positionAt backend db memberId instrument).avgPrice =
      avgPrice backend (openLegs db memberId instrument.id) := rfl
  unfold imRequired legMargin markPrice
  dsimp only
  rw [found, latest, average]
  cases price : latestPriceOf db instrument.id with
  | none =>
      cases avgPrice backend (openLegs db memberId instrument.id) with
      | none => exact (calculateInitialMargin_zero_price ..).symm
      | some average => rfl
  | some price' =>
      have nonzero : price' ≠ 0 := by
        rintro rfl
        exact priced price
      simp only [if_neg nonzero]
      rfl

theorem legMargin_of_free (free : latestPriceOf db instrumentId = some 0) :
    legMargin backend db memberId instrumentId = 0 := by
  rw [legMargin]
  rw [free]
  exact calculateInitialMargin_zero_price ..

/-- Every initial requirement is what the open legs ask for, and one whose legs net to zero asks for
nothing. -/
structure Fresh (backend : Backend) (db : Database) : Prop where
  rows : ∀ row ∈ db.marginRequirements, row.marginType = .initial →
    backend.store (legMargin backend db row.memberId row.instrumentId) = some row.requiredAmount
  offset : ∀ row ∈ db.marginRequirements, row.marginType = .initial →
    netQuantity (openLegs db row.memberId row.instrumentId) = 0 → row.requiredAmount = 0

/-- No requirement is left of a position that is gone, and where the latest price is zero the margin
at the average price is stored as zero. -/
structure NothingStale (backend : Backend) (db : Database) : Prop where
  gone : ∀ row ∈ db.marginRequirements, row.marginType = .initial →
    requirementKey row ∉ (positions backend db).map Position.key → row.requiredAmount = 0
  free : ∀ position ∈ positions backend db, position.latestPrice = some 0 →
    backend.store (imRequired backend position) = some 0

/-- After a run the requirements are fresh exactly when nothing stale was there before. -/
theorem fresh_iff {calls : List Payload}
    (ran : recalculateMargins backend deadline trace db = .ok (calls, after)) :
    Fresh backend after ↔ NothingStale backend db := by
  obtain ⟨adjusted, -⟩ := recalculateMargins_ran ran
  have kept := othersKept_recalculateMargins ran
  have same_legs : ∀ memberId instrumentId,
      openLegs after memberId instrumentId = openLegs db memberId instrumentId := by
    intro memberId instrumentId
    rw [openLegs, openLegs, adjusted.legs]
  have same_margin : ∀ memberId instrumentId,
      legMargin backend after memberId instrumentId =
        legMargin backend db memberId instrumentId := by
    intro memberId instrumentId
    simp only [legMargin, same_legs, latestPriceOf, findInstrument, adjusted.prices,
      adjusted.instruments]
  have zero_iff : ∀ row : MarginRequirement,
      requirementKey row ∉ (positions backend db).map Position.key →
        (backend.store (legMargin backend db row.memberId row.instrumentId) =
          some row.requiredAmount ↔ row.requiredAmount = 0) := by
    intro row gone
    rw [legMargin_of_not_mem gone, backend.store_zero, Option.some.injEq, eq_comm]
  constructor
  · intro fresh
    constructor
    · intro row member initial gone
      have right := fresh.rows row ((kept row gone).mpr member) initial
      rw [same_margin] at right
      exact (zero_iff row gone).mp right
    · intro position member free
      obtain ⟨amount, stored, requires⟩ := (adjusted.marked position member).initial
      obtain ⟨row, inside, named, instrument, initial⟩ := requires.present
      have right := fresh.rows row inside initial
      rw [same_margin, named, instrument,
        requires.amounts row inside ⟨named, instrument, initial⟩] at right
      obtain ⟨memberId, instrumentId, instrument', -, -, rfl⟩ := mem_positions.mp member
      rw [stored, ← right]
      exact (congrArg backend.store (legMargin_of_free free)).trans backend.store_zero
  · intro nothing
    have rows : ∀ row ∈ after.marginRequirements, row.marginType = .initial →
        backend.store (legMargin backend db row.memberId row.instrumentId) =
          some row.requiredAmount := by
      intro row inside initial
      by_cases visited : requirementKey row ∈ (positions backend db).map Position.key
      · obtain ⟨position, member, key⟩ := List.mem_map.mp visited
        have named : position.memberId = row.memberId := congrArg Prod.fst key
        have instrument_eq : position.instrumentId = row.instrumentId := congrArg Prod.snd key
        obtain ⟨amount, stored, requires⟩ := (adjusted.marked position member).initial
        rw [requires.amounts row inside ⟨named.symm, instrument_eq.symm, initial⟩, ← named,
          ← instrument_eq]
        have free := nothing.free position member
        obtain ⟨memberId, instrumentId, instrument, found, -, rfl⟩ := mem_positions.mp member
        have found' := found
        rw [← id_of_findInstrument found] at found'
        by_cases zero : latestPriceOf db instrument.id = some 0
        · rw [free zero] at stored
          rw [← stored]
          exact (congrArg backend.store (legMargin_of_free zero)).trans backend.store_zero
        · rw [← stored, imRequired_positionAt found' zero]
          rfl
      · exact (zero_iff row visited).mpr
          (nothing.gone row ((kept row visited).mp inside) initial visited)
    refine ⟨fun row inside initial => by rw [same_margin]; exact rows row inside initial,
      fun row inside initial flat => ?_⟩
    rw [same_legs] at flat
    have gone : requirementKey row ∉ (positions backend db).map Position.key :=
      fun visited => (mem_keys_positions.mp visited).2 flat
    exact (zero_iff row gone).mp (rows row inside initial)

/-- `twoTradeBook` after a recalculation. -/
def marginedBook : Database :=
  (recalculateMargins decimalBackend 5 marginTrace twoTradeBook).toOption.elim twoTradeBook
    Prod.snd

/-- The same after a netting cycle over all legs. -/
def nettedBook : Database :=
  (Netting.runNettingCycle decimalBackend .manual 3 marginTrace marginedBook).toOption.elim
    marginedBook Prod.snd

/-- The same after another recalculation. -/
def remarginedBook : Database :=
  (recalculateMargins decimalBackend 5 marginTrace nettedBook).toOption.elim nettedBook Prod.snd

theorem fresh_marginedBook :
    ∃ calls, recalculateMargins decimalBackend 5 marginTrace twoTradeBook =
      .ok (calls, marginedBook) ∧ Fresh decimalBackend marginedBook := by
  have returned : (recalculateMargins decimalBackend 5 marginTrace
      twoTradeBook).toOption.isSome = true := by decide +kernel
  obtain ⟨calls, ran⟩ := ok_of_isSome twoTradeBook returned
  exact ⟨calls, ran, (fresh_iff ran).mpr ⟨by decide +kernel, by decide +kernel⟩⟩

/-- The requirements for the netted legs are still there after another recalculation. -/
theorem not_fresh_remarginedBook :
    (∃ calls, recalculateMargins decimalBackend 5 marginTrace twoTradeBook =
        .ok (calls, marginedBook)) ∧
      (∃ result, Netting.runNettingCycle decimalBackend .manual 3 marginTrace marginedBook =
        .ok (result, nettedBook)) ∧
      (∃ calls, recalculateMargins decimalBackend 5 marginTrace nettedBook =
        .ok (calls, remarginedBook)) ∧
      ¬Fresh decimalBackend remarginedBook := by
  refine ⟨ok_of_isSome twoTradeBook (by decide +kernel),
    ok_of_isSome marginedBook (by decide +kernel),
    ok_of_isSome nettedBook (by decide +kernel), fun fresh => ?_⟩
  have stale : ∃ row ∈ remarginedBook.marginRequirements, row.marginType = .initial ∧
      netQuantity (openLegs remarginedBook row.memberId row.instrumentId) = 0 ∧
      row.requiredAmount = 63 := by decide +kernel
  obtain ⟨row, inside, initial, flat, required⟩ := stale
  have zero := fresh.offset row inside initial flat
  rw [required] at zero
  norm_num at zero

end Margin

end ClearingHouse
