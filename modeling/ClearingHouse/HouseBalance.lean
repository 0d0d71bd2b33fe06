import ClearingHouse.Netting.Instructions
import ClearingHouse.Settlement.CashCalls

/-!
# The balance of the house

Over a matched book the exact amounts that the house collects from net buyers and pays to net
sellers cancel.  The amount of each member is rounded on its own before it is stored, so after a
cycle and its settlements the house is where it was only if the rounding errors cancel.
-/

namespace ClearingHouse

namespace Netting

open Fibers Settlement

/-- The house holds no leg, and in every instrument as much is bought as sold. -/
structure Matched (house : Uuid) (legs : List NovatedTrade) : Prop where
  members : ∀ leg ∈ legs, leg.memberId ≠ house
  instruments : ∀ instrumentId,
    fiberSum NovatedTrade.instrumentId Margin.signedQuantity legs instrumentId = 0

/-- What the instruction of a net quantity moves to the house. -/
def movedAmount (backend : Backend) (netQuantity price : ℚ) : ℚ :=
  let netAmount := backend.mul netQuantity price
  let stored := (backend.store (backend.abs netAmount)).getD 0
  if 0 < netAmount then stored else -stored

/-- What rounding adds to the exact amount of a member in an instrument. -/
def roundingError (backend : Backend) (quote : Uuid → ℚ × SettlementType)
    (legs : List NovatedTrade) (k : Uuid × Uuid) : ℚ :=
  movedAmount backend (netQuantityAt backend legs k) (quote k.2).1 -
    netTotal legs k * (quote k.2).1

/-- The rounding errors of all members in all instruments cancel. -/
def ErrorsCancel (backend : Backend) (quote : Uuid → ℚ × SettlementType)
    (legs : List NovatedTrade) : Prop :=
  ((legs.map legKey).dedup.map (roundingError backend quote legs)).sum = 0

section Amounts

variable {backend : Backend} {quote : Uuid → ℚ × SettlementType} {legs : List NovatedTrade}

theorem movedAmount_zero (price : ℚ) : movedAmount backend 0 price = 0 := by
  simp [movedAmount, Backend.mul, Backend.abs, backend.round_zero, backend.store_zero]

theorem sum_movedAmounts {house : Uuid} (matched : Matched house legs) :
    ((legs.map legKey).dedup.map fun k =>
        movedAmount backend (netQuantityAt backend legs k) (quote k.2).1).sum =
      ((legs.map legKey).dedup.map (roundingError backend quote legs)).sum := by
  have exact_amounts := sum_netTotal_mul matched.instruments fun instrumentId =>
    (quote instrumentId).1
  have split : ((legs.map legKey).dedup.map fun k =>
        movedAmount backend (netQuantityAt backend legs k) (quote k.2).1).sum =
      ((legs.map legKey).dedup.map (roundingError backend quote legs)).sum +
        ((legs.map legKey).dedup.map fun k => netTotal legs k * (quote k.2).1).sum := by
    rw [← List.sum_map_add]
    simp only [roundingError, sub_add_cancel]
  rw [split, exact_amounts, add_zero]

/-- What the house collects from the instruction of a key. -/
theorem collected_of_instructs {house cycleId : Uuid} {k : Uuid × Uuid}
    {row : SettlementInstruction} (other : k.1 ≠ house)
    (instructs : Instructs backend house cycleId (obligationAt backend quote legs k) row) :
    collected house row = movedAmount backend (netQuantityAt backend legs k) (quote k.2).1 := by
  have amount : backend.store (backend.abs (backend.mul (netQuantityAt backend legs k)
      (quote k.2).1)) = some row.amount := instructs.amount
  have parties : settlementParties (obligationAt backend quote legs k) house =
      if 0 < backend.mul (netQuantityAt backend legs k) (quote k.2).1 then (k.1, house)
      else (house, k.1) := rfl
  rw [collected, instructs.fromMember, instructs.toMember, parties, movedAmount, amount]
  by_cases buys : 0 < backend.mul (netQuantityAt backend legs k) (quote k.2).1
  · simp [buys, other]
  · simp [buys, other]

/-- What the house collects from the instructions of a cycle. -/
theorem sum_collected {house cycleId : Uuid} (matched : Matched house legs)
    {rows : List SettlementInstruction}
    (instructs : List.Forall₂ (Instructs backend house cycleId)
      (calculateNetObligations backend (pricedPositions quote legs)) rows) :
    (rows.map (collected house)).sum =
      ((legs.map legKey).dedup.map (roundingError backend quote legs)).sum := by
  have moved : ∀ k ∈ obligationKeys backend quote legs, k.1 ≠ house := by
    intro k inside
    obtain ⟨leg, member, rfl⟩ := List.mem_map.mp ((mem_obligationKeys k).mp inside)
    exact matched.members leg member
  rw [calculateNetObligations_eq, List.forall₂_map_left_iff] at instructs
  have amounts : List.Forall₂ (fun k row =>
      movedAmount backend (netQuantityAt backend legs k) (quote k.2).1 = collected house row)
      ((obligationKeys backend quote legs).filter fun k => netQuantityAt backend legs k ≠ 0)
      rows := by
    have others := (List.forall₂_and_left (p := fun k : Uuid × Uuid => k.1 ≠ house) _ _).mpr
      ⟨fun k member => moved k (List.mem_of_mem_filter member), instructs⟩
    apply others.imp
    rintro k row ⟨other, written⟩
    exact (collected_of_instructs other written).symm
  have lists : ((obligationKeys backend quote legs).filter fun k =>
        netQuantityAt backend legs k ≠ 0).map
      (fun k => movedAmount backend (netQuantityAt backend legs k) (quote k.2).1) =
        rows.map (collected house) := by
    rw [← List.forall₂_eq_eq_eq, List.forall₂_map_left_iff, List.forall₂_map_right_iff]
    exact amounts
  have unfiltered : (((obligationKeys backend quote legs).filter fun k =>
        netQuantityAt backend legs k ≠ 0).map fun k =>
          movedAmount backend (netQuantityAt backend legs k) (quote k.2).1).sum =
      ((obligationKeys backend quote legs).map fun k =>
        movedAmount backend (netQuantityAt backend legs k) (quote k.2).1).sum := by
    apply sum_map_filter_of_zero
    intro k _ flat
    have zero : netQuantityAt backend legs k = 0 := by simpa using flat
    rw [zero, movedAmount_zero]
  rw [← lists, unfiltered, (obligationKeys_perm.map _).sum_eq, sum_movedAmounts matched]

end Amounts

theorem stored_abs_nonneg {x y : ℚ}
    (stored : decimalBackend.store (decimalBackend.abs x) = some y) : 0 ≤ y := by
  have rounded : 0 ≤ decimalBackend.abs x :=
    DecimalRounding.toDigits_nonneg (by norm_num) (abs_nonneg x)
  rw [(DecimalRounding.toFixed_eq_some stored).1,
    ← DecimalRounding.toUnit_of_mem_fixedGrid DecimalRounding.halfAway_nearest
      (zero_mem (DecimalRounding.fixedGrid 8))]
  exact DecimalRounding.toUnit_mono DecimalRounding.halfAway_nearest (by norm_num) rounded

/-- A new row is found under its identifier. -/
theorem find_new_row {old rows : List SettlementInstruction} {row : SettlementInstruction}
    (distinct : (rows.map SettlementInstruction.id).Nodup) (member : row ∈ rows)
    (pending : row.status = .pending) (unused : ∀ other ∈ old, other.id ≠ row.id) :
    (old ++ rows).find? (fun other => other.id = row.id ∧ other.status = .pending) = some row := by
  have none_old : old.find? (fun other => other.id = row.id ∧ other.status = .pending) = none := by
    refine List.find?_eq_none.mpr fun other inside => ?_
    simp [unused other inside]
  rw [List.find?_append, none_old, Option.none_or]
  cases found : rows.find? fun other => other.id = row.id ∧ other.status = .pending with
  | none => simpa [pending] using List.find?_eq_none.mp found row member
  | some other =>
      have selected := List.find?_some found
      simp only [decide_eq_true_eq] at selected
      rw [List.inj_on_of_nodup_map distinct (List.mem_of_find?_eq_some found) member selected.1]

/-- Identifiers of rows and entries that have not been given out yet. -/
structure Numbered (db : Database) : Prop where
  entries : FreshJournals db
  instructions : ∀ row ∈ db.settlementInstructions, row.id < db.nextUuid

/-- Everything that the settlements of a cycle find: the legs are on cash-settled instruments, and
the house and its members have their settlement accounts. -/
structure CashBook (house : Uuid) (db : Database) (legs : List NovatedTrade) : Prop where
  instruments : ∀ leg ∈ legs, ∃ instrument,
    (db.instruments.find? fun row => row.id = leg.instrumentId) = some instrument ∧
      instrument.settlementType = .cash
  members : ∀ leg ∈ legs, ∃ account,
    findAccount db leg.memberId .settlement .available = some account
  house : ∃ account, findAccount db house .settlement .available = some account

/-- The instruction of an obligation of a cash book is ready. -/
theorem cashReady_of_instructs {house cycleId : Uuid} {db mid : Database}
    {legs : List NovatedTrade} (book : CashBook house db legs) (beside : Beside db mid)
    {rows : List SettlementInstruction}
    (appended : mid.settlementInstructions = db.settlementInstructions ++ rows)
    (distinct : (rows.map SettlementInstruction.id).Nodup) {row : SettlementInstruction}
    (member : row ∈ rows) (unused : ∀ other ∈ db.settlementInstructions, other.id ≠ row.id)
    {k : Uuid × Uuid} (inside : k ∈ legs.map legKey)
    (instructs : Instructs decimalBackend house cycleId
      (obligationAt decimalBackend (quote db) legs k) row) :
    CashReady decimalBackend mid row := by
  obtain ⟨leg, leg_mem, rfl⟩ := List.mem_map.mp inside
  obtain ⟨instrument, found, cash⟩ := book.instruments leg leg_mem
  have same_account : ∀ memberId, findAccount mid memberId .settlement .available =
      findAccount db memberId .settlement .available := fun memberId => by
    rw [findAccount, findAccount, beside.accounts]
  have amount : decimalBackend.store (decimalBackend.abs (decimalBackend.mul
      (netQuantityAt decimalBackend legs (legKey leg)) (quote db leg.instrumentId).1)) =
      some row.amount := instructs.amount
  have party : ∀ memberId, memberId = leg.memberId ∨ memberId = house →
      ∃ account, findAccount mid memberId .settlement .available = some account := by
    rintro memberId (rfl | rfl)
    · rw [same_account]
      exact book.members leg leg_mem
    · rw [same_account]
      exact book.house
  refine ⟨⟨instrument, ?_⟩, ?_, decimalBackend.store_stored amount, stored_abs_nonneg amount,
    party _ ?_, party _ ?_⟩
  · rw [pendingInstruction, appended, find_new_row distinct member instructs.status unused]
    simp only [beside.instruments, instructs.instrument, obligationAt, legKey, found]
  · have quoted : (quote db leg.instrumentId).2 = .cash := by
      rw [quote, found]
      exact cash
    exact instructs.settlementType.trans quoted
  · rw [instructs.fromMember, settlementParties]
    split
    · exact .inl rfl
    · exact .inr rfl
  · rw [instructs.toMember, settlementParties]
    split
    · exact .inr rfl
    · exact .inl rfl

/-- Rows can be put into the order of a permutation of their identifiers. -/
theorem exists_perm_of_ids {ids : List Uuid} {rows : List SettlementInstruction}
    (permuted : ids.Perm (rows.map SettlementInstruction.id)) :
    ∃ rows' : List SettlementInstruction,
      ids = rows'.map SettlementInstruction.id ∧ rows'.Perm rows := by
  have numbers : List.Forall₂ (fun id (row : SettlementInstruction) => id = row.id)
      (rows.map SettlementInstruction.id) rows :=
    List.forall₂_map_left_iff.mpr (List.forall₂_same.mpr fun _ _ => rfl)
  obtain ⟨rows', numbered, perm⟩ := List.perm_comp_forall₂ permuted numbers
  refine ⟨rows', ?_, perm⟩
  rw [← List.forall₂_eq_eq_eq, List.forall₂_map_right_iff]
  exact numbered

theorem exists_instructs {backend : Backend} {house cycleId : Uuid} {obligations : List Obligation}
    {rows : List SettlementInstruction}
    (instructs : List.Forall₂ (Instructs backend house cycleId) obligations rows) :
    ∀ row ∈ rows, ∃ obligation ∈ obligations, Instructs backend house cycleId obligation row := by
  induction instructs with
  | nil => simp
  | cons head tail induction =>
      intro row member
      rcases List.mem_cons.mp member with rfl | later
      · exact ⟨_, List.mem_cons_self, head⟩
      · obtain ⟨obligation, inside, made⟩ := induction row later
        exact ⟨obligation, List.mem_cons_of_mem _ inside, made⟩

/-- Once a cycle over a matched cash book has been settled, its instructions are confirmed, and the
house has the balance it started with if and only if the rounding errors of the members cancel. -/
theorem flat_iff_errorsCancel {cycleType : NettingCycleType} {cutOffTime : Timestamp}
    {trace : TraceContext} {result : CycleResult} {db mid : Database} {ccp : Member}
    {house : Account} {requests : List Request} (numbered : Numbered db)
    (ccp_found : findCcp db = some ccp) (matched : Matched ccp.id (openLegs db cutOffTime))
    (book : CashBook ccp.id db (openLegs db cutOffTime))
    (house_found : findAccount db ccp.id .settlement .available = some house)
    (ran : runNettingCycle decimalBackend cycleType cutOffTime trace db = .ok (result, mid))
    (requested : (requests.map Request.instructionId).Perm result.instructionIds) :
    (∀ id ∈ result.instructionIds, ∃ row ∈
        (settleAll decimalBackend requests mid).settlementInstructions,
        row.id = id ∧ row.status = .confirmed) ∧
      (accountBalance (settleAll decimalBackend requests mid) house.id =
          accountBalance db house.id ↔
        ErrorsCancel decimalBackend (quote db) (openLegs db cutOffTime)) := by
  obtain ⟨ccp', ccp_found', instructed⟩ := instructed_runNettingCycle ran
  obtain rfl : ccp = ccp' := Option.some.inj (ccp_found.symm.trans ccp_found')
  obtain ⟨rows, instructs, ids, appended⟩ := instructed.rows
  have distinct : (rows.map SettlementInstruction.id).Nodup := ids ▸ instructed.distinct
  have ready : ∀ row ∈ rows, CashReady decimalBackend mid row := by
    intro row member
    obtain ⟨obligation, inside, made⟩ := exists_instructs instructs row member
    obtain ⟨k, key, -, rfl⟩ := obligation_of_mem inside
    have row_fresh := instructed.fresh row.id (ids ▸ List.mem_map_of_mem member)
    exact cashReady_of_instructs book instructed.toBeside appended distinct member
      (fun other old => ne_of_lt ((numbered.instructions other old).trans_le row_fresh.1)) key made
  have fresh : FreshJournals mid := by
    intro entry member
    rw [instructed.journalEntries] at member
    exact (numbered.entries entry member).trans_le instructed.uuids
  obtain ⟨rows', requested', perm⟩ := exists_perm_of_ids (ids ▸ requested)
  have distinct' : (rows'.map SettlementInstruction.id).Nodup :=
    (perm.map SettlementInstruction.id).nodup_iff.mpr distinct
  obtain ⟨-, confirmed, balances⟩ := settleAll_of_ready (by decide) fresh requested' distinct'
    fun row member => ready row (perm.subset member)
  have house_found' : findAccount mid ccp.id .settlement .available = some house := by
    rw [findAccount, instructed.accounts]
    exact house_found
  have before : accountBalance mid house.id = accountBalance db house.id := by
    rw [accountBalance, accountBalance, instructed.journalEntries]
  refine ⟨fun id member => ?_, ?_⟩
  · rw [← ids] at member
    obtain ⟨row, inside, rfl⟩ := List.mem_map.mp member
    exact confirmed row (perm.symm.subset inside)
  · rw [balances ccp.id house house_found', before, (perm.map (collected ccp.id)).sum_eq,
      sum_collected matched instructs, add_eq_left, ErrorsCancel]

/-- A leg of the book below. -/
def smallLeg (id memberId : Uuid) (side : Side) : NovatedTrade where
  id := id
  originalTradeId := 5
  memberId := memberId
  instrumentId := 4
  side := side
  quantity := 1 / 10 ^ 8
  price := 1
  status := .open
  novatedAt := 1

/-- Members 1 and 2 have each bought the least quantity from member 3. -/
def smallBook (price : ℚ) : Database :=
  { Database.opening
      [⟨0, ccpLei, .active, 0⟩, ⟨1, "LEI1", .active, 0⟩, ⟨2, "LEI2", .active, 0⟩,
        ⟨3, "LEI3", .active, 0⟩]
      [⟨4, .cash, 1 / 10, 1 / 20, none, none, true⟩]
      [⟨10, 0, .settlement, "USD", .available⟩, ⟨11, 1, .settlement, "USD", .available⟩,
        ⟨12, 2, .settlement, "USD", .available⟩, ⟨13, 3, .settlement, "USD", .available⟩] 20
      Database.nodup_ccpAndThree (by decide) (by decide) with
    novatedTrades := [smallLeg 6 1 .buy, smallLeg 7 3 .sell, smallLeg 8 2 .buy, smallLeg 9 3 .sell]
    priceFeeds := [⟨4, price, 1⟩] }

/-- The trace of the cycle and the settlements below. -/
def bookTrace : TraceContext := ⟨30, "system", none⟩

/-- A call for cash needs neither a chain nor a signer. -/
def cashRequest (instructionId : Uuid) : Request :=
  ⟨instructionId, fun _ => none, fun _ _ => .error [], bookTrace⟩

private theorem matched_smallBook (price : ℚ) : Matched 0 (openLegs (smallBook price) 1) := by
  have legs : openLegs (smallBook price) 1 =
      [smallLeg 6 1 .buy, smallLeg 7 3 .sell, smallLeg 8 2 .buy, smallLeg 9 3 .sell] := rfl
  rw [legs]
  refine ⟨by decide, fun instrumentId => ?_⟩
  simp only [fiberSum_cons, fiberSum_nil, smallLeg, Margin.signedQuantity]
  split <;> ring

private theorem cashBook_smallBook (price : ℚ) :
    CashBook 0 (smallBook price) (openLegs (smallBook price) 1) := by
  have legs : openLegs (smallBook price) 1 =
      [smallLeg 6 1 .buy, smallLeg 7 3 .sell, smallLeg 8 2 .buy, smallLeg 9 3 .sell] := rfl
  rw [legs]
  refine ⟨fun leg member => ⟨⟨4, .cash, 1 / 10, 1 / 20, none, none, true⟩, ?_, rfl⟩,
    fun leg member => ?_, ⟨_, rfl⟩⟩
  · simp only [List.mem_cons, List.not_mem_nil, or_false] at member
    rcases member with rfl | rfl | rfl | rfl <;> rfl
  · simp only [List.mem_cons, List.not_mem_nil, or_false] at member
    rcases member with rfl | rfl | rfl | rfl <;> exact ⟨_, rfl⟩

private theorem numbered_smallBook (price : ℚ) : Numbered (smallBook price) :=
  ⟨by simp [FreshJournals, smallBook, Database.opening], by simp [smallBook, Database.opening]⟩

private theorem exists_of_outcome (price balance : ℚ)
    (outcome : (runNettingCycle decimalBackend .manual 1 bookTrace (smallBook price)).toOption.map
      (fun pair => accountBalance (settleAll decimalBackend
        (pair.1.instructionIds.map cashRequest) pair.2) 10) = some balance) :
    ∃ result mid, runNettingCycle decimalBackend .manual 1 bookTrace (smallBook price) =
        .ok (result, mid) ∧
      accountBalance (settleAll decimalBackend (result.instructionIds.map cashRequest) mid) 10 =
        balance := by
  cases run : runNettingCycle decimalBackend .manual 1 bookTrace (smallBook price) with
  | error failure => simp [run, Except.toOption] at outcome
  | ok pair =>
      rw [run] at outcome
      exact ⟨pair.1, pair.2, rfl, Option.some.inj outcome⟩

private theorem requested_all (ids : List Uuid) :
    ((ids.map cashRequest).map Request.instructionId).Perm ids := by
  rw [List.map_map]
  exact .of_eq (List.map_id ids)

/-- At a price of 10 every amount is stored exactly, and the house ends flat. -/
theorem flat_iff_errorsCancel_smallBook :
    ∃ result mid, runNettingCycle decimalBackend .manual 1 bookTrace (smallBook 10) =
        .ok (result, mid) ∧
      accountBalance (settleAll decimalBackend (result.instructionIds.map cashRequest) mid) 10 =
        accountBalance (smallBook 10) 10 ∧
      ErrorsCancel decimalBackend (quote (smallBook 10)) (openLegs (smallBook 10) 1) := by
  obtain ⟨result, mid, ran, balance⟩ := exists_of_outcome 10 0 (by decide +kernel)
  have flat := (flat_iff_errorsCancel (numbered_smallBook 10) rfl (matched_smallBook 10)
    (cashBook_smallBook 10) rfl ran (requested_all _)).2
  have same : accountBalance (settleAll decimalBackend (result.instructionIds.map cashRequest)
      mid) 10 = accountBalance (smallBook 10) 10 := balance.trans (by decide +kernel)
  exact ⟨result, mid, ran, same, flat.mp same⟩

/-- At a price of one half both buyers pay the least amount and the seller receives it once. -/
theorem not_flat_smallBook :
    ∃ result mid, Matched 0 (openLegs (smallBook (1 / 2)) 1) ∧
      CashBook 0 (smallBook (1 / 2)) (openLegs (smallBook (1 / 2)) 1) ∧
      runNettingCycle decimalBackend .manual 1 bookTrace (smallBook (1 / 2)) =
        .ok (result, mid) ∧
      accountBalance (settleAll decimalBackend (result.instructionIds.map cashRequest) mid) 10 ≠
        accountBalance (smallBook (1 / 2)) 10 := by
  obtain ⟨result, mid, ran, balance⟩ := exists_of_outcome (1 / 2) (1 / 10 ^ 8)
    (by decide +kernel)
  refine ⟨result, mid, matched_smallBook _, cashBook_smallBook _, ran, ?_⟩
  rw [balance]
  decide +kernel

end Netting

end ClearingHouse
