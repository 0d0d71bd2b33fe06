import ClearingHouse.Waterfall.Order

/-!
# Completeness of the waterfall

In decimal arithmetic a waterfall leaves exactly what exceeds its tiers when every step it reaches
bears its part exactly.  The draws on one account do; the divided shares of the survivors do only
when their roundings add up, and for amounts of ordinary size this is also necessary.
-/

namespace ClearingHouse

namespace Waterfall

open DecimalRounding LossTiers Transactions

/-- The waterfall ends with exactly what exceeds the tiers, resolved if nothing does. -/
def Completes (db : Database) (memberId : Uuid) (triggerReason : Text) (totalExposure : ℚ)
    (trace : Option TraceContext) : Prop :=
  ∃ outcome after,
    executeWaterfall decimalBackend memberId triggerReason totalExposure trace db =
        .ok (outcome, after) ∧
      outcome.remainingLoss = max (totalExposure - capacityTotal db memberId) 0 ∧
      (outcome.status = .resolved ↔ totalExposure ≤ capacityTotal db memberId)

/-- No tier holds a negative amount. -/
structure TiersNonneg (db : Database) (memberId : Uuid) (totalExposure : ℚ) : Prop where
  exposure : 0 ≤ totalExposure
  defaultFund : 0 ≤ getAccountBalance db memberId .defaultFund .available
  equity : 0 ≤ ccpEquity db
  limits : ∀ member ∈ db.members, 0 ≤ member.creditLimit

/-- `calculate_prorata_shares` with the cap as a parameter. -/
def calculateProrataShares (cap : ℚ → ℚ) (weights : List ℚ) (loss : ℚ) : List ℚ :=
  weights.map (contribution decimalBackend (decimalBackend.sum weights) loss cap)

/-- An amount that is still positive in a journal entry. -/
def PostsPositive (amount : ℚ) : Prop :=
  0 < amount → ∃ stored ∈ decimalBackend.store amount, 0 < stored

instance (amount : ℚ) : Decidable (PostsPositive amount) :=
  inferInstanceAs (Decidable (_ → _))

/-- One account bears its part of a loss exactly. -/
structure DrawsExactly (available loss : ℚ) : Prop where
  recorded : (decimalBackend.store available).isSome
  posted : PostsPositive (min available loss)
  rest : decimalBackend.sub loss (min available loss) = loss - min available loss

instance (available loss : ℚ) : Decidable (DrawsExactly available loss) :=
  decidable_of_iff (_ ∧ _ ∧ _)
    ⟨fun ⟨recorded, posted, rest⟩ => ⟨recorded, posted, rest⟩,
      fun ⟨recorded, posted, rest⟩ => ⟨recorded, posted, rest⟩⟩

/-- The rounded shares of weighted survivors add up to their part of a loss. -/
structure SharesExactly (cap : ℚ → ℚ) (weights : List ℚ) (loss capacity : ℚ) : Prop where
  recorded : (decimalBackend.store (decimalBackend.sum weights)).isSome
  posted : ∀ share ∈ calculateProrataShares cap weights loss, PostsPositive share
  total : decimalBackend.sum (calculateProrataShares cap weights loss) = min loss capacity
  rest : decimalBackend.sub loss (min loss capacity) = loss - min loss capacity

instance (cap : ℚ → ℚ) (weights : List ℚ) (loss capacity : ℚ) :
    Decidable (SharesExactly cap weights loss capacity) :=
  decidable_of_iff (_ ∧ _ ∧ _ ∧ _)
    ⟨fun ⟨recorded, posted, total, rest⟩ => ⟨recorded, posted, total, rest⟩,
      fun ⟨recorded, posted, total, rest⟩ => ⟨recorded, posted, total, rest⟩⟩

/-- The survivors' default fund balances. -/
def fundWeights (db : Database) (defaulterId : Uuid) : List ℚ :=
  (survivorFunds db defaulterId).map Prod.snd

/-- The survivors' positive credit limits. -/
def limitWeights (db : Database) (defaulterId : Uuid) : List ℚ :=
  ((survivorLimits db defaulterId).map Prod.snd).filter fun limit => 0 < limit

/-- Every step that the loss reaches bears its part exactly. -/
structure BornExactly (db : Database) (memberId : Uuid) (totalExposure : ℚ) : Prop where
  known : memberId ∈ db.members.map Member.id
  exposure : (decimalBackend.store totalExposure).isSome
  margin : DrawsExactly (getMemberMarginBalance db memberId) totalExposure
  defaultFund : getMemberMarginBalance db memberId < totalExposure →
    DrawsExactly (getAccountBalance db memberId .defaultFund .available)
      (totalExposure - getMemberMarginBalance db memberId)
  equity : getMemberMarginBalance db memberId +
      getAccountBalance db memberId .defaultFund .available < totalExposure →
    DrawsExactly (ccpEquity db) (totalExposure - getMemberMarginBalance db memberId -
      getAccountBalance db memberId .defaultFund .available)
  funds : seniorTotal db memberId < totalExposure →
    SharesExactly id (fundWeights db memberId) (totalExposure - seniorTotal db memberId)
      (fundTotal db memberId)
  allocation : seniorTotal db memberId + fundTotal db memberId < totalExposure →
    SharesExactly (allocationCap decimalBackend) (limitWeights db memberId)
      (totalExposure - seniorTotal db memberId - fundTotal db memberId)
      (limitTotal db memberId * (1 / 10))

instance (db : Database) (memberId : Uuid) (totalExposure : ℚ) :
    Decidable (BornExactly db memberId totalExposure) :=
  decidable_of_iff (_ ∧ _ ∧ _ ∧ _ ∧ _ ∧ _ ∧ _)
    ⟨fun ⟨known, exposure, margin, defaultFund, equity, funds, allocation⟩ =>
        ⟨known, exposure, margin, defaultFund, equity, funds, allocation⟩,
      fun ⟨known, exposure, margin, defaultFund, equity, funds, allocation⟩ =>
        ⟨known, exposure, margin, defaultFund, equity, funds, allocation⟩⟩

/-- Tiers that each leave exactly what exceeds them, accepting what reaches them. -/
def Bears (db : Database) : List WaterfallTier → ℚ → Prop
  | [], _ => True
  | tier :: tiers, loss =>
      (decimalBackend.sub loss (tier.take loss) = max (loss - tier.capacity) 0 ∧
        Accepts decimalBackend db tier loss) ∧
        (tier.capacity < loss → Bears db tiers (loss - tier.capacity))

theorem exact_of_bears {db : Database} {tiers : List WaterfallTier} {loss : ℚ}
    (bears : Bears db tiers loss) :
    Exact decimalBackend.sub (tiers.map WaterfallTier.toTier) loss ∧
      Accepted decimalBackend db tiers loss := by
  induction tiers generalizing loss with
  | nil => exact ⟨trivial, trivial⟩
  | cons tier tiers induction =>
      obtain ⟨⟨rest, accepts⟩, further⟩ := bears
      refine ⟨⟨rest, fun exceeds => (induction (further exceeds)).1⟩, accepts, fun leaves => ?_⟩
      rw [rest] at leaves ⊢
      have exceeds : tier.capacity < loss :=
        sub_pos.mp ((lt_max_iff.mp leaves).resolve_right (lt_irrefl 0))
      rw [max_eq_left (sub_pos.mpr exceeds).le]
      exact (induction (further exceeds)).2

theorem store_isSome_of_le {x y : ℚ} (x_nonneg : 0 ≤ x) (x_le_y : x ≤ y)
    (stores : (decimalBackend.store y).isSome) : (decimalBackend.store x).isSome :=
  toFixed_isSome_of_le x_nonneg x_le_y stores

theorem sum_eq_roundedSum (xs : List ℚ) :
    decimalBackend.sum xs = roundedSum (toDigits 28) 0 xs := rfl

private theorem sub_min {loss capacity : ℚ} :
    loss - min loss capacity = max (loss - capacity) 0 := by
  rcases le_total loss capacity with below | above
  · rw [min_eq_left below, sub_self, max_eq_right (sub_nonpos.mpr below)]
  · rw [min_eq_right above, max_eq_left (sub_nonneg.mpr above)]

private theorem bears_drawTier {db : Database} {source : Option Uuid} {sourceType : AccountType}
    {available loss : ℚ} {stepOrder : ℕ} {stepType : StepType} (available_nonneg : 0 ≤ available)
    (loss_nonneg : 0 ≤ loss) (loss_stored : (decimalBackend.store loss).isSome)
    (draws : DrawsExactly available loss) :
    decimalBackend.sub loss ((drawTier source sourceType available stepOrder stepType).take loss) =
        max (loss - available) 0 ∧
      Accepts decimalBackend db (drawTier source sourceType available stepOrder stepType) loss := by
  have taken : (drawTier source sourceType available stepOrder stepType).take loss =
    min available loss := rfl
  have left_nonneg : 0 ≤ loss - min available loss := sub_nonneg.mpr (min_le_right _ _)
  have applied_nonneg : 0 ≤ min available loss := le_min available_nonneg loss_nonneg
  refine ⟨by rw [taken, draws.rest, min_comm, sub_min], draws.recorded, ?_, ?_, ?_⟩
  · exact store_isSome_of_le applied_nonneg (min_le_right _ _) loss_stored
  · rw [taken, draws.rest]
    exact store_isSome_of_le left_nonneg (sub_le_self _ applied_nonneg) loss_stored
  · intro posting member _
    obtain ⟨amount, positive⟩ := amount_drawTier member
    rw [amount] at positive ⊢
    exact draws.posted positive

/-- The amounts a spread tier asks for are the rounded shares of the positive weights. -/
private theorem amounts_asked_eq (sourceType : AccountType) {rows : List (Uuid × ℚ)}
    {weights : List ℚ} {cap : ℚ → ℚ} {loss : ℚ}
    (weights_eq : (rows.map Prod.snd).filter (fun weight => 0 < weight) = weights)
    (loss_pos : 0 < loss) (cap_pos : ∀ weight, 0 < weight → 0 < cap weight) :
    (asked decimalBackend sourceType rows (decimalBackend.sum weights) cap loss).map
      Posting.amount = calculateProrataShares cap weights loss := by
  have positive : ∀ weight ∈ weights, 0 < weight := by
    intro weight member
    rw [← weights_eq] at member
    simpa using (List.mem_filter.mp member).2
  cases weights with
  | nil =>
      have no_total : ¬0 < decimalBackend.sum [] := lt_irrefl 0
      rw [asked, if_neg no_total]
      rfl
  | cons weight rest =>
      have total_pos : 0 < decimalBackend.sum (weight :: rest) :=
        roundedSum_pos (fun _ => toDigits_pos (by norm_num)) positive le_rfl (.inr (by simp))
      rw [amounts_asked decimalBackend sourceType total_pos loss_pos cap_pos, weights_eq]
      rfl

private theorem bears_spreadTier {db : Database} {sourceType : AccountType}
    {rows : List (Uuid × ℚ)} {weights : List ℚ} {cap : ℚ → ℚ} {capacity loss : ℚ}
    {stepOrder : ℕ} {stepType : StepType} (capacity_nonneg : 0 ≤ capacity) (loss_pos : 0 < loss)
    (loss_stored : (decimalBackend.store loss).isSome)
    (weights_eq : (rows.map Prod.snd).filter (fun weight => 0 < weight) = weights)
    (cap_pos : ∀ weight, 0 < weight → 0 < cap weight)
    (shares : SharesExactly cap weights loss capacity) :
    decimalBackend.sub loss ((spreadTier decimalBackend sourceType rows
        (decimalBackend.sum weights) cap capacity stepOrder stepType).take loss) =
        max (loss - capacity) 0 ∧
      Accepts decimalBackend db (spreadTier decimalBackend sourceType rows
        (decimalBackend.sum weights) cap capacity stepOrder stepType) loss := by
  have amounts := amounts_asked_eq sourceType weights_eq loss_pos cap_pos
  have taken : (spreadTier decimalBackend sourceType rows (decimalBackend.sum weights) cap capacity
      stepOrder stepType).take loss = min loss capacity := by
    rw [← shares.total, ← amounts]
    rfl
  have applied_nonneg : 0 ≤ min loss capacity := le_min loss_pos.le capacity_nonneg
  have left_nonneg : 0 ≤ loss - min loss capacity := sub_nonneg.mpr (min_le_left _ _)
  refine ⟨by rw [taken, shares.rest, sub_min], shares.recorded, ?_, ?_, ?_⟩
  · rw [taken]
    exact store_isSome_of_le applied_nonneg (min_le_left _ _) loss_stored
  · rw [taken, shares.rest]
    exact store_isSome_of_le left_nonneg (sub_le_self _ applied_nonneg) loss_stored
  · intro posting member _
    obtain ⟨-, -, -, -, -, positive⟩ := asked_source member
    exact shares.posted _ (amounts ▸ List.mem_map_of_mem member) positive

section Weights

variable {db : Database} {memberId : Uuid}

theorem fundWeights_pos : ∀ weight ∈ fundWeights db memberId, 0 < weight := by
  intro weight member
  obtain ⟨row, inside, rfl⟩ := List.mem_map.mp member
  exact survivorFunds_pos db memberId row inside

theorem limitWeights_pos : ∀ weight ∈ limitWeights db memberId, 0 < weight := by
  intro weight member
  simpa using (List.mem_filter.mp member).2

/-- Non-negative credit limits that are not zero are the positive ones. -/
theorem nonzero_limits_eq (limits : ∀ member ∈ db.members, 0 ≤ member.creditLimit) :
    ((survivorLimits db memberId).map Prod.snd).filter (fun limit => limit ≠ 0) =
      limitWeights db memberId := by
  apply List.filter_congr
  intro limit member
  obtain ⟨row, inside, rfl⟩ := List.mem_map.mp member
  have nonneg := survivorLimits_nonneg memberId limits row inside
  simp only [decide_eq_decide]
  exact ⟨fun nonzero => lt_of_le_of_ne nonneg nonzero.symm, fun positive => positive.ne'⟩

theorem sum_limitWeights (memberId : Uuid)
    (limits : ∀ member ∈ db.members, 0 ≤ member.creditLimit) :
    (limitWeights db memberId).sum = limitTotal db memberId := by
  rw [← nonzero_limits_eq limits, sum_nonzero_limits]

theorem fundTotal_nonneg (db : Database) (memberId : Uuid) : 0 ≤ fundTotal db memberId :=
  List.sum_nonneg fun weight member => (fundWeights_pos weight member).le

theorem limitTotal_nonneg (memberId : Uuid)
    (limits : ∀ member ∈ db.members, 0 ≤ member.creditLimit) :
    0 ≤ limitTotal db memberId :=
  sum_limitWeights memberId limits ▸
    List.sum_nonneg fun weight member => (limitWeights_pos weight member).le

theorem mutualTier_eq : mutualTier decimalBackend db memberId =
    spreadTier decimalBackend .defaultFund (survivorFunds db memberId)
      (decimalBackend.sum (fundWeights db memberId)) id (fundTotal db memberId) 4
      .survivingMembersDefaultFund := rfl

theorem allocationTier_eq (limits : ∀ member ∈ db.members, 0 ≤ member.creditLimit) :
    allocationTier decimalBackend db memberId =
      spreadTier decimalBackend .settlement (survivorLimits db memberId)
        (decimalBackend.sum (limitWeights db memberId)) (allocationCap decimalBackend)
        (limitTotal db memberId * (1 / 10)) 5 .lossAllocation := by
  rw [allocationTier, nonzero_limits_eq limits]

theorem fundWeights_eq : ((survivorFunds db memberId).map Prod.snd).filter
    (fun weight => 0 < weight) = fundWeights db memberId :=
  List.filter_eq_self.mpr fun weight member => by simpa using fundWeights_pos weight member

theorem limitWeights_eq : ((survivorLimits db memberId).map Prod.snd).filter
    (fun weight => 0 < weight) = limitWeights db memberId := rfl

private theorem id_pos (weight : ℚ) (positive : 0 < weight) : 0 < id weight := positive

theorem allocationCap_pos (weight : ℚ) (positive : 0 < weight) :
    0 < allocationCap decimalBackend weight :=
  toDigits_pos (by norm_num) (by positivity)

end Weights

private theorem bears_of_bornExactly {db : Database} {memberId : Uuid} {totalExposure : ℚ}
    (nonneg : TiersNonneg db memberId totalExposure)
    (exact : BornExactly db memberId totalExposure) :
    Bears db (waterfallTiers decimalBackend db memberId) totalExposure := by
  have margin_nonneg := getMemberMarginBalance_nonneg db memberId
  have stored : ∀ {loss}, 0 < loss → loss ≤ totalExposure → (decimalBackend.store loss).isSome :=
    fun positive below => store_isSome_of_le positive.le below exact.exposure
  refine ⟨bears_drawTier margin_nonneg nonneg.exposure exact.exposure exact.margin,
    fun (beyond_margin : getMemberMarginBalance db memberId < totalExposure) => ?_⟩
  have left_margin := sub_pos.mpr beyond_margin
  have left_margin_le := sub_le_self totalExposure margin_nonneg
  change Bears db _ (totalExposure - getMemberMarginBalance db memberId)
  refine ⟨bears_drawTier nonneg.defaultFund left_margin.le (stored left_margin left_margin_le)
    (exact.defaultFund beyond_margin), fun (beyond_fund :
      getAccountBalance db memberId .defaultFund .available <
        totalExposure - getMemberMarginBalance db memberId) => ?_⟩
  have left_fund := sub_pos.mpr beyond_fund
  have left_fund_le := (sub_le_self _ nonneg.defaultFund).trans left_margin_le
  refine ⟨bears_drawTier nonneg.equity left_fund.le (stored left_fund left_fund_le)
    (exact.equity (lt_sub_iff_add_lt'.mp beyond_fund)), fun (beyond_equity :
      ccpEquity db < totalExposure - getMemberMarginBalance db memberId -
        getAccountBalance db memberId .defaultFund .available) => ?_⟩
  change Bears db _ (totalExposure - getMemberMarginBalance db memberId -
    getAccountBalance db memberId .defaultFund .available - ccpEquity db)
  have left_equity := sub_pos.mpr beyond_equity
  have left_equity_le := (sub_le_self _ nonneg.equity).trans left_fund_le
  have left_eq : totalExposure - getMemberMarginBalance db memberId -
      getAccountBalance db memberId .defaultFund .available - ccpEquity db =
        totalExposure - seniorTotal db memberId := by
    rw [seniorTotal]
    ring
  rw [left_eq] at left_equity left_equity_le ⊢
  refine ⟨bears_spreadTier (fundTotal_nonneg db memberId) left_equity
      (stored left_equity left_equity_le)
    fundWeights_eq id_pos (exact.funds (sub_pos.mp left_equity)),
    fun (beyond_funds :
      fundTotal db memberId < totalExposure - seniorTotal db memberId) => ?_⟩
  have left_funds := sub_pos.mpr beyond_funds
  have left_funds_le := (sub_le_self _ (fundTotal_nonneg db memberId)).trans left_equity_le
  rw [allocationTier_eq nonneg.limits]
  refine ⟨bears_spreadTier (mul_nonneg (limitTotal_nonneg memberId nonneg.limits) (by norm_num))
      left_funds
    (stored left_funds left_funds_le) rfl allocationCap_pos
    (exact.allocation (lt_sub_iff_add_lt'.mp beyond_funds)), fun _ => trivial⟩

private theorem sum_capacities (db : Database) (memberId : Uuid) :
    (((waterfallTiers decimalBackend db memberId).map WaterfallTier.toTier).map
      Tier.capacity).sum = capacityTotal db memberId := by
  change (List.sum [getMemberMarginBalance db memberId,
    getAccountBalance db memberId .defaultFund .available, ccpEquity db, fundTotal db memberId,
    limitTotal db memberId * (1 / 10)]) = _
  rw [capacityTotal, seniorTotal]
  simp only [List.sum_cons, List.sum_nil]
  ring

private theorem capacities_nonneg {db : Database} {memberId : Uuid} {totalExposure : ℚ}
    (nonneg : TiersNonneg db memberId totalExposure) :
    ∀ tier ∈ (waterfallTiers decimalBackend db memberId).map WaterfallTier.toTier,
      0 ≤ tier.capacity := by
  intro tier member
  obtain ⟨inner, inside, rfl⟩ := List.mem_map.mp member
  simp only [waterfallTiers, List.mem_cons, List.not_mem_nil, or_false] at inside
  rcases inside with rfl | rfl | rfl | rfl | rfl
  · exact getMemberMarginBalance_nonneg db memberId
  · exact nonneg.defaultFund
  · exact nonneg.equity
  · exact fundTotal_nonneg db memberId
  · exact mul_nonneg (limitTotal_nonneg memberId nonneg.limits) (by norm_num)

section Theorem

variable {db : Database} {memberId : Uuid} {totalExposure : ℚ}

/-- The waterfall is complete exactly when it runs and leaves what exceeds its tiers. -/
private theorem completes_iff (triggerReason : Text) (trace : Option TraceContext) :
    Completes db memberId triggerReason totalExposure trace ↔
      Runnable decimalBackend memberId totalExposure db ∧
        lossLeft decimalBackend (waterfallTiers decimalBackend db memberId) totalExposure =
          max (totalExposure - capacityTotal db memberId) 0 := by
  constructor
  · rintro ⟨outcome, after, ran, remaining, -⟩
    obtain ⟨absorbed, runnable⟩ := executeWaterfall_ran ran
    exact ⟨runnable, absorbed.remainingLoss ▸ remaining⟩
  · rintro ⟨runnable, remaining⟩
    obtain ⟨outcome, after, ran⟩ := executeWaterfall_runs triggerReason trace
      decimalBackend_admits runnable
    obtain ⟨absorbed, -⟩ := executeWaterfall_ran ran
    refine ⟨outcome, after, ran, absorbed.remainingLoss.trans remaining, ?_⟩
    rw [absorbed.status, absorbed.remainingLoss, remaining, finalStatusOf]
    rcases le_or_gt totalExposure (capacityTotal db memberId) with covers | exceeds
    · simp [covers]
    · have left_pos := sub_pos.mpr exceeds
      simp [max_eq_left left_pos.le, left_pos.ne', exceeds.not_ge]

private theorem completes_of_bornExactly (nonneg : TiersNonneg db memberId totalExposure)
    (exact : BornExactly db memberId totalExposure) (triggerReason : Text)
    (trace : Option TraceContext) : Completes db memberId triggerReason totalExposure trace := by
  obtain ⟨exactly, accepted⟩ := exact_of_bears (bears_of_bornExactly nonneg exact)
  rw [completes_iff, lossLeft, left_of_exact (capacities_nonneg nonneg) nonneg.exposure exactly,
    sum_capacities]
  exact ⟨⟨exact.known, exact.exposure, accepted⟩, rfl⟩

end Theorem

/-! ## The condition is necessary for ordinary amounts -/

/-- Amounts of ordinary size: what columns hold, totals that fit them, a house that collects, and
an exposure that stays below `10 ^ 18` even when multiplied by the number of survivors. -/
structure Ordinary (db : Database) (memberId : Uuid) (totalExposure : ℚ) : Prop where
  recovery : (recoveryAccount db).isSome
  exposure : totalExposure ∈ fixedGrid 8
  entries : ∀ entry ∈ db.journalEntries, entry.debit ∈ fixedGrid 8 ∧ entry.credit ∈ fixedGrid 8
  limits : ∀ member ∈ db.members, member.creditLimit ∈ fixedGrid 8
  fundTotal : fundTotal db memberId < 10 ^ 20
  limitTotal : limitTotal db memberId < 10 ^ 20
  size : ((fundWeights db memberId).length + 2 : ℚ) * totalExposure < 10 ^ 18

/-- What a rounding to 28 digits keeps of a non-negative value at least. -/
private def keep : ℚ := 1 - 10 ^ (1 - 28 : ℤ) / 2

private theorem mul_keep_le {x : ℚ} (nonneg : 0 ≤ x) : x * keep ≤ toDigits 28 x :=
  mul_le_toDigits 28 nonneg

private theorem keep_nonneg : 0 ≤ keep := by norm_num [keep]

private theorem keep_le_one : keep ≤ 1 := by norm_num [keep]

/-- Small values lose less than the last place of a column and its tenth. -/
private theorem le_mul_keep {x y : ℚ} (small : y ≤ 10 ^ 18) (apart : x + 1 / 10 ^ 9 ≤ y) :
    x ≤ y * keep := by
  have lost : y * (10 ^ (1 - 28 : ℤ) / 2) ≤ 1 / 10 ^ 9 := by
    calc
      y * (10 ^ (1 - 28 : ℤ) / 2) ≤ 10 ^ 18 * (10 ^ (1 - 28 : ℤ) / 2) :=
        mul_le_mul_of_nonneg_right small (by positivity)
      _ ≤ 1 / 10 ^ 9 := by norm_num
  have split : y * keep = y - y * (10 ^ (1 - 28 : ℤ) / 2) := by
    rw [keep]
    ring
  rw [split]
  linarith

private theorem round_mem {scale : ℕ} {x : ℚ} (member : x ∈ fixedGrid scale) (nonneg : 0 ≤ x)
    (small : x * 10 ^ scale < 10 ^ 28) : toDigits 28 x = x :=
  toDigits_of_mem_fixedGrid member (by rwa [abs_of_nonneg nonneg])

private theorem tenth_mem {x : ℚ} (member : x ∈ fixedGrid 8) : x * (1 / 10) ∈ fixedGrid 9 := by
  obtain ⟨n, rfl⟩ := mem_fixedGrid.mp member
  exact mem_fixedGrid.mpr ⟨n, by ring⟩

private theorem grid_mono {x : ℚ} (member : x ∈ fixedGrid 8) : x ∈ fixedGrid 9 := by
  obtain ⟨n, rfl⟩ := mem_fixedGrid.mp member
  exact mem_fixedGrid.mpr ⟨n * 10, by push_cast; ring⟩

/-- Distinct values of a grid are a unit apart. -/
private theorem apart_of_lt {scale : ℕ} {x y : ℚ} (x_mem : x ∈ fixedGrid scale)
    (y_mem : y ∈ fixedGrid scale) (below : x < y) : x + 1 / 10 ^ scale ≤ y := by
  obtain ⟨n, rfl⟩ := mem_fixedGrid.mp x_mem
  obtain ⟨m, rfl⟩ := mem_fixedGrid.mp y_mem
  have unit_pos : (0 : ℚ) < 1 / 10 ^ scale := by positivity
  have smaller : n < m := by exact_mod_cast (mul_lt_mul_iff_of_pos_right unit_pos).mp below
  have stepped : (n : ℚ) + 1 ≤ m := by exact_mod_cast smaller
  calc
    (n : ℚ) * (1 / 10 ^ scale) + 1 / 10 ^ scale = (n + 1) * (1 / 10 ^ scale) := by ring
    _ ≤ m * (1 / 10 ^ scale) := mul_le_mul_of_nonneg_right stepped unit_pos.le

/-- A loss that exceeds all caps by more than what roundings lose asks everyone for its cap. -/
private theorem shares_eq_caps (cap : ℚ → ℚ) (rate : ℚ) {weights : List ℚ} {loss : ℚ}
    (total_eq : decimalBackend.sum weights = weights.sum)
    (positive : ∀ weight ∈ weights, 0 < weight)
    (cap_eq : ∀ weight ∈ weights, cap weight = weight * rate ∧
      toDigits 28 (weight * rate) = weight * rate)
    (loss_nonneg : 0 ≤ loss) (covers : weights.sum * rate ≤ loss * keep) :
    calculateProrataShares cap weights loss = weights.map fun weight => weight * rate := by
  apply List.map_congr_left
  intro weight inside
  have weight_pos := positive weight inside
  have total_pos : 0 < weights.sum :=
    weight_pos.trans_le (List.single_le_sum (fun w member => (positive w member).le) weight inside)
  obtain ⟨cap_weight, kept⟩ := cap_eq weight inside
  rw [contribution, cap_weight, min_eq_right]
  change _ ≤ toDigits 28 (toDigits 28 (weight / decimalBackend.sum weights) * loss)
  rw [← kept, total_eq]
  apply toDigits_mono (by norm_num)
  have part_nonneg : 0 ≤ weight / weights.sum := (div_pos weight_pos total_pos).le
  calc
    weight * rate = weight / weights.sum * (weights.sum * rate) := by
      rw [← mul_assoc, div_mul_cancel₀ _ total_pos.ne']
    _ ≤ weight / weights.sum * (loss * keep) := mul_le_mul_of_nonneg_left covers part_nonneg
    _ = weight / weights.sum * keep * loss := by ring
    _ ≤ toDigits 28 (weight / weights.sum) * loss :=
      mul_le_mul_of_nonneg_right (mul_keep_le part_nonneg) loss_nonneg

/-- Rounded shares of a loss that the weights cover miss little of it. -/
private theorem loss_mul_pow_le_sum {weights : List ℚ} {loss : ℚ}
    (total_eq : decimalBackend.sum weights = weights.sum)
    (positive : ∀ weight ∈ weights, 0 < weight)
    (loss_nonneg : 0 ≤ loss) (total_pos : 0 < weights.sum) (covered : loss ≤ weights.sum) :
    loss * keep ^ (weights.length + 2) ≤
      decimalBackend.sum (calculateProrataShares id weights loss) := by
  have share_ge : ∀ weight ∈ weights, weight * (loss / weights.sum * keep ^ 2) ≤
      contribution decimalBackend (decimalBackend.sum weights) loss id weight := by
    intro weight inside
    have weight_pos := positive weight inside
    have part_nonneg : 0 ≤ weight / weights.sum := (div_pos weight_pos total_pos).le
    have kept_nonneg : 0 ≤ weight / weights.sum * keep := mul_nonneg part_nonneg keep_nonneg
    refine le_min ?_ ?_
    · change _ ≤ toDigits 28 (toDigits 28 (weight / decimalBackend.sum weights) * loss)
      rw [total_eq]
      calc
        weight * (loss / weights.sum * keep ^ 2) = weight / weights.sum * keep * loss * keep := by
          ring
        _ ≤ toDigits 28 (weight / weights.sum) * loss * keep :=
          mul_le_mul_of_nonneg_right (mul_le_mul_of_nonneg_right (mul_keep_le part_nonneg)
            loss_nonneg) keep_nonneg
        _ ≤ toDigits 28 (toDigits 28 (weight / weights.sum) * loss) :=
          mul_keep_le (mul_nonneg (toDigits_nonneg (by norm_num) part_nonneg) loss_nonneg)
    · have fraction_le : loss / weights.sum ≤ 1 := (div_le_one total_pos).mpr covered
      have kept_le : keep ^ 2 ≤ 1 := pow_le_one₀ keep_nonneg keep_le_one
      have product_le : loss / weights.sum * keep ^ 2 ≤ 1 :=
        mul_le_one₀ fraction_le (sq_nonneg keep) kept_le
      exact mul_le_of_le_one_right weight_pos.le product_le
  have shares_nonneg : ∀ share ∈ weights.map fun weight =>
      weight * (loss / weights.sum * keep ^ 2), 0 ≤ share := by
    intro share member
    obtain ⟨weight, inside, rfl⟩ := List.mem_map.mp member
    exact mul_nonneg (positive weight inside).le
      (mul_nonneg (div_nonneg loss_nonneg total_pos.le) (sq_nonneg keep))
  have exact_sum : (weights.map fun weight => weight * (loss / weights.sum * keep ^ 2)).sum =
      loss * keep ^ 2 := by
    rw [ProRata.sum_map_mul_const, ← mul_assoc, mul_div_cancel₀ _ total_pos.ne']
  calc
    loss * keep ^ (weights.length + 2) = (0 + loss * keep ^ 2) * keep ^ weights.length := by ring
    _ ≤ roundedSum (toDigits 28) 0
        (weights.map fun weight => weight * (loss / weights.sum * keep ^ 2)) := by
      rw [← exact_sum]
      simpa using mul_pow_le_roundedSum keep_nonneg keep_le_one (fun x => mul_keep_le)
        shares_nonneg le_rfl
    _ ≤ decimalBackend.sum (calculateProrataShares id weights loss) :=
      roundedSum_mono (toDigits_mono (by norm_num)) share_ge le_rfl

private theorem residue_le {loss : ℚ} {count : ℕ} (size : (count + 2 : ℚ) * loss < 10 ^ 18)
    (loss_nonneg : 0 ≤ loss) : loss - loss * keep ^ (count + 2) ≤ 1 / 2 / 10 ^ 9 := by
  have bernoulli := one_add_mul_le_pow
    (by norm_num : (-2 : ℚ) ≤ -(10 ^ (1 - 28 : ℤ) / 2)) (count + 2)
  rw [← sub_eq_add_neg] at bernoulli
  have scaled := mul_le_mul_of_nonneg_left bernoulli loss_nonneg
  have lost : (count + 2 : ℚ) * loss * (10 ^ (1 - 28 : ℤ) / 2) ≤ 1 / 2 / 10 ^ 9 := by
    calc
      (count + 2 : ℚ) * loss * (10 ^ (1 - 28 : ℤ) / 2) ≤ 10 ^ 18 * (10 ^ (1 - 28 : ℤ) / 2) :=
        mul_le_mul_of_nonneg_right size.le (by positivity)
      _ ≤ 1 / 2 / 10 ^ 9 := by norm_num
  push_cast at scaled
  rw [keep]
  linarith

/-- An amount below half the last place of a column is not positive in it. -/
private theorem not_stored_small {amount stored : ℚ} (small : amount ≤ 1 / 2 / 10 ^ 9)
    (storing : decimalBackend.store amount = some stored) : stored ≤ 0 := by
  obtain ⟨rfl, -⟩ := toFixed_eq_some storing
  have vanishes : toUnit halfAway (1 / 10 ^ 8) (1 / 2 / 10 ^ 9) = 0 := by decide +kernel
  rw [← vanishes]
  exact toUnit_mono halfAway_nearest (by norm_num) small

section Grid

variable {db : Database} {memberId : Uuid} {totalExposure : ℚ}

private theorem accountBalance_mem (ordinary : Ordinary db memberId totalExposure)
    (accountId : Uuid) : accountBalance db accountId ∈ fixedGrid 8 := by
  apply list_sum_mem
  intro value member
  obtain ⟨entry, inside, rfl⟩ := List.mem_map.mp member
  obtain ⟨debit, credit⟩ := ordinary.entries entry (List.mem_of_mem_filter inside)
  exact sub_mem debit credit

private theorem getAccountBalance_mem (ordinary : Ordinary db memberId totalExposure)
    (owner : Uuid) (accountType : AccountType) :
    getAccountBalance db owner accountType .available ∈ fixedGrid 8 := by
  rw [getAccountBalance]
  split
  · exact accountBalance_mem ordinary _
  · exact zero_mem _

private theorem getMemberMarginBalance_mem (ordinary : Ordinary db memberId totalExposure) :
    getMemberMarginBalance db memberId ∈ fixedGrid 8 := by
  apply list_sum_mem
  intro value member
  obtain ⟨row, kept, rfl⟩ := List.mem_map.mp member
  obtain ⟨account, -, rfl⟩ := List.mem_map.mp (List.mem_of_mem_filter kept)
  exact accountBalance_mem ordinary account.id

private theorem ccpEquity_mem (ordinary : Ordinary db memberId totalExposure) :
    ccpEquity db ∈ fixedGrid 8 := by
  rw [ccpEquity]
  split
  · exact getAccountBalance_mem ordinary _ _
  · exact zero_mem _

private theorem fundWeights_mem (ordinary : Ordinary db memberId totalExposure) :
    ∀ weight ∈ fundWeights db memberId, weight ∈ fixedGrid 8 := by
  intro weight member
  obtain ⟨row, inside, rfl⟩ := List.mem_map.mp member
  obtain ⟨survivor, -, balances⟩ := List.mem_flatMap.mp inside
  obtain ⟨balance, kept, rfl⟩ := List.mem_map.mp balances
  obtain ⟨account, -, rfl⟩ := List.mem_map.mp (List.mem_of_mem_filter kept)
  exact accountBalance_mem ordinary account.id

private theorem limitWeights_mem (ordinary : Ordinary db memberId totalExposure) :
    ∀ weight ∈ limitWeights db memberId, weight ∈ fixedGrid 8 := by
  intro weight member
  obtain ⟨row, inside, rfl⟩ := List.mem_map.mp (List.mem_of_mem_filter member)
  obtain ⟨survivor, surviving, rfl⟩ := List.mem_map.mp inside
  exact ordinary.limits survivor (mem_survivors.mp surviving).1

private theorem sum_weights_eq {weights : List ℚ} (members : ∀ weight ∈ weights,
    weight ∈ fixedGrid 8) (positive : ∀ weight ∈ weights, 0 < weight)
    (small : weights.sum < 10 ^ 20) : decimalBackend.sum weights = weights.sum := by
  rw [sum_eq_roundedSum, roundedSum_eq
    (fun x (member : x ∈ fixedGrid 8) nonneg (below : x < 10 ^ 20) =>
      round_mem member nonneg (by linarith))
    (fun weight inside => ⟨members weight inside, (positive weight inside).le⟩) (zero_mem _) le_rfl
    (by rwa [zero_add]), zero_add]

private theorem sum_tenths_eq {weights : List ℚ} (members : ∀ weight ∈ weights,
    weight ∈ fixedGrid 8) (positive : ∀ weight ∈ weights, 0 < weight)
    (small : weights.sum < 10 ^ 20) :
    decimalBackend.sum (weights.map fun weight => weight * (1 / 10)) = weights.sum * (1 / 10) := by
  have sum_eq := ProRata.sum_map_mul_const weights (1 / 10 : ℚ)
  rw [sum_eq_roundedSum, roundedSum_eq
    (fun x (member : x ∈ fixedGrid 9) nonneg (below : x < 10 ^ 19) =>
      round_mem member nonneg (by linarith)) ?_ (zero_mem _) le_rfl
    (by rw [sum_eq]; linarith), zero_add, sum_eq]
  intro tenth member
  obtain ⟨weight, inside, rfl⟩ := List.mem_map.mp member
  exact ⟨tenth_mem (members weight inside), mul_nonneg (positive weight inside).le (by norm_num)⟩

end Grid

section Steps

variable {db : Database} {memberId : Uuid} {totalExposure : ℚ}

/-- What a tier that bears its part exactly leaves to the tiers after it. -/
private theorem further_of_rest {tier : WaterfallTier} {tiers : List WaterfallTier} {loss : ℚ}
    (accepted : Accepted decimalBackend db (tier :: tiers) loss)
    (rest : decimalBackend.sub loss (tier.take loss) = max (loss - tier.capacity) 0)
    (exceeds : tier.capacity < loss) :
    Accepted decimalBackend db tiers (loss - tier.capacity) ∧
      lossLeft decimalBackend tiers (loss - tier.capacity) =
        lossLeft decimalBackend (tier :: tiers) loss := by
  have left_pos := sub_pos.mpr exceeds
  rw [max_eq_left left_pos.le] at rest
  have later := accepted.2
  rw [rest] at later
  refine ⟨later left_pos, ?_⟩
  rw [lossLeft, lossLeft, List.map_cons, left_cons, rest, if_pos left_pos]

private theorem draws_of_accepts {owner : Uuid} {sourceType : AccountType} {available loss : ℚ}
    {stepOrder : ℕ} {stepType : StepType} (recovery : (recoveryAccount db).isSome)
    (available_mem : available ∈ fixedGrid 8) (available_nonneg : 0 ≤ available)
    (loss_mem : loss ∈ fixedGrid 8) (loss_nonneg : 0 ≤ loss) (loss_small : loss < 10 ^ 18)
    (accepts : Accepts decimalBackend db
      (drawTier (some owner) sourceType available stepOrder stepType) loss) :
    DrawsExactly available loss := by
  refine ⟨accepts.available, fun positive => ?_, ?_⟩
  · have made : (⟨owner, sourceType, min available loss⟩ : Posting) ∈
        (drawTier (some owner) sourceType available stepOrder stepType).postings loss := by
      change _ ∈ if 0 < min available loss then _ else []
      rw [if_pos positive]
      exact List.mem_singleton_self _
    obtain ⟨stored, storing, stored_pos⟩ := accepts.postings _ made (.inr recovery)
    exact ⟨stored, storing, stored_pos⟩
  · have applied_nonneg : 0 ≤ min available loss := le_min available_nonneg loss_nonneg
    have applied_mem : min available loss ∈ fixedGrid 8 := by
      rcases min_choice available loss with same | same <;> rw [same] <;> assumption
    have left_small : (loss - min available loss) * 10 ^ 8 < 10 ^ 28 := by linarith
    exact round_mem (sub_mem loss_mem applied_mem) (sub_nonneg.mpr (min_le_right _ _)) left_small

/-- A draw tier whose draw is exact leaves exactly what exceeds it. -/
private theorem rest_drawTier {source : Option Uuid} {sourceType : AccountType}
    {available loss : ℚ} {stepOrder : ℕ} {stepType : StepType}
    (draws : DrawsExactly available loss) :
    decimalBackend.sub loss ((drawTier source sourceType available stepOrder stepType).take loss) =
      max (loss - (drawTier source sourceType available stepOrder stepType).capacity) 0 := by
  change decimalBackend.sub loss (min available loss) = max (loss - available) 0
  rw [draws.rest, min_comm, sub_min]

private theorem shares_posted {sourceType : AccountType} {rows : List (Uuid × ℚ)}
    {weights : List ℚ} {cap : ℚ → ℚ} {capacity loss : ℚ} {stepOrder : ℕ} {stepType : StepType}
    (recovery : (recoveryAccount db).isSome) (loss_pos : 0 < loss)
    (weights_eq : (rows.map Prod.snd).filter (fun weight => 0 < weight) = weights)
    (cap_pos : ∀ weight, 0 < weight → 0 < cap weight)
    (accepts : Accepts decimalBackend db (spreadTier decimalBackend sourceType rows
      (decimalBackend.sum weights) cap capacity stepOrder stepType) loss) :
    ∀ share ∈ calculateProrataShares cap weights loss,
      ∃ stored ∈ decimalBackend.store share, 0 < stored := by
  intro share member
  rw [← amounts_asked_eq sourceType weights_eq loss_pos cap_pos] at member
  obtain ⟨posting, made, rfl⟩ := List.mem_map.mp member
  exact accepts.postings posting made (.inr recovery)

private theorem take_spreadTier {sourceType : AccountType} {rows : List (Uuid × ℚ)}
    {weights : List ℚ} {cap : ℚ → ℚ} {capacity loss : ℚ} {stepOrder : ℕ} {stepType : StepType}
    (loss_pos : 0 < loss)
    (weights_eq : (rows.map Prod.snd).filter (fun weight => 0 < weight) = weights)
    (cap_pos : ∀ weight, 0 < weight → 0 < cap weight) :
    (spreadTier decimalBackend sourceType rows (decimalBackend.sum weights) cap capacity stepOrder
      stepType).take loss = decimalBackend.sum (calculateProrataShares cap weights loss) := by
  rw [← amounts_asked_eq sourceType weights_eq loss_pos cap_pos]
  rfl

/-- A residue of rounding is too small for the allocation to post or to absorb. -/
private theorem left_of_residue (ordinary : Ordinary db memberId totalExposure)
    (nonneg : TiersNonneg db memberId totalExposure) {residue : ℚ} (residue_pos : 0 < residue)
    (small : residue ≤ 1 / 2 / 10 ^ 9) (rounded : toDigits 28 residue = residue)
    (accepted : Accepted decimalBackend db [allocationTier decimalBackend db memberId] residue) :
    lossLeft decimalBackend [allocationTier decimalBackend db memberId] residue ≠ 0 := by
  rw [allocationTier_eq nonneg.limits] at accepted ⊢
  have posted := shares_posted ordinary.recovery residue_pos limitWeights_eq
    allocationCap_pos accepted.1
  have total_eq := sum_weights_eq (limitWeights_mem ordinary) limitWeights_pos
    ((sum_limitWeights memberId nonneg.limits).trans_lt ordinary.limitTotal)
  have none_asked : limitWeights db memberId = [] := by
    by_contra asked
    obtain ⟨weight, inside⟩ := List.exists_mem_of_ne_nil _ asked
    obtain ⟨stored, storing, positive⟩ := posted _ (List.mem_map_of_mem inside)
    have weight_le : weight ≤ (limitWeights db memberId).sum :=
      List.single_le_sum (fun w member => (limitWeights_pos w member).le) weight inside
    have total_pos := (limitWeights_pos weight inside).trans_le weight_le
    have part_le : toDigits 28 (weight / (limitWeights db memberId).sum) ≤ 1 := by
      have one_kept : toDigits 28 1 = 1 := by decide +kernel
      rw [← one_kept]
      exact toDigits_mono (by norm_num) ((div_le_one total_pos).mpr weight_le)
    have share_le : contribution decimalBackend (decimalBackend.sum (limitWeights db memberId))
        residue (allocationCap decimalBackend) weight ≤ residue := by
      apply (min_le_left _ _).trans
      change toDigits 28 (toDigits 28 (weight / decimalBackend.sum _) * residue) ≤ residue
      rw [total_eq]
      refine (toDigits_mono (by norm_num) ?_).trans_eq rounded
      exact mul_le_of_le_one_left residue_pos.le part_le
    exact absurd positive (not_stored_small (share_le.trans small) storing).not_gt
  rw [lossLeft, List.map_singleton, left_cons,
    take_spreadTier residue_pos limitWeights_eq allocationCap_pos, none_asked]
  change (if 0 < toDigits 28 (residue - 0) then toDigits 28 (residue - 0)
    else toDigits 28 (residue - 0)) ≠ 0
  rw [sub_zero, rounded, ite_self]
  exact residue_pos.ne'

private theorem exposure_small (ordinary : Ordinary db memberId totalExposure)
    (nonneg : TiersNonneg db memberId totalExposure) : totalExposure < 10 ^ 18 := by
  have count_nonneg : (0 : ℚ) ≤ (fundWeights db memberId).length := Nat.cast_nonneg _
  have size := ordinary.size
  have product_nonneg := mul_nonneg count_nonneg nonneg.exposure
  linarith [nonneg.exposure]

/-- Rounded shares below the funds add up, or the waterfall would not end as it should. -/
private theorem sum_shares_of_covered (ordinary : Ordinary db memberId totalExposure)
    (nonneg : TiersNonneg db memberId totalExposure) {loss : ℚ} (loss_pos : 0 < loss)
    (loss_le : loss ≤ totalExposure) (covered : loss ≤ fundTotal db memberId)
    (accepted : Accepted decimalBackend db
      [mutualTier decimalBackend db memberId, allocationTier decimalBackend db memberId] loss)
    (finished : lossLeft decimalBackend
      [mutualTier decimalBackend db memberId, allocationTier decimalBackend db memberId] loss = 0) :
    decimalBackend.sum (calculateProrataShares id (fundWeights db memberId) loss) = loss := by
  have total_eq := sum_weights_eq (fundWeights_mem ordinary) fundWeights_pos ordinary.fundTotal
  have taken : (mutualTier decimalBackend db memberId).take loss =
      decimalBackend.sum (calculateProrataShares id (fundWeights db memberId) loss) :=
    take_spreadTier loss_pos fundWeights_eq id_pos
  set applied := decimalBackend.sum (calculateProrataShares id (fundWeights db memberId) loss)
    with applied_eq
  have rest : decimalBackend.sub loss ((mutualTier decimalBackend db memberId).take loss) =
      toDigits 28 (loss - applied) := by rw [taken]; rfl
  rcases lt_trichotomy applied loss with short | same | excess
  · have residue_pos : 0 < toDigits 28 (loss - applied) :=
      toDigits_pos (by norm_num) (sub_pos.mpr short)
    have missed : loss - applied ≤ 1 / 2 / 10 ^ 9 := by
      have kept := loss_mul_pow_le_sum total_eq fundWeights_pos loss_pos.le
        (loss_pos.trans_le covered) covered
      have size : ((fundWeights db memberId).length + 2 : ℚ) * loss < 10 ^ 18 :=
        (mul_le_mul_of_nonneg_left loss_le (by positivity)).trans_lt ordinary.size
      have residue := residue_le size loss_pos.le
      linarith
    have residue_small : toDigits 28 (loss - applied) ≤ 1 / 2 / 10 ^ 9 := by
      have unit_kept : toDigits 28 (1 / 2 / 10 ^ 9) = 1 / 2 / 10 ^ 9 := by decide +kernel
      rw [← unit_kept]
      exact toDigits_mono (by norm_num) missed
    have later := accepted.2
    rw [lossLeft, List.map_cons, left_cons] at finished
    rw [rest] at later finished
    rw [if_pos residue_pos] at finished
    exact absurd finished (left_of_residue ordinary nonneg residue_pos residue_small
      (toDigits_toDigits (by norm_num) _) (later residue_pos))
  · exact same
  · have negative : toDigits 28 (loss - applied) < 0 := by
      have flipped := toDigits_pos (show 0 < 28 by norm_num) (sub_pos.mpr excess)
      rw [← neg_sub, toDigits_neg] at flipped
      exact neg_pos.mp flipped
    rw [lossLeft, List.map_cons, left_cons, rest, if_neg negative.not_gt] at finished
    exact absurd finished negative.ne

private theorem funds_of_accepted (ordinary : Ordinary db memberId totalExposure)
    (nonneg : TiersNonneg db memberId totalExposure) {loss : ℚ} (loss_mem : loss ∈ fixedGrid 8)
    (loss_pos : 0 < loss) (loss_le : loss ≤ totalExposure)
    (accepted : Accepted decimalBackend db
      [mutualTier decimalBackend db memberId, allocationTier decimalBackend db memberId] loss)
    (finished : lossLeft decimalBackend
      [mutualTier decimalBackend db memberId, allocationTier decimalBackend db memberId] loss =
        max (loss - fundTotal db memberId - limitTotal db memberId * (1 / 10)) 0) :
    SharesExactly id (fundWeights db memberId) loss (fundTotal db memberId) := by
  have small := loss_le.trans_lt (exposure_small ordinary nonneg)
  have total_mem : fundTotal db memberId ∈ fixedGrid 8 := list_sum_mem (fundWeights_mem ordinary)
  have total_nonneg := fundTotal_nonneg db memberId
  have posted := shares_posted ordinary.recovery loss_pos fundWeights_eq
    id_pos accepted.1
  refine ⟨accepted.1.available, fun share member _ => posted share member, ?_, ?_⟩
  · rcases lt_or_ge (fundTotal db memberId) loss with exceeds | covered
    · have total_eq := sum_weights_eq (fundWeights_mem ordinary) fundWeights_pos ordinary.fundTotal
      have apart := apart_of_lt total_mem loss_mem exceeds
      have covers : (fundWeights db memberId).sum * 1 ≤ loss * keep := by
        rw [mul_one]
        exact le_mul_keep small.le (le_trans (by norm_num [fundTotal, fundWeights]) apart)
      have caps := shares_eq_caps id 1 total_eq fundWeights_pos (fun weight inside => by
        rw [mul_one]
        have weight_le : weight ≤ (fundWeights db memberId).sum :=
          List.single_le_sum (fun w member => (fundWeights_pos w member).le) weight inside
        have weight_small := weight_le.trans_lt ordinary.fundTotal
        exact ⟨rfl, round_mem (fundWeights_mem ordinary weight inside)
          (fundWeights_pos weight inside).le (by linarith)⟩) loss_pos.le covers
      have unscaled : (fundWeights db memberId).map (fun weight => weight * 1) =
          fundWeights db memberId := by simp
      rw [caps, unscaled, min_eq_right exceeds.le]
      exact total_eq
    · have none_left : max (loss - fundTotal db memberId - limitTotal db memberId * (1 / 10)) 0 =
          0 := by
        have limits_nonneg := limitTotal_nonneg memberId nonneg.limits
        exact max_eq_right (by linarith)
      rw [min_eq_left covered]
      exact sum_shares_of_covered ordinary nonneg loss_pos loss_le covered accepted
        (finished.trans none_left)
  · have applied_mem : min loss (fundTotal db memberId) ∈ fixedGrid 8 := by
      rcases min_choice loss (fundTotal db memberId) with same | same <;> rw [same] <;> assumption
    have applied_nonneg : 0 ≤ min loss (fundTotal db memberId) := le_min loss_pos.le total_nonneg
    have left_small : (loss - min loss (fundTotal db memberId)) * 10 ^ 8 < 10 ^ 28 := by linarith
    exact round_mem (sub_mem loss_mem applied_mem) (sub_nonneg.mpr (min_le_left _ _)) left_small

private theorem allocation_of_accepted (ordinary : Ordinary db memberId totalExposure)
    (nonneg : TiersNonneg db memberId totalExposure) {loss : ℚ} (loss_mem : loss ∈ fixedGrid 8)
    (loss_pos : 0 < loss) (loss_le : loss ≤ totalExposure)
    (accepted : Accepted decimalBackend db [allocationTier decimalBackend db memberId] loss)
    (finished : lossLeft decimalBackend [allocationTier decimalBackend db memberId] loss =
        max (loss - limitTotal db memberId * (1 / 10)) 0) :
    SharesExactly (allocationCap decimalBackend) (limitWeights db memberId) loss
      (limitTotal db memberId * (1 / 10)) := by
  have small := loss_le.trans_lt (exposure_small ordinary nonneg)
  have sum_eq := sum_limitWeights memberId nonneg.limits
  have total_mem : limitTotal db memberId ∈ fixedGrid 8 :=
    sum_eq ▸ list_sum_mem (limitWeights_mem ordinary)
  have cap_mem := tenth_mem total_mem
  have cap_nonneg : 0 ≤ limitTotal db memberId * (1 / 10) :=
    mul_nonneg (limitTotal_nonneg memberId nonneg.limits) (by norm_num)
  have sum_small := sum_eq.trans_lt ordinary.limitTotal
  rw [allocationTier_eq nonneg.limits] at accepted finished
  have posted := shares_posted ordinary.recovery loss_pos limitWeights_eq allocationCap_pos
    accepted.1
  refine ⟨accepted.1.available, fun share member _ => posted share member, ?_, ?_⟩
  · rcases lt_or_ge (limitTotal db memberId * (1 / 10)) loss with exceeds | covered
    · have apart := apart_of_lt cap_mem (grid_mono loss_mem) exceeds
      have caps := shares_eq_caps (allocationCap decimalBackend) (1 / 10)
        (sum_weights_eq (limitWeights_mem ordinary) limitWeights_pos sum_small) limitWeights_pos
        (fun weight inside => by
          have weight_le : weight ≤ (limitWeights db memberId).sum :=
            List.single_le_sum (fun w member => (limitWeights_pos w member).le) weight inside
          have weight_pos := limitWeights_pos weight inside
          have kept : toDigits 28 (weight * (1 / 10)) = weight * (1 / 10) :=
            round_mem (tenth_mem (limitWeights_mem ordinary weight inside))
              (mul_nonneg weight_pos.le (by norm_num)) (by linarith)
          exact ⟨kept, kept⟩)
        loss_pos.le (by rw [sum_eq]; exact le_mul_keep small.le apart)
      rw [caps, sum_tenths_eq (limitWeights_mem ordinary) limitWeights_pos sum_small, sum_eq,
        min_eq_right exceeds.le]
    · rw [lossLeft, List.map_singleton, left_cons, left, ite_self,
        take_spreadTier loss_pos limitWeights_eq allocationCap_pos,
        max_eq_right (sub_nonpos.mpr covered)] at finished
      have none_left := (toDigits_eq_zero_iff (by norm_num)).mp finished
      rw [min_eq_left covered]
      exact (sub_eq_zero.mp none_left).symm
  · have applied_mem : min loss (limitTotal db memberId * (1 / 10)) ∈ fixedGrid 9 := by
      have loss_mem' := grid_mono loss_mem
      rcases min_choice loss (limitTotal db memberId * (1 / 10)) with same | same <;>
        rw [same] <;> assumption
    have applied_nonneg : 0 ≤ min loss (limitTotal db memberId * (1 / 10)) :=
      le_min loss_pos.le cap_nonneg
    have left_small : (loss - min loss (limitTotal db memberId * (1 / 10))) * 10 ^ 9 < 10 ^ 28 := by
      linarith
    exact round_mem (sub_mem (grid_mono loss_mem) applied_mem)
      (sub_nonneg.mpr (min_le_left _ _)) left_small

/-- Tiers that a loss of ordinary size has reached, with what is left in the end. -/
private structure Reached (db : Database) (tiers : List WaterfallTier) (loss final : ℚ) : Prop where
  mem : loss ∈ fixedGrid 8
  nonneg : 0 ≤ loss
  small : loss < 10 ^ 18
  accepted : Accepted decimalBackend db tiers loss
  finished : lossLeft decimalBackend tiers loss = final

/-- A draw tier that is reached bears its part exactly, and what exceeds it reaches the next. -/
private theorem Reached.draw {owner : Uuid} {sourceType : AccountType} {available loss final : ℚ}
    {stepOrder : ℕ} {stepType : StepType} {tiers : List WaterfallTier}
    (reached : Reached db (drawTier (some owner) sourceType available stepOrder stepType :: tiers)
      loss final) (recovery : (recoveryAccount db).isSome) (available_mem : available ∈ fixedGrid 8)
    (available_nonneg : 0 ≤ available) :
    DrawsExactly available loss ∧
      (available < loss → Reached db tiers (loss - available) final) := by
  have draws := draws_of_accepts recovery available_mem available_nonneg reached.mem reached.nonneg
    reached.small reached.accepted.1
  refine ⟨draws, fun exceeds => ?_⟩
  obtain ⟨accepted, left⟩ := further_of_rest reached.accepted (rest_drawTier draws) exceeds
  exact ⟨sub_mem reached.mem available_mem, (sub_pos.mpr exceeds).le,
    (sub_le_self _ available_nonneg).trans_lt reached.small, accepted,
    left.trans reached.finished⟩

private theorem bornExactly_of_completes (nonneg : TiersNonneg db memberId totalExposure)
    (ordinary : Ordinary db memberId totalExposure) {triggerReason : Text}
    {trace : Option TraceContext}
    (completes : Completes db memberId triggerReason totalExposure trace) :
    BornExactly db memberId totalExposure := by
  obtain ⟨runnable, finished⟩ := (completes_iff triggerReason trace).mp completes
  have margin_nonneg := getMemberMarginBalance_nonneg db memberId
  have margin_mem := getMemberMarginBalance_mem ordinary
  have fund_mem := getAccountBalance_mem ordinary memberId .defaultFund
  have equity_mem := ccpEquity_mem ordinary
  obtain ⟨recovery, collects⟩ := Option.isSome_iff_exists.mp ordinary.recovery
  obtain ⟨ccp, house, -⟩ := Option.bind_eq_some_iff.mp collects
  have equity_eq : equityTier db =
      drawTier (some ccp.id) .ccpEquity (ccpEquity db) 3 .ccpEquity := by
    rw [equityTier, house, Option.map_some]
  have start : Reached db (waterfallTiers decimalBackend db memberId) totalExposure
      (max (totalExposure - capacityTotal db memberId) 0) :=
    ⟨ordinary.exposure, nonneg.exposure, exposure_small ordinary nonneg, runnable.accepted,
      finished⟩
  rw [waterfallTiers, equity_eq] at start
  -- The loss goes through the three accounts one after the other.
  obtain ⟨margin, beyond_margin⟩ := Reached.draw start ordinary.recovery margin_mem margin_nonneg
  have defaultFund := fun exceeds => Reached.draw (beyond_margin exceeds) ordinary.recovery fund_mem
    nonneg.defaultFund
  have equity : getMemberMarginBalance db memberId +
      getAccountBalance db memberId .defaultFund .available < totalExposure → _ := fun exceeds =>
    Reached.draw ((defaultFund (by linarith [nonneg.defaultFund])).2
      (lt_sub_iff_add_lt'.mpr exceeds)) ordinary.recovery equity_mem nonneg.equity
  have left_eq : totalExposure - getMemberMarginBalance db memberId -
      getAccountBalance db memberId .defaultFund .available - ccpEquity db =
        totalExposure - seniorTotal db memberId := by
    rw [seniorTotal]
    ring
  have spread : seniorTotal db memberId < totalExposure →
      Reached db [mutualTier decimalBackend db memberId, allocationTier decimalBackend db memberId]
        (totalExposure - seniorTotal db memberId)
        (max (totalExposure - seniorTotal db memberId - fundTotal db memberId -
          limitTotal db memberId * (1 / 10)) 0) := by
    intro exceeds
    have senior := seniorTotal.eq_1 db memberId
    rw [← sub_add_eq_sub_sub, ← sub_add_eq_sub_sub, ← add_assoc, ← capacityTotal, ← left_eq]
    exact (equity (by linarith [nonneg.equity])).2 (by linarith)
  -- Then through the survivors' funds and limits.
  have senior_nonneg : 0 ≤ seniorTotal db memberId :=
    add_nonneg (add_nonneg margin_nonneg nonneg.defaultFund) nonneg.equity
  have fund_nonneg := fundTotal_nonneg db memberId
  have funds : seniorTotal db memberId < totalExposure → _ := fun exceeds =>
    funds_of_accepted ordinary nonneg (spread exceeds).mem (sub_pos.mpr exceeds)
      (sub_le_self _ senior_nonneg) (spread exceeds).accepted (spread exceeds).finished
  refine ⟨runnable.known, runnable.exposure, margin, fun exceeds => (defaultFund exceeds).1,
    fun exceeds => (equity exceeds).1, funds, fun exceeds => ?_⟩
  have beyond_senior : seniorTotal db memberId < totalExposure := by linarith
  have left_pos := sub_pos.mpr beyond_senior
  have rest : decimalBackend.sub (totalExposure - seniorTotal db memberId)
      ((mutualTier decimalBackend db memberId).take (totalExposure - seniorTotal db memberId)) =
        max (totalExposure - seniorTotal db memberId - fundTotal db memberId) 0 := by
    rw [mutualTier_eq, take_spreadTier left_pos fundWeights_eq id_pos,
      (funds beyond_senior).total, (funds beyond_senior).rest, sub_min]
  obtain ⟨further, left⟩ := further_of_rest (spread beyond_senior).accepted rest
    (lt_sub_iff_add_lt'.mpr exceeds)
  have total_mem : fundTotal db memberId ∈ fixedGrid 8 := list_sum_mem (fundWeights_mem ordinary)
  exact allocation_of_accepted ordinary nonneg (sub_mem (spread beyond_senior).mem total_mem)
    (by linarith) (by linarith) further (left.trans (spread beyond_senior).finished)

end Steps

/-- Decimal arithmetic completes the waterfall when every step it reaches bears its part exactly,
and for ordinary amounts only then. -/
theorem completes_iff_bornExactly {db : Database} {memberId : Uuid} {totalExposure : ℚ}
    (nonneg : TiersNonneg db memberId totalExposure) (triggerReason : Text)
    (trace : Option TraceContext) :
    (BornExactly db memberId totalExposure →
        Completes db memberId triggerReason totalExposure trace) ∧
      (Ordinary db memberId totalExposure →
        Completes db memberId triggerReason totalExposure trace →
          BornExactly db memberId totalExposure) :=
  ⟨fun exactly => completes_of_bornExactly nonneg exactly triggerReason trace,
    fun ordinary completes => bornExactly_of_completes nonneg ordinary completes⟩

/-- A house with a defaulter and three survivors that hold a default fund of 1 each and no credit
limit. -/
def mutualHouse : Database :=
  { Database.opening
      [⟨0, ccpLei, .active, 0⟩, ⟨1, "DEFAULTER", .active, 0⟩, ⟨2, "SURVIVOR2", .active, 0⟩,
        ⟨3, "SURVIVOR3", .active, 0⟩, ⟨4, "SURVIVOR4", .active, 0⟩] []
      (Seeding.seedAccounts 10 0 (Seeding.accountTypes ++ [.ccpEquity]) ++
        [1, 2, 3, 4].flatMap fun memberId =>
          Seeding.seedAccounts (100 * memberId) memberId Seeding.accountTypes)
      2000 (by decide) (by decide) (by decide) with
    journals := [2, 3, 4].map fun memberId =>
      ⟨1000 + memberId, .defaultFundContribution, "seed", none, .confirmed⟩
    journalEntries := [2, 3, 4].flatMap fun memberId =>
      [⟨1000 + memberId, 100 * memberId + 4, 1, 0⟩, ⟨1000 + memberId, 18, 0, 1⟩] }

private theorem tiersNonneg_mutualHouse {totalExposure : ℚ} (nonneg : 0 ≤ totalExposure) :
    TiersNonneg mutualHouse 1 totalExposure :=
  ⟨nonneg, by decide +kernel, by decide +kernel, by decide +kernel⟩

/-- A loss of 1.5 is shared exactly: a third of it rounds up to a half. -/
theorem completes_mutualHouse : Completes mutualHouse 1 [] (3 / 2) none :=
  (completes_iff_bornExactly (tiersNonneg_mutualHouse (by norm_num)) [] none).1 (by decide +kernel)

/-- A loss of 1 is not, although the survivors hold 3: three shares of a third miss its last
digit. -/
theorem not_completes_mutualHouse : TiersNonneg mutualHouse 1 1 ∧
    capacityTotal mutualHouse 1 = 3 ∧ (∃ outcome after,
      executeWaterfall decimalBackend 1 [] 1 none mutualHouse = .ok (outcome, after) ∧
        outcome.remainingLoss = 1 / 10 ^ 28 ∧ outcome.status = .partiallyResolved) ∧
      ¬Completes mutualHouse 1 [] 1 none := by
  have evaluated : (executeWaterfall decimalBackend 1 [] 1 none mutualHouse).toOption.map
      (fun result => (result.1.remainingLoss, result.1.status)) =
        some (1 / 10 ^ 28, .partiallyResolved) := by
    decide +kernel
  have capacity : capacityTotal mutualHouse 1 = 3 := by decide +kernel
  cases run : executeWaterfall decimalBackend 1 [] 1 none mutualHouse with
  | error failure => simp [run, Except.toOption] at evaluated
  | ok result =>
      obtain ⟨outcome, after⟩ := result
      obtain ⟨remaining, status⟩ : outcome.remainingLoss = 1 / 10 ^ 28 ∧
          outcome.status = .partiallyResolved := by
        simpa [run, Except.toOption] using evaluated
      refine ⟨tiersNonneg_mutualHouse (by norm_num), capacity, ⟨outcome, after, rfl, remaining,
        status⟩, ?_⟩
      rintro ⟨outcome', after', ran, left, -⟩
      obtain ⟨rfl, rfl⟩ : outcome = outcome' ∧ after = after' := by
        simpa [run] using ran
      rw [remaining, capacity] at left
      norm_num at left

end Waterfall

end ClearingHouse
