import ClearingHouse.Ledger.DoubleEntry
import ClearingHouse.Library.ProRata

/-!
# Order of absorption

In exact arithmetic a tier that draws on one account keeps the order of absorption exactly when the
balance it reads is not negative, and the tiers spread over the survivors always keep it.  So the
recorded steps are in order unless the loss reaches a negative default fund balance of the
defaulter or a negative equity of the house.
-/

namespace ClearingHouse

namespace Waterfall

open LossTiers ProRata Transactions

theorem exactBackend_sub : exactBackend.sub = fun x y => x - y := rfl

theorem exactBackend_sum (xs : List ℚ) : exactBackend.sum xs = xs.sum := by
  have add_eq : exactBackend.add = fun x y => x + y := rfl
  rw [Backend.sum, add_eq, List.sum_eq_foldl]

private theorem sum_filter_pos {xs : List ℚ} (nonneg : ∀ x ∈ xs, 0 ≤ x) :
    (xs.filter fun x => 0 < x).sum = xs.sum := by
  induction xs with
  | nil => rfl
  | cons x xs induction =>
      have rest := induction fun y inside => nonneg y (List.mem_cons_of_mem x inside)
      rcases (nonneg x List.mem_cons_self).eq_or_lt with zero | positive
      · rw [List.filter_cons_of_neg (by simp [← zero]), rest, List.sum_cons, ← zero, zero_add]
      · rw [List.filter_cons_of_pos (by simpa using positive), List.sum_cons, List.sum_cons, rest]

/-- In exact arithmetic the survivors are asked for the loss or for all their caps. -/
theorem sum_asked (sourceType : AccountType) (rows : List (Uuid × ℚ)) (cap : ℚ → ℚ) (rate : ℚ)
    {loss : ℚ} (cap_eq : ∀ weight, cap weight = weight * rate) (rate_pos : 0 < rate)
    (nonneg : ∀ row ∈ rows, 0 ≤ row.2) (loss_pos : 0 < loss) :
    ((asked exactBackend sourceType rows (rows.map Prod.snd).sum cap loss).map
      Posting.amount).sum = min loss ((rows.map Prod.snd).sum * rate) := by
  have weights_nonneg : ∀ weight ∈ rows.map Prod.snd, 0 ≤ weight := by
    intro weight member
    obtain ⟨row, inside, rfl⟩ := List.mem_map.mp member
    exact nonneg row inside
  rcases (List.sum_nonneg weights_nonneg).eq_or_lt with zero | total_pos
  · rw [← zero, asked, if_neg (lt_irrefl 0), zero_mul, min_eq_right loss_pos.le]
    rfl
  · have cap_pos : ∀ weight, 0 < weight → 0 < cap weight :=
      fun weight positive => cap_eq weight ▸ mul_pos positive rate_pos
    have contribution_eq : contribution exactBackend (rows.map Prod.snd).sum loss cap =
        fun weight => min (share (rows.map Prod.snd).sum loss weight) (weight * rate) := by
      funext weight
      rw [contribution, cap_eq]
      rfl
    rw [amounts_asked exactBackend sourceType total_pos loss_pos cap_pos, contribution_eq]
    have kept := sum_filter_pos weights_nonneg
    have positive : ∀ weight ∈ (rows.map Prod.snd).filter fun weight => 0 < weight, 0 < weight :=
      fun weight member => by simpa using (List.mem_filter.mp member).2
    rw [← kept] at total_pos ⊢
    exact sum_min_share_cap (fun weight member => (positive weight member).le) total_pos loss rate

theorem survivorFunds_pos (db : Database) (defaulterId : Uuid) :
    ∀ row ∈ survivorFunds db defaulterId, 0 < row.2 := by
  intro row member
  obtain ⟨survivor, -, inside⟩ := List.mem_flatMap.mp member
  obtain ⟨balance, kept, rfl⟩ := List.mem_map.mp inside
  have passes := (List.mem_filter.mp kept).2
  simp only [decide_eq_true_eq] at passes
  exact passes.2.2.2

theorem survivorLimits_nonneg {db : Database} (defaulterId : Uuid)
    (limits : ∀ member ∈ db.members, 0 ≤ member.creditLimit) :
    ∀ row ∈ survivorLimits db defaulterId, 0 ≤ row.2 := by
  intro row inside
  obtain ⟨survivor, surviving, rfl⟩ := List.mem_map.mp inside
  exact limits survivor (mem_survivors.mp surviving).1

theorem mutualTier_take {db : Database} {defaulterId : Uuid} {loss : ℚ} (loss_pos : 0 < loss) :
    (mutualTier exactBackend db defaulterId).take loss = min loss (fundTotal db defaulterId) := by
  have asks := sum_asked .defaultFund (survivorFunds db defaulterId) id 1
    (fun weight => (mul_one weight).symm) one_pos
    (fun row member => (survivorFunds_pos db defaulterId row member).le) loss_pos
  rw [mul_one] at asks
  change exactBackend.sum ((asked exactBackend .defaultFund (survivorFunds db defaulterId)
    (exactBackend.sum ((survivorFunds db defaulterId).map Prod.snd)) id loss).map
      Posting.amount) = _
  rw [exactBackend_sum, exactBackend_sum, asks, fundTotal]

theorem sum_filter_nonzero (xs : List ℚ) : (xs.filter fun x => x ≠ 0).sum = xs.sum := by
  induction xs with
  | nil => rfl
  | cons x xs induction =>
      by_cases zero : x = 0
      · rw [List.filter_cons_of_neg (by simp [zero]), induction, List.sum_cons, zero, zero_add]
      · rw [List.filter_cons_of_pos (by simp [zero]), List.sum_cons, List.sum_cons, induction]

theorem sum_nonzero_limits (db : Database) (defaulterId : Uuid) :
    (((survivorLimits db defaulterId).map Prod.snd).filter fun limit => limit ≠ 0).sum =
      limitTotal db defaulterId := sum_filter_nonzero _

theorem allocationTier_take {db : Database} {defaulterId : Uuid}
    (limits : ∀ member ∈ db.members, 0 ≤ member.creditLimit) {loss : ℚ} (loss_pos : 0 < loss) :
    (allocationTier exactBackend db defaulterId).take loss =
      min loss (limitTotal db defaulterId * (1 / 10)) := by
  have asks := sum_asked .settlement (survivorLimits db defaulterId) (allocationCap exactBackend)
    (1 / 10) (fun weight => rfl) (by norm_num) (survivorLimits_nonneg defaulterId limits) loss_pos
  change exactBackend.sum ((asked exactBackend .settlement (survivorLimits db defaulterId)
    (exactBackend.sum (((survivorLimits db defaulterId).map Prod.snd).filter
      fun limit => limit ≠ 0)) (allocationCap exactBackend) loss).map Posting.amount) = _
  rw [exactBackend_sum, exactBackend_sum, sum_nonzero_limits, limitTotal, asks]

/-- A record as a step of the abstract waterfall. -/
def StepRecord.toStep (record : StepRecord) : Step (ℕ × StepType) ℚ :=
  ⟨(record.stepOrder, record.stepType), record.available, record.applied, record.remaining⟩

/-- Balances that a loss reaches: if the margin does not cover it, the default fund balance of the
defaulter, and if that does not either, the equity of the house, are not negative. -/
def SeniorBalancesNonneg (db : Database) (memberId : Uuid) (totalExposure : ℚ) : Prop :=
  let margin := getMemberMarginBalance db memberId
  let defaultFund := getAccountBalance db memberId .defaultFund .available
  margin < totalExposure →
    0 ≤ defaultFund ∧ (margin + defaultFund < totalExposure → 0 ≤ ccpEquity db)

instance (db : Database) (memberId : Uuid) (totalExposure : ℚ) :
    Decidable (SeniorBalancesNonneg db memberId totalExposure) :=
  inferInstanceAs (Decidable (_ → _ ∧ (_ → _)))

theorem getMemberMarginBalance_nonneg (db : Database) (memberId : Uuid) :
    0 ≤ getMemberMarginBalance db memberId := by
  apply List.sum_nonneg
  intro balance member
  obtain ⟨row, kept, rfl⟩ := List.mem_map.mp member
  have passes := (List.mem_filter.mp kept).2
  simp only [decide_eq_true_eq] at passes
  exact passes.2.2.le

private theorem orderly_drawTier {source : Option Uuid} {sourceType : AccountType}
    {available loss : ℚ} {stepOrder : ℕ} {stepType : StepType} {more : Prop}
    (loss_nonneg : 0 ≤ loss) :
    Orderly (drawTier source sourceType available stepOrder stepType).toTier more loss ↔
      0 ≤ available := by
  change (0 ≤ min available loss ∧ min available loss ≤ max available 0) ∧
    min available loss ≤ loss ∧
      (more → min available loss < loss → min available loss = available) ↔ 0 ≤ available
  constructor
  · rintro ⟨⟨taken, -⟩, -⟩
    exact taken.trans (min_le_left available loss)
  · intro available_nonneg
    refine ⟨⟨le_min available_nonneg loss_nonneg, ?_⟩, min_le_right available loss, ?_⟩
    · exact (min_le_left available loss).trans (le_max_left available 0)
    · intro _ leaves
      exact min_eq_left ((min_lt_iff.mp leaves).resolve_right (lt_irrefl loss)).le

/-- Draw tiers keep the order exactly when the first is not negative and the rest keep it on what
it leaves. -/
private theorem inOrder_drawTier {source : Option Uuid} {sourceType : AccountType}
    {available loss : ℚ} {stepOrder : ℕ} {stepType : StepType}
    {tiers : List (Tier (ℕ × StepType) ℚ)} (loss_nonneg : 0 ≤ loss) :
    InOrder loss (absorb (· - ·)
        ((drawTier source sourceType available stepOrder stepType).toTier :: tiers) loss) ↔
      0 ≤ available ∧ (available < loss →
        InOrder (loss - available) (absorb (· - ·) tiers (loss - available))) := by
  rw [inOrder_absorb_cons, orderly_drawTier loss_nonneg]
  apply and_congr_right
  intro _
  change (min available loss < loss → _) ↔ _
  constructor
  · intro rest exceeds
    have taken : min available loss = available := min_eq_left exceeds.le
    have later := rest (taken.symm ▸ exceeds)
    rwa [show (drawTier source sourceType available stepOrder stepType).take loss = available
      from taken] at later
  · intro rest leaves
    have exceeds := (min_lt_iff.mp leaves).resolve_right (lt_irrefl loss)
    rw [show (drawTier source sourceType available stepOrder stepType).take loss = available
      from min_eq_left exceeds.le]
    exact rest exceeds

private theorem inOrder_spread {db : Database} {defaulterId : Uuid}
    (limits : ∀ member ∈ db.members, 0 ≤ member.creditLimit) {loss : ℚ} (loss_pos : 0 < loss) :
    InOrder loss (absorb (· - ·) [(mutualTier exactBackend db defaulterId).toTier,
      (allocationTier exactBackend db defaulterId).toTier] loss) := by
  have funds_nonneg : 0 ≤ fundTotal db defaulterId := by
    apply List.sum_nonneg
    intro balance member
    obtain ⟨row, inside, rfl⟩ := List.mem_map.mp member
    exact (survivorFunds_pos db defaulterId row inside).le
  have limits_nonneg : 0 ≤ limitTotal db defaulterId := by
    apply List.sum_nonneg
    intro limit member
    obtain ⟨row, inside, rfl⟩ := List.mem_map.mp member
    exact survivorLimits_nonneg defaulterId limits row inside
  have available_funds : (mutualTier exactBackend db defaulterId).available =
      fundTotal db defaulterId := exactBackend_sum _
  have available_limits : (allocationTier exactBackend db defaulterId).available =
      limitTotal db defaulterId := by
    change exactBackend.sum _ = _
    rw [exactBackend_sum, sum_nonzero_limits]
  rw [inOrder_absorb_cons, Orderly, mutualTier_take loss_pos, available_funds]
  refine ⟨⟨⟨le_min loss_pos.le funds_nonneg, (min_le_right _ _).trans (le_max_left _ _)⟩,
    min_le_left _ _, fun _ leaves => min_eq_right ?_⟩, fun leaves => ?_⟩
  · exact ((min_lt_iff.mp leaves).resolve_left (lt_irrefl loss)).le
  · have left_pos : 0 < loss - min loss (fundTotal db defaulterId) := sub_pos.mpr leaves
    rw [inOrder_absorb_cons, Orderly, allocationTier_take limits left_pos, available_limits]
    refine ⟨⟨⟨le_min left_pos.le (by positivity), ?_⟩, min_le_left _ _,
      fun more => absurd rfl more⟩,
      fun _ => trivial⟩
    calc
      min _ (limitTotal db defaulterId * (1 / 10)) ≤ limitTotal db defaulterId * (1 / 10) :=
        min_le_right _ _
      _ ≤ limitTotal db defaulterId := by linarith
      _ ≤ max (limitTotal db defaulterId) 0 := le_max_left _ _

/-- The tiers absorb a loss in order exactly when it reaches no negative senior balance. -/
theorem inOrder_tiers_iff {db : Database} (limits : ∀ member ∈ db.members, 0 ≤ member.creditLimit)
    (memberId : Uuid) {totalExposure : ℚ} (nonneg : 0 ≤ totalExposure) :
    InOrder totalExposure (absorb (· - ·)
        ((waterfallTiers exactBackend db memberId).map WaterfallTier.toTier) totalExposure) ↔
      SeniorBalancesNonneg db memberId totalExposure := by
  have margin_nonneg := getMemberMarginBalance_nonneg db memberId
  simp only [waterfallTiers, List.map_cons, List.map_nil, marginTier, defaultFundTier, equityTier]
  rw [inOrder_drawTier nonneg, SeniorBalancesNonneg]
  simp only [margin_nonneg, true_and]
  apply imp_congr_right
  intro beyond_margin
  rw [inOrder_drawTier (sub_pos.mpr beyond_margin).le]
  apply and_congr_right
  intro _
  rw [lt_sub_iff_add_lt']
  apply imp_congr_right
  intro beyond_fund
  have left_pos := sub_pos.mpr (lt_sub_iff_add_lt'.mpr beyond_fund)
  rw [inOrder_drawTier left_pos.le]
  apply and_iff_left
  intro beyond_equity
  exact inOrder_spread limits (sub_pos.mpr beyond_equity)

private theorem toStep_record (step : Step (ℕ × StepType) ℚ) : (record step).toStep = step := rfl

private theorem toStep_records (db : Database) (memberId : Uuid) (totalExposure : ℚ) :
    (records exactBackend (waterfallTiers exactBackend db memberId) totalExposure).map
        StepRecord.toStep =
      absorb (· - ·) ((waterfallTiers exactBackend db memberId).map WaterfallTier.toTier)
        totalExposure := by
  rw [records, List.map_map, exactBackend_sub]
  exact (List.map_congr_left fun step _ => toStep_record step).trans (List.map_id _)

/-- The recorded steps of a run from a reachable database are in order, and account for the
exposure, exactly when the loss reaches no negative balance of the defaulter's default fund or of
the equity of the house. -/
theorem executeWaterfall_inOrder_iff {db after : Database} (reachable : Reachable exactBackend db)
    (memberId : Uuid) (triggerReason : Text) {totalExposure : ℚ} (nonneg : 0 ≤ totalExposure)
    (trace : Option TraceContext) {outcome : Outcome}
    (ran : executeWaterfall exactBackend memberId triggerReason totalExposure trace db =
      .ok (outcome, after)) :
    (InOrder totalExposure (outcome.steps.map StepRecord.toStep) ∧
        totalExposure = (outcome.steps.map StepRecord.applied).sum + outcome.remainingLoss) ↔
      SeniorBalancesNonneg db memberId totalExposure := by
  obtain ⟨absorbed, -⟩ := executeWaterfall_ran ran
  have limits := (kept_of_reachable reachable).limits
  have steps_eq := absorbed.steps ▸ toStep_records db memberId totalExposure
  have accounted : totalExposure =
      (outcome.steps.map StepRecord.applied).sum + outcome.remainingLoss := by
    have whole := sum_applied ((waterfallTiers exactBackend db memberId).map WaterfallTier.toTier)
      totalExposure
    rw [← steps_eq, List.map_map] at whole
    rw [absorbed.remainingLoss]
    exact whole.symm
  rw [steps_eq, inOrder_tiers_iff limits memberId nonneg]
  exact and_iff_left accounted

private theorem runs_seededHouse {totalExposure : ℚ} {applied : List ℚ}
    (evaluated : (executeWaterfall exactBackend 1 [] totalExposure none
      (seededHouse exactBackend)).toOption.map
        (fun result => result.1.steps.map StepRecord.applied) = some applied) :
    ∃ outcome after,
      executeWaterfall exactBackend 1 [] totalExposure none (seededHouse exactBackend) =
        .ok (outcome, after) ∧ outcome.steps.map StepRecord.applied = applied := by
  cases run : executeWaterfall exactBackend 1 [] totalExposure none (seededHouse exactBackend) with
  | error failure => simp [run, Except.toOption] at evaluated
  | ok result => exact ⟨result.1, result.2, rfl, by simpa [run, Except.toOption] using evaluated⟩

/-- The default fund contribution of Alpha bears a loss of 4,000,000. -/
theorem inOrder_seededHouse : ∃ outcome after,
    executeWaterfall exactBackend 1 [] 4000000 none (seededHouse exactBackend) =
        .ok (outcome, after) ∧
      InOrder 4000000 (outcome.steps.map StepRecord.toStep) ∧
        4000000 = (outcome.steps.map StepRecord.applied).sum + outcome.remainingLoss := by
  obtain ⟨outcome, after, ran, -⟩ := @runs_seededHouse 4000000 [0, 4000000] (by decide +kernel)
  exact ⟨outcome, after, ran, (executeWaterfall_inOrder_iff (reachable_seededHouse exactBackend)
    1 [] (by norm_num) none ran).mpr (by decide +kernel)⟩

/-- The equity that the seeding leaves negative raises a loss of 6,000,000 again. -/
theorem not_inOrder_seededHouse :
    Reachable exactBackend (seededHouse exactBackend) ∧ ∃ outcome after,
      executeWaterfall exactBackend 1 [] 6000000 none (seededHouse exactBackend) =
        .ok (outcome, after) ∧
      outcome.steps.map StepRecord.applied = [0, 5000000, -5000000, 0, 0] ∧
      ¬InOrder 6000000 (outcome.steps.map StepRecord.toStep) := by
  obtain ⟨outcome, after, ran, applied⟩ := @runs_seededHouse 6000000
    [0, 5000000, -5000000, 0, 0] (by decide +kernel)
  refine ⟨reachable_seededHouse exactBackend, outcome, after, ran, applied, fun order => ?_⟩
  have negative : (-5000000 : ℚ) ∈ outcome.steps.map StepRecord.applied := by simp [applied]
  obtain ⟨step, member, same⟩ := List.mem_map.mp negative
  have nonneg := order.applied_nonneg step.toStep (List.mem_map_of_mem member)
  exact absurd (same ▸ nonneg : (0 : ℚ) ≤ -5000000) (by norm_num)

end Waterfall

end ClearingHouse
