import ClearingHouse.Events.Compliance
import ClearingHouse.Library.Largest

/-!
# Cover-2

The two largest exposures of the query are the most that any two active members can be required to
post together, however it orders members with equal exposures.  Their sum and the shortfall are
rounded to 28 digits, so the alert can be wrong once they do not fit that many.
-/

namespace ClearingHouse

namespace Compliance

open DecimalRounding Fibers Largest Transactions

variable {db : Database}

/-- Members of the grouped query with their exposures, before they are ordered. -/
def exposureRows (db : Database) : List (Uuid × ℚ) :=
  let active := (db.members.filter fun member => member.status = .active).map Member.id
  let rows := db.marginRequirements.filter fun row => row.memberId ∈ active
  (rows.map MarginRequirement.memberId).dedup.map fun memberId =>
    (memberId,
      ((rows.filter fun row => row.memberId = memberId).map MarginRequirement.requiredAmount).sum)

/-- What `ORDER BY total_exposure DESC LIMIT 2` may return. -/
def Answers (db : Database) (rows : List (Uuid × ℚ)) : Prop :=
  ∃ ordered : List (Uuid × ℚ), ordered.Perm (exposureRows db) ∧
    ordered.Pairwise (fun row other => other.2 ≤ row.2) ∧ rows = ordered.take 2

/-- `check_default_fund_adequacy` on the rows of its first query. -/
def checkDefaultFundAdequacy (backend : Backend) (role : Role) (rows : List (Uuid × ℚ)) :
    Sql (List Alert) := do
  let db ← read
  let requirement := backend.sum ((rows.map Prod.snd).filter (· ≠ 0))
  if 0 < requirement ∧ totalFund db < requirement then
    emitAll role
      [⟨[.literal "system"],
        [("alert_type", .literal "default_fund_inadequate"),
          ("total_fund", .decimal (totalFund db)), ("cover2_requirement", .decimal requirement),
          ("shortfall", .decimal (backend.sub requirement (totalFund db)))]⟩]
  else pure []

/-- Any order of members with equal exposures gives the same alert. -/
theorem checkDefaultFundAdequacy_apply (backend : Backend) (role : Role) {rows : List (Uuid × ℚ)}
    (answers : Answers db rows) :
    checkDefaultFundAdequacy backend role rows db =
      emitAll role (defaultFundAdequacy backend db) db := by
  obtain ⟨ordered, same, descending, rfl⟩ := answers
  have exposures : (exposureRows db).map Prod.snd = memberExposures db := by
    rw [exposureRows, List.map_map]
    rfl
  have sorted : ordered.map Prod.snd = (memberExposures db).insertionSort (· ≥ ·) := by
    refine eq_of_descending (List.pairwise_map.mpr descending)
      (List.pairwise_insertionSort (· ≥ ·) _) ?_
    exact ((same.map Prod.snd).trans (.of_eq exposures)).trans
      (List.perm_insertionSort _ _).symm
  have requirement : backend.sum (((ordered.take 2).map Prod.snd).filter (· ≠ 0)) =
      coverTwoRequirement backend db := by
    rw [List.map_take, sorted]
    rfl
  rw [checkDefaultFundAdequacy, Transaction.bind_of_ok (Transaction.read_apply db), requirement,
    defaultFundAdequacy]
  split
  · rfl
  · rfl

theorem exists_answers (db : Database) : ∃ rows, Answers db rows := by
  let descends : Uuid × ℚ → Uuid × ℚ → Prop := fun row other => other.2 ≤ row.2
  have total : Std.Total descends := ⟨fun row other => le_total other.2 row.2⟩
  have trans : IsTrans (Uuid × ℚ) descends := ⟨fun _ _ _ first second => le_trans second first⟩
  exact ⟨_, (exposureRows db).insertionSort descends, List.perm_insertionSort _ _,
    List.pairwise_insertionSort _ _, rfl⟩

/-- Required amounts of a member over all instruments and margin types. -/
def requiredOf (db : Database) (memberId : Uuid) : ℚ :=
  fiberSum MarginRequirement.memberId MarginRequirement.requiredAmount db.marginRequirements
    memberId

def activeMembers (db : Database) : Set Uuid :=
  {memberId | memberId ∈
    (db.members.filter fun member => member.status = .active).map Member.id}

/-- What at most two active members are required to post together. -/
def combinedExposures (db : Database) : Set ℚ := choices (requiredOf db) (activeMembers db) 2

/-- The two largest exposures of the query. -/
def largestExposures (db : Database) : List ℚ :=
  ((memberExposures db).insertionSort (· ≥ ·)).take 2

/-- Active members that have requirements. -/
def exposedMembers (db : Database) : List Uuid :=
  ((db.marginRequirements.filter fun row => row.memberId ∈
      (db.members.filter fun member => member.status = .active).map Member.id).map
    MarginRequirement.memberId).dedup

theorem mem_exposedMembers {memberId : Uuid} : memberId ∈ exposedMembers db ↔
    memberId ∈ activeMembers db ∧ ∃ row ∈ db.marginRequirements, row.memberId = memberId := by
  simp only [exposedMembers, List.mem_dedup, List.mem_map, List.mem_filter, decide_eq_true_eq,
    activeMembers, Set.mem_ofPred_eq]
  constructor
  · rintro ⟨row, ⟨member, active⟩, rfl⟩
    exact ⟨active, row, member, rfl⟩
  · rintro ⟨active, row, member, rfl⟩
    exact ⟨row, ⟨member, active⟩, rfl⟩

theorem memberExposures_eq (db : Database) :
    memberExposures db = (exposedMembers db).map (requiredOf db) := by
  apply List.map_congr_left
  intro memberId member
  have active : memberId ∈ (db.members.filter fun member => member.status = .active).map
      Member.id := (mem_exposedMembers.mp member).1
  rw [requiredOf, fiberSum, List.filter_filter]
  refine congrArg (fun rows => (List.map MarginRequirement.requiredAmount rows).sum)
    (List.filter_congr fun row _ => ?_)
  by_cases same : row.memberId = memberId
  · simp [same, active]
  · simp [same]

theorem requiredOf_nonneg (nonneg : ∀ row ∈ db.marginRequirements, 0 ≤ row.requiredAmount)
    (memberId : Uuid) : 0 ≤ requiredOf db memberId := by
  apply List.sum_nonneg
  intro amount member
  obtain ⟨row, inside, rfl⟩ := List.mem_map.mp member
  exact nonneg row (List.mem_of_mem_filter inside)

/-- No two active members are required to post more than the two largest exposures. -/
theorem isGreatest_largestExposures
    (nonneg : ∀ row ∈ db.marginRequirements, 0 ≤ row.requiredAmount) :
    IsGreatest (combinedExposures db) (largestExposures db).sum := by
  let heavier : Uuid → Uuid → Prop := fun i j => requiredOf db j ≤ requiredOf db i
  have total : Std.Total heavier := ⟨fun i j => le_total (requiredOf db j) (requiredOf db i)⟩
  have trans : IsTrans Uuid heavier := ⟨fun _ _ _ first second => le_trans second first⟩
  have ordered := List.perm_insertionSort heavier (exposedMembers db)
  have descending := List.pairwise_insertionSort heavier (exposedMembers db)
  generalize (exposedMembers db).insertionSort heavier = items at ordered descending
  have exposures : (items.take 2).map (requiredOf db) = largestExposures db := by
    have sorted : items.map (requiredOf db) = (memberExposures db).insertionSort (· ≥ ·) := by
      refine eq_of_descending (List.pairwise_map.mpr descending)
        (List.pairwise_insertionSort (· ≥ ·) _) ?_
      rw [memberExposures_eq]
      exact (ordered.map _).trans (List.perm_insertionSort _ _).symm
    rw [List.map_take, sorted]
    rfl
  rw [← exposures]
  refine isGreatest_take (ordered.nodup_iff.mpr (List.nodup_dedup _)) descending
    (fun i _ => requiredOf_nonneg nonneg i)
    (fun i member => (mem_exposedMembers.mp (ordered.mem_iff.mp member)).1)
    (fun i active unlisted => ?_) 2
  have none : (db.marginRequirements.filter fun row => row.memberId = i) = [] := by
    refine List.filter_eq_nil_iff.mpr fun row member same => unlisted ?_
    exact ordered.mem_iff.mpr (mem_exposedMembers.mpr ⟨active, row, member, by simpa using same⟩)
  rw [requiredOf, fiberSum, none]
  rfl

/-- The alert tells of a fund below the largest exposure and of the difference, whatever rows the
query returns. -/
def AlertExact (db : Database) (largest : ℚ) : Prop :=
  ∃ alerts after,
    (∀ rows, Answers db rows →
      checkDefaultFundAdequacy decimalBackend .ledgerUser rows db = .ok (alerts, after)) ∧
    (alerts ≠ [] ↔ totalFund db < largest) ∧
    ∀ alert ∈ alerts, alert.body.get? "shortfall" = some (.decimal (largest - totalFund db))

/-- Rounding the sum of the largest exposures to 28 digits, and then the difference from the fund,
makes no difference. -/
def RoundsHarmlessly (db : Database) : Prop :=
  let exact := (largestExposures db).sum
  let rounded := decimalBackend.sum (largestExposures db)
  if totalFund db < exact then
    totalFund db < rounded ∧ toDigits 28 (rounded - totalFund db) = exact - totalFund db
  else rounded ≤ totalFund db

/-- Zeros can be left out of a sum of `Decimal`s. -/
theorem foldl_add_filter {start : ℚ} (rounded : toDigits 28 start = start) (xs : List ℚ) :
    (xs.filter (· ≠ 0)).foldl decimalBackend.add start = xs.foldl decimalBackend.add start := by
  induction xs generalizing start with
  | nil => rfl
  | cons x xs induction =>
      by_cases zero : x = 0
      · have same : decimalBackend.add start x = start := by
          rw [zero, Backend.add, add_zero]
          exact rounded
        rw [List.filter_cons_of_neg (by simp [zero]), List.foldl_cons, same, induction rounded]
      · rw [List.filter_cons_of_pos (by simp [zero]), List.foldl_cons, List.foldl_cons]
        exact induction (toDigits_toDigits (by norm_num) _)

theorem coverTwoRequirement_eq (db : Database) :
    coverTwoRequirement decimalBackend db = decimalBackend.sum (largestExposures db) :=
  foldl_add_filter (toDigits_zero 28) _

theorem totalFund_nonneg (db : Database) : 0 ≤ totalFund db := by
  apply List.sum_nonneg
  intro balance member
  obtain ⟨row, kept, rfl⟩ := List.mem_map.mp member
  have passes := (List.mem_filter.mp kept).2
  simp only [decide_eq_true_eq] at passes
  exact passes.2.2.le

/-- The alert is exact if and only if rounding makes no difference; the exact sum of the two
largest exposures is the most that two active members are required to post. -/
theorem alertExact_iff (nonneg : ∀ row ∈ db.marginRequirements, 0 ≤ row.requiredAmount) :
    ∃ largest, IsGreatest (combinedExposures db) largest ∧
      (AlertExact db largest ↔ RoundsHarmlessly db) := by
  refine ⟨_, isGreatest_largestExposures nonneg, ?_⟩
  obtain ⟨after, emitted, -⟩ :=
    emitAll_ledgerUser decimalBackend (defaultFundAdequacy decimalBackend db) db
  have returned : ∀ rows, Answers db rows →
      checkDefaultFundAdequacy decimalBackend .ledgerUser rows db =
        .ok (defaultFundAdequacy decimalBackend db, after) := fun rows answers =>
    (checkDefaultFundAdequacy_apply _ _ answers).trans emitted
  have decided : AlertExact db (largestExposures db).sum ↔
      (defaultFundAdequacy decimalBackend db ≠ [] ↔ totalFund db < (largestExposures db).sum) ∧
        ∀ alert ∈ defaultFundAdequacy decimalBackend db,
          alert.body.get? "shortfall" =
            some (.decimal ((largestExposures db).sum - totalFund db)) := by
    constructor
    · rintro ⟨alerts, other, checked, exact⟩
      obtain ⟨rows, answers⟩ := exists_answers db
      cases (checked rows answers).symm.trans (returned rows answers)
      exact exact
    · exact fun exact => ⟨_, after, returned, exact⟩
  rw [decided, RoundsHarmlessly, defaultFundAdequacy, coverTwoRequirement_eq]
  generalize (largestExposures db).sum = exact
  generalize decimalBackend.sum (largestExposures db) = rounded
  have guard : (0 < rounded ∧ totalFund db < rounded) ↔ totalFund db < rounded :=
    and_iff_right_of_imp (totalFund_nonneg db).trans_lt
  rw [if_congr guard rfl rfl]
  by_cases short : totalFund db < rounded
  · have shown : ∀ body : Payload, body.get? "shortfall" =
        some (.decimal (toDigits 28 (rounded - totalFund db))) →
          (body.get? "shortfall" = some (.decimal (exact - totalFund db)) ↔
            toDigits 28 (rounded - totalFund db) = exact - totalFund db) := fun body field => by
      simp [field, Json.decimal]
    rw [if_pos short, List.forall_mem_singleton, shown _ rfl]
    by_cases low : totalFund db < exact
    · rw [if_pos low]
      simp [low, short]
    · rw [if_neg low]
      simp [low, short]
  · rw [if_neg short]
    by_cases low : totalFund db < exact
    · rw [if_pos low]
      simp [low, short]
    · rw [if_neg low]
      simp [low, not_lt.mp short]

/-- Below 10 to the 20 nothing is rounded. -/
theorem roundsHarmlessly_of_lt
    (nonneg : ∀ row ∈ db.marginRequirements, 0 ≤ row.requiredAmount)
    (columns : ∀ row ∈ db.marginRequirements, row.requiredAmount ∈ fixedGrid 8)
    (balances : ∀ row ∈ accountBalances db, row.2 ∈ fixedGrid 8)
    (small : (largestExposures db).sum < 10 ^ 20) : RoundsHarmlessly db := by
  have kept : ∀ x ∈ fixedGrid 8, 0 ≤ x → x < 10 ^ 20 → toDigits 28 x = x := by
    intro x member x_nonneg x_small
    apply toDigits_of_mem_fixedGrid member
    rw [abs_of_nonneg x_nonneg]
    linarith
  have exposures : ∀ x ∈ largestExposures db, x ∈ fixedGrid 8 ∧ 0 ≤ x := by
    intro x member
    have listed := (List.perm_insertionSort _ _).mem_iff.mp (List.mem_of_mem_take member)
    rw [memberExposures_eq] at listed
    obtain ⟨memberId, -, rfl⟩ := List.mem_map.mp listed
    refine ⟨list_sum_mem fun amount inside => ?_, requiredOf_nonneg nonneg memberId⟩
    obtain ⟨row, kept, rfl⟩ := List.mem_map.mp inside
    exact columns row (List.mem_of_mem_filter kept)
  have exact_mem : (largestExposures db).sum ∈ fixedGrid 8 :=
    list_sum_mem fun x member => (exposures x member).1
  have fund_mem : totalFund db ∈ fixedGrid 8 := by
    apply list_sum_mem
    intro balance member
    obtain ⟨row, inside, rfl⟩ := List.mem_map.mp member
    exact balances row (List.mem_of_mem_filter inside)
  have sum_eq : decimalBackend.sum (largestExposures db) = (largestExposures db).sum := by
    have added := roundedSum_eq kept exposures (zero_mem _) le_rfl (by rwa [zero_add])
    rwa [zero_add] at added
  unfold RoundsHarmlessly
  dsimp only
  rw [sum_eq]
  split
  · next low =>
      refine ⟨low, kept _ (sub_mem exact_mem fund_mem) (sub_nonneg.mpr low.le) ?_⟩
      exact (sub_le_self _ (totalFund_nonneg db)).trans_lt small
  · next enough => exact not_lt.mp enough

/-- A house with two active members, each with the same default fund, where the first has some
requirements. -/
def exposedHouse (required : List ℚ) (fund : ℚ) : Database :=
  { Database.opening [⟨1, "LEI1", .active, 0⟩, ⟨2, "LEI2", .active, 0⟩] []
      [⟨11, 1, .defaultFund, "USD", .available⟩, ⟨12, 2, .defaultFund, "USD", .available⟩] 40
      (by decide) (by decide) (by decide) with
    journalEntries := [⟨30, 11, fund, 0⟩, ⟨31, 12, fund, 0⟩]
    marginRequirements := required.mapIdx fun i amount => ⟨20 + i, 1, 5 + i, .initial, amount, 0⟩ }

/-- A fund of twenty is below a requirement of thirty. -/
theorem alertExact_exposedHouse : ∃ largest,
    IsGreatest (combinedExposures (exposedHouse [10, 20] 10)) largest ∧
      AlertExact (exposedHouse [10, 20] 10) largest := by
  obtain ⟨largest, greatest, exact_iff⟩ :=
    alertExact_iff (by decide +kernel :
      ∀ row ∈ (exposedHouse [10, 20] 10).marginRequirements, 0 ≤ row.requiredAmount)
  exact ⟨largest, greatest, exact_iff.mpr (by unfold RoundsHarmlessly; decide +kernel)⟩

/-- Requirements of the largest number that the column holds and of two units more. -/
def vastExposures : Database :=
  exposedHouse [10 ^ 20 - 1 / 10 ^ 8, 2 / 10 ^ 8] (5 * 10 ^ 19)

/-- A fund of 10 to the 20 is one unit below them, but no alert is raised. -/
theorem not_alertExact_vastExposures :
    IsGreatest (combinedExposures vastExposures) (10 ^ 20 + 1 / 10 ^ 8) ∧
      totalFund vastExposures = 10 ^ 20 ∧
      (∀ rows, Answers vastExposures rows →
        checkDefaultFundAdequacy decimalBackend .ledgerUser rows vastExposures =
          .ok ([], vastExposures)) ∧
      ¬AlertExact vastExposures (10 ^ 20 + 1 / 10 ^ 8) := by
  have greatest := isGreatest_largestExposures (by decide +kernel :
    ∀ row ∈ vastExposures.marginRequirements, 0 ≤ row.requiredAmount)
  have largest : (largestExposures vastExposures).sum = 10 ^ 20 + 1 / 10 ^ 8 := by decide +kernel
  have fund : totalFund vastExposures = 10 ^ 20 := by decide +kernel
  have none : defaultFundAdequacy decimalBackend vastExposures = [] := by decide +kernel
  have quiet : ∀ rows, Answers vastExposures rows →
      checkDefaultFundAdequacy decimalBackend .ledgerUser rows vastExposures =
        .ok ([], vastExposures) := fun rows answers => by
    rw [checkDefaultFundAdequacy_apply _ _ answers, none]
    rfl
  refine ⟨largest ▸ greatest, fund, quiet, ?_⟩
  rintro ⟨alerts, after, checked, raised, -⟩
  obtain ⟨rows, answers⟩ := exists_answers vastExposures
  cases (checked rows answers).symm.trans (quiet rows answers)
  rw [fund] at raised
  exact raised.mpr (lt_add_of_pos_right _ (by norm_num)) rfl

end Compliance

end ClearingHouse
