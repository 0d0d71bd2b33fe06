import ClearingHouse.Waterfall.Order

/-!
# Fair shares

In exact arithmetic the two steps that are spread over the survivors take the same fraction of every
weight: what is needed to cover the loss, or the cap when that does not suffice.  Each survivor
asked gets a journal, which moves the amount if both of its accounts exist.  The schema as migrated
admits neither these journals nor the records of the steps, so there both steps raise.
-/

namespace ClearingHouse

namespace Waterfall

open Transactions
open Transaction (bind_eq_ok bind_of_ok read_apply)

/-- The two steps that are spread over the survivors. -/
inductive SpreadStep
  | survivingDefaultFund
  | lossAllocation
  deriving DecidableEq, Repr

namespace SpreadStep

/-- The account that a survivor pays from. -/
def sourceType : SpreadStep → AccountType
  | survivingDefaultFund => .defaultFund
  | lossAllocation => .settlement

/-- The fraction of a weight that is never exceeded. -/
def rate : SpreadStep → ℚ
  | survivingDefaultFund => 1
  | lossAllocation => 1 / 10

def stepType : SpreadStep → StepType
  | survivingDefaultFund => .survivingMembersDefaultFund
  | lossAllocation => .lossAllocation

/-- What the query of a step returns. -/
def rows (step : SpreadStep) (db : Database) (defaulterId : Uuid) : List (Uuid × ℚ) :=
  match step with
  | survivingDefaultFund => survivorFunds db defaulterId
  | lossAllocation => survivorLimits db defaulterId

/-- A step over the rows that its query returned. -/
def spread (step : SpreadStep) (backend : Backend) (eventId : Uuid) (rows : List (Uuid × ℚ))
    (remaining : ℚ) (stepOrder : ℕ) : Sql (ℚ × StepRecord) :=
  match step with
  | survivingDefaultFund =>
      spreadOver backend eventId .defaultFund rows (backend.sum (rows.map Prod.snd)) remaining id
        stepOrder .survivingMembersDefaultFund
  | lossAllocation =>
      spreadOver backend eventId .settlement rows
        (backend.sum ((rows.map Prod.snd).filter fun limit => limit ≠ 0)) remaining
        (allocationCap backend) stepOrder .lossAllocation

/-- The function of a step. -/
def code (step : SpreadStep) (backend : Backend) (eventId defaulterId : Uuid) (remaining : ℚ)
    (stepOrder : ℕ) : Sql (ℚ × StepRecord) :=
  match step with
  | survivingDefaultFund => stepSurvivingDefaultFund backend eventId defaulterId remaining stepOrder
  | lossAllocation => stepLossAllocation backend eventId defaulterId remaining stepOrder

theorem code_eq (step : SpreadStep) (backend : Backend) (eventId defaulterId : Uuid)
    (remaining : ℚ) (stepOrder : ℕ) :
    step.code backend eventId defaulterId remaining stepOrder = (do
      let db ← read
      step.spread backend eventId (step.rows db defaulterId) remaining stepOrder) := by
  cases step <;> rfl

end SpreadStep

/-- A row of the query of a step, with the account that is to pay: the one whose balance is the
weight, or the one that the member settles with. -/
structure Survivor where
  memberId : Uuid
  weight : ℚ
  payer : Option Account
  deriving DecidableEq

/-- The columns of the row. -/
def Survivor.row (survivor : Survivor) : Uuid × ℚ := (survivor.memberId, survivor.weight)

/-- The survivors that a step is spread over. -/
def SpreadStep.survivors (step : SpreadStep) (db : Database) (defaulterId : Uuid) :
    List Survivor :=
  match step with
  | survivingDefaultFund =>
      (Waterfall.survivors db defaulterId).flatMap fun member =>
        ((accountBalances db).filter fun row =>
            row.1.memberId = member.id ∧ row.1.accountType = .defaultFund ∧
              row.1.pool = .available ∧ 0 < row.2).map fun row => ⟨member.id, row.2, some row.1⟩
  | lossAllocation =>
      (Waterfall.survivors db defaulterId).map fun member =>
        ⟨member.id, member.creditLimit, findAccount db member.id .settlement .available⟩

theorem rows_eq (step : SpreadStep) (db : Database) (defaulterId : Uuid) :
    step.rows db defaulterId = (step.survivors db defaulterId).map Survivor.row := by
  cases step with
  | survivingDefaultFund =>
      rw [SpreadStep.survivors, List.map_flatMap]
      simp only [List.map_map]
      rfl
  | lossAllocation =>
      rw [SpreadStep.survivors, List.map_map]
      rfl

/-- Sum of the weights. -/
def weightTotal (rows : List (Uuid × ℚ)) : ℚ := (rows.map Prod.snd).sum

/-- Sum of the weights of some survivors. -/
def totalOf (survivors : List Survivor) : ℚ := (survivors.map Survivor.weight).sum

/-- What a weight bears: its share of the loss, or its cap; nothing when there is no weight. -/
def SpreadStep.bears (step : SpreadStep) (total remaining weight : ℚ) : ℚ :=
  if total = 0 then 0 else min (weight * remaining / total) (weight * step.rate)

/-- What a spread step returns. -/
def SpreadStep.outcome (step : SpreadStep) (total remaining : ℚ) (stepOrder : ℕ) :
    ℚ × StepRecord :=
  (remaining - min remaining (total * step.rate),
    ⟨stepOrder, step.stepType, total, min remaining (total * step.rate),
      remaining - min remaining (total * step.rate)⟩)

/-- The survivors that bear something. -/
def SpreadStep.demands (step : SpreadStep) (rows : List (Uuid × ℚ)) (remaining : ℚ) :
    List Posting :=
  (rows.map fun row =>
    (⟨row.1, step.sourceType, step.bears (weightTotal rows) remaining row.2⟩ : Posting)).filter
      fun posting => 0 < posting.amount

/-- An amount that an account is to pay. -/
structure Charge where
  payer : Option Account
  amount : ℚ

/-- What the survivors that bear something are to pay. -/
def SpreadStep.charges (step : SpreadStep) (survivors : List Survivor) (remaining : ℚ) :
    List Charge :=
  (survivors.map fun survivor =>
    (⟨survivor.payer, step.bears (totalOf survivors) remaining survivor.weight⟩ : Charge)).filter
      fun charge => 0 < charge.amount

/-- A journal of the waterfall. -/
def waterfallJournal (eventId journalId : Uuid) : Journal :=
  ⟨journalId, .defaultWaterfallStep, "default_event", some eventId, .confirmed⟩

/-- The entries of a journal move an amount from the account that is to pay to the house. -/
def Moves (db : Database) (charge : Charge) (row : Uuid × List JournalEntry) : Prop :=
  ∃ source recovery, charge.payer = some source ∧ recoveryAccount db = some recovery ∧
    row.2 = [⟨row.1, source.id, 0, charge.amount⟩, ⟨row.1, recovery.id, charge.amount, 0⟩]

/-- The rows of one journal for each charge have been appended. -/
structure PostedRows (eventId : Uuid) (db : Database) (charges : List Charge)
    (rows : List (Uuid × List JournalEntry)) (after : Database) : Prop where
  members : after.members = db.members
  accounts : after.accounts = db.accounts
  later : db.nextUuid ≤ after.nextUuid
  fresh : ∀ row ∈ rows, db.nextUuid ≤ row.1 ∧ row.1 < after.nextUuid
  distinct : (rows.map Prod.fst).Nodup
  journals : after.journals = db.journals ++ rows.map fun row => waterfallJournal eventId row.1
  entries : after.journalEntries = db.journalEntries ++ rows.flatMap Prod.snd
  moves : List.Forall₂ (Moves db) charges rows

/-- One journal is posted for each charge, and none besides. -/
def PostsEach (eventId : Uuid) (db : Database) (charges : List Charge) (after : Database) : Prop :=
  ∃ rows, PostedRows eventId db charges rows after

/-- The loss is borne in proportion to the weights and to the full, as far as the caps allow. -/
structure Fair (step : SpreadStep) (eventId : Uuid) (survivors : List Survivor) (remaining : ℚ)
    (stepOrder : ℕ) (db : Database) (result : ℚ × StepRecord) (after : Database) : Prop where
  proportional : ∃ factor, 0 ≤ factor ∧ factor ≤ step.rate ∧ ∀ survivor ∈ survivors,
    step.bears (totalOf survivors) remaining survivor.weight = factor * survivor.weight
  together : (survivors.map fun survivor =>
      step.bears (totalOf survivors) remaining survivor.weight).sum =
    min remaining (totalOf survivors * step.rate)
  returned : result = step.outcome (totalOf survivors) remaining stepOrder
  posted : PostsEach eventId db (step.charges survivors remaining) after

variable {step : SpreadStep} {rows : List (Uuid × ℚ)} {remaining : ℚ} {eventId : Uuid}
  {stepOrder : ℕ} {db middle after : Database}

theorem SpreadStep.rate_pos (step : SpreadStep) : 0 < step.rate := by
  cases step
  · exact one_pos
  · exact one_div_pos.mpr (by norm_num)

/-- The fraction of its weight that every survivor bears. -/
def SpreadStep.fraction (step : SpreadStep) (total remaining : ℚ) : ℚ :=
  if total = 0 then 0 else min (remaining / total) step.rate

theorem weightTotal_nonneg (weights : ∀ row ∈ rows, 0 ≤ row.2) : 0 ≤ weightTotal rows := by
  apply List.sum_nonneg
  intro weight member
  obtain ⟨row, inside, rfl⟩ := List.mem_map.mp member
  exact weights row inside

theorem bears_eq (step : SpreadStep) (total remaining : ℚ) {weight : ℚ} (nonneg : 0 ≤ weight) :
    step.bears total remaining weight = weight * step.fraction total remaining := by
  rw [SpreadStep.bears, SpreadStep.fraction]
  split
  · rw [mul_zero]
  · rw [← ProRata.min_share_cap nonneg, ProRata.share, div_mul_eq_mul_div]

theorem fraction_nonneg (step : SpreadStep) {total remaining : ℚ} (total_nonneg : 0 ≤ total)
    (loss_nonneg : 0 ≤ remaining) : 0 ≤ step.fraction total remaining := by
  rw [SpreadStep.fraction]
  split
  · exact le_rfl
  · exact le_min (div_nonneg loss_nonneg total_nonneg) step.rate_pos.le

theorem fraction_le (step : SpreadStep) (total remaining : ℚ) :
    step.fraction total remaining ≤ step.rate := by
  rw [SpreadStep.fraction]
  split
  · exact step.rate_pos.le
  · exact min_le_right _ _

/-- Together the survivors bear the loss or all their caps. -/
theorem sum_bears (step : SpreadStep) (weights : ∀ row ∈ rows, 0 ≤ row.2)
    (loss_nonneg : 0 ≤ remaining) :
    (rows.map fun row => step.bears (weightTotal rows) remaining row.2).sum =
      min remaining (weightTotal rows * step.rate) := by
  rw [List.map_congr_left fun row member => bears_eq step _ remaining (weights row member),
    List.sum_map_mul_right]
  change weightTotal rows * step.fraction (weightTotal rows) remaining = _
  rw [SpreadStep.fraction]
  split
  · next empty => rw [empty, mul_zero, zero_mul, min_eq_right loss_nonneg]
  · next weighted =>
      rw [mul_min_of_nonneg _ _ (weightTotal_nonneg weights), mul_div_cancel₀ _ weighted]

/-- In exact arithmetic the survivors asked are those that bear something. -/
theorem asked_exactBackend (step : SpreadStep) (weights : ∀ row ∈ rows, 0 ≤ row.2) :
    asked exactBackend step.sourceType rows (weightTotal rows) (fun weight => weight * step.rate)
      remaining = step.demands rows remaining := by
  rcases (weightTotal_nonneg weights).eq_or_lt with empty | positive
  · rw [asked, if_neg empty.not_lt, SpreadStep.demands, eq_comm, List.filter_eq_nil_iff]
    intro posting member
    obtain ⟨row, -, rfl⟩ := List.mem_map.mp member
    simp [SpreadStep.bears, ← empty]
  · rw [asked, if_pos positive, SpreadStep.demands, List.filter_map, ← List.filterMap_eq_map,
      List.filterMap_filter]
    apply List.filterMap_congr
    intro row member
    have contribution_eq : contribution exactBackend (weightTotal rows) remaining
        (fun weight => weight * step.rate) row.2 =
          step.bears (weightTotal rows) remaining row.2 := by
      rw [SpreadStep.bears, if_neg positive.ne', ← div_mul_eq_mul_div]
      rfl
    have weighted : 0 < step.bears (weightTotal rows) remaining row.2 → 0 < row.2 := by
      rw [SpreadStep.bears, if_neg positive.ne']
      intro bears
      exact pos_of_mul_pos_left (bears.trans_le (min_le_right _ _)) step.rate_pos.le
    rw [ask, contribution_eq]
    by_cases bears : 0 < step.bears (weightTotal rows) remaining row.2
    · simp [bears, weighted bears]
    · simp [bears]

theorem Moves.of_lookups {charge : Charge} {row : Uuid × List JournalEntry}
    (members : after.members = db.members) (accounts : after.accounts = db.accounts)
    (moves : Moves after charge row) : Moves db charge row := by
  have recovery_eq : recoveryAccount after = recoveryAccount db := by
    simp only [recoveryAccount, findCcp, findAccount, members, accounts]
  rwa [Moves, recovery_eq] at moves

namespace PostedRows

variable {charges later : List Charge} {first second : List (Uuid × List JournalEntry)}

/-- Nothing was posted. -/
theorem of_unposted (members : after.members = db.members) (accounts : after.accounts = db.accounts)
    (journals : after.journals = db.journals) (entries : after.journalEntries = db.journalEntries)
    (later : db.nextUuid ≤ after.nextUuid) : PostedRows eventId db [] [] after :=
  ⟨members, accounts, later, by simp, by simp, by simp [journals], by simp [entries], .nil⟩

theorem trans (sooner : PostedRows eventId db charges first middle)
    (further : PostedRows eventId middle later second after) :
    PostedRows eventId db (charges ++ later) (first ++ second) after where
  members := further.members.trans sooner.members
  accounts := further.accounts.trans sooner.accounts
  later := sooner.later.trans further.later
  fresh := by
    intro row member
    rcases List.mem_append.mp member with member | member
    · exact ⟨(sooner.fresh row member).1, (sooner.fresh row member).2.trans_le further.later⟩
    · exact ⟨sooner.later.trans (further.fresh row member).1, (further.fresh row member).2⟩
  distinct := by
    rw [List.map_append, List.nodup_append]
    refine ⟨sooner.distinct, further.distinct, fun _ left _ right same => ?_⟩
    obtain ⟨row, member, rfl⟩ := List.mem_map.mp left
    obtain ⟨other, there, rfl⟩ := List.mem_map.mp right
    exact ((sooner.fresh row member).2.trans_le (further.fresh other there).1).ne same
  journals := by rw [further.journals, sooner.journals, List.map_append, List.append_assoc]
  entries := by rw [further.entries, sooner.entries, List.flatMap_append, List.append_assoc]
  moves := List.rel_append sooner.moves
    (further.moves.imp fun _ _ moves => moves.of_lookups sooner.members sooner.accounts)

end PostedRows

/-- The account that a posting draws on, with its amount. -/
def Posting.charge (db : Database) (posting : Posting) : Charge :=
  ⟨posting.account db, posting.amount⟩

/-- The accounts that a posting moves its amount between exist. -/
def Posting.Known (db : Database) (posting : Posting) : Prop :=
  (posting.account db).isSome ∧ (recoveryAccount db).isSome

/-- A journal whose accounts exist moves its amount. -/
theorem createWaterfallJournal_moves {posting : Posting} {journalId : Uuid}
    (known : posting.Known db)
    (ran : createWaterfallJournal exactBackend eventId posting.memberId posting.amount
      posting.sourceType db = .ok (journalId, after)) :
    PostsEach eventId db [posting.charge db] after := by
  obtain ⟨source, source_found⟩ := Option.isSome_iff_exists.mp known.1
  obtain ⟨recovery, recovery_found⟩ := Option.isSome_iff_exists.mp known.2
  obtain ⟨-, -, announced⟩ := createWaterfallJournal_eq_ok.mp ran
  obtain ⟨_, _, ⟨⟩, ⟨⟩⟩ := bind_eq_ok.mp announced
  refine ⟨[(db.nextUuid, [⟨db.nextUuid, source.id, 0, posting.amount⟩,
    ⟨db.nextUuid, recovery.id, posting.amount, 0⟩])], rfl, rfl, ?_, ?_, by simp, rfl, ?_, ?_⟩
  · exact (Nat.le_succ db.nextUuid).trans (Nat.le_add_right _ 2)
  · simp only [List.mem_singleton, forall_eq]
    exact ⟨le_rfl, (Nat.lt_succ_self db.nextUuid).trans_le (Nat.le_add_right _ 2)⟩
  · change db.journalEntries ++ sourceEntries exactBackend db db.nextUuid posting ++
      recoveryEntries exactBackend db db.nextUuid posting = _
    rw [sourceEntries, recoveryEntries, source_found, recovery_found, List.append_assoc]
    rfl
  · exact .cons ⟨source, recovery, source_found, recovery_found, rfl⟩ .nil

/-- The loop posts one journal for each survivor that is asked. -/
private theorem collectLoop_postsEach {sourceType : AccountType} {total : ℚ} {cap : ℚ → ℚ}
    {start result : ℚ}
    (known : ∀ posting ∈ rows.filterMap (ask exactBackend sourceType total cap remaining),
      posting.Known db)
    (ran : rows.foldlM (collectFrom exactBackend eventId sourceType total remaining cap) start db =
      .ok (result, after)) :
    PostsEach eventId db ((rows.filterMap (ask exactBackend sourceType total cap remaining)).map
      (Posting.charge db)) after := by
  induction rows generalizing start db with
  | nil =>
      cases ran
      exact ⟨[], .of_unposted rfl rfl rfl rfl le_rfl⟩
  | cons row rows induction =>
      rw [List.foldlM_cons, collectFrom_eq] at ran
      obtain ⟨next, middle, head, tail⟩ := bind_eq_ok.mp ran
      rw [List.filterMap_cons] at known ⊢
      cases request : ask exactBackend sourceType total cap remaining row with
      | none =>
          rw [request] at head known
          cases head
          exact induction known tail
      | some posting =>
          rw [request] at head known
          obtain ⟨first, further⟩ := List.forall_mem_cons.mp known
          obtain ⟨_, _, journal, ⟨⟩⟩ := bind_eq_ok.mp head
          obtain ⟨opened, sooner⟩ := createWaterfallJournal_moves first journal
          have posted := (createWaterfallJournal_posted posting journal).1
          have same : Posting.charge middle = Posting.charge db :=
            funext fun p => by rw [Posting.charge, posted.account_eq, Posting.charge]
          have still : ∀ p ∈ rows.filterMap (ask exactBackend sourceType total cap remaining),
              p.Known middle := by
            intro p member
            rw [Posting.Known, posted.account_eq, posted.recoveryAccount_eq]
            exact further p member
          obtain ⟨rest, later⟩ := induction still tail
          rw [same] at later
          exact ⟨opened ++ rest, sooner.trans later⟩

private theorem collect_postsEach {sourceType : AccountType} {total : ℚ} {cap : ℚ → ℚ}
    {result : ℚ}
    (known : ∀ posting ∈ asked exactBackend sourceType rows total cap remaining, posting.Known db)
    (ran : collect exactBackend eventId sourceType rows total remaining cap db =
      .ok (result, after)) :
    PostsEach eventId db ((asked exactBackend sourceType rows total cap remaining).map
      (Posting.charge db)) after := by
  unfold collect at ran
  unfold asked at known ⊢
  split at ran
  · next positive =>
      rw [if_pos positive] at known ⊢
      exact collectLoop_postsEach known ran
  · next idle =>
      cases ran
      rw [if_neg idle]
      exact ⟨[], .of_unposted rfl rfl rfl rfl le_rfl⟩

private theorem recordStep_postsNothing {stepType : StepType} {available applied left : ℚ}
    {journalId : Option Uuid} {record : StepRecord}
    (ran : recordStep exactBackend eventId stepOrder stepType available applied left journalId db =
      .ok (record, after)) : PostedRows eventId db [] [] after := by
  let relation : Database → Database → Prop := fun db after => PostedRows eventId db [] [] after
  have refl : Std.Refl relation := ⟨fun _ => .of_unposted rfl rfl rfl rfl le_rfl⟩
  have trans : IsTrans Database relation := ⟨fun _ _ _ sooner later => sooner.trans later⟩
  refine (respects_recordStep ?_ ?_ _ _ _ _ _ _ _ : Transaction.Respects relation _) ran
  · rintro db number after ⟨⟩
    exact .of_unposted rfl rfl rfl rfl (Nat.le_succ db.nextUuid)
  · exact fun db rows => .of_unposted rfl rfl rfl rfl le_rfl

/-- In exact arithmetic both steps are one step with the rate of the step. -/
theorem spread_exactBackend (step : SpreadStep) (eventId : Uuid) (rows : List (Uuid × ℚ))
    (remaining : ℚ) (stepOrder : ℕ) :
    step.spread exactBackend eventId rows remaining stepOrder =
      spreadOver exactBackend eventId step.sourceType rows (weightTotal rows) remaining
        (fun weight => weight * step.rate) stepOrder step.stepType := by
  cases step with
  | survivingDefaultFund =>
      have cap : (fun weight : ℚ => weight * SpreadStep.survivingDefaultFund.rate) = id :=
        funext mul_one
      rw [SpreadStep.spread, exactBackend_sum, cap]
      rfl
  | lossAllocation =>
      rw [SpreadStep.spread, exactBackend_sum, sum_filter_nonzero]
      rfl

/-- What the survivors are asked for adds up to the loss or to all their caps. -/
theorem sum_demands (step : SpreadStep) (weights : ∀ row ∈ rows, 0 ≤ row.2)
    (loss_nonneg : 0 ≤ remaining) :
    ((step.demands rows remaining).map Posting.amount).sum =
      min remaining (weightTotal rows * step.rate) := by
  rw [← sum_bears step weights loss_nonneg, SpreadStep.demands]
  have bears_nonneg : ∀ row ∈ rows, 0 ≤ step.bears (weightTotal rows) remaining row.2 := by
    intro row member
    rw [bears_eq step _ remaining (weights row member)]
    exact mul_nonneg (weights row member)
      (fraction_nonneg step (weightTotal_nonneg weights) loss_nonneg)
  generalize weightTotal rows = total at bears_nonneg
  clear weights
  induction rows with
  | nil => rfl
  | cons row rows induction =>
      obtain ⟨first, further⟩ := List.forall_mem_cons.mp bears_nonneg
      have rest := induction further
      rcases first.eq_or_lt with idle | positive
      · rw [List.map_cons, List.filter_cons_of_neg (by simp [← idle]), rest, List.map_cons,
          List.sum_cons, ← idle, zero_add]
      · rw [List.map_cons, List.filter_cons_of_pos (by simpa using positive), List.map_cons,
          List.sum_cons, rest, List.map_cons, List.sum_cons]

/-- A spread step runs, and returns what it should. -/
theorem spread_runs (step : SpreadStep) (weights : ∀ row ∈ rows, 0 ≤ row.2)
    (loss_nonneg : 0 ≤ remaining) (eventId : Uuid) (stepOrder : ℕ) (db : Database) :
    ∃ after, step.spread exactBackend eventId rows remaining stepOrder db =
      .ok (step.outcome (weightTotal rows) remaining stepOrder, after) := by
  have written : step.stepType ∈ writtenStepTypes := by cases step <;> decide
  have performs := spreadOver_performs exactBackend step.stepType written eventId step.sourceType
    rows (weightTotal rows) remaining (fun weight => weight * step.rate) 0 stepOrder db
  rw [spread_exactBackend]
  obtain ⟨result, after, ran⟩ := performs.runs exactBackend_admits
    ⟨rfl, rfl, rfl, fun posting member _ => ⟨_, rfl, (asked_source member).2.choose_spec.2.2.2⟩⟩
  refine ⟨after, ran.trans ?_⟩
  rw [(performs.ran ran).1]
  have taken : exactBackend.sum ((asked exactBackend step.sourceType rows (weightTotal rows)
      (fun weight => weight * step.rate) remaining).map Posting.amount) =
        min remaining (weightTotal rows * step.rate) := by
    rw [exactBackend_sum, asked_exactBackend step weights, sum_demands step weights loss_nonneg]
  simp only [spreadTier, taken, exactBackend_sub, SpreadStep.outcome]

/-- A spread step whose accounts exist posts a journal for each survivor that bears something. -/
theorem spread_postsEach (step : SpreadStep) (weights : ∀ row ∈ rows, 0 ≤ row.2)
    (known : ∀ posting ∈ step.demands rows remaining, posting.Known db) {result : ℚ × StepRecord}
    (ran : step.spread exactBackend eventId rows remaining stepOrder db = .ok (result, after)) :
    PostsEach eventId db ((step.demands rows remaining).map (Posting.charge db)) after := by
  rw [spread_exactBackend] at ran
  obtain ⟨applied, middle, collected, ran⟩ := bind_eq_ok.mp ran
  obtain ⟨record, _, recorded, ⟨⟩⟩ := bind_eq_ok.mp ran
  rw [← asked_exactBackend step weights] at known ⊢
  obtain ⟨opened, sooner⟩ := collect_postsEach known collected
  have finished := sooner.trans (recordStep_postsNothing recorded)
  rw [List.append_nil, List.append_nil] at finished
  exact ⟨opened, finished⟩

/-- Exactly the survivors with a weight bear something of a loss. -/
theorem bears_pos_iff (step : SpreadStep) (weights : ∀ row ∈ rows, 0 ≤ row.2)
    (loss_nonneg : 0 ≤ remaining) {row : Uuid × ℚ} (member : row ∈ rows) :
    0 < step.bears (weightTotal rows) remaining row.2 ↔ 0 < remaining ∧ 0 < row.2 := by
  have weight_le : row.2 ≤ weightTotal rows := by
    refine List.single_le_sum (fun weight inside => ?_) _ (List.mem_map_of_mem member)
    obtain ⟨other, there, rfl⟩ := List.mem_map.mp inside
    exact weights other there
  rw [bears_eq step _ remaining (weights row member)]
  constructor
  · intro bears
    have weighted := pos_of_mul_pos_left bears
      (fraction_nonneg step (weightTotal_nonneg weights) loss_nonneg)
    refine ⟨loss_nonneg.lt_of_ne fun none => bears.ne' ?_, weighted⟩
    rw [SpreadStep.fraction, ← none, zero_div, min_eq_left step.rate_pos.le, ite_self, mul_zero]
  · rintro ⟨loss_pos, weighted⟩
    have total_pos := weighted.trans_le weight_le
    rw [SpreadStep.fraction, if_neg total_pos.ne']
    exact mul_pos weighted (lt_min (div_pos loss_pos total_pos) step.rate_pos)

variable {survivors : List Survivor}

/-- While there is a loss, every survivor with a weight has its account, the code finds that one and
no other of the member, and the account that collects exists. -/
def SpreadStep.AccountsKnown (step : SpreadStep) (db : Database) (survivors : List Survivor)
    (remaining : ℚ) : Prop :=
  0 < remaining → ∀ survivor ∈ survivors, 0 < survivor.weight →
    findAccount db survivor.memberId step.sourceType .available = survivor.payer ∧
      survivor.payer.isSome ∧ (recoveryAccount db).isSome

theorem totalOf_eq (survivors : List Survivor) :
    weightTotal (survivors.map Survivor.row) = totalOf survivors := by
  rw [weightTotal, List.map_map]
  rfl

theorem row_weights (weights : ∀ survivor ∈ survivors, 0 ≤ survivor.weight) :
    ∀ row ∈ survivors.map Survivor.row, 0 ≤ row.2 := by
  intro row member
  obtain ⟨survivor, inside, rfl⟩ := List.mem_map.mp member
  exact weights survivor inside

/-- A survivor that bears something has its account. -/
theorem SpreadStep.AccountsKnown.of_bears {survivor : Survivor}
    (known : step.AccountsKnown db survivors remaining)
    (weights : ∀ survivor ∈ survivors, 0 ≤ survivor.weight) (loss_nonneg : 0 ≤ remaining)
    (inside : survivor ∈ survivors)
    (bears : 0 < step.bears (totalOf survivors) remaining survivor.weight) :
    findAccount db survivor.memberId step.sourceType .available = survivor.payer ∧
      survivor.payer.isSome ∧ (recoveryAccount db).isSome := by
  rw [← totalOf_eq] at bears
  obtain ⟨loss_pos, weighted⟩ := (bears_pos_iff step (row_weights weights) loss_nonneg
    (List.mem_map_of_mem (f := Survivor.row) inside)).mp bears
  exact known loss_pos survivor inside weighted

/-- The postings of the code are the charges of the survivors. -/
theorem charges_eq (known : step.AccountsKnown db survivors remaining)
    (weights : ∀ survivor ∈ survivors, 0 ≤ survivor.weight) (loss_nonneg : 0 ≤ remaining) :
    (step.demands (survivors.map Survivor.row) remaining).map (Posting.charge db) =
      step.charges survivors remaining := by
  rw [SpreadStep.demands, SpreadStep.charges, totalOf_eq, List.map_map, List.filter_map,
    List.filter_map, List.map_map]
  apply List.map_congr_left
  intro survivor member
  obtain ⟨inside, bears⟩ := List.mem_filter.mp member
  obtain ⟨payer, -, -⟩ :=
    known.of_bears weights loss_nonneg inside (of_decide_eq_true bears)
  exact congrArg₂ Charge.mk payer rfl

theorem known_of_accounts (known : step.AccountsKnown db survivors remaining)
    (weights : ∀ survivor ∈ survivors, 0 ≤ survivor.weight) (loss_nonneg : 0 ≤ remaining) :
    ∀ posting ∈ step.demands (survivors.map Survivor.row) remaining, posting.Known db := by
  intro posting member
  rw [SpreadStep.demands, totalOf_eq, List.map_map] at member
  obtain ⟨mapped, bears⟩ := List.mem_filter.mp member
  obtain ⟨survivor, inside, rfl⟩ := List.mem_map.mp mapped
  obtain ⟨payer, exists_payer, collects⟩ :=
    known.of_bears weights loss_nonneg inside (of_decide_eq_true bears)
  refine ⟨?_, collects⟩
  change (findAccount db survivor.memberId step.sourceType .available).isSome
  rwa [payer]

/-- A spread step whose accounts exist is fair. -/
theorem spread_fair (step : SpreadStep) (eventId : Uuid) (stepOrder : ℕ)
    (known : step.AccountsKnown db survivors remaining)
    (weights : ∀ survivor ∈ survivors, 0 ≤ survivor.weight) (loss_nonneg : 0 ≤ remaining) :
    ∃ after,
      step.spread exactBackend eventId (survivors.map Survivor.row) remaining stepOrder db =
        .ok (step.outcome (totalOf survivors) remaining stepOrder, after) ∧
      Fair step eventId survivors remaining stepOrder db
        (step.outcome (totalOf survivors) remaining stepOrder) after := by
  have rows_nonneg := row_weights weights
  obtain ⟨after, ran⟩ := spread_runs step rows_nonneg loss_nonneg eventId stepOrder db
  have posted := spread_postsEach step rows_nonneg
    (known_of_accounts known weights loss_nonneg) ran
  have together := sum_bears step rows_nonneg loss_nonneg
  have total_nonneg := weightTotal_nonneg rows_nonneg
  rw [charges_eq known weights loss_nonneg] at posted
  rw [List.map_map] at together
  rw [totalOf_eq] at ran together total_nonneg
  refine ⟨after, ran, ⟨step.fraction (totalOf survivors) remaining,
    fraction_nonneg step total_nonneg loss_nonneg, fraction_le step _ remaining, ?_⟩,
    together, rfl, posted⟩
  exact fun survivor inside =>
    (bears_eq step _ remaining (weights survivor inside)).trans (mul_comm ..)

/-- A step that reads its survivors is fair, and in whatever order they come it returns the same and
is fair. -/
def SpreadStep.FairIn (backend : Backend) (step : SpreadStep) (eventId defaulterId : Uuid)
    (remaining : ℚ) (stepOrder : ℕ) (db : Database) : Prop :=
  ∃ result after,
    step.code backend eventId defaulterId remaining stepOrder db = .ok (result, after) ∧
    Fair step eventId (step.survivors db defaulterId) remaining stepOrder db result after ∧
    ∀ survivors, (step.survivors db defaulterId).Perm survivors → ∃ other,
      step.spread backend eventId (survivors.map Survivor.row) remaining stepOrder db =
        .ok (result, other) ∧
      Fair step eventId survivors remaining stepOrder db result other

/-- Under `CHECK` lists that admit its literals, a spread step is fair if every survivor with a
weight has the account that the step is to draw on. -/
theorem fairIn_of_known (step : SpreadStep) (eventId defaulterId : Uuid)
    (loss_nonneg : 0 ≤ remaining) (stepOrder : ℕ)
    (weights : ∀ survivor ∈ step.survivors db defaulterId, 0 ≤ survivor.weight)
    (known : step.AccountsKnown db (step.survivors db defaulterId) remaining) :
    step.FairIn exactBackend eventId defaulterId remaining stepOrder db := by
  obtain ⟨after, ran, fair⟩ := spread_fair step eventId stepOrder known weights loss_nonneg
  refine ⟨_, after, ?_, fair, fun survivors permuted => ?_⟩
  · rw [step.code_eq, bind_of_ok (read_apply db), rows_eq]
    exact ran
  · have same : totalOf (step.survivors db defaulterId) = totalOf survivors :=
      (permuted.map Survivor.weight).sum_eq
    rw [same]
    refine spread_fair step eventId stepOrder ?_ ?_ loss_nonneg
    · exact fun loss_pos survivor inside =>
        known loss_pos survivor (permuted.mem_iff.mpr inside)
    · exact fun survivor inside => weights survivor (permuted.mem_iff.mpr inside)

/-- Exact arithmetic and unbounded columns under the `CHECK` lists as migrated. -/
def exactMigratedBackend : Backend :=
  { exactBackend with
    journalTypes := checkedJournalTypes
    stepTypes := checkedStepTypes
    defaultStatuses := checkedDefaultStatuses }

theorem recordStep_refused (step : SpreadStep) (eventId : Uuid) (stepOrder : ℕ)
    (available applied left : ℚ) (db : Database) :
    recordStep exactMigratedBackend eventId stepOrder step.stepType available applied left none
      db = .error (.server (.checkViolation "chk_waterfall_step_type")) := by
  cases step <;> rfl

theorem createWaterfallJournal_refused (eventId memberId : Uuid) (amount : ℚ)
    (sourceType : AccountType) (db : Database) :
    createWaterfallJournal exactMigratedBackend eventId memberId amount sourceType db =
      .error (.server (.checkViolation "chk_journals_type")) := rfl

/-- The loop passes over the survivors that are asked for nothing and fails at the first other. -/
theorem collectLoop_refused (eventId : Uuid) (sourceType : AccountType) (total remaining : ℚ)
    (cap : ℚ → ℚ) (start : ℚ) (rows : List (Uuid × ℚ)) (db : Database) :
    rows.foldlM (collectFrom exactMigratedBackend eventId sourceType total remaining cap) start
        db = .ok (start, db) ∨
      rows.foldlM (collectFrom exactMigratedBackend eventId sourceType total remaining cap) start
        db = .error (.server (.checkViolation "chk_journals_type")) := by
  induction rows with
  | nil => exact .inl rfl
  | cons row rows induction =>
      rw [List.foldlM_cons, collectFrom_eq]
      cases ask exactMigratedBackend sourceType total cap remaining row with
      | none => exact induction
      | some posting =>
          exact .inr (Transaction.bind_of_error
            (Transaction.bind_of_error (createWaterfallJournal_refused ..)))

theorem spreadOver_refused (step : SpreadStep) (eventId : Uuid) (sourceType : AccountType)
    (rows : List (Uuid × ℚ)) (total remaining : ℚ) (cap : ℚ → ℚ) (stepOrder : ℕ)
    (db : Database) : ∃ constraint,
    spreadOver exactMigratedBackend eventId sourceType rows total remaining cap stepOrder
      step.stepType db = .error (.server (.checkViolation constraint)) := by
  have collected : collect exactMigratedBackend eventId sourceType rows total remaining cap db =
        .ok (0, db) ∨
      collect exactMigratedBackend eventId sourceType rows total remaining cap db =
        .error (.server (.checkViolation "chk_journals_type")) := by
    rw [collect]
    split
    · exact collectLoop_refused eventId sourceType total remaining cap 0 rows db
    · exact .inl rfl
  rcases collected with passed | failed
  · refine ⟨"chk_waterfall_step_type", ?_⟩
    rw [spreadOver, Transaction.bind_of_ok passed]
    exact Transaction.bind_of_error (recordStep_refused step eventId stepOrder total 0 _ db)
  · exact ⟨"chk_journals_type", Transaction.bind_of_error failed⟩

/-- As migrated both steps raise, whatever there is to spread. -/
theorem code_refused (step : SpreadStep) (eventId defaulterId : Uuid) (remaining : ℚ)
    (stepOrder : ℕ) (db : Database) : ∃ constraint,
    step.code exactMigratedBackend eventId defaulterId remaining stepOrder db =
      .error (.server (.checkViolation constraint)) := by
  cases step with
  | survivingDefaultFund => exact spreadOver_refused .survivingDefaultFund ..
  | lossAllocation => exact spreadOver_refused .lossAllocation ..

/-- As migrated no step is fair, whoever the survivors are and whatever the loss. -/
theorem spreadStep_never_fair (step : SpreadStep) (eventId defaulterId : Uuid) (remaining : ℚ)
    (stepOrder : ℕ) (db : Database) :
    ¬step.FairIn exactMigratedBackend eventId defaulterId remaining stepOrder db := by
  rintro ⟨result, after, ran, -, -⟩
  obtain ⟨constraint, refused⟩ :=
    code_refused step eventId defaulterId remaining stepOrder db
  cases refused.symm.trans ran

/-- A house whose members but the first are registered with credit limits of 200, 100 and 50. -/
def survivorHouse : Database :=
  Database.opening
    [⟨0, ccpLei, .active, 0⟩, ⟨1, "MEMBER1", .active, 200⟩, ⟨2, "MEMBER2", .active, 100⟩,
      ⟨3, "MEMBER3", .active, 50⟩] []
    [⟨10, 0, .settlement, "USD", .available⟩, ⟨20, 2, .settlement, "USD", .available⟩,
      ⟨30, 3, .settlement, "USD", .available⟩]
    2000 (by decide) (by simp) (by simp [Account.key])

/-- A loss of 6 of the first member would fall by 4 on the second and by 2 on the third, whose
accounts exist.  As migrated the step raises. -/
theorem not_fair_survivorHouse : Reachable migratedBackend survivorHouse ∧
    (SpreadStep.lossAllocation.survivors survivorHouse 1).map Survivor.row =
      [(0, 0), (2, 100), (3, 50)] ∧
    SpreadStep.lossAllocation.AccountsKnown survivorHouse
      (SpreadStep.lossAllocation.survivors survivorHouse 1) 6 ∧
    SpreadStep.lossAllocation.code exactMigratedBackend 7 1 6 5 survivorHouse =
      .error (.server (.checkViolation "chk_journals_type")) ∧
    ¬SpreadStep.lossAllocation.FairIn exactMigratedBackend 7 1 6 5 survivorHouse := by
  have refused : SpreadStep.lossAllocation.code exactMigratedBackend 7 1 6 5 survivorHouse =
      .error (.server (.checkViolation "chk_journals_type")) := by
    have raised : (match SpreadStep.lossAllocation.code exactMigratedBackend 7 1 6 5
        survivorHouse with
      | .error failure => some failure
      | .ok _ => none) = some (.server (.checkViolation "chk_journals_type")) := by decide +kernel
    cases ran : SpreadStep.lossAllocation.code exactMigratedBackend 7 1 6 5 survivorHouse with
    | error failure =>
        rw [ran] at raised
        exact congrArg Except.error (Option.some.inj raised)
    | ok result =>
        rw [ran] at raised
        cases raised
  refine ⟨⟨survivorHouse, ⟨rfl, by decide +kernel⟩, .refl _⟩, by decide +kernel, ?_, refused, ?_⟩
  · rw [SpreadStep.AccountsKnown]
    decide +kernel
  · rintro ⟨result, after, ran, -, -⟩
    cases refused.symm.trans ran

end Waterfall

end ClearingHouse
