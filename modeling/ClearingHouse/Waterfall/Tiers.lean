import ClearingHouse.Library.LossTiers
import ClearingHouse.Waterfall.Postings

/-!
# The waterfall as tiers

The five steps are tiers that absorb a loss.  Each step function performs its tier: it returns what
the tier takes, posts the tier's postings and raises exactly when an amount does not survive
storage.  So the whole waterfall is the absorption of the loss by the tiers read from the database
before it.
-/

namespace ClearingHouse

namespace Waterfall

open LossTiers Transactions
open Transaction (bind_eq_ok)

variable {backend : Backend}

/-- A tier together with the postings it makes. -/
structure WaterfallTier extends Tier (ℕ × StepType) ℚ where
  postings : ℚ → List Posting

/-- The record of a step. -/
def record (step : Step (ℕ × StepType) ℚ) : StepRecord :=
  ⟨step.label.1, step.label.2, step.available, step.applied, step.remaining⟩

/-- A tier that draws on one account. -/
def drawTier (source : Option Uuid) (sourceType : AccountType) (available : ℚ) (stepOrder : ℕ)
    (stepType : StepType) : WaterfallTier where
  label := (stepOrder, stepType)
  available := available
  capacity := available
  take := min available
  postings := fun loss =>
    match source with
    | some memberId =>
        if 0 < min available loss then [⟨memberId, sourceType, min available loss⟩] else []
    | none => []

/-- What one survivor is asked for, if anything. -/
def ask (backend : Backend) (sourceType : AccountType) (total : ℚ) (cap : ℚ → ℚ) (loss : ℚ)
    (row : Uuid × ℚ) : Option Posting :=
  if 0 < row.2 ∧ 0 < contribution backend total loss cap row.2 then
    some ⟨row.1, sourceType, contribution backend total loss cap row.2⟩
  else none

/-- What the survivors are asked for. -/
def asked (backend : Backend) (sourceType : AccountType) (rows : List (Uuid × ℚ)) (total : ℚ)
    (cap : ℚ → ℚ) (loss : ℚ) : List Posting :=
  if 0 < total then rows.filterMap (ask backend sourceType total cap loss) else []

/-- A tier that is spread over weighted survivors. -/
def spreadTier (backend : Backend) (sourceType : AccountType) (rows : List (Uuid × ℚ)) (total : ℚ)
    (cap : ℚ → ℚ) (capacity : ℚ) (stepOrder : ℕ) (stepType : StepType) : WaterfallTier where
  label := (stepOrder, stepType)
  available := total
  capacity := capacity
  take := fun loss => backend.sum
    ((asked backend sourceType rows total cap loss).map Posting.amount)
  postings := asked backend sourceType rows total cap

theorem asked_source {sourceType : AccountType} {rows : List (Uuid × ℚ)} {total loss : ℚ}
    {cap : ℚ → ℚ} {posting : Posting}
    (member : posting ∈ asked backend sourceType rows total cap loss) :
    posting.sourceType = sourceType ∧ ∃ weight, (posting.memberId, weight) ∈ rows ∧ 0 < weight ∧
      posting.amount = contribution backend total loss cap weight ∧ 0 < posting.amount := by
  unfold asked at member
  split at member
  · obtain ⟨row, inside, request⟩ := List.mem_filterMap.mp member
    unfold ask at request
    split at request
    · next weighted =>
        cases request
        exact ⟨rfl, row.2, inside, weighted.1, rfl, weighted.2⟩
    · cases request
  · cases member

/-- Exactly the survivors with a weight are asked. -/
theorem amounts_asked (backend : Backend) (sourceType : AccountType) {rows : List (Uuid × ℚ)}
    {total loss : ℚ} {cap : ℚ → ℚ} (total_pos : 0 < total) (loss_pos : 0 < loss)
    (cap_pos : ∀ weight, 0 < weight → 0 < cap weight) :
    (asked backend sourceType rows total cap loss).map Posting.amount =
      ((rows.map Prod.snd).filter fun weight => 0 < weight).map
        (contribution backend total loss cap) := by
  rw [asked, if_pos total_pos]
  induction rows with
  | nil => rfl
  | cons row rows induction =>
      rcases le_or_gt row.2 0 with empty | weighted
      · have skipped : ask backend sourceType total cap loss row = none :=
          if_neg fun both => both.1.not_ge empty
        rw [List.filterMap_cons_none skipped, List.map_cons,
          List.filter_cons_of_neg (by simpa using empty), induction]
      · have positive : 0 < contribution backend total loss cap row.2 :=
          lt_min (backend.round_pos (mul_pos (backend.round_pos (div_pos weighted total_pos))
            loss_pos)) (cap_pos row.2 weighted)
        have taken : ask backend sourceType total cap loss row =
            some ⟨row.1, sourceType, contribution backend total loss cap row.2⟩ :=
          if_pos ⟨weighted, positive⟩
        rw [List.filterMap_cons_some taken, List.map_cons, List.map_cons,
          List.filter_cons_of_pos (by simpa using weighted), List.map_cons, induction]

/-- Sum of the survivors' positive default fund balances. -/
def fundTotal (db : Database) (defaulterId : Uuid) : ℚ :=
  ((survivorFunds db defaulterId).map Prod.snd).sum

/-- Sum of the survivors' credit limits. -/
def limitTotal (db : Database) (defaulterId : Uuid) : ℚ :=
  ((survivorLimits db defaulterId).map Prod.snd).sum

/-- What the first three tiers can bear. -/
def seniorTotal (db : Database) (memberId : Uuid) : ℚ :=
  getMemberMarginBalance db memberId + getAccountBalance db memberId .defaultFund .available +
    ccpEquity db

/-- What all tiers can bear. -/
def capacityTotal (db : Database) (memberId : Uuid) : ℚ :=
  seniorTotal db memberId + fundTotal db memberId + limitTotal db memberId * (1 / 10)

/-- The margin of the defaulter. -/
def marginTier (db : Database) (memberId : Uuid) : WaterfallTier :=
  drawTier (some memberId) .marginIm (getMemberMarginBalance db memberId) 1 .defaulterMargin

/-- The default fund contribution of the defaulter. -/
def defaultFundTier (db : Database) (memberId : Uuid) : WaterfallTier :=
  drawTier (some memberId) .defaultFund (getAccountBalance db memberId .defaultFund .available) 2
    .defaulterDefaultFund

/-- The equity of the house. -/
def equityTier (db : Database) : WaterfallTier :=
  drawTier ((findCcp db).map Member.id) .ccpEquity (ccpEquity db) 3 .ccpEquity

/-- The default fund contributions of the survivors. -/
def mutualTier (backend : Backend) (db : Database) (memberId : Uuid) : WaterfallTier :=
  spreadTier backend .defaultFund (survivorFunds db memberId)
    (backend.sum ((survivorFunds db memberId).map Prod.snd)) id (fundTotal db memberId) 4
    .survivingMembersDefaultFund

/-- The allocation of the loss to the survivors. -/
def allocationTier (backend : Backend) (db : Database) (memberId : Uuid) : WaterfallTier :=
  spreadTier backend .settlement (survivorLimits db memberId)
    (backend.sum (((survivorLimits db memberId).map Prod.snd).filter fun limit => limit ≠ 0))
    (allocationCap backend) (limitTotal db memberId * (1 / 10)) 5 .lossAllocation

/-- The tiers as the database stands before the waterfall. -/
def waterfallTiers (backend : Backend) (db : Database) (memberId : Uuid) : List WaterfallTier :=
  [marginTier db memberId, defaultFundTier db memberId, equityTier db,
    mutualTier backend db memberId, allocationTier backend db memberId]

/-- The `CHECK` lists admit what the waterfall writes. -/
structure Admits (backend : Backend) : Prop where
  journal : JournalType.defaultWaterfallStep ∈ backend.journalTypes
  steps : ∀ stepType ∈ writtenStepTypes, stepType ∈ backend.stepTypes
  statuses : ∀ status ∈ [DefaultEventStatus.detected, .resolved, .partiallyResolved],
    status ∈ backend.defaultStatuses

theorem decimalBackend_admits : Admits decimalBackend := ⟨by decide, by decide, by decide⟩

theorem exactBackend_admits : Admits exactBackend := ⟨by decide, by decide, by decide⟩

/-- The amounts of a tier survive storage. -/
structure Accepts (backend : Backend) (db : Database) (tier : WaterfallTier) (loss : ℚ) :
    Prop where
  available : (backend.store tier.available).isSome
  applied : (backend.store (tier.take loss)).isSome
  remaining : (backend.store (backend.sub loss (tier.take loss))).isSome
  postings : ∀ posting ∈ tier.postings loss, Postable backend db posting

/-- A step function does what its tier says. -/
structure Performs (backend : Backend) (tier : WaterfallTier) (loss : ℚ)
    (code : Sql (ℚ × StepRecord)) (db : Database) : Prop where
  ran : ∀ {result after}, code db = .ok (result, after) →
    result = (backend.sub loss (tier.take loss),
      ⟨tier.label.1, tier.label.2, tier.available, tier.take loss,
        backend.sub loss (tier.take loss)⟩) ∧
      Posted backend (tier.postings loss) db after ∧ Accepts backend db tier loss
  runs : Admits backend → Accepts backend db tier loss →
    ∃ result after, code db = .ok (result, after)

private theorem recordStep_eq_ok {eventId : Uuid} {stepOrder : ℕ} {stepType : StepType}
    {available applied remaining : ℚ} {journalId : Option Uuid} {result : StepRecord}
    {db after : Database}
    (ran : recordStep backend eventId stepOrder stepType available applied remaining journalId db =
      .ok (result, after)) :
    result = ⟨stepOrder, stepType, available, applied, remaining⟩ ∧ Posted backend [] db after ∧
      (backend.store available).isSome ∧ (backend.store applied).isSome ∧
      (backend.store remaining).isSome := by
  obtain ⟨_, _, ⟨⟩, ran⟩ := bind_eq_ok.mp ran
  obtain ⟨_, _, storedAvailable, ran⟩ := bind_eq_ok.mp ran
  obtain ⟨stores_available, rfl⟩ := castNumeric_eq_ok.mp storedAvailable
  obtain ⟨_, _, storedApplied, ran⟩ := bind_eq_ok.mp ran
  obtain ⟨stores_applied, rfl⟩ := castNumeric_eq_ok.mp storedApplied
  obtain ⟨_, _, storedRemaining, ran⟩ := bind_eq_ok.mp ran
  obtain ⟨stores_remaining, rfl⟩ := castNumeric_eq_ok.mp storedRemaining
  obtain ⟨_, _, checked, ran⟩ := bind_eq_ok.mp ran
  obtain ⟨-, rfl⟩ := Transaction.require_eq_ok.mp checked
  obtain ⟨_, _, ⟨⟩, ⟨⟩⟩ := bind_eq_ok.mp ran
  exact ⟨rfl, .of_entries rfl rfl rfl, by simp [stores_available], by simp [stores_applied],
    by simp [stores_remaining]⟩

private theorem recordStep_runs {stepType : StepType} (admits : stepType ∈ backend.stepTypes)
    (eventId : Uuid) (stepOrder : ℕ) {available applied remaining : ℚ} (journalId : Option Uuid)
    (db : Database) (stores_available : (backend.store available).isSome)
    (stores_applied : (backend.store applied).isSome)
    (stores_remaining : (backend.store remaining).isSome) :
    ∃ result after, recordStep backend eventId stepOrder stepType available applied remaining
      journalId db = .ok (result, after) := by
  obtain ⟨_, stores_available⟩ := Option.isSome_iff_exists.mp stores_available
  obtain ⟨_, stores_applied⟩ := Option.isSome_iff_exists.mp stores_applied
  obtain ⟨_, stores_remaining⟩ := Option.isSome_iff_exists.mp stores_remaining
  exact ⟨_, _, bind_eq_ok.mpr ⟨_, _, rfl, bind_eq_ok.mpr ⟨_, _,
    castNumeric_eq_ok.mpr ⟨stores_available, rfl⟩, bind_eq_ok.mpr ⟨_, _,
      castNumeric_eq_ok.mpr ⟨stores_applied, rfl⟩, bind_eq_ok.mpr ⟨_, _,
        castNumeric_eq_ok.mpr ⟨stores_remaining, rfl⟩, bind_eq_ok.mpr ⟨(), _,
          Transaction.require_eq_ok.mpr ⟨admits, rfl⟩, rfl⟩⟩⟩⟩⟩⟩

private theorem journalPositive_ran {eventId : Uuid} {source : Option Uuid} {available loss : ℚ}
    {sourceType : AccountType} (stepOrder : ℕ) (stepType : StepType) {journalId : Option Uuid}
    {db after : Database}
    (ran : journalPositive backend eventId source (min available loss) sourceType db =
      .ok (journalId, after)) :
    Posted backend ((drawTier source sourceType available stepOrder stepType).postings loss) db
        after ∧
      ∀ posting ∈ (drawTier source sourceType available stepOrder stepType).postings loss,
        Postable backend db posting := by
  unfold journalPositive at ran
  rw [drawTier]
  cases source with
  | none =>
      cases ran
      exact ⟨.of_entries rfl rfl rfl, by simp⟩
  | some memberId =>
      dsimp only at ran ⊢
      split at ran
      · next positive =>
          obtain ⟨id, _, journal, ⟨⟩⟩ := bind_eq_ok.mp ran
          rw [if_pos positive]
          simp only [List.mem_singleton, forall_eq]
          exact createWaterfallJournal_posted ⟨memberId, sourceType, _⟩ journal
      · next idle =>
          cases ran
          rw [if_neg idle]
          exact ⟨.of_entries rfl rfl rfl, by simp⟩

private theorem journalPositive_runs (admits : Admits backend) (eventId : Uuid)
    {source : Option Uuid} {available loss : ℚ} {sourceType : AccountType} {stepOrder : ℕ}
    {stepType : StepType} {db : Database}
    (postable : ∀ posting ∈ (drawTier source sourceType available stepOrder stepType).postings loss,
      Postable backend db posting) :
    ∃ journalId after, journalPositive backend eventId source (min available loss) sourceType db =
      .ok (journalId, after) := by
  unfold drawTier at postable
  unfold journalPositive
  cases source with
  | none => exact ⟨_, _, rfl⟩
  | some memberId =>
      dsimp only at postable ⊢
      split
      · next positive =>
          rw [if_pos positive] at postable
          obtain ⟨_, _, journal⟩ := createWaterfallJournal_succeeds admits.journal eventId
            ⟨memberId, sourceType, _⟩ (postable _ List.mem_cons_self)
          exact ⟨_, _, bind_eq_ok.mpr ⟨_, _, journal, rfl⟩⟩
      · exact ⟨_, _, rfl⟩

/-- A step that draws on one account performs its tier. -/
theorem drawOn_performs (backend : Backend) (stepType : StepType)
    (written : stepType ∈ writtenStepTypes) (eventId : Uuid) (source : Option Uuid)
    (sourceType : AccountType) (available loss : ℚ) (stepOrder : ℕ) (db : Database) :
    Performs backend (drawTier source sourceType available stepOrder stepType) loss
      (drawOn backend eventId source sourceType available loss stepOrder stepType) db := by
  constructor
  · intro result after ran
    obtain ⟨journalId, middle, journal, ran⟩ := bind_eq_ok.mp ran
    obtain ⟨step, final, recorded, ⟨⟩⟩ := bind_eq_ok.mp ran
    obtain ⟨posted, postable⟩ :=
      journalPositive_ran stepOrder stepType journal
    obtain ⟨rfl, unchanged, stores⟩ := recordStep_eq_ok recorded
    exact ⟨rfl, by simpa using posted.trans unchanged, stores.1, stores.2.1, stores.2.2, postable⟩
  · intro admits accepts
    obtain ⟨journalId, middle, journal⟩ := journalPositive_runs admits eventId accepts.postings
    obtain ⟨step, after, recorded⟩ := recordStep_runs (admits.steps _ written) eventId stepOrder
      journalId middle accepts.available accepts.applied accepts.remaining
    exact ⟨_, _, bind_eq_ok.mpr ⟨_, _, journal, bind_eq_ok.mpr ⟨_, _, recorded, rfl⟩⟩⟩

section Loop

variable {eventId : Uuid} {sourceType : AccountType} {total loss : ℚ} {cap : ℚ → ℚ}

/-- One pass of the loop skips a survivor or posts what it is asked for. -/
theorem collectFrom_eq (totalApplied : ℚ) (row : Uuid × ℚ) :
    collectFrom backend eventId sourceType total loss cap totalApplied row =
      match ask backend sourceType total cap loss row with
      | some posting => do
          let _ ← createWaterfallJournal backend eventId posting.memberId posting.amount
            posting.sourceType
          pure (backend.add totalApplied posting.amount)
      | none => pure totalApplied := by
  rw [collectFrom, ask]
  rcases le_or_gt row.2 0 with empty | weighted
  · rw [if_pos empty, if_neg fun both => both.1.not_ge empty]
  · rw [if_neg weighted.not_ge]
    dsimp only
    split
    · next positive => rw [if_pos ⟨weighted, positive⟩]
    · next idle => rw [if_neg fun both => idle both.2]

private theorem collectLoop_ran {rows : List (Uuid × ℚ)} {start result : ℚ} {db after : Database}
    (ran : rows.foldlM (collectFrom backend eventId sourceType total loss cap) start db =
      .ok (result, after)) :
    result = ((rows.filterMap (ask backend sourceType total cap loss)).map
        Posting.amount).foldl backend.add start ∧
      Posted backend (rows.filterMap (ask backend sourceType total cap loss)) db after ∧
      ∀ posting ∈ rows.filterMap (ask backend sourceType total cap loss),
        Postable backend db posting := by
  induction rows generalizing start db with
  | nil =>
      cases ran
      exact ⟨rfl, .of_entries rfl rfl rfl, by simp⟩
  | cons row rows induction =>
      rw [List.foldlM_cons] at ran
      obtain ⟨next, middle, head, tail⟩ := bind_eq_ok.mp ran
      obtain ⟨rfl, later, postable⟩ := induction tail
      rw [collectFrom_eq] at head
      rw [List.filterMap_cons]
      cases request : ask backend sourceType total cap loss row with
      | none =>
          rw [request] at head
          cases head
          exact ⟨rfl, later, postable⟩
      | some posting =>
          rw [request] at head
          obtain ⟨_, _, journal, ⟨⟩⟩ := bind_eq_ok.mp head
          obtain ⟨posted, first⟩ := createWaterfallJournal_posted posting journal
          refine ⟨rfl, posted.trans later, ?_⟩
          simp only [List.forall_mem_cons]
          exact ⟨first, fun p member => (posted.postable_iff p).mp (postable p member)⟩

private theorem collectLoop_runs (admits : Admits backend) {rows : List (Uuid × ℚ)} (start : ℚ)
    {db : Database}
    (postable : ∀ posting ∈ rows.filterMap (ask backend sourceType total cap loss),
      Postable backend db posting) :
    ∃ result after, rows.foldlM (collectFrom backend eventId sourceType total loss cap) start db =
      .ok (result, after) := by
  induction rows generalizing start db with
  | nil => exact ⟨_, _, rfl⟩
  | cons row rows induction =>
      rw [List.foldlM_cons, collectFrom_eq]
      rw [List.filterMap_cons] at postable
      cases request : ask backend sourceType total cap loss row with
      | none =>
          rw [request] at postable
          obtain ⟨result, after, tail⟩ := induction start postable
          exact ⟨result, after, bind_eq_ok.mpr ⟨_, _, rfl, tail⟩⟩
      | some posting =>
          rw [request] at postable
          obtain ⟨first, further⟩ := List.forall_mem_cons.mp postable
          obtain ⟨_, middle, journal⟩ :=
            createWaterfallJournal_succeeds admits.journal eventId posting first
          have posted := (createWaterfallJournal_posted posting journal).1
          obtain ⟨result, after, tail⟩ := induction (backend.add start posting.amount)
            fun p member => (posted.postable_iff p).mpr (further p member)
          exact ⟨result, after, bind_eq_ok.mpr ⟨_, _, bind_eq_ok.mpr ⟨_, _, journal, rfl⟩, tail⟩⟩

private theorem collect_ran {rows : List (Uuid × ℚ)} {result : ℚ} {db after : Database}
    (ran : collect backend eventId sourceType rows total loss cap db = .ok (result, after)) :
    result = backend.sum ((asked backend sourceType rows total cap loss).map Posting.amount) ∧
      Posted backend (asked backend sourceType rows total cap loss) db after ∧
      ∀ posting ∈ asked backend sourceType rows total cap loss, Postable backend db posting := by
  unfold collect at ran
  rw [asked]
  split at ran
  · next positive =>
      rw [if_pos positive]
      exact collectLoop_ran ran
  · next idle =>
      cases ran
      rw [if_neg idle]
      exact ⟨rfl, .of_entries rfl rfl rfl, by simp⟩

private theorem collect_runs (admits : Admits backend) {rows : List (Uuid × ℚ)} {db : Database}
    (postable : ∀ posting ∈ asked backend sourceType rows total cap loss,
      Postable backend db posting) :
    ∃ after, collect backend eventId sourceType rows total loss cap db =
      .ok (backend.sum ((asked backend sourceType rows total cap loss).map Posting.amount),
        after) := by
  have runs : ∃ result after,
      collect backend eventId sourceType rows total loss cap db = .ok (result, after) := by
    rw [collect]
    unfold asked at postable
    split
    · next positive =>
        rw [if_pos positive] at postable
        exact collectLoop_runs admits 0 postable
    · exact ⟨_, _, rfl⟩
  obtain ⟨result, after, ran⟩ := runs
  exact ⟨after, (collect_ran ran).1 ▸ ran⟩

end Loop

/-- A step that is spread over the survivors performs its tier. -/
theorem spreadOver_performs (backend : Backend) (stepType : StepType)
    (written : stepType ∈ writtenStepTypes) (eventId : Uuid) (sourceType : AccountType)
    (rows : List (Uuid × ℚ)) (total loss : ℚ) (cap : ℚ → ℚ) (capacity : ℚ) (stepOrder : ℕ)
    (db : Database) :
    Performs backend (spreadTier backend sourceType rows total cap capacity stepOrder stepType) loss
      (spreadOver backend eventId sourceType rows total loss cap stepOrder stepType) db := by
  constructor
  · intro result after ran
    obtain ⟨applied, middle, collected, ran⟩ := bind_eq_ok.mp ran
    obtain ⟨step, final, recorded, ⟨⟩⟩ := bind_eq_ok.mp ran
    obtain ⟨rfl, unchanged, stores⟩ := recordStep_eq_ok recorded
    obtain ⟨rfl, posted, postable⟩ := collect_ran collected
    have posted := posted.trans unchanged
    rw [List.append_nil] at posted
    exact ⟨rfl, posted, stores.1, stores.2.1, stores.2.2, postable⟩
  · intro admits accepts
    obtain ⟨middle, collected⟩ := collect_runs admits accepts.postings
    obtain ⟨step, after, recorded⟩ := recordStep_runs (admits.steps _ written) eventId stepOrder
      none middle accepts.available accepts.applied accepts.remaining
    exact ⟨_, _, bind_eq_ok.mpr ⟨_, _, collected, bind_eq_ok.mpr ⟨_, _, recorded, rfl⟩⟩⟩

end Waterfall

end ClearingHouse
