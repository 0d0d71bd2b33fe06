import ClearingHouse.Waterfall.Tiers

/-!
# The waterfall absorbs its loss by tiers

Steps compose: what a later step reads is not touched by the postings of the earlier ones, so the
whole of `execute_waterfall` is the absorption of the exposure by the tiers that the database holds
before it.  It raises exactly when some amount on the way does not survive storage.
-/

namespace ClearingHouse

namespace Waterfall

open LossTiers Transactions
open Transaction (bind_eq_ok)

variable {backend : Backend}

/-- Postings of the tiers that are asked. -/
def postingsAlong (backend : Backend) : List WaterfallTier → ℚ → List Posting
  | [], _ => []
  | tier :: tiers, loss =>
      tier.postings loss ++
        if 0 < backend.sub loss (tier.take loss) then
          postingsAlong backend tiers (backend.sub loss (tier.take loss))
        else []

/-- Every tier that is asked accepts the loss that reaches it. -/
def Accepted (backend : Backend) (db : Database) : List WaterfallTier → ℚ → Prop
  | [], _ => True
  | tier :: tiers, loss =>
      Accepts backend db tier loss ∧
        (0 < backend.sub loss (tier.take loss) →
          Accepted backend db tiers (backend.sub loss (tier.take loss)))

/-- Loss that the tiers leave. -/
def lossLeft (backend : Backend) (tiers : List WaterfallTier) (loss : ℚ) : ℚ :=
  left backend.sub (tiers.map WaterfallTier.toTier) loss

/-- Records of the tiers that are asked. -/
def records (backend : Backend) (tiers : List WaterfallTier) (loss : ℚ) : List StepRecord :=
  (absorb backend.sub (tiers.map WaterfallTier.toTier) loss).map record

/-- Loss and records after the tiers, which are asked only while a loss is left. -/
def advance (backend : Backend) (tiers : List WaterfallTier) (progress : ℚ × List StepRecord) :
    ℚ × List StepRecord :=
  if 0 < progress.1 then
    (lossLeft backend tiers progress.1, progress.2 ++ records backend tiers progress.1)
  else progress

/-- Postings of the tiers while a loss is left. -/
def pending (backend : Backend) (tiers : List WaterfallTier) (loss : ℚ) : List Posting :=
  if 0 < loss then postingsAlong backend tiers loss else []

private theorem advance_cons (tier : WaterfallTier) (tiers : List WaterfallTier)
    (progress : ℚ × List StepRecord) :
    advance backend (tier :: tiers) progress =
      advance backend tiers (advance backend [tier] progress) := by
  unfold advance
  split
  · next positive =>
      simp only [lossLeft, records, List.map_cons, List.map_nil, left_cons, absorb_cons, left,
        absorb, ite_self]
      split <;> simp
  · rfl

private theorem pending_cons (tier : WaterfallTier) (tiers : List WaterfallTier)
    (progress : ℚ × List StepRecord) :
    pending backend (tier :: tiers) progress.1 =
      pending backend [tier] progress.1 ++
        pending backend tiers (advance backend [tier] progress).1 := by
  unfold pending advance
  split
  · next positive =>
      simp only [postingsAlong, lossLeft, List.map_cons, List.map_nil, left_cons, left, ite_self,
        List.append_nil]
  · rfl

/-- Code that passes a loss through tiers, whatever postings satisfying `before` preceded it. -/
structure Carries (backend : Backend) (base : Database) (before : Posting → Prop)
    (tiers : List WaterfallTier)
    (code : ℚ × List StepRecord → Sql (ℚ × List StepRecord)) : Prop where
  ran : ∀ {postings middle progress result after}, Posted backend postings base middle →
    (∀ posting ∈ postings, before posting) → code progress middle = .ok (result, after) →
      result = advance backend tiers progress ∧
        Posted backend (postings ++ pending backend tiers progress.1) base after ∧
        (0 < progress.1 → Accepted backend base tiers progress.1)
  runs : Admits backend → ∀ {postings middle} progress, Posted backend postings base middle →
    (∀ posting ∈ postings, before posting) →
      (0 < progress.1 → Accepted backend base tiers progress.1) →
        ∃ result after, code progress middle = .ok (result, after)

/-- Code that succeeds and leaves the ledger alone. -/
def Quiet (backend : Backend) (code : Sql Unit) : Prop :=
  ∀ db, ∃ after, code db = .ok ((), after) ∧ Posted backend [] db after

theorem quiet_pure : Quiet backend (pure ()) := fun db => ⟨db, rfl, .of_entries rfl rfl rfl⟩

theorem quiet_updateEventStatus (eventId : Uuid) (status : DefaultEventStatus)
    (trace : TraceContext) : Quiet backend (updateEventStatus eventId status trace) :=
  fun _ => ⟨_, rfl, .of_entries rfl rfl rfl⟩

theorem Posted.accepts_iff {postings : List Posting} {base middle : Database}
    (posted : Posted backend postings base middle) {tier : WaterfallTier} {loss : ℚ} :
    Accepts backend middle tier loss ↔ Accepts backend base tier loss := by
  constructor
  · rintro ⟨available, applied, remaining, postable⟩
    exact ⟨available, applied, remaining,
      fun p member => (posted.postable_iff p).mp (postable p member)⟩
  · rintro ⟨available, applied, remaining, postable⟩
    exact ⟨available, applied, remaining,
      fun p member => (posted.postable_iff p).mpr (postable p member)⟩

/-- A step that performs its tier at every loss carries the loss through it. -/
theorem carries_step {base : Database} {before : Posting → Prop} {tier : WaterfallTier}
    {step : ℚ → Sql (ℚ × StepRecord)} {after : Sql Unit}
    (performs : ∀ {postings middle} loss, Posted backend postings base middle →
      (∀ posting ∈ postings, before posting) → Performs backend tier loss (step loss) middle)
    (quiet : Quiet backend after) :
    Carries backend base before [tier] (continueWith step after) := by
  constructor
  · rintro postings middle ⟨loss, done⟩ result final posted allowed ran
    unfold continueWith at ran
    dsimp only at ran ⊢
    split at ran
    · next positive =>
        obtain ⟨_, stepped, stepRan, ran⟩ := bind_eq_ok.mp ran
        obtain ⟨rfl, made, accepts⟩ := (performs loss posted allowed).ran stepRan
        obtain ⟨_, closed, closing, ⟨⟩⟩ := bind_eq_ok.mp ran
        obtain ⟨_, quietRan, unchanged⟩ := quiet stepped
        obtain ⟨-, rfl⟩ : () = () ∧ _ := by simpa using quietRan.symm.trans closing
        refine ⟨?_, ?_, fun _ => ⟨posted.accepts_iff.mp accepts, fun _ => trivial⟩⟩
        · simp only [advance, if_pos positive, lossLeft, records, List.map_cons, List.map_nil,
            left_cons, left, absorb_cons, absorb, ite_self, record]
        · have whole := (posted.trans made).trans unchanged
          simpa only [pending, if_pos positive, postingsAlong, ite_self, List.append_nil]
            using whole
    · next spent =>
        cases ran
        refine ⟨by simp only [advance, if_neg spent], ?_, fun positive => absurd positive spent⟩
        simpa only [pending, if_neg spent, List.append_nil] using posted
  · rintro admits postings middle ⟨loss, done⟩ posted allowed accepted
    rw [continueWith]
    dsimp only at accepted ⊢
    split
    · next positive =>
        obtain ⟨result, stepped, stepRan⟩ := (performs loss posted allowed).runs admits
          (posted.accepts_iff.mpr (accepted positive).1)
        obtain ⟨closed, closing, -⟩ := quiet stepped
        exact ⟨_, _, bind_eq_ok.mpr ⟨_, _, stepRan, bind_eq_ok.mpr ⟨(), _, closing, rfl⟩⟩⟩
    · exact ⟨_, _, rfl⟩

/-- Codes that carry a loss through consecutive tiers compose. -/
theorem Carries.cons {base : Database} {before later : Posting → Prop} {tier : WaterfallTier}
    {tiers : List WaterfallTier}
    {head tail : ℚ × List StepRecord → Sql (ℚ × List StepRecord)}
    (first : Carries backend base before [tier] head)
    (weaker : ∀ posting, before posting → later posting)
    (made : ∀ loss, ∀ posting ∈ tier.postings loss, later posting)
    (rest : Carries backend base later tiers tail) :
    Carries backend base before (tier :: tiers) fun progress => head progress >>= tail := by
  have allowed_later : ∀ {postings loss}, (∀ posting ∈ postings, before posting) →
      ∀ posting ∈ postings ++ pending backend [tier] loss, later posting := by
    intro postings loss allowed posting member
    rcases List.mem_append.mp member with old | new
    · exact weaker posting (allowed posting old)
    · unfold pending at new
      split at new
      · simp only [postingsAlong, ite_self, List.append_nil] at new
        exact made loss posting new
      · cases new
  have accepted_cons : ∀ {progress : ℚ × List StepRecord},
      (0 < progress.1 → Accepted backend base (tier :: tiers) progress.1) ↔
        (0 < progress.1 → Accepted backend base [tier] progress.1) ∧
          (0 < (advance backend [tier] progress).1 →
            Accepted backend base tiers (advance backend [tier] progress).1) := by
    intro progress
    rw [advance]
    split
    · next positive =>
        simp only [Accepted, lossLeft, List.map_cons, List.map_nil, left_cons, left, ite_self]
        grind
    · next spent => simp [spent]
  constructor
  · intro postings middle progress result after posted allowed ran
    obtain ⟨_, next, headRan, tailRan⟩ := bind_eq_ok.mp ran
    obtain ⟨rfl, posted, headAccepted⟩ := first.ran posted allowed headRan
    obtain ⟨rfl, posted, tailAccepted⟩ := rest.ran posted (allowed_later allowed) tailRan
    refine ⟨(advance_cons tier tiers progress).symm, ?_,
      accepted_cons.mpr ⟨headAccepted, tailAccepted⟩⟩
    rwa [pending_cons, ← List.append_assoc]
  · intro admits postings middle progress posted allowed accepted
    obtain ⟨headAccepted, tailAccepted⟩ := accepted_cons.mp accepted
    obtain ⟨_, next, headRan⟩ := first.runs admits progress posted allowed headAccepted
    obtain ⟨rfl, posted, -⟩ := first.ran posted allowed headRan
    obtain ⟨result, after, tailRan⟩ :=
      rest.runs admits _ posted (allowed_later allowed) tailAccepted
    exact ⟨result, after, bind_eq_ok.mpr ⟨_, _, headRan, tailRan⟩⟩

theorem postings_drawTier {source : Option Uuid} {sourceType : AccountType} {available : ℚ}
    {stepOrder : ℕ} {stepType : StepType} {loss : ℚ} {posting : Posting}
    (member : posting ∈ (drawTier source sourceType available stepOrder stepType).postings loss) :
    posting.sourceType = sourceType ∧ source = some posting.memberId := by
  unfold drawTier at member
  dsimp only at member
  split at member
  · split at member
    · rw [List.mem_singleton.mp member]
      exact ⟨rfl, rfl⟩
    · cases member
  · cases member

theorem amount_drawTier {source : Option Uuid} {sourceType : AccountType} {available : ℚ}
    {stepOrder : ℕ} {stepType : StepType} {loss : ℚ} {posting : Posting}
    (member : posting ∈ (drawTier source sourceType available stepOrder stepType).postings loss) :
    posting.amount = min available loss ∧ 0 < posting.amount := by
  unfold drawTier at member
  dsimp only at member
  split at member
  · split at member
    · next positive =>
        rw [List.mem_singleton.mp member]
        exact ⟨rfl, positive⟩
    · cases member
  · cases member

theorem getAccountBalance_congr {base middle : Database} {memberId : Uuid}
    {accountType : AccountType} {pool : Pool} (accounts : middle.accounts = base.accounts)
    (same : ∀ account ∈ base.accounts, account.memberId = memberId →
      account.accountType = accountType →
        accountBalance middle account.id = accountBalance base account.id) :
    getAccountBalance middle memberId accountType pool =
      getAccountBalance base memberId accountType pool := by
  rw [getAccountBalance, getAccountBalance, findAccount_congr accounts]
  split
  · next account found =>
      obtain ⟨owner, type, -⟩ := findAccount_spec found
      exact same account (findAccount_mem found) owner type
  · rfl

theorem ccpEquity_congr {base middle : Database} (members : middle.members = base.members)
    (accounts : middle.accounts = base.accounts)
    (same : ∀ account ∈ base.accounts, account.accountType = .ccpEquity →
      accountBalance middle account.id = accountBalance base account.id) :
    ccpEquity middle = ccpEquity base := by
  have ccp : findCcp middle = findCcp base := by rw [findCcp, findCcp, members]
  rw [ccpEquity, ccpEquity, ccp]
  split
  · exact getAccountBalance_congr accounts fun account inside _ type => same account inside type
  · rfl

theorem mem_survivors {db : Database} {defaulterId : Uuid} {member : Member} :
    member ∈ survivors db defaulterId ↔
      member ∈ db.members ∧ member.status = .active ∧ member.id ≠ defaulterId := by
  simp [survivors]

theorem survivorFunds_congr {base middle : Database} {defaulterId : Uuid}
    (members : middle.members = base.members) (accounts : middle.accounts = base.accounts)
    (same : ∀ account ∈ base.accounts, account.accountType = .defaultFund →
      account.memberId ≠ defaulterId →
        accountBalance middle account.id = accountBalance base account.id) :
    survivorFunds middle defaulterId = survivorFunds base defaulterId := by
  have survivors_eq : survivors middle defaulterId = survivors base defaulterId := by
    rw [survivors, survivors, members]
  rw [survivorFunds, survivorFunds, survivors_eq]
  apply List.flatMap_congr
  intro member surviving
  have other : member.id ≠ defaulterId := (mem_survivors.mp surviving).2.2
  rw [accountBalances, accountBalances, accounts, List.filter_map, List.filter_map, List.map_map,
    List.map_map]
  have balance_eq : ∀ account ∈ base.accounts, account.memberId = member.id →
      account.accountType = .defaultFund →
        accountBalance middle account.id = accountBalance base account.id :=
    fun account inside owner type => same account inside type (owner ▸ other)
  have filter_eq : (base.accounts.filter ((fun row : Account × ℚ => decide
      (row.1.memberId = member.id ∧ row.1.accountType = .defaultFund ∧ row.1.pool = .available ∧
        0 < row.2)) ∘ fun account => (account, accountBalance middle account.id))) =
      base.accounts.filter ((fun row : Account × ℚ => decide
      (row.1.memberId = member.id ∧ row.1.accountType = .defaultFund ∧ row.1.pool = .available ∧
        0 < row.2)) ∘ fun account => (account, accountBalance base account.id)) := by
    apply List.filter_congr
    intro account inside
    simp only [Function.comp_apply, decide_eq_decide]
    grind
  rw [filter_eq]
  apply List.map_congr_left
  intro account kept
  obtain ⟨inside, passes⟩ := List.mem_filter.mp kept
  simp only [Function.comp_apply, decide_eq_true_eq] at passes
  simp only [Function.comp_apply, balance_eq account inside passes.1 passes.2.1]

/-- Where the first postings may draw: on margin, then also on the defaulter's default fund, then
also on the equity of the house. -/
def DrawnOn (defaulterId : Uuid) (types : List AccountType) (posting : Posting) : Prop :=
  posting.sourceType ∈ types ∧ (posting.sourceType = .defaultFund → posting.memberId = defaulterId)

private theorem drawnOn_mono {defaulterId : Uuid} {types wider : List AccountType}
    (subset : types ⊆ wider) (posting : Posting) (drawn : DrawnOn defaulterId types posting) :
    DrawnOn defaulterId wider posting := ⟨subset drawn.1, drawn.2⟩

variable {base : Database} {memberId eventId : Uuid} {trace : TraceContext}

private theorem carries_defaultFund :
    Carries backend base (DrawnOn memberId [.marginIm]) [defaultFundTier base memberId]
      (continueWith (stepDefaulterDefaultFund backend eventId memberId · 2)
        (updateEventStatus eventId .defaultFundApplied trace)) := by
  refine carries_step (fun {postings middle} loss posted early => ?_)
    (quiet_updateEventStatus eventId _ trace)
  have same : getAccountBalance middle memberId .defaultFund .available =
      getAccountBalance base memberId .defaultFund .available := by
    apply getAccountBalance_congr posted.accounts
    intro account inside _ type
    apply posted.balance_eq inside (by simp [type])
    intro posting member drawn
    have types := (early posting member).1
    rw [drawn, type] at types
    cases types with
    | tail _ none_left => cases none_left
  rw [defaultFundTier, ← same]
  have performs := drawOn_performs backend .defaulterDefaultFund (by decide) eventId (some memberId)
    .defaultFund (getAccountBalance middle memberId .defaultFund .available) loss 2 middle
  exact ⟨performs.ran, performs.runs⟩

private theorem carries_equity :
    Carries backend base (DrawnOn memberId [.marginIm, .defaultFund]) [equityTier base]
      (continueWith (stepCcpEquity backend eventId · 3)
        (updateEventStatus eventId .ccpEquityApplied trace)) := by
  refine carries_step (fun {postings middle} loss posted early => ?_)
    (quiet_updateEventStatus eventId _ trace)
  have same : ccpEquity middle = ccpEquity base := by
    apply ccpEquity_congr posted.members posted.accounts
    intro account inside type
    apply posted.balance_eq inside (by simp [type])
    intro posting member drawn
    have types := (early posting member).1
    rw [drawn, type] at types
    simp at types
  have ccp : findCcp middle = findCcp base := by rw [findCcp, findCcp, posted.members]
  rw [equityTier, ← same, ← ccp]
  have performs := drawOn_performs backend .ccpEquity (by decide) eventId
    ((findCcp middle).map Member.id) .ccpEquity (ccpEquity middle) loss 3 middle
  exact ⟨performs.ran, performs.runs⟩

private theorem carries_mutual :
    Carries backend base (DrawnOn memberId [.marginIm, .defaultFund, .ccpEquity])
      [mutualTier backend base memberId]
      (continueWith (stepSurvivingDefaultFund backend eventId memberId · 4)
        (updateEventStatus eventId .mutualized trace)) := by
  refine carries_step (fun {postings middle} loss posted early => ?_)
    (quiet_updateEventStatus eventId _ trace)
  have same : survivorFunds middle memberId = survivorFunds base memberId := by
    apply survivorFunds_congr posted.members posted.accounts
    intro account inside type other
    apply posted.balance_eq inside (by simp [type])
    intro posting member drawn
    rw [(early posting member).2 (drawn.trans type)]
    exact other.symm
  rw [mutualTier, ← same]
  have performs := spreadOver_performs backend .survivingMembersDefaultFund (by decide) eventId
    .defaultFund (survivorFunds middle memberId)
    (backend.sum ((survivorFunds middle memberId).map Prod.snd)) loss id (fundTotal base memberId) 4
    middle
  exact ⟨performs.ran, performs.runs⟩

private theorem carries_allocation :
    Carries backend base (fun _ => True) [allocationTier backend base memberId]
      (continueWith (stepLossAllocation backend eventId memberId · 5) (pure ())) := by
  refine carries_step (fun {postings middle} loss posted _ => ?_) quiet_pure
  have same : survivorLimits middle memberId = survivorLimits base memberId := by
    rw [survivorLimits, survivorLimits, survivors, survivors, posted.members]
  have performs := spreadOver_performs backend .lossAllocation (by decide) eventId .settlement
    (survivorLimits middle memberId)
    (backend.sum (((survivorLimits middle memberId).map Prod.snd).filter fun limit => limit ≠ 0))
    loss (allocationCap backend) (limitTotal base memberId * (1 / 10)) 5 middle
  rw [same] at performs
  refine ⟨fun {result after} ran => performs.ran (?_ : _ = _), fun admits accepts => ?_⟩
  · rw [← same]
    exact ran
  · obtain ⟨result, after, ran⟩ := performs.runs admits accepts
    rw [← same] at ran
    exact ⟨result, after, ran⟩

private theorem carries_later :
    Carries backend base (DrawnOn memberId [.marginIm])
      [defaultFundTier base memberId, equityTier base, mutualTier backend base memberId,
        allocationTier backend base memberId]
      fun progress =>
        continueWith (stepDefaulterDefaultFund backend eventId memberId · 2)
          (updateEventStatus eventId .defaultFundApplied trace) progress >>= fun progress =>
        continueWith (stepCcpEquity backend eventId · 3)
          (updateEventStatus eventId .ccpEquityApplied trace) progress >>= fun progress =>
        continueWith (stepSurvivingDefaultFund backend eventId memberId · 4)
          (updateEventStatus eventId .mutualized trace) progress >>= fun progress =>
        continueWith (stepLossAllocation backend eventId memberId · 5) (pure ()) progress := by
  refine carries_defaultFund.cons (drawnOn_mono (by simp)) ?_
    (carries_equity.cons (drawnOn_mono (by simp)) ?_
      (carries_mutual.cons (fun _ _ => trivial) (fun _ _ _ => trivial)
        carries_allocation))
  · intro loss posting member
    obtain ⟨type, source⟩ := postings_drawTier member
    exact ⟨by simp [type], fun _ => (Option.some.inj source).symm⟩
  · intro loss posting member
    obtain ⟨type, -⟩ := postings_drawTier member
    exact ⟨by simp [type], fun fund => by rw [type] at fund; cases fund⟩

private theorem advance_first (tier : WaterfallTier) (tiers : List WaterfallTier) (loss : ℚ) :
    advance backend tiers (backend.sub loss (tier.take loss),
      [⟨tier.label.1, tier.label.2, tier.available, tier.take loss,
        backend.sub loss (tier.take loss)⟩]) =
      (lossLeft backend (tier :: tiers) loss, records backend (tier :: tiers) loss) := by
  rw [advance]
  simp only [lossLeft, records, List.map_cons, left_cons, absorb_cons, record]
  split <;> simp

/-- The five steps absorb the loss by the tiers. -/
theorem runSteps_ran {totalExposure : ℚ} {result : ℚ × List StepRecord}
    {after : Database}
    (ran : runSteps backend eventId memberId totalExposure trace base = .ok (result, after)) :
    result = (lossLeft backend (waterfallTiers backend base memberId) totalExposure,
        records backend (waterfallTiers backend base memberId) totalExposure) ∧
      Posted backend (postingsAlong backend (waterfallTiers backend base memberId) totalExposure)
        base after ∧
      Accepted backend base (waterfallTiers backend base memberId) totalExposure := by
  obtain ⟨first, stepped, stepRan, ran⟩ := bind_eq_ok.mp ran
  obtain ⟨rfl, made, accepts⟩ := (drawOn_performs backend .defaulterMargin (by decide) eventId
    (some memberId) .marginIm (getMemberMarginBalance base memberId) totalExposure 1 base).ran
    stepRan
  obtain ⟨_, closed, closing, ran⟩ := bind_eq_ok.mp ran
  obtain ⟨_, quietRan, unchanged⟩ := quiet_updateEventStatus eventId .marginLiquidated trace stepped
  obtain ⟨-, rfl⟩ : () = () ∧ _ := by simpa using quietRan.symm.trans closing
  have posted := made.trans unchanged
  rw [List.append_nil] at posted
  obtain ⟨rfl, posted, accepted⟩ := carries_later.ran posted
    (fun posting member => by
      obtain ⟨type, source⟩ := postings_drawTier member
      exact ⟨by simp [type], fun _ => (Option.some.inj source).symm⟩)
    ran
  exact ⟨advance_first (marginTier base memberId) _ totalExposure, posted, accepts, accepted⟩

/-- The five steps run when every amount survives storage. -/
theorem runSteps_runs (admits : Admits backend) (eventId : Uuid) {totalExposure : ℚ}
    (accepted : Accepted backend base (waterfallTiers backend base memberId) totalExposure) :
    ∃ result after,
      runSteps backend eventId memberId totalExposure trace base = .ok (result, after) := by
  have performs := drawOn_performs backend .defaulterMargin (by decide) eventId
    (some memberId) .marginIm (getMemberMarginBalance base memberId) totalExposure 1 base
  obtain ⟨first, stepped, stepRan⟩ := performs.runs admits accepted.1
  obtain ⟨rfl, made, -⟩ := performs.ran stepRan
  obtain ⟨closed, closing, unchanged⟩ :=
    quiet_updateEventStatus eventId .marginLiquidated trace stepped
  have posted := made.trans unchanged
  rw [List.append_nil] at posted
  obtain ⟨result, after, ran⟩ := carries_later.runs admits
    (_, [⟨1, .defaulterMargin, getMemberMarginBalance base memberId,
      (marginTier base memberId).take totalExposure, _⟩]) posted
    (fun posting member => by
      obtain ⟨type, source⟩ := postings_drawTier member
      exact ⟨by simp [type], fun _ => (Option.some.inj source).symm⟩)
    accepted.2
  exact ⟨result, after,
    bind_eq_ok.mpr ⟨_, _, stepRan, bind_eq_ok.mpr ⟨(), _, closing, ran⟩⟩⟩

/-- The database after the default has been declared holds the same tiers. -/
structure Declared (memberId : Uuid) (db after : Database) : Prop where
  members : after.members = db.members.map fun member =>
    if member.id = memberId then { member with status := .defaulted } else member
  accounts : after.accounts = db.accounts
  entries : after.journalEntries = db.journalEntries

namespace Declared

variable {db after : Database}

theorem accountBalance_eq (declared : Declared memberId db after) (accountId : Uuid) :
    accountBalance after accountId = accountBalance db accountId := by
  rw [accountBalance, accountBalance, declared.entries]

theorem accountBalances_eq (declared : Declared memberId db after) :
    accountBalances after = accountBalances db := by
  simp only [accountBalances, declared.accounts, declared.accountBalance_eq]

theorem survivors_eq (declared : Declared memberId db after) :
    survivors after memberId = survivors db memberId := by
  rw [survivors, survivors, declared.members]
  induction db.members with
  | nil => rfl
  | cons member rest induction =>
      by_cases defaulter : member.id = memberId
      · rw [List.map_cons, if_pos defaulter, List.filter_cons_of_neg (by simp),
          List.filter_cons_of_neg (by simp [defaulter]), induction]
      · simp only [List.map_cons, if_neg defaulter, List.filter_cons, induction]

theorem findCcp_id (declared : Declared memberId db after) :
    (findCcp after).map Member.id = (findCcp db).map Member.id := by
  rw [findCcp, findCcp, declared.members, List.find?_map, Option.map_map]
  have same_lei : ((fun member : Member => decide (member.lei = ccpLei)) ∘ fun member : Member =>
      if member.id = memberId then { member with status := .defaulted } else member) =
      fun member => decide (member.lei = ccpLei) := by
    funext member
    simp only [Function.comp_apply]
    split <;> rfl
  rw [same_lei]
  apply Option.map_congr
  intro member _
  simp only [Function.comp_apply]
  split <;> rfl

theorem findAccount_eq (declared : Declared memberId db after) (owner : Uuid)
    (accountType : AccountType) (pool : Pool) :
    findAccount after owner accountType pool = findAccount db owner accountType pool :=
  findAccount_congr declared.accounts owner accountType pool

theorem recoveryAccount_eq (declared : Declared memberId db after) :
    recoveryAccount after = recoveryAccount db := by
  have through_id : ∀ db : Database, recoveryAccount db =
      ((findCcp db).map Member.id).bind fun ccp => findAccount db ccp .settlement .available := by
    intro db
    rw [recoveryAccount, Option.bind_map]
    rfl
  rw [through_id, through_id, declared.findCcp_id]
  simp only [declared.findAccount_eq]

theorem getAccountBalance_eq (declared : Declared memberId db after) (owner : Uuid)
    (accountType : AccountType) (pool : Pool) :
    getAccountBalance after owner accountType pool =
      getAccountBalance db owner accountType pool :=
  getAccountBalance_congr declared.accounts fun account _ _ _ =>
    declared.accountBalance_eq account.id

theorem ccpEquity_eq (declared : Declared memberId db after) : ccpEquity after = ccpEquity db := by
  have through_id : ∀ db : Database, ccpEquity db = ((findCcp db).map Member.id).elim 0
      fun ccp => getAccountBalance db ccp .ccpEquity .available := by
    intro db
    rw [ccpEquity]
    cases findCcp db <;> rfl
  rw [through_id, through_id, declared.findCcp_id]
  simp only [declared.getAccountBalance_eq]

theorem waterfallTiers_eq (declared : Declared memberId db after) :
    waterfallTiers backend after memberId = waterfallTiers backend db memberId := by
  have funds : survivorFunds after memberId = survivorFunds db memberId := by
    rw [survivorFunds, survivorFunds, declared.survivors_eq, declared.accountBalances_eq]
  have limits : survivorLimits after memberId = survivorLimits db memberId := by
    rw [survivorLimits, survivorLimits, declared.survivors_eq]
  have margin : getMemberMarginBalance after memberId = getMemberMarginBalance db memberId := by
    rw [getMemberMarginBalance, getMemberMarginBalance, declared.accountBalances_eq]
  simp only [waterfallTiers, marginTier, defaultFundTier, equityTier, mutualTier, allocationTier,
    fundTotal, limitTotal, funds, limits, margin, declared.getAccountBalance_eq,
    declared.ccpEquity_eq, declared.findCcp_id]

theorem postable_iff (declared : Declared memberId db after) {posting : Posting} :
    Postable backend after posting ↔ Postable backend db posting := by
  rw [Postable, Postable, Posting.account, Posting.account, declared.recoveryAccount_eq,
    declared.findAccount_eq]

theorem accepted_iff (declared : Declared memberId db after) {tiers : List WaterfallTier}
    {loss : ℚ} : Accepted backend after tiers loss ↔ Accepted backend db tiers loss := by
  have accepts_iff : ∀ {tier : WaterfallTier} {loss : ℚ},
      Accepts backend after tier loss ↔ Accepts backend db tier loss := by
    intro tier loss
    constructor
    · rintro ⟨available, applied, remaining, postings⟩
      exact ⟨available, applied, remaining,
        fun p member => declared.postable_iff.mp (postings p member)⟩
    · rintro ⟨available, applied, remaining, postings⟩
      exact ⟨available, applied, remaining,
        fun p member => declared.postable_iff.mpr (postings p member)⟩
  induction tiers generalizing loss with
  | nil => exact Iff.rfl
  | cons tier tiers induction => simp only [Accepted, accepts_iff, induction]

end Declared

private theorem traceOrSystem_runs (trace : Option TraceContext) (serviceName : String)
    (db : Database) :
    ∃ context after, traceOrSystem trace serviceName db = .ok (context, after) ∧
      after.members = db.members ∧ after.accounts = db.accounts ∧
      after.journalEntries = db.journalEntries := by
  cases trace with
  | some trace => exact ⟨trace, db, rfl, rfl, rfl, rfl⟩
  | none => exact ⟨_, _, rfl, rfl, rfl, rfl⟩

private theorem declareDefault_ran {triggerReason : Text} {totalExposure : ℚ} {db after : Database}
    (ran : declareDefault backend eventId memberId triggerReason totalExposure trace db =
      .ok ((), after)) :
    Declared memberId db after ∧ memberId ∈ db.members.map Member.id ∧
      (backend.store totalExposure).isSome := by
  obtain ⟨_, _, referenced, ran⟩ := bind_eq_ok.mp ran
  obtain ⟨_, _, ⟨⟩, found⟩ := bind_eq_ok.mp referenced
  obtain ⟨known, rfl⟩ := Transaction.require_eq_ok.mp found
  obtain ⟨_, _, casting, ran⟩ := bind_eq_ok.mp ran
  obtain ⟨stored, rfl⟩ := castNumeric_eq_ok.mp casting
  obtain ⟨_, _, checked, ran⟩ := bind_eq_ok.mp ran
  obtain ⟨-, rfl⟩ := Transaction.require_eq_ok.mp checked
  obtain ⟨_, _, ⟨⟩, ran⟩ := bind_eq_ok.mp ran
  obtain ⟨_, _, ⟨⟩, ran⟩ := bind_eq_ok.mp ran
  obtain ⟨_, _, sent, ⟨⟩⟩ := bind_eq_ok.mp ran
  cases sent
  exact ⟨⟨rfl, rfl, rfl⟩, known, by simp [stored]⟩

private theorem declareDefault_runs (admits : Admits backend) (eventId : Uuid)
    (triggerReason : Text) (trace : TraceContext) {totalExposure : ℚ} {db : Database}
    (known : memberId ∈ db.members.map Member.id)
    (storable : (backend.store totalExposure).isSome) :
    ∃ after, declareDefault backend eventId memberId triggerReason totalExposure trace db =
      .ok ((), after) := by
  obtain ⟨stored, storing⟩ := Option.isSome_iff_exists.mp storable
  exact ⟨_, bind_eq_ok.mpr ⟨(), _, bind_eq_ok.mpr ⟨_, _, rfl,
    Transaction.require_eq_ok.mpr ⟨known, rfl⟩⟩, bind_eq_ok.mpr ⟨_, _,
      castNumeric_eq_ok.mpr ⟨storing, rfl⟩, bind_eq_ok.mpr ⟨(), _,
        Transaction.require_eq_ok.mpr ⟨admits.statuses _ (by decide), rfl⟩, rfl⟩⟩⟩⟩

private theorem resolveDefault_posted {finalStatus : DefaultEventStatus} {remaining : ℚ}
    {db after : Database}
    (ran : resolveDefault backend eventId finalStatus remaining trace db = .ok ((), after)) :
    Posted backend [] db after := by
  obtain ⟨_, _, checked, ran⟩ := bind_eq_ok.mp ran
  obtain ⟨-, rfl⟩ := Transaction.require_eq_ok.mp checked
  obtain ⟨_, _, ⟨⟩, ran⟩ := bind_eq_ok.mp ran
  obtain ⟨_, _, sent, ⟨⟩⟩ := bind_eq_ok.mp ran
  cases sent
  exact .of_entries rfl rfl rfl

private theorem resolveDefault_runs {finalStatus : DefaultEventStatus}
    (admitted : finalStatus ∈ backend.defaultStatuses) (remaining : ℚ) (db : Database) :
    ∃ after, resolveDefault backend eventId finalStatus remaining trace db = .ok ((), after) :=
  ⟨_, bind_eq_ok.mpr ⟨(), _, Transaction.require_eq_ok.mpr ⟨admitted, rfl⟩, rfl⟩⟩

/-- The status that closes an event with a loss left. -/
def finalStatusOf (remaining : ℚ) : DefaultEventStatus :=
  if remaining = 0 then .resolved else .partiallyResolved

/-- What a waterfall does to members, accounts and balances. -/
structure Swept (backend : Backend) (memberId : Uuid) (postings : List Posting)
    (db after : Database) : Prop where
  members : after.members = db.members.map fun member =>
    if member.id = memberId then { member with status := .defaulted } else member
  accounts : after.accounts = db.accounts
  balances : ∀ accountId, accountBalance after accountId =
    accountBalance db accountId + (postings.map (Posting.effect backend db accountId)).sum

/-- A waterfall that runs is the absorption of its loss by the tiers of the database. -/
structure Absorbed (backend : Backend) (memberId : Uuid) (totalExposure : ℚ) (db : Database)
    (outcome : Outcome) (after : Database) : Prop where
  remainingLoss : outcome.remainingLoss =
    lossLeft backend (waterfallTiers backend db memberId) totalExposure
  steps : outcome.steps = records backend (waterfallTiers backend db memberId) totalExposure
  status : outcome.status = finalStatusOf outcome.remainingLoss
  swept : Swept backend memberId
    (postingsAlong backend (waterfallTiers backend db memberId) totalExposure) db after

/-- The sum of all balances moves by what the postings collect and draw. -/
theorem Swept.sum_balances {postings : List Posting} {db after : Database}
    (swept : Swept backend memberId postings db after) :
    ((accountBalances after).map Prod.snd).sum = ((accountBalances db).map Prod.snd).sum +
      (postings.map fun posting =>
        (if (recoveryAccount db).isSome then posting.stored backend else 0) -
          if (posting.account db).isSome then posting.stored backend else 0).sum := by
  simp only [accountBalances, List.map_map, Function.comp_def, swept.accounts, swept.balances,
    List.sum_map_add]
  congr 1
  clear swept
  induction postings with
  | nil => simp
  | cons posting postings induction =>
      simp only [List.map_cons, List.sum_cons, List.sum_map_add, sum_effect, induction]

theorem postable_of_accepted {db : Database} {tiers : List WaterfallTier} {loss : ℚ}
    (accepted : Accepted backend db tiers loss) :
    ∀ posting ∈ postingsAlong backend tiers loss, Postable backend db posting := by
  induction tiers generalizing loss with
  | nil => simp [postingsAlong]
  | cons tier tiers induction =>
      obtain ⟨accepts, further⟩ := accepted
      intro posting member
      rcases List.mem_append.mp member with here | later
      · exact accepts.postings posting here
      · split at later
        · next positive => exact induction (further positive) posting later
        · cases later

/-- Whether a waterfall runs: the defaulter is a member and every amount survives storage. -/
structure Runnable (backend : Backend) (memberId : Uuid) (totalExposure : ℚ) (db : Database) :
    Prop where
  known : memberId ∈ db.members.map Member.id
  exposure : (backend.store totalExposure).isSome
  accepted : Accepted backend db (waterfallTiers backend db memberId) totalExposure

variable {triggerReason : Text} {totalExposure : ℚ} {context : Option TraceContext}
  {db after : Database}

theorem executeWaterfall_ran {outcome : Outcome}
    (ran : executeWaterfall backend memberId triggerReason totalExposure context db =
      .ok (outcome, after)) :
    Absorbed backend memberId totalExposure db outcome after ∧
      Runnable backend memberId totalExposure db := by
  obtain ⟨trace, traced, tracing, members, accounts, entries⟩ :=
    traceOrSystem_runs context "liquidation-engine" db
  obtain ⟨_, _, traceRan, ran⟩ := bind_eq_ok.mp ran
  obtain ⟨rfl, rfl⟩ : trace = _ ∧ traced = _ := by simpa using tracing.symm.trans traceRan
  obtain ⟨eventId, identified, ⟨⟩, ran⟩ := bind_eq_ok.mp ran
  obtain ⟨_, base, declaring, ran⟩ := bind_eq_ok.mp ran
  obtain ⟨declared, known, storable⟩ := declareDefault_ran declaring
  have declared : Declared memberId db base :=
    ⟨declared.members.trans (by rw [← members]), declared.accounts.trans accounts,
      declared.entries.trans entries⟩
  obtain ⟨_, swept, stepsRan, ran⟩ := bind_eq_ok.mp ran
  obtain ⟨rfl, posted, accepted⟩ := runSteps_ran stepsRan
  obtain ⟨_, resolved, resolving, ⟨⟩⟩ := bind_eq_ok.mp ran
  have posted := posted.trans (resolveDefault_posted resolving)
  rw [List.append_nil, declared.waterfallTiers_eq] at posted
  rw [declared.waterfallTiers_eq] at accepted
  have effect_eq : ∀ accountId,
      Posting.effect backend base accountId = Posting.effect backend db accountId := by
    intro accountId
    funext posting
    rw [Posting.effect, Posting.effect, Posting.account, Posting.account,
      declared.recoveryAccount_eq, declared.findAccount_eq]
  refine ⟨⟨by rw [declared.waterfallTiers_eq], by rw [declared.waterfallTiers_eq], rfl,
    posted.members.trans declared.members, posted.accounts.trans declared.accounts, ?_⟩,
    by simpa [members] using known, storable, declared.accepted_iff.mp accepted⟩
  intro accountId
  rw [posted.balances, declared.accountBalance_eq, effect_eq]

theorem executeWaterfall_runs (triggerReason : Text) (context : Option TraceContext)
    (admits : Admits backend)
    (runnable : Runnable backend memberId totalExposure db) :
    ∃ outcome after, executeWaterfall backend memberId triggerReason totalExposure context db =
      .ok (outcome, after) := by
  obtain ⟨trace, traced, tracing, members, accounts, entries⟩ :=
    traceOrSystem_runs context "liquidation-engine" db
  obtain ⟨base, declaring⟩ := declareDefault_runs admits traced.nextUuid triggerReason trace
    (show memberId ∈ ({ traced with nextUuid := traced.nextUuid + 1 } : Database).members.map
      Member.id by simpa [members] using runnable.known) runnable.exposure
  have declared := (declareDefault_ran declaring).1
  have declared : Declared memberId db base :=
    ⟨declared.members.trans (by rw [← members]), declared.accounts.trans accounts,
      declared.entries.trans entries⟩
  obtain ⟨result, swept, stepsRan⟩ := runSteps_runs admits traced.nextUuid
    (declared.accepted_iff.mpr (declared.waterfallTiers_eq ▸ runnable.accepted))
  have admitted : finalStatusOf result.1 ∈ backend.defaultStatuses := by
    rw [finalStatusOf]
    split <;> exact admits.statuses _ (by decide)
  obtain ⟨resolved, resolving⟩ := resolveDefault_runs admitted result.1 swept
  exact ⟨_, _, bind_eq_ok.mpr ⟨_, _, tracing, bind_eq_ok.mpr ⟨_, _, rfl, bind_eq_ok.mpr ⟨(), _,
    declaring, bind_eq_ok.mpr ⟨_, _, stepsRan, bind_eq_ok.mpr ⟨(), _, resolving, rfl⟩⟩⟩⟩⟩⟩

end Waterfall

end ClearingHouse
