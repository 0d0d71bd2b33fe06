import ClearingHouse.Waterfall.Order

/-!
# Accounting for the waterfall

What the steps apply is what the journals collect, and no account is drawn on twice.  So a
waterfall raises the settlement account of the house by what it absorbed and overdraws nothing, as
long as each tier counts only what the account it draws on can pay.
-/

namespace ClearingHouse

namespace Waterfall

open Fibers LossTiers ProRata StepSystem Transactions Transactions.Session

/-- The account type and the member a posting draws on. -/
def Posting.source (posting : Posting) : AccountType × Uuid :=
  (posting.sourceType, posting.memberId)

/-- The step that makes a posting. -/
def stepOf (defaulterId : Uuid) (posting : Posting) : ℕ :=
  match posting.sourceType with
  | .marginIm => 1
  | .defaultFund => if posting.memberId = defaulterId then 2 else 4
  | .ccpEquity => 3
  | _ => 5

private theorem sum_postings_drawTier {memberId : Uuid} {sourceType : AccountType}
    {available loss : ℚ} {stepOrder : ℕ} {stepType : StepType}
    (taken : 0 ≤ (drawTier (some memberId) sourceType available stepOrder stepType).take loss) :
    (((drawTier (some memberId) sourceType available stepOrder stepType).postings loss).map
        Posting.amount).sum =
      (drawTier (some memberId) sourceType available stepOrder stepType).take loss := by
  change 0 ≤ min available loss at taken
  change ((if 0 < min available loss then _ else []).map Posting.amount).sum = min available loss
  rcases taken.eq_or_lt with nothing | positive
  · rw [← nothing, if_neg (lt_irrefl 0)]
    rfl
  · rw [if_pos positive, List.map_singleton, List.sum_singleton]

/-- A tier of the waterfall posts what it takes. -/
theorem sum_postings {db : Database} {ccp : Member} (house : findCcp db = some ccp)
    (memberId : Uuid) {tier : WaterfallTier}
    (inside : tier ∈ waterfallTiers exactBackend db memberId)
    {loss : ℚ} (taken : 0 ≤ tier.take loss) :
    ((tier.postings loss).map Posting.amount).sum = tier.take loss := by
  simp only [waterfallTiers, List.mem_cons, List.not_mem_nil, or_false] at inside
  rcases inside with rfl | rfl | rfl | rfl | rfl
  · exact sum_postings_drawTier taken
  · exact sum_postings_drawTier taken
  · rw [equityTier, house] at taken ⊢
    exact sum_postings_drawTier taken
  · exact (exactBackend_sum _).symm
  · exact (exactBackend_sum _).symm

/-- Tiers that absorb a loss in order post what they absorb. -/
theorem sum_postingsAlong {tiers : List WaterfallTier}
    (posts : ∀ tier ∈ tiers, ∀ loss, 0 ≤ tier.take loss →
      ((tier.postings loss).map Posting.amount).sum = tier.take loss) {loss : ℚ}
    (order : InOrder loss (absorb (· - ·) (tiers.map WaterfallTier.toTier) loss)) :
    ((postingsAlong exactBackend tiers loss).map Posting.amount).sum =
      loss - lossLeft exactBackend tiers loss := by
  induction tiers generalizing loss with
  | nil => simp [postingsAlong, lossLeft, left]
  | cons tier tiers induction =>
      rw [List.map_cons, inOrder_absorb_cons] at order
      obtain ⟨⟨⟨taken, -⟩, -⟩, further⟩ := order
      have here := posts tier List.mem_cons_self loss taken
      have later := fun t inside => posts t (List.mem_cons_of_mem tier inside)
      rw [postingsAlong, List.map_append, List.sum_append, here, lossLeft, List.map_cons, left_cons,
        exactBackend_sub]
      split
      · next leaves =>
          rw [induction later (further (sub_pos.mp leaves)), lossLeft, exactBackend_sub]
          ring
      · simp

theorem survivorFunds_source {db : Database} {defaulterId : Uuid} {row : Uuid × ℚ}
    (inside : row ∈ survivorFunds db defaulterId) : ∃ survivor ∈ survivors db defaulterId,
      survivor.id = row.1 ∧ ∃ account ∈ db.accounts, account.memberId = row.1 ∧
        account.accountType = .defaultFund ∧ account.pool = .available ∧
          accountBalance db account.id = row.2 := by
  obtain ⟨survivor, surviving, balances⟩ := List.mem_flatMap.mp inside
  obtain ⟨balance, kept, rfl⟩ := List.mem_map.mp balances
  obtain ⟨known, passes⟩ := List.mem_filter.mp kept
  obtain ⟨account, there, rfl⟩ := List.mem_map.mp known
  simp only [decide_eq_true_eq] at passes
  exact ⟨survivor, surviving, rfl, account, there, passes.1, passes.2.1, passes.2.2.1, rfl⟩

/-- The step of a posting can be read off its source. -/
theorem stepOf_postings {db : Database} {memberId : Uuid} {tier : WaterfallTier}
    (inside : tier ∈ waterfallTiers exactBackend db memberId) {loss : ℚ} {posting : Posting}
    (member : posting ∈ tier.postings loss) : stepOf memberId posting = tier.label.1 := by
  simp only [waterfallTiers, List.mem_cons, List.not_mem_nil, or_false] at inside
  rcases inside with rfl | rfl | rfl | rfl | rfl
  · simp [stepOf, (postings_drawTier member).1, marginTier, drawTier]
  · obtain ⟨type, owner⟩ := postings_drawTier member
    simp [stepOf, type, Option.some.inj owner, defaultFundTier, drawTier]
  · simp [stepOf, (postings_drawTier member).1, equityTier, drawTier]
  · obtain ⟨type, weight, row, -⟩ := asked_source member
    obtain ⟨survivor, surviving, same, -⟩ := survivorFunds_source row
    have other : posting.memberId ≠ memberId :=
      ne_of_eq_of_ne same.symm (mem_survivors.mp surviving).2.2
    simp [stepOf, type, other, mutualTier, spreadTier]
  · obtain ⟨type, -⟩ := asked_source member
    simp [stepOf, type, allocationTier, spreadTier]

/-- A loss that enters a list of tiers reaches one of them as some rest. -/
def Reaches : List WaterfallTier → ℚ → WaterfallTier → ℚ → Prop
  | [], _, _, _ => False
  | first :: tiers, loss, tier, rest =>
      (tier = first ∧ rest = loss) ∨
        (first.take loss < loss ∧ Reaches tiers (loss - first.take loss) tier rest)

theorem Reaches.mem {tiers : List WaterfallTier} {loss rest : ℚ} {tier : WaterfallTier}
    (reaches : Reaches tiers loss tier rest) : tier ∈ tiers := by
  induction tiers generalizing loss with
  | nil => cases reaches
  | cons first tiers induction =>
      rcases reaches with ⟨rfl, -⟩ | ⟨-, later⟩
      · exact List.mem_cons_self
      · exact List.mem_cons_of_mem first (induction later)

theorem postingsAlong_mem {tiers : List WaterfallTier} {loss : ℚ} {posting : Posting}
    (member : posting ∈ postingsAlong exactBackend tiers loss) :
    ∃ tier rest, Reaches tiers loss tier rest ∧ posting ∈ tier.postings rest := by
  induction tiers generalizing loss with
  | nil => cases member
  | cons first tiers induction =>
      rcases List.mem_append.mp member with here | later
      · exact ⟨first, loss, .inl ⟨rfl, rfl⟩, here⟩
      · split at later
        · next leaves =>
            obtain ⟨tier, rest, reaches, found⟩ := induction later
            exact ⟨tier, rest, .inr ⟨sub_pos.mp leaves, reaches⟩, found⟩
        · cases later

/-- Tiers with different sources draw on no source twice. -/
theorem nodup_sources {tiers : List WaterfallTier} {loss : ℚ}
    (each : ∀ tier rest, Reaches tiers loss tier rest →
      ((tier.postings rest).map Posting.source).Nodup)
    (apart : tiers.Pairwise fun tier later => ∀ loss rest, ∀ posting ∈ tier.postings loss,
      ∀ other ∈ later.postings rest, posting.source ≠ other.source) :
    ((postingsAlong exactBackend tiers loss).map Posting.source).Nodup := by
  induction tiers generalizing loss with
  | nil => exact List.nodup_nil
  | cons first tiers induction =>
      obtain ⟨head_apart, tail_apart⟩ := List.pairwise_cons.mp apart
      rw [postingsAlong, List.map_append]
      refine List.nodup_append.mpr ⟨each first loss (.inl ⟨rfl, rfl⟩), ?_, ?_⟩
      · split
        · next leaves =>
            exact induction (fun tier rest reaches =>
              each tier rest (.inr ⟨sub_pos.mp leaves, reaches⟩)) tail_apart
        · exact List.nodup_nil
      · intro source here other later
        obtain ⟨posting, drawn, rfl⟩ := List.mem_map.mp here
        obtain ⟨further, drawn_later, rfl⟩ := List.mem_map.mp later
        split at drawn_later
        · obtain ⟨tier, rest, reaches, found⟩ := postingsAlong_mem drawn_later
          exact head_apart tier reaches.mem loss rest posting drawn further found
        · cases drawn_later

private theorem nodup_drawTier {source : Option Uuid} {sourceType : AccountType}
    {available : ℚ} {stepOrder : ℕ} {stepType : StepType} (loss : ℚ) :
    (((drawTier source sourceType available stepOrder stepType).postings loss).map
      Posting.source).Nodup := by
  rw [drawTier]
  dsimp only
  split
  · split
    · exact List.nodup_singleton _
    · exact List.nodup_nil
  · exact List.nodup_nil

private theorem nodup_asked {sourceType : AccountType} {rows : List (Uuid × ℚ)} {total loss : ℚ}
    {cap : ℚ → ℚ} (distinct : (rows.map Prod.fst).Nodup) :
    ((asked exactBackend sourceType rows total cap loss).map Posting.source).Nodup := by
  rw [asked]
  split
  · induction rows with
    | nil => exact List.nodup_nil
    | cons row rows induction =>
        obtain ⟨fresh, rest⟩ := List.nodup_cons.mp distinct
        rw [List.filterMap_cons]
        split
        · exact induction rest
        · next posting request =>
            refine List.nodup_cons.mpr ⟨fun repeated => fresh ?_, induction rest⟩
            obtain ⟨other, inside, same⟩ := List.mem_map.mp repeated
            obtain ⟨row', there, request'⟩ := List.mem_filterMap.mp inside
            have owner : ∀ {r : Uuid × ℚ} {p : Posting},
                ask exactBackend sourceType total cap loss r = some p → p.memberId = r.1 := by
              intro r p requested
              unfold ask at requested
              split at requested
              · exact (Option.some.inj requested) ▸ rfl
              · cases requested
            have same_member : other.memberId = posting.memberId := congrArg Prod.snd same
            rw [owner request', owner request] at same_member
            exact same_member ▸ List.mem_map_of_mem there
  · exact List.nodup_nil

/-- The account a posting draws on can pay it, unless it was overdrawn before. -/
def Payable (db : Database) (posting : Posting) : Prop :=
  ∀ account ∈ posting.account db, 0 ≤ accountBalance db account.id →
    posting.amount ≤ accountBalance db account.id

private theorem account_inj {db : Database} {posting other : Posting} {account : Account}
    (drawn : posting.account db = some account) (drawn_other : other.account db = some account) :
    posting.source = other.source := by
  obtain ⟨owner, type, -⟩ := findAccount_spec drawn
  obtain ⟨owner', type', -⟩ := findAccount_spec drawn_other
  rw [Posting.source, Posting.source, ← owner, ← type, owner', type']

private theorem onAccount_eq {db : Database} {lookup : Option Account} {account : Account}
    (known : ∀ found ∈ lookup, found ∈ db.accounts) (inside : account ∈ db.accounts) (amount : ℚ) :
    onAccount lookup amount account.id = if lookup = some account then amount else 0 := by
  rw [onAccount]
  refine if_congr ⟨fun hit => ?_, fun hit => by rw [hit]; rfl⟩ rfl rfl
  obtain ⟨found, drawn, same⟩ := Option.map_eq_some_iff.mp hit
  rw [drawn, List.inj_on_of_nodup_map db.accountIds_nodup (known found drawn) inside same]

private theorem onAccount_of_find {db : Database} {memberId : Uuid} {accountType : AccountType}
    {pool : Pool} {account : Account} (inside : account ∈ db.accounts) (amount : ℚ) :
    onAccount (findAccount db memberId accountType pool) amount account.id =
      if findAccount db memberId accountType pool = some account then amount else 0 :=
  onAccount_eq (fun _ found => findAccount_mem found) inside amount

private theorem onAccount_of_source {db : Database} {posting : Posting} {account : Account}
    (inside : account ∈ db.accounts) :
    onAccount (posting.account db) posting.amount account.id =
      if posting.account db = some account then posting.amount else 0 :=
  onAccount_of_find inside posting.amount

/-- Payable postings with different sources overdraw no account. -/
theorem drawn_le {db : Database} {postings : List Posting}
    (distinct : (postings.map Posting.source).Nodup)
    (payable : ∀ posting ∈ postings, Payable db posting) {account : Account}
    (inside : account ∈ db.accounts) (nonneg : 0 ≤ accountBalance db account.id) :
    (postings.map fun posting =>
        onAccount (posting.account db) posting.amount account.id).sum ≤
      accountBalance db account.id := by
  induction postings with
  | nil => simpa using nonneg
  | cons posting postings induction =>
      rw [List.map_cons] at distinct
      obtain ⟨fresh, rest⟩ := List.nodup_cons.mp distinct
      have rest_payable := fun p there => payable p (List.mem_cons_of_mem posting there)
      rw [List.map_cons, List.sum_cons, onAccount_of_source inside]
      by_cases drawn : posting.account db = some account
      · have others : ∀ amount ∈ postings.map fun p => onAccount (p.account db) p.amount account.id,
            amount = 0 := by
          intro amount member
          obtain ⟨other, there, rfl⟩ := List.mem_map.mp member
          rw [onAccount_of_source inside, if_neg fun hit => fresh ?_]
          exact account_inj drawn hit ▸ List.mem_map_of_mem there
        rw [if_pos drawn, List.sum_eq_zero others, add_zero]
        exact payable posting List.mem_cons_self account drawn nonneg
      · rw [if_neg drawn, zero_add]
        exact induction rest rest_payable

private theorem reaches_drawTier {source : Option Uuid} {sourceType : AccountType}
    {available loss rest : ℚ} {stepOrder : ℕ} {stepType : StepType} {tiers : List WaterfallTier}
    {tier : WaterfallTier}
    (reaches : Reaches (drawTier source sourceType available stepOrder stepType :: tiers) loss tier
      rest) :
    (tier = drawTier source sourceType available stepOrder stepType ∧ rest = loss) ∨
      (available < loss ∧ Reaches tiers (loss - available) tier rest) := by
  rcases reaches with here | ⟨leaves, later⟩
  · exact .inl here
  · change min available loss < loss at leaves
    have exceeds : available < loss := (min_lt_iff.mp leaves).resolve_right (lt_irrefl loss)
    rw [show (drawTier source sourceType available stepOrder stepType).take loss = available
      from min_eq_left exceeds.le] at later
    exact .inr ⟨exceeds, later⟩

/-- Which tiers the loss reaches, and as what. -/
theorem reaches_waterfallTiers {db : Database} {memberId : Uuid} {totalExposure rest : ℚ}
    {tier : WaterfallTier}
    (reaches : Reaches (waterfallTiers exactBackend db memberId) totalExposure tier rest) :
    (tier = marginTier db memberId ∧ rest = totalExposure) ∨ tier = defaultFundTier db memberId ∨
      tier = equityTier db ∨
      (tier = mutualTier exactBackend db memberId ∧ seniorTotal db memberId < totalExposure) ∨
      (tier = allocationTier exactBackend db memberId ∧
        seniorTotal db memberId + fundTotal db memberId < totalExposure ∧
        rest = totalExposure - (seniorTotal db memberId + fundTotal db memberId)) := by
  rcases reaches_drawTier reaches with here | ⟨-, reaches⟩
  · exact .inl here
  rcases reaches_drawTier reaches with ⟨rfl, -⟩ | ⟨-, reaches⟩
  · exact .inr (.inl rfl)
  rcases reaches_drawTier reaches with ⟨rfl, -⟩ | ⟨beyond, reaches⟩
  · exact .inr (.inr (.inl rfl))
  have senior : seniorTotal db memberId < totalExposure := by
    rw [seniorTotal]
    linarith
  rcases reaches with ⟨rfl, -⟩ | ⟨leaves, reaches⟩
  · exact .inr (.inr (.inr (.inl ⟨rfl, senior⟩)))
  rw [mutualTier_take (sub_pos.mpr beyond)] at leaves reaches
  have funds := (min_lt_iff.mp leaves).resolve_left (lt_irrefl _)
  rw [min_eq_right funds.le] at reaches
  rcases reaches with ⟨rfl, rfl⟩ | ⟨-, impossible⟩
  · refine .inr (.inr (.inr (.inr ⟨rfl, ?_, ?_⟩)))
    · rw [seniorTotal]
      linarith
    · rw [seniorTotal]
      ring
  · cases impossible

/-- The available default fund accounts of a member. -/
def IsFundOf (memberId : Uuid) (account : Account) : Prop :=
  account.memberId = memberId ∧ account.accountType = .defaultFund ∧ account.pool = .available

instance (memberId : Uuid) (account : Account) : Decidable (IsFundOf memberId account) :=
  inferInstanceAs (Decidable (_ ∧ _))

/-- Every tier counts what the account it draws on can pay: the margin of the defaulter lies on its
first initial margin account, its default fund and the equity of the house are not negative when
the loss reaches them, a survivor has one default fund account, and no allocation to a survivor
exceeds its settlement account or goes to the house itself. -/
structure Covered (db : Database) (memberId : Uuid) (totalExposure : ℚ) : Prop where
  exposure : 0 ≤ totalExposure
  margin : min (getMemberMarginBalance db memberId) totalExposure ≤
    max (getAccountBalance db memberId .marginIm .available) 0
  seniors : SeniorBalancesNonneg db memberId totalExposure
  limits : ∀ member ∈ db.members, 0 ≤ member.creditLimit
  funds : seniorTotal db memberId < totalExposure → ∀ survivor ∈ survivors db memberId,
    ∀ account ∈ db.accounts, ∀ other ∈ db.accounts, IsFundOf survivor.id account →
      IsFundOf survivor.id other → account = other
  allocations : seniorTotal db memberId + fundTotal db memberId < totalExposure →
    ∀ survivor ∈ survivors db memberId, 0 < survivor.creditLimit →
      survivor.lei ≠ ccpLei ∧
        (0 ≤ getAccountBalance db survivor.id .settlement .available →
          min (share (limitTotal db memberId)
              (totalExposure - (seniorTotal db memberId + fundTotal db memberId))
              survivor.creditLimit)
            (survivor.creditLimit * (1 / 10)) ≤
          getAccountBalance db survivor.id .settlement .available)

instance (db : Database) (memberId : Uuid) (totalExposure : ℚ) :
    Decidable (Covered db memberId totalExposure) :=
  decidable_of_iff (_ ∧ _ ∧ _ ∧ _ ∧ _ ∧ _)
    ⟨fun ⟨exposure, margin, seniors, limits, funds, allocations⟩ =>
        ⟨exposure, margin, seniors, limits, funds, allocations⟩,
      fun ⟨exposure, margin, seniors, limits, funds, allocations⟩ =>
        ⟨exposure, margin, seniors, limits, funds, allocations⟩⟩

theorem getAccountBalance_of_find {db : Database} {memberId : Uuid} {accountType : AccountType}
    {pool : Pool} {account : Account}
    (found : findAccount db memberId accountType pool = some account) :
    getAccountBalance db memberId accountType pool = accountBalance db account.id := by
  rw [getAccountBalance, found]

/-- A posting is payable when it does not exceed a balance that is not negative. -/
private theorem payable_of_le {db : Database} {posting : Posting}
    (covered : 0 ≤ getAccountBalance db posting.memberId posting.sourceType .available →
      posting.amount ≤ getAccountBalance db posting.memberId posting.sourceType .available) :
    Payable db posting := by
  intro account drawn nonneg
  rw [← getAccountBalance_of_find drawn] at nonneg ⊢
  exact covered nonneg

private theorem payable_drawTier {db : Database} {owner : Uuid} {sourceType : AccountType}
    {available loss : ℚ} {stepOrder : ℕ} {stepType : StepType} {posting : Posting}
    (member : posting ∈
      (drawTier (some owner) sourceType available stepOrder stepType).postings loss)
    (covered : 0 ≤ getAccountBalance db owner sourceType .available →
      min available loss ≤ getAccountBalance db owner sourceType .available) :
    Payable db posting := by
  obtain ⟨type, same⟩ := postings_drawTier member
  apply payable_of_le
  rw [(amount_drawTier member).1, type, ← Option.some.inj same]
  exact covered

section Covered

variable {db : Database} {memberId : Uuid} {totalExposure : ℚ}

/-- Under the condition no posting overdraws the account it draws on. -/
theorem payable_of_covered (covered : Covered db memberId totalExposure) :
    ∀ posting ∈ postingsAlong exactBackend (waterfallTiers exactBackend db memberId) totalExposure,
      Payable db posting := by
  intro posting member
  obtain ⟨tier, rest, reaches, made⟩ := postingsAlong_mem member
  rcases reaches_waterfallTiers reaches with
    ⟨rfl, rfl⟩ | rfl | rfl | ⟨rfl, senior⟩ | ⟨rfl, beyond, rfl⟩
  · apply payable_drawTier made
    intro nonneg
    exact covered.margin.trans_eq (max_eq_left nonneg)
  · exact payable_drawTier made fun _ => min_le_left _ _
  · cases house : findCcp db with
    | none =>
        rw [equityTier, house] at made
        cases made
    | some ccp =>
        rw [equityTier, house, ccpEquity, house] at made
        exact payable_drawTier made fun _ => min_le_left _ _
  · obtain ⟨type, weight, row, -, amount, -⟩ := asked_source made
    obtain ⟨survivor, surviving, same, account, inside, owner, fund, pool, balance⟩ :=
      survivorFunds_source row
    intro found drawn _
    obtain ⟨found_owner, found_type, found_pool⟩ := findAccount_spec drawn
    have only : found = account :=
      covered.funds senior survivor surviving found (findAccount_mem drawn) account inside
        ⟨found_owner.trans same.symm, found_type.trans type, found_pool⟩
        ⟨owner.trans same.symm, fund, pool⟩
    rw [only, balance, amount]
    exact min_le_right _ _
  · obtain ⟨type, weight, row, positive, amount, -⟩ := asked_source made
    obtain ⟨survivor, surviving, same⟩ := List.mem_map.mp row
    obtain ⟨owner, rfl⟩ := Prod.mk.inj same
    obtain ⟨-, affordable⟩ := covered.allocations beyond survivor surviving positive
    apply payable_of_le
    rw [amount, type, ← owner, exactBackend_sum, sum_nonzero_limits]
    exact affordable

private theorem pairwise_apart (db : Database) (memberId : Uuid) :
    (waterfallTiers exactBackend db memberId).Pairwise fun tier later => ∀ loss rest,
      ∀ posting ∈ tier.postings loss, ∀ other ∈ later.postings rest,
        posting.source ≠ other.source := by
  have labels : (waterfallTiers exactBackend db memberId).Pairwise fun tier later =>
      tier.label.1 ≠ later.label.1 := by
    have orders : ((waterfallTiers exactBackend db memberId).map fun tier => tier.label.1) =
        [1, 2, 3, 4, 5] := rfl
    exact List.pairwise_map.mp (orders ▸ (by decide : [1, 2, 3, 4, 5].Pairwise (· ≠ ·)))
  refine labels.imp_of_mem fun {tier later} inside inside' unequal => ?_
  intro loss rest posting drawn other drawn' same
  have step_eq : stepOf memberId posting = stepOf memberId other := by
    obtain ⟨type, owner⟩ := Prod.mk.inj same
    rw [stepOf, stepOf, type, owner]
  rw [stepOf_postings inside drawn, stepOf_postings inside' drawn'] at step_eq
  exact unequal step_eq

private theorem nodup_fundRows {survivorId : Uuid}
    (single : ∀ account ∈ db.accounts, ∀ other ∈ db.accounts, IsFundOf survivorId account →
      IsFundOf survivorId other → account = other) :
    ((((accountBalances db).filter fun row => row.1.memberId = survivorId ∧
      row.1.accountType = .defaultFund ∧ row.1.pool = .available ∧ 0 < row.2).map
        fun row => (survivorId, row.2)).map Prod.fst).Nodup := by
  have distinct : (accountBalances db).Nodup :=
    (List.Nodup.of_map _ db.accountIds_nodup).map fun account other same => (Prod.mk.inj same).1
  rw [List.map_map]
  refine List.Nodup.map_on (fun row kept other kept' _ => ?_) (distinct.filter _)
  obtain ⟨known, passes⟩ := List.mem_filter.mp kept
  obtain ⟨known', passes'⟩ := List.mem_filter.mp kept'
  obtain ⟨account, inside, rfl⟩ := List.mem_map.mp known
  obtain ⟨account', inside', rfl⟩ := List.mem_map.mp known'
  simp only [decide_eq_true_eq] at passes passes'
  rw [single account inside account' inside' ⟨passes.1, passes.2.1, passes.2.2.1⟩
    ⟨passes'.1, passes'.2.1, passes'.2.2.1⟩]

private theorem nodup_survivorFunds (senior : seniorTotal db memberId < totalExposure)
    (covered : Covered db memberId totalExposure) :
    ((survivorFunds db memberId).map Prod.fst).Nodup := by
  have distinct : ((survivors db memberId).map Member.id).Nodup :=
    db.memberIds_nodup.sublist (List.filter_sublist.map _)
  have single := covered.funds senior
  rw [survivorFunds]
  generalize survivors db memberId = members at distinct single
  induction members with
  | nil => exact List.nodup_nil
  | cons survivor rest induction =>
      obtain ⟨fresh, rest_distinct⟩ := List.nodup_cons.mp distinct
      obtain ⟨here, later⟩ := List.forall_mem_cons.mp single
      rw [List.flatMap_cons, List.map_append]
      refine List.nodup_append.mpr ⟨nodup_fundRows here, induction rest_distinct later, ?_⟩
      intro owner member other member' same
      obtain ⟨row, inside, rfl⟩ := List.mem_map.mp member
      obtain ⟨balance, -, rfl⟩ := List.mem_map.mp inside
      obtain ⟨row', inside', rfl⟩ := List.mem_map.mp member'
      obtain ⟨survivor', surviving', balances'⟩ := List.mem_flatMap.mp inside'
      obtain ⟨balance', -, rfl⟩ := List.mem_map.mp balances'
      have repeated : survivor'.id ∈ rest.map Member.id := List.mem_map_of_mem surviving'
      rw [← show survivor.id = survivor'.id from same] at repeated
      exact fresh repeated

theorem nodup_survivorLimits (db : Database) (memberId : Uuid) :
    ((survivorLimits db memberId).map Prod.fst).Nodup := by
  rw [survivorLimits, List.map_map]
  exact db.memberIds_nodup.sublist (List.filter_sublist.map _)

/-- Under the condition no account is drawn on twice. -/
theorem nodup_sources_of_covered (covered : Covered db memberId totalExposure) :
    ((postingsAlong exactBackend (waterfallTiers exactBackend db memberId) totalExposure).map
      Posting.source).Nodup := by
  refine nodup_sources (fun tier rest reaches => ?_) (pairwise_apart db memberId)
  rcases reaches_waterfallTiers reaches with
    ⟨rfl, -⟩ | rfl | rfl | ⟨rfl, senior⟩ | ⟨rfl, -⟩
  · exact nodup_drawTier rest
  · exact nodup_drawTier rest
  · exact nodup_drawTier rest
  · exact nodup_asked (nodup_survivorFunds senior covered)
  · exact nodup_asked (nodup_survivorLimits db memberId)

/-- Under the condition nothing is drawn on the account that collects. -/
theorem not_recovery_of_covered (covered : Covered db memberId totalExposure) {account : Account}
    (recovery : recoveryAccount db = some account) :
    ∀ posting ∈ postingsAlong exactBackend (waterfallTiers exactBackend db memberId) totalExposure,
      posting.account db ≠ some account := by
  obtain ⟨ccp, house, found⟩ := Option.bind_eq_some_iff.mp recovery
  obtain ⟨recovery_owner, recovery_type, -⟩ := findAccount_spec found
  intro posting member drawn
  obtain ⟨owner, type, -⟩ := findAccount_spec drawn
  have settlement : posting.sourceType = .settlement := type.symm.trans recovery_type
  have draws : ∀ {source : Option Uuid} {sourceType : AccountType} {available loss : ℚ}
      {stepOrder : ℕ} {stepType : StepType}, sourceType ≠ .settlement →
        posting ∉ (drawTier source sourceType available stepOrder stepType).postings loss :=
    fun other made => other ((postings_drawTier made).1.symm.trans settlement)
  obtain ⟨tier, rest, reaches, made⟩ := postingsAlong_mem member
  rcases reaches_waterfallTiers reaches with
    ⟨rfl, -⟩ | rfl | rfl | ⟨rfl, -⟩ | ⟨rfl, beyond, -⟩
  · exact draws (by decide) made
  · exact draws (by decide) made
  · exact draws (by decide) made
  · exact absurd ((asked_source made).1.symm.trans settlement) (by decide)
  · obtain ⟨-, weight, row, positive, -⟩ := asked_source made
    obtain ⟨survivor, surviving, same⟩ := List.mem_map.mp row
    obtain ⟨survivor_id, rfl⟩ := Prod.mk.inj same
    have is_house : survivor = ccp :=
      List.inj_on_of_nodup_map db.memberIds_nodup (mem_survivors.mp surviving).1
        (List.mem_of_find?_eq_some house) (survivor_id.trans (owner.symm.trans recovery_owner))
    have lei : ccp.lei = ccpLei := by simpa using List.find?_some house
    exact (covered.allocations beyond survivor surviving positive).1 (is_house ▸ lei)

end Covered

/-- A waterfall collects what it absorbed on the settlement account of the house and leaves no
account negative that was not. -/
structure Settles (absorbedLoss : ℚ) (db after : Database) : Prop where
  recovered : ∀ account, recoveryAccount db = some account →
    accountBalance after account.id = accountBalance db account.id + absorbedLoss
  nonneg : ∀ account ∈ db.accounts, 0 ≤ accountBalance db account.id →
    0 ≤ accountBalance after account.id

section OneWaterfall

variable {db after : Database} {memberId : Uuid} {totalExposure : ℚ} {outcome : Outcome}

private theorem sum_effect_eq (postings : List Posting) (accountId : Uuid) :
    (postings.map (Posting.effect exactBackend db accountId)).sum =
      (postings.map fun posting =>
        onAccount (recoveryAccount db) posting.amount accountId).sum -
      (postings.map fun posting =>
        onAccount (posting.account db) posting.amount accountId).sum := by
  induction postings with
  | nil => simp
  | cons posting postings induction =>
      simp only [List.map_cons, List.sum_cons, induction, Posting.effect, stored_exactBackend]
      ring

theorem settles_of_covered (covered : Covered db memberId totalExposure)
    (house : (recoveryAccount db).isSome)
    (absorbed : Absorbed exactBackend memberId totalExposure db outcome after)
    (runnable : Runnable exactBackend memberId totalExposure db) :
    Settles (totalExposure - outcome.remainingLoss) db after := by
  obtain ⟨recovery, collects⟩ := Option.isSome_iff_exists.mp house
  obtain ⟨ccp, is_house, -⟩ := Option.bind_eq_some_iff.mp collects
  have order := (inOrder_tiers_iff covered.limits memberId covered.exposure).mpr covered.seniors
  have collected := sum_postingsAlong
    (fun tier inside loss => sum_postings is_house memberId inside)
    order
  have payable := payable_of_covered covered
  constructor
  · intro account is_recovery
    have none_drawn : ∀ amount ∈ (postingsAlong exactBackend
        (waterfallTiers exactBackend db memberId) totalExposure).map fun posting =>
          onAccount (posting.account db) posting.amount account.id, amount = 0 := by
      intro amount member
      obtain ⟨posting, inside, rfl⟩ := List.mem_map.mp member
      rw [onAccount_of_source (recoveryAccount_mem is_recovery),
        if_neg (not_recovery_of_covered covered is_recovery posting inside)]
    rw [absorbed.swept.balances, sum_effect_eq, List.sum_eq_zero none_drawn, sub_zero,
      absorbed.remainingLoss, ← collected, is_recovery]
    simp [onAccount]
  · intro account inside nonneg
    have drawn := drawn_le (nodup_sources_of_covered covered) payable inside nonneg
    have amounts_nonneg : 0 ≤ ((postingsAlong exactBackend
        (waterfallTiers exactBackend db memberId) totalExposure).map fun posting =>
          onAccount (recoveryAccount db) posting.amount account.id).sum := by
      apply List.sum_nonneg
      intro amount member
      obtain ⟨posting, made, rfl⟩ := List.mem_map.mp member
      rw [onAccount]
      split
      · obtain ⟨stored, storing, positive⟩ :=
          postable_of_accepted runnable.accepted posting made (.inr house)
        exact ((Option.some.inj storing).symm ▸ positive).le
      · exact le_rfl
    rw [absorbed.swept.balances, sum_effect_eq]
    linarith

/-- What an account adds to the margin of a member. -/
private def marginOf (memberId : Uuid) (account : Account) (balance : ℚ) : ℚ :=
  if account.memberId = memberId ∧ account.accountType ∈ [AccountType.marginIm, .marginVm] then
    max balance 0
  else 0

private theorem getMemberMarginBalance_eq (db : Database) (memberId : Uuid) :
    getMemberMarginBalance db memberId =
      (db.accounts.map fun account =>
        marginOf memberId account (accountBalance db account.id)).sum := by
  rw [getMemberMarginBalance, accountBalances]
  induction db.accounts with
  | nil => rfl
  | cons account rest induction =>
      rw [List.map_cons, List.map_cons, List.sum_cons, ← induction, List.filter_cons, marginOf]
      by_cases mine : account.memberId = memberId ∧
        account.accountType ∈ [AccountType.marginIm, .marginVm]
      · rw [if_pos mine]
        rcases le_or_gt (accountBalance db account.id) 0 with empty | positive
        · rw [if_neg (by simp [empty.not_gt]), max_eq_right empty, zero_add]
        · rw [if_pos (by simpa [positive] using mine), max_eq_left positive.le, List.map_cons,
            List.sum_cons]
      · rw [if_neg mine, if_neg fun all => mine (by simp at all; simp [all.1, all.2.1]), zero_add]

private theorem drawn_on_margin {account : Account} (inside : account ∈ db.accounts)
    (margin : account.accountType ∈ [AccountType.marginIm, .marginVm])
    (nonneg : 0 ≤ totalExposure) :
    ((postingsAlong exactBackend (waterfallTiers exactBackend db memberId) totalExposure).map
        fun posting => onAccount (posting.account db) posting.amount account.id).sum =
      onAccount (findAccount db memberId .marginIm .available)
        (min (getMemberMarginBalance db memberId) totalExposure) account.id := by
  have later_zero : ∀ loss,
      ((postingsAlong exactBackend [defaultFundTier db memberId, equityTier db,
      mutualTier exactBackend db memberId, allocationTier exactBackend db memberId] loss).map
        fun posting => onAccount (posting.account db) posting.amount account.id).sum = 0 := by
    intro loss
    apply List.sum_eq_zero
    intro amount member
    obtain ⟨posting, made, rfl⟩ := List.mem_map.mp member
    obtain ⟨tier, rest, reaches, drawn⟩ := postingsAlong_mem made
    have elsewhere : posting.sourceType ∉ [AccountType.marginIm, .marginVm] := by
      have tiers := reaches.mem
      simp only [List.mem_cons, List.not_mem_nil, or_false] at tiers
      rcases tiers with rfl | rfl | rfl | rfl
      · simp [(postings_drawTier drawn).1]
      · simp [(postings_drawTier drawn).1]
      · simp [(asked_source drawn).1]
      · simp [(asked_source drawn).1]
    rw [onAccount_of_source inside, if_neg]
    intro hit
    exact elsewhere ((findAccount_spec hit).2.1 ▸ margin)
  have first : ((marginTier db memberId).postings totalExposure).map
      (fun posting => onAccount (posting.account db) posting.amount account.id) =
        if 0 < min (getMemberMarginBalance db memberId) totalExposure then
          [onAccount (findAccount db memberId .marginIm .available)
            (min (getMemberMarginBalance db memberId) totalExposure) account.id]
        else [] := by
    rw [marginTier, drawTier]
    dsimp only
    split <;> rfl
  rw [waterfallTiers, postingsAlong, List.map_append, List.sum_append, first]
  have rest_zero : ((if 0 < exactBackend.sub totalExposure ((marginTier db memberId).take
      totalExposure) then postingsAlong exactBackend [defaultFundTier db memberId, equityTier db,
        mutualTier exactBackend db memberId, allocationTier exactBackend db memberId]
          (exactBackend.sub totalExposure ((marginTier db memberId).take totalExposure))
      else []).map fun posting => onAccount (posting.account db) posting.amount account.id).sum =
        0 := by
    split
    · exact later_zero _
    · rfl
  rw [rest_zero, add_zero]
  have taken : 0 ≤ min (getMemberMarginBalance db memberId) totalExposure :=
    le_min (getMemberMarginBalance_nonneg db memberId) nonneg
  rcases taken.eq_or_lt with nothing | positive
  · rw [← nothing, if_neg (lt_irrefl 0), onAccount, ite_self]
    rfl
  · rw [if_pos positive, List.sum_singleton]

/-- Under the condition the margin of the defaulter shrinks by what is applied, and no other. -/
theorem margin_of_covered (covered : Covered db memberId totalExposure)
    (absorbed : Absorbed exactBackend memberId totalExposure db outcome after) (owner : Uuid) :
    getMemberMarginBalance after owner = getMemberMarginBalance db owner -
      if owner = memberId then min (getMemberMarginBalance db memberId) totalExposure else 0 := by
  set drawn := min (getMemberMarginBalance db memberId) totalExposure with drawn_eq
  set source := findAccount db memberId .marginIm .available with source_eq
  have drawn_nonneg : 0 ≤ drawn :=
    le_min (getMemberMarginBalance_nonneg db memberId) covered.exposure
  have each : ∀ account ∈ db.accounts,
      marginOf owner account (accountBalance after account.id) +
          (if account.memberId = owner then onAccount source drawn account.id else 0) =
        marginOf owner account (accountBalance db account.id) := by
    intro account inside
    rw [onAccount_of_find inside]
    by_cases mine : account.memberId = owner ∧
      account.accountType ∈ [AccountType.marginIm, .marginVm]
    · have balance := absorbed.swept.balances account.id
      rw [sum_effect_eq, drawn_on_margin inside mine.2 covered.exposure,
        onAccount_of_find inside] at balance
      have none_collected : ∀ posting : Posting,
          onAccount (recoveryAccount db) posting.amount account.id = 0 := by
        intro posting
        rw [onAccount_eq (fun _ found => recoveryAccount_mem found) inside, if_neg]
        intro hit
        obtain ⟨ccp, -, found⟩ := Option.bind_eq_some_iff.mp hit
        have margin := mine.2
        rw [(findAccount_spec found).2.1] at margin
        simp at margin
      simp only [none_collected, List.map_const', List.sum_replicate, smul_zero, zero_sub]
        at balance
      rw [marginOf, marginOf, if_pos mine, if_pos mine, if_pos mine.1, balance]
      by_cases hit : source = some account
      · have margin := covered.margin
        rw [getAccountBalance_of_find hit] at margin
        rw [if_pos hit]
        rcases le_total 0 (accountBalance db account.id) with nonneg | negative
        · rw [max_eq_left nonneg] at margin ⊢
          rw [max_eq_left (by linarith)]
          ring
        · rw [max_eq_right negative] at margin ⊢
          have nothing : min (getMemberMarginBalance db memberId) totalExposure = 0 :=
            le_antisymm margin drawn_nonneg
          rw [nothing, neg_zero, add_zero, add_zero, max_eq_right negative]
      · rw [if_neg hit, neg_zero, add_zero, add_zero]
    · have untouched : (if account.memberId = owner then
          (if source = some account then drawn else 0) else 0) = 0 := by
        split
        · next here =>
            rw [if_neg]
            intro hit
            exact mine ⟨here, by simp [(findAccount_spec hit).2.1]⟩
        · rfl
      rw [untouched, marginOf, marginOf, if_neg mine, if_neg mine, add_zero]
  have taken : (db.accounts.map fun account =>
      if account.memberId = owner then onAccount source drawn account.id else 0).sum =
        if owner = memberId then drawn else 0 := by
    have only_own : ∀ account ∈ db.accounts,
        (if account.memberId = owner then onAccount source drawn account.id else 0) =
          if owner = memberId then onAccount source drawn account.id else 0 := by
      intro account inside
      rw [onAccount_of_find inside]
      by_cases hit : source = some account
      · rw [(findAccount_spec hit).1]
        exact if_congr eq_comm rfl rfl
      · rw [if_neg hit, ite_self, ite_self]
    rw [List.map_congr_left only_own]
    split
    · rw [sum_onAccount fun _ found => findAccount_mem found]
      split
      · rfl
      · next missing =>
          have margin := covered.margin
          rw [getAccountBalance, Option.not_isSome_iff_eq_none.mp missing, max_self] at margin
          exact (le_antisymm margin drawn_nonneg).symm
    · simp
  have whole : (db.accounts.map fun account =>
      marginOf owner account (accountBalance after account.id) +
        (if account.memberId = owner then onAccount source drawn account.id else 0)).sum =
      (db.accounts.map fun account =>
        marginOf owner account (accountBalance db account.id)).sum :=
    congrArg List.sum (List.map_congr_left each)
  rw [List.sum_map_add, taken] at whole
  rw [getMemberMarginBalance_eq, getMemberMarginBalance_eq db, absorbed.swept.accounts, ← whole]
  ring

/-- What an outcome reports as taken from the margin. -/
def Outcome.marginApplied (outcome : Outcome) : ℚ :=
  ((outcome.steps.filter fun step => step.stepType = .defaulterMargin).map StepRecord.applied).sum

theorem marginApplied_of_absorbed
    (absorbed : Absorbed exactBackend memberId totalExposure db outcome after) :
    outcome.marginApplied = min (getMemberMarginBalance db memberId) totalExposure := by
  rw [Outcome.marginApplied, absorbed.steps, waterfallTiers, records, List.map_cons, absorb_cons,
    List.map_cons, List.filter_cons_of_pos (by simp [record, marginTier, drawTier])]
  have later : ∀ steps : List (Step (ℕ × StepType) ℚ),
      (∀ step ∈ steps, step.label ∈ [(2, StepType.defaulterDefaultFund), (3, .ccpEquity),
        (4, .survivingMembersDefaultFund), (5, .lossAllocation)]) →
        (steps.map record).filter (fun step => step.stepType = .defaulterMargin) = [] := by
    intro steps labels
    rw [List.filter_eq_nil_iff]
    intro step member
    obtain ⟨made, inside, rfl⟩ := List.mem_map.mp member
    have label := labels made inside
    simp only [List.mem_cons, List.not_mem_nil, or_false] at label
    rcases label with same | same | same | same <;> simp [record, same]
  rw [later, List.map_singleton, List.sum_singleton]
  · rfl
  · intro step asked
    split at asked
    · simpa [defaultFundTier, equityTier, mutualTier, allocationTier, drawTier, spreadTier]
        using label_mem_of_absorb asked
    · cases asked

end OneWaterfall

/-! ## Runs of waterfalls -/

/-- The arguments of `execute_waterfall`. -/
structure Declaration where
  memberId : Uuid
  triggerReason : Text
  totalExposure : ℚ
  trace : Option TraceContext

/-- A ledger and what its committed waterfalls returned, with the member in default. -/
structure Chronicle where
  db : Database
  outcomes : List (Uuid × Outcome)

namespace Chronicle

/-- Run one waterfall in a transaction of its own; `none` when it leaves no trace. -/
def declare (chronicle : Chronicle) (declaration : Declaration) : Option Chronicle :=
  match executeWaterfall exactBackend declaration.memberId declaration.triggerReason
      declaration.totalExposure declaration.trace chronicle.db with
  | .error _ => none
  | .ok (outcome, after) =>
      match checkInsertedEntries exactBackend chronicle.db after with
      | .error _ => none
      | .ok () => some ⟨after, chronicle.outcomes ++ [(declaration.memberId, outcome)]⟩

/-- A committed waterfall. -/
def Commits (before : Chronicle) (declaration : Declaration) (after : Chronicle) : Prop :=
  before.declare declaration = some after

/-- What all committed waterfalls took from the margin of a member. -/
def marginApplied (chronicle : Chronicle) (memberId : Uuid) : ℚ :=
  fiberSum Prod.fst (fun entry => entry.2.marginApplied) chronicle.outcomes memberId

theorem commits_eq {before after : Chronicle} {declaration : Declaration}
    (committed : before.Commits declaration after) : ∃ outcome,
      executeWaterfall exactBackend declaration.memberId declaration.triggerReason
        declaration.totalExposure declaration.trace before.db = .ok (outcome, after.db) ∧
      after.outcomes = before.outcomes ++ [(declaration.memberId, outcome)] := by
  rw [Commits, declare] at committed
  split at committed
  · cases committed
  · next outcome result ran =>
      split at committed
      · cases committed
      · cases committed
        exact ⟨outcome, ran, rfl⟩

end Chronicle

/-- The condition on a step of a run. -/
def coveredStep (chronicle : Chronicle) (declaration : Declaration) : Prop :=
  Covered chronicle.db declaration.memberId declaration.totalExposure

instance (chronicle : Chronicle) (declaration : Declaration) :
    Decidable (coveredStep chronicle declaration) :=
  inferInstanceAs (Decidable (Covered _ _ _))

theorem Swept.recoveryAccount_eq {backend : Backend} {memberId : Uuid} {postings : List Posting}
    {db after : Database} (swept : Swept backend memberId postings db after) :
    recoveryAccount after = recoveryAccount db := by
  have declared : Declared memberId db { after with journalEntries := db.journalEntries } :=
    ⟨swept.members, swept.accounts, rfl⟩
  exact declared.recoveryAccount_eq

/-- What runs of covered waterfalls keep: the recovery account, and of each margin what was applied
and what is left. -/
structure Accounted (first chronicle : Chronicle) : Prop where
  house : (recoveryAccount chronicle.db).isSome
  margin : ∀ memberId, chronicle.marginApplied memberId +
    getMemberMarginBalance chronicle.db memberId =
      first.marginApplied memberId + getMemberMarginBalance first.db memberId

private theorem accounted_of_commits {first before after : Chronicle} {declaration : Declaration}
    (accounted : Accounted first before) (covered : coveredStep before declaration)
    (committed : before.Commits declaration after) : Accounted first after := by
  obtain ⟨outcome, ran, outcomes⟩ := Chronicle.commits_eq committed
  obtain ⟨absorbed, -⟩ := executeWaterfall_ran ran
  refine ⟨absorbed.swept.recoveryAccount_eq ▸ accounted.house, fun memberId => ?_⟩
  rw [← accounted.margin, Chronicle.marginApplied, Chronicle.marginApplied, outcomes,
    fiberSum_append, fiberSum_cons, fiberSum_nil, add_zero,
    margin_of_covered covered absorbed memberId, marginApplied_of_absorbed absorbed]
  by_cases defaulter : memberId = declaration.memberId
  · rw [if_pos defaulter.symm, if_pos defaulter]
    ring
  · rw [if_neg fun same => defaulter same.symm, if_neg defaulter]
    ring

/-- Runs of covered waterfalls: no more is applied to a margin than was posted, and each further
waterfall collects what it absorbs and overdraws no account. -/
theorem settles_of_run {first last : Chronicle} (house : (recoveryAccount first.db).isSome)
    (unused : first.outcomes = []) (run : Run Chronicle.Commits coveredStep first last) :
    (∀ memberId, last.marginApplied memberId ≤ getMemberMarginBalance first.db memberId) ∧
      ∀ declaration next, coveredStep last declaration → last.Commits declaration next →
        ∃ outcome, next.outcomes = last.outcomes ++ [(declaration.memberId, outcome)] ∧
          Settles (declaration.totalExposure - outcome.remainingLoss) last.db next.db := by
  have accounted : Accounted first last :=
    run.invariant (fun _ _ _ kept covered committed => accounted_of_commits kept covered committed)
      ⟨house, fun _ => rfl⟩
  constructor
  · intro memberId
    have posted := accounted.margin memberId
    rw [Chronicle.marginApplied, Chronicle.marginApplied, unused, fiberSum_nil, zero_add] at posted
    rw [Chronicle.marginApplied, ← posted]
    exact le_add_of_nonneg_right (getMemberMarginBalance_nonneg last.db memberId)
  · intro declaration next covered committed
    obtain ⟨outcome, ran, outcomes⟩ := Chronicle.commits_eq committed
    obtain ⟨absorbed, runnable⟩ := executeWaterfall_ran ran
    exact ⟨outcome, outcomes, settles_of_covered covered accounted.house absorbed runnable⟩

/-- The open house after Alpha has deposited 100 and moved it to margin of one type. -/
def marginHouse (marginType : AccountType) : Database :=
  commitAlone (server exactBackend)
    ((LedgerWriter.transferToMargin 1 100 marginType).body exactBackend)
    (commitAlone (server exactBackend) ((LedgerWriter.deposit 1 100 "USD").body exactBackend)
      openHouse)

theorem reachable_marginHouse (marginType : AccountType) :
    Reachable exactBackend (marginHouse marginType) :=
  ⟨openHouse, ⟨rfl, by decide +kernel⟩,
    .snoc (.snoc (.refl openHouse) trivial (.writer _ _)) trivial (.writer _ _)⟩

/-- A default of Alpha with an exposure of 60. -/
def alphaDefault : Declaration := ⟨1, [.literal "Settlement failure"], 60, none⟩

/-- Initial margin pays twice, first in full and then what is left of it. -/
theorem settles_marginHouse : ∃ (middle next : Chronicle) (outcome : Outcome),
    Chronicle.Commits ⟨marginHouse .marginIm, []⟩ alphaDefault middle ∧
      middle.Commits alphaDefault next ∧
      middle.marginApplied 1 ≤ getMemberMarginBalance (marginHouse .marginIm) 1 ∧
      Settles (alphaDefault.totalExposure - outcome.remainingLoss) middle.db next.db := by
  have evaluated : ∃ middle ∈ Chronicle.declare ⟨marginHouse .marginIm, []⟩ alphaDefault,
      ∃ next ∈ middle.declare alphaDefault, coveredStep middle alphaDefault := by
    decide +kernel
  obtain ⟨middle, first, next, second, covered⟩ := evaluated
  have run : Run Chronicle.Commits coveredStep ⟨marginHouse .marginIm, []⟩ middle :=
    .snoc (.refl _) (show coveredStep _ alphaDefault by decide +kernel) first
  obtain ⟨applied, further⟩ := settles_of_run (by decide +kernel) rfl run
  obtain ⟨outcome, -, settles⟩ := further alphaDefault next covered second
  exact ⟨middle, next, outcome, first, second, applied 1, settles⟩

/-- Variation margin is counted but initial margin is drawn on: the account of Alpha without any is
overdrawn, and the 100 of variation margin are applied again in the next default. -/
theorem overapplied_marginHouse : Reachable exactBackend (marginHouse .marginVm) ∧
    ∃ middle last, Chronicle.Commits ⟨marginHouse .marginVm, []⟩ alphaDefault middle ∧
      middle.Commits alphaDefault last ∧
      (∃ account ∈ (marginHouse .marginVm).accounts,
        accountBalance (marginHouse .marginVm) account.id = 0 ∧
          accountBalance middle.db account.id = -60) ∧
      getMemberMarginBalance (marginHouse .marginVm) 1 = 100 ∧ last.marginApplied 1 = 120 := by
  have evaluated : ∃ middle ∈ Chronicle.declare ⟨marginHouse .marginVm, []⟩ alphaDefault,
      ∃ last ∈ middle.declare alphaDefault,
        (∃ account ∈ (marginHouse .marginVm).accounts,
          accountBalance (marginHouse .marginVm) account.id = 0 ∧
            accountBalance middle.db account.id = -60) ∧
        getMemberMarginBalance (marginHouse .marginVm) 1 = 100 ∧ last.marginApplied 1 = 120 := by
    decide +kernel
  obtain ⟨middle, first, last, second, overdrawn, posted, applied⟩ := evaluated
  exact ⟨reachable_marginHouse .marginVm, middle, last, first, second, overdrawn, posted, applied⟩

end Waterfall

end ClearingHouse
