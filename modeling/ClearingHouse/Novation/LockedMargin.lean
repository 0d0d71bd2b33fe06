import ClearingHouse.Collateral.Interleaving
import ClearingHouse.Events.Consumption
import ClearingHouse.Ledger.DoubleEntry
import ClearingHouse.Ledger.LockedPool
import ClearingHouse.Novation.Session

/-!
# Margin locked by novations

The balances of the view are debits less credits, and deposits and transfers raise an account by
debiting it.  A novation debits the available pool of the initial margin and credits the locked
one: what it charges is added to the available margin and taken from the locked margin.
-/

namespace ClearingHouse

namespace Novation

open Fibers StepSystem Transactions
open Collateral (Posts SameLedger credit_insertJournalEntry debit_insertJournalEntry
  sameLedger_insertJournal sameLedger_uuid4)
open Transaction (bind_eq_ok)
open Transactions.Session (commitAlone committedStates)

/-- Accounts of a member with a type, in one pool. -/
def poolAccounts (db : Database) (memberId : Uuid) (accountType : AccountType) (pool : Pool) :
    List Account :=
  db.accounts.filter fun account =>
    account.memberId = memberId ∧ account.accountType = accountType ∧ account.pool = pool

/-- What the view `account_balances` shows for a member in one pool. -/
def poolBalance (db : Database) (memberId : Uuid) (accountType : AccountType) (pool : Pool) : ℚ :=
  ((poolAccounts db memberId accountType pool).map fun account =>
    accountBalance db account.id).sum

theorem poolBalance_eq_view (db : Database) (memberId : Uuid) (accountType : AccountType)
    (pool : Pool) :
    poolBalance db memberId accountType pool =
      (((accountBalances db).filter fun row => row.1.memberId = memberId ∧
        row.1.accountType = accountType ∧ row.1.pool = pool).map Prod.snd).sum := by
  rw [poolBalance, poolAccounts, accountBalances, List.filter_map, List.map_map]
  rfl

variable {backend : Backend} {db after : Database} {data : TradeData} {trace : TraceContext}

/-- An amount on one account counts in the pool of the account. -/
theorem sum_poolAccounts {account : Account} (member : account ∈ db.accounts) (memberId : Uuid)
    (accountType : AccountType) (pool : Pool) (amount : ℚ) :
    ((poolAccounts db memberId accountType pool).map fun other =>
        if account.id = other.id then amount else 0).sum =
      if account.memberId = memberId ∧ account.accountType = accountType ∧ account.pool = pool
      then amount else 0 := by
  have distinct : ((poolAccounts db memberId accountType pool).map Account.id).Nodup :=
    db.accountIds_nodup.sublist (List.filter_sublist.map _)
  by_cases kind : account.memberId = memberId ∧ account.accountType = accountType ∧
      account.pool = pool
  · have inside : account ∈ poolAccounts db memberId accountType pool := by
      simp [poolAccounts, member, kind]
    have single := sum_map_single distinct (List.mem_map_of_mem (f := Account.id) inside) amount
    rw [if_pos kind]
    rw [List.map_map] at single
    exact single
  · have outside : ∀ other ∈ poolAccounts db memberId accountType pool,
        (if account.id = other.id then amount else 0) = 0 := by
      intro other there
      obtain ⟨known, matched⟩ := List.mem_filter.mp there
      refine if_neg fun same => kind ?_
      have equal : account = other :=
        List.inj_on_of_nodup_map db.accountIds_nodup member known same
      simpa [equal] using matched
    rw [if_neg kind, List.map_congr_left outside]
    simp

/-- A posting between two accounts moves its amount between their pools. -/
theorem poolBalance_of_posts {debited credited : Account} (given : debited ∈ db.accounts)
    (taken : credited ∈ db.accounts) {amount : ℚ}
    (posts : Posts ⟨credited.id, debited.id⟩ amount db after) (memberId : Uuid)
    (accountType : AccountType) (pool : Pool) :
    poolBalance after memberId accountType pool =
      poolBalance db memberId accountType pool +
        (if debited.memberId = memberId ∧ debited.accountType = accountType ∧
            debited.pool = pool then amount else 0) -
        if credited.memberId = memberId ∧ credited.accountType = accountType ∧
            credited.pool = pool then amount else 0 := by
  have same : poolAccounts after memberId accountType pool =
      poolAccounts db memberId accountType pool := by
    rw [poolAccounts, poolAccounts, posts.accounts]
  rw [← sum_poolAccounts given, ← sum_poolAccounts taken, poolBalance, poolBalance, same,
    ← List.sum_map_add, eq_sub_iff_add_eq, ← List.sum_map_add]
  refine congrArg List.sum (List.map_congr_left fun account _ => ?_)
  rw [posts.balance]
  ring

theorem poolBalance_of_same (same : SameLedger db after) (memberId : Uuid)
    (accountType : AccountType) (pool : Pool) :
    poolBalance after memberId accountType pool = poolBalance db memberId accountType pool := by
  rw [poolBalance, poolBalance, poolAccounts, poolAccounts, same.2]
  exact congrArg List.sum (List.map_congr_left fun account _ => same.balance account.id)

/-- Accounts that are opened have no entries yet. -/
theorem poolBalance_of_opened (entries : after.journalEntries = db.journalEntries)
    (kept : ∀ account ∈ db.accounts, account ∈ after.accounts)
    (known : ∀ entry ∈ db.journalEntries, entry.accountId ∈ db.accounts.map Account.id)
    (memberId : Uuid) (accountType : AccountType) (pool : Pool) :
    poolBalance after memberId accountType pool = poolBalance db memberId accountType pool := by
  have as_finset : ∀ state : Database, poolBalance state memberId accountType pool =
      (poolAccounts state memberId accountType pool).toFinset.sum fun account =>
        accountBalance state account.id := fun state =>
    (List.sum_toFinset _ ((state.accountIds_nodup.of_map _).filter _)).symm
  have balance : ∀ id, accountBalance after id = accountBalance db id := fun id => by
    rw [accountBalance, accountBalance, entries]
  rw [as_finset, as_finset]
  simp only [balance]
  refine (Finset.sum_subset (fun account inside => ?_) fun account inside outside => ?_).symm
  · simp only [poolAccounts, List.mem_toFinset, List.mem_filter] at inside ⊢
    exact ⟨kept account inside.1, inside.2⟩
  · -- An account of the pool that is not among the old ones is new, so no entry is on it.
    have unused : db.journalEntries.filter (fun entry => entry.accountId = account.id) = [] := by
      rw [List.filter_eq_nil_iff]
      intro entry member
      simp only [decide_eq_true_eq]
      intro same
      obtain ⟨old, there, id⟩ := List.mem_map.mp (known entry member)
      have equal : old = account := List.inj_on_of_nodup_map after.accountIds_nodup
        (kept old there) (List.mem_filter.mp (List.mem_toFinset.mp inside)).1 (id.trans same)
      refine outside (List.mem_toFinset.mpr (List.mem_filter.mpr ⟨equal ▸ there, ?_⟩))
      exact (List.mem_filter.mp (List.mem_toFinset.mp inside)).2
    rw [accountBalance, fiberSum, unused]
    rfl

/-- The initial margin of a leg, `quantity * price * margin_rate_im` as the column stores it. -/
def charge (backend : Backend) (db : Database) (data : TradeData) : ℚ :=
  match db.instruments.find? fun instrument => instrument.id = data.instrumentId with
  | some instrument =>
      (backend.store (backend.mul (backend.mul data.quantity data.price)
        instrument.marginRateIm)).getD 0
  | none => 0

theorem requireAccount_eq_ok {memberId : Uuid} {accountType : AccountType} {pool : Pool}
    {poolName : String} {account : Account}
    (ran : requireAccount memberId accountType pool poolName db = .ok (account, after)) :
    findAccount db memberId accountType pool = some account ∧ db = after := by
  rw [requireAccount, Transaction.bind_of_ok (Transaction.read_apply db)] at ran
  cases found : findAccount db memberId accountType pool with
  | none => simp [found, invalid] at ran
  | some row =>
      rw [found] at ran
      cases ran
      exact ⟨rfl, rfl⟩

theorem findAccount_eq_some {memberId : Uuid} {accountType : AccountType} {pool : Pool}
    {account : Account} (found : findAccount db memberId accountType pool = some account) :
    account ∈ db.accounts ∧ account.memberId = memberId ∧ account.accountType = accountType ∧
      account.pool = pool := by
  have selected := List.find?_some found
  simp only [decide_eq_true_eq] at selected
  exact ⟨List.mem_of_find?_eq_some found, selected⟩

/-- A charge is moved from the locked to the available pool of the member. -/
structure Charges (memberId : Uuid) (amount : ℚ) (db after : Database) : Prop where
  accounts : after.accounts = db.accounts
  positive : 0 < amount
  locked : ∀ other, poolBalance after other .marginIm .locked =
    poolBalance db other .marginIm .locked - if memberId = other then amount else 0
  available : ∀ other, poolBalance after other .marginIm .available =
    poolBalance db other .marginIm .available + if memberId = other then amount else 0

theorem charges_lockMargin {memberId novatedTradeId : Uuid} {amount : ℚ}
    (ran : lockMargin backend memberId novatedTradeId amount db = .ok ((), after)) :
    ∃ stored, backend.store amount = some stored ∧ Charges memberId stored db after := by
  obtain ⟨available, _, free, ran⟩ := bind_eq_ok.mp ran
  obtain ⟨free_found, rfl⟩ := requireAccount_eq_ok free
  obtain ⟨locked, _, held, ran⟩ := bind_eq_ok.mp ran
  obtain ⟨held_found, rfl⟩ := requireAccount_eq_ok held
  obtain ⟨journalId, numbered, number, ran⟩ := bind_eq_ok.mp ran
  obtain ⟨⟨⟩, opened, journal, ran⟩ := bind_eq_ok.mp ran
  obtain ⟨⟨⟩, given, debit, credit⟩ := bind_eq_ok.mp ran
  have same : SameLedger db opened :=
    IsTrans.trans _ _ _ (sameLedger_uuid4 number) (sameLedger_insertJournal _ _ _ _ journal)
  obtain ⟨posted, stored, positive, accounts, balance⟩ := debit_insertJournalEntry debit
  obtain ⟨posted', stored', -, accounts', balance'⟩ := credit_insertJournalEntry credit
  obtain rfl : posted = posted' := Option.some.inj (stored.symm.trans stored')
  have posts : Posts ⟨locked.id, available.id⟩ posted db after := by
    refine ⟨fun id => ?_, accounts'.trans (accounts.trans same.2)⟩
    rw [balance', balance, same.balance]
  obtain ⟨free_known, free_member, free_type, free_pool⟩ := findAccount_eq_some free_found
  obtain ⟨held_known, held_member, held_type, held_pool⟩ := findAccount_eq_some held_found
  refine ⟨posted, stored, posts.accounts, positive, fun other => ?_, fun other => ?_⟩
  · rw [poolBalance_of_posts free_known held_known posts]
    simp [free_member, free_type, free_pool, held_member, held_type, held_pool]
  · rw [poolBalance_of_posts free_known held_known posts]
    simp [free_member, free_type, free_pool, held_member, held_type, held_pool]

theorem sameLedger_createNovatedTrade {tradeId memberId id : Uuid} {side : Side}
    (ran : createNovatedTrade backend tradeId data side memberId db = .ok (id, after)) :
    SameLedger db after := by
  obtain ⟨_, _, -, -, -, rfl⟩ := createNovatedTrade_apply ran
  exact ⟨rfl, rfl⟩

theorem sameLedger_insertTransition {entityType : StateEntityType} {entityId : Uuid}
    {fromStatus : Option EntityStatus} {toStatus : EntityStatus}
    (ran : insertTransition entityType entityId fromStatus toStatus trace db =
      .ok ((), after)) : SameLedger db after := by
  obtain ⟨_, -, rfl⟩ := insertTransition_appends ran
  exact ⟨rfl, rfl⟩

theorem fetchMarginRate_eq_ok {instrumentId : Uuid} {rate : ℚ}
    (ran : fetchMarginRate instrumentId db = .ok (rate, after)) :
    ∃ instrument, (db.instruments.find? fun row => row.id = instrumentId) = some instrument ∧
      instrument.marginRateIm = rate ∧ db = after := by
  rw [fetchMarginRate, Transaction.bind_of_ok (Transaction.read_apply db)] at ran
  cases found : db.instruments.find? fun row => row.id = instrumentId with
  | none => simp [found] at ran
  | some instrument =>
      rw [found] at ran
      cases ran
      exact ⟨instrument, rfl, rfl, rfl⟩

/-- The two charges of a novation, of the buyer and of the seller. -/
structure ChargesBoth (data : TradeData) (amount : ℚ) (db after : Database) : Prop where
  accounts : after.accounts = db.accounts
  positive : 0 < amount
  locked : ∀ other, poolBalance after other .marginIm .locked =
    poolBalance db other .marginIm .locked - (if data.buyerMemberId = other then amount else 0) -
      if data.sellerMemberId = other then amount else 0
  available : ∀ other, poolBalance after other .marginIm .available =
    poolBalance db other .marginIm .available +
      (if data.buyerMemberId = other then amount else 0) +
      if data.sellerMemberId = other then amount else 0

theorem charges_novateTrade {tradeId : Uuid} {ids : Uuid × Uuid}
    (ran : novateTrade backend tradeId data trace db = .ok (ids, after)) :
    ChargesBoth data (charge backend db data) db after := by
  obtain ⟨⟨⟩, guarded, guard, ran⟩ := bind_eq_ok.mp ran
  obtain ⟨-, rfl⟩ := requireSubmitted_eq_ok guard
  obtain ⟨⟨⟩, updated, update, ran⟩ := bind_eq_ok.mp ran
  obtain ⟨buyerNovId, bought, buy, ran⟩ := bind_eq_ok.mp ran
  obtain ⟨sellerNovId, sold, sell, ran⟩ := bind_eq_ok.mp ran
  obtain ⟨marginRate, rated, rate, ran⟩ := bind_eq_ok.mp ran
  obtain ⟨instrument, found, rfl, rfl⟩ := fetchMarginRate_eq_ok rate
  obtain ⟨⟨⟩, lockedBuyer, lockBuyer, ran⟩ := bind_eq_ok.mp ran
  obtain ⟨⟨⟩, lockedSeller, lockSeller, ran⟩ := bind_eq_ok.mp ran
  obtain ⟨⟨⟩, notedTrade, noteTrade, ran⟩ := bind_eq_ok.mp ran
  obtain ⟨⟨⟩, notedBuyer, noteBuyer, ran⟩ := bind_eq_ok.mp ran
  obtain ⟨⟨⟩, notedSeller, noteSeller, ran⟩ := bind_eq_ok.mp ran
  obtain ⟨eventId, announced, announce, done⟩ := bind_eq_ok.mp ran
  cases done
  have legged : SameLedger db sold := by
    have marked : SameLedger db updated := by
      cases update
      exact ⟨rfl, rfl⟩
    exact IsTrans.trans _ _ _ marked (IsTrans.trans _ _ _ (sameLedger_createNovatedTrade buy)
      (sameLedger_createNovatedTrade sell))
  have noted : SameLedger lockedSeller after := by
    have emitted : SameLedger notedSeller after := by
      obtain ⟨_, -, rfl⟩ := insertOutboxEvent_appends announce
      exact ⟨rfl, rfl⟩
    exact IsTrans.trans _ _ _ (sameLedger_insertTransition noteTrade)
      (IsTrans.trans _ _ _ (sameLedger_insertTransition noteBuyer)
        (IsTrans.trans _ _ _ (sameLedger_insertTransition noteSeller) emitted))
  obtain ⟨amount, stored, buyer⟩ := charges_lockMargin lockBuyer
  obtain ⟨amount', stored', seller⟩ := charges_lockMargin lockSeller
  obtain rfl : amount = amount' := Option.some.inj (stored.symm.trans stored')
  have known : charge backend db data = amount := by
    have same : sold.instruments = db.instruments := by
      obtain ⟨_, _, -, -, -, rfl⟩ := createNovatedTrade_apply sell
      obtain ⟨_, _, -, -, -, rfl⟩ := createNovatedTrade_apply buy
      cases update
      rfl
    rw [same] at found
    rw [charge, found]
    exact congrArg (Option.getD · 0) stored
  rw [known]
  refine ⟨noted.2.trans (seller.accounts.trans (buyer.accounts.trans legged.2)), buyer.positive,
    fun other => ?_, fun other => ?_⟩
  · rw [poolBalance_of_same noted, seller.locked, buyer.locked, poolBalance_of_same legged]
  · rw [poolBalance_of_same noted, seller.available, buyer.available, poolBalance_of_same legged]

/-- A leg, its member and the margin charged for it. -/
structure Charge where
  legId : Uuid
  memberId : Uuid
  amount : ℚ

/-- The committed database and what has been charged for each of its legs. -/
structure Book where
  committed : Database
  charges : List Charge

/-- Sum of the charges for the legs of a member. -/
def charged (book : Book) (memberId : Uuid) : ℚ :=
  fiberSum Charge.memberId Charge.amount book.charges memberId

/-- What commits next. -/
inductive BookLabel
  | novate (data : TradeData)
  | reject
  | writer
  | settlement
  | elsewhere

/-- Column `id` and `member_id` of a leg. -/
def legParty (leg : NovatedTrade) : Uuid × Uuid := (leg.id, leg.memberId)

/-- The commits of a run: a trade is novated or rejected, another writer or a settlement commits, or
a service that leaves ledger and legs alone. -/
inductive BookStep (backend : Backend) : Book → BookLabel → Book → Prop
  | novate {db after : Database} {charges : List Charge} {data : TradeData} {trace : TraceContext}
      {ids : Uuid × Uuid} (ran : novateTrade backend data.tradeId data trace db = .ok (ids, after))
      (accepted : (server backend).deferred db after = .ok ()) :
      BookStep backend ⟨db, charges⟩ (.novate data)
        ⟨after, charges ++ [⟨ids.1, data.buyerMemberId, charge backend db data⟩,
          ⟨ids.2, data.sellerMemberId, charge backend db data⟩]⟩
  | reject {db after : Database} {charges : List Charge} {tradeId : Uuid} {reason : Text}
      {trace : TraceContext} (ran : rejectTrade tradeId reason trace db = .ok ((), after)) :
      BookStep backend ⟨db, charges⟩ .reject ⟨after, charges⟩
  | writer {db : Database} {charges : List Charge} (writer : LedgerWriter) :
      BookStep backend ⟨db, charges⟩ .writer
        ⟨commitAlone (server backend) (writer.body backend) db, charges⟩
  | settlement {db after : Database} {charges : List Charge} {instructionId : Uuid}
      {chainRegistry : String → Option Settlement.ChainAdapter}
      {sign : Settlement.Bytes → String → Except Text Settlement.Bytes} {trace : TraceContext}
      (committed : after ∈ committedStates
        ((LedgerSession.settleInstruction instructionId chainRegistry sign trace).session backend)
        db) :
      BookStep backend ⟨db, charges⟩ .settlement ⟨after, charges⟩
  | elsewhere {db after : Database} {charges : List Charge} (other : Elsewhere db after)
      (legs : after.novatedTrades.map legParty = db.novatedTrades.map legParty) :
      BookStep backend ⟨db, charges⟩ .elsewhere ⟨after, charges⟩

/-- What `process_trade` commits is a step. -/
theorem bookStep_of_processTrade {charges : List Charge}
    (committed : after ∈ committedStates
      ((LedgerSession.processTrade data trace).session backend) db) :
    ∃ label charges', BookStep backend ⟨db, charges⟩ label ⟨after, charges'⟩ := by
  obtain ⟨processed, accepted⟩ := processed_of_committedStates committed
  cases processed with
  | novated ran => exact ⟨_, _, .novate ran accepted⟩
  | rejected ran => exact ⟨_, _, .reject ran⟩

/-- Every member's locked balance is what novations have charged for its legs. -/
def LockedIsCharged (book : Book) : Prop :=
  ∀ memberId, poolBalance book.committed memberId .marginIm .locked = charged book memberId

/-- The invariant of runs: the charges are those of the legs, and the locked balances are short of
them instead of holding them. -/
structure Inverted (backend : Backend) (book : Book) : Prop where
  kept : Kept backend book.committed
  legs : book.charges.map (fun charge => (charge.legId, charge.memberId)) =
    book.committed.novatedTrades.map legParty
  positive : ∀ charge ∈ book.charges, 0 < charge.amount
  locked : ∀ memberId, poolBalance book.committed memberId .marginIm .locked =
    -charged book memberId

theorem poolBalance_of_spares {accounts : List Account} (start : db.accounts = accounts)
    (spares : SparesLocked accounts db after) (memberId : Uuid) :
    poolBalance after memberId .marginIm .locked = poolBalance db memberId .marginIm .locked := by
  rw [poolBalance, poolBalance, poolAccounts, poolAccounts, spares.same, start]
  refine congrArg List.sum (List.map_congr_left fun account member => ?_)
  obtain ⟨known, kind⟩ := List.mem_filter.mp member
  simp only [decide_eq_true_eq] at kind
  exact spares.balances account known kind.2

theorem Inverted.of_spares {charges : List Charge} (inverted : Inverted backend ⟨db, charges⟩)
    (kept : Kept backend after) (spares : SparesLocked db.accounts db after) :
    Inverted backend ⟨after, charges⟩ where
  kept := kept
  legs := inverted.legs.trans (congrArg _ spares.legs.symm)
  positive := inverted.positive
  locked := fun memberId => (poolBalance_of_spares rfl spares memberId).trans
    (inverted.locked memberId)

theorem charged_append (db after : Database) (charges added : List Charge) (memberId : Uuid) :
    charged ⟨after, charges ++ added⟩ memberId =
      charged ⟨db, charges⟩ memberId + fiberSum Charge.memberId Charge.amount added memberId :=
  fiberSum_append ..

theorem charged_pair (data : TradeData) (ids : Uuid × Uuid) (amount : ℚ) (memberId : Uuid) :
    fiberSum Charge.memberId Charge.amount
        [⟨ids.1, data.buyerMemberId, amount⟩, ⟨ids.2, data.sellerMemberId, amount⟩] memberId =
      (if data.buyerMemberId = memberId then amount else 0) +
        if data.sellerMemberId = memberId then amount else 0 := by
  rw [fiberSum_cons, fiberSum_cons, fiberSum_nil, add_zero]

/-- A settlement commits only states that spare the locked pool. -/
theorem spares_settlement {instructionId : Uuid}
    {chainRegistry : String → Option Settlement.ChainAdapter}
    {sign : Settlement.Bytes → String → Except Text Settlement.Bytes}
    (committed : after ∈ committedStates
      ((LedgerSession.settleInstruction instructionId chainRegistry sign trace).session backend)
      db) : SparesLocked db.accounts db after := by
  have survives : ∀ old new, SparedFrom db.accounts db old → SparedFrom db.accounts old new →
      (server backend).deferred old new = .ok () → SparedFrom db.accounts db new :=
    fun _ _ before step _ => IsTrans.trans _ _ _ before step
  have keeps : Session.Keeps (SparedFrom db.accounts db) (SparedFrom db.accounts)
      ((LedgerSession.settleInstruction instructionId chainRegistry sign trace).session backend) :=
    Session.keeps_bind (Settlement.keeps_settleInstruction Settlement.respected_sparedFrom survives
      _ _ _ _) fun _ => Session.keeps_commit survives
  exact Session.committedStates_of_keeps keeps (refl db) after committed rfl

theorem inverted_step {book next : Book} {label : BookLabel} (inverted : Inverted backend book)
    (step : BookStep backend book label next) : Inverted backend next := by
  cases step with
  | @novate db after charges data trace ids ran accepted =>
      obtain ⟨⟨⟩, guarded, guard, submitted⟩ := bind_eq_ok.mp ran
      obtain ⟨-, rfl⟩ := requireSubmitted_eq_ok guard
      obtain ⟨_, _, -, -, legs⟩ := (novates_novateSubmitted submitted).legs
      have charges_both := charges_novateTrade ran
      refine ⟨kept_of_commit inverted.kept (growing_novateTrade _ _ _ ran) accepted, ?_, ?_,
        fun memberId => ?_⟩
      · simp only [List.map_append, inverted.legs, legs]
        rfl
      · intro charge member
        rcases List.mem_append.mp member with old | new
        · exact inverted.positive charge old
        · simp only [List.mem_cons, List.not_mem_nil, or_false] at new
          rcases new with rfl | rfl <;> exact charges_both.positive
      · rw [charges_both.locked, inverted.locked, charged_append db, charged_pair]
        ring
  | reject ran =>
      exact inverted.of_spares
        (kept_of_commit inverted.kept (growing_rejectTrade _ _ _ ran)
          (by cases ran; exact accepted_of_same rfl))
        (sparing_rejectTrade _ _ _ ran rfl)
  | writer writer =>
      exact inverted.of_spares
        (survives_commitAlone survives_kept inverted.kept writer.growing_body)
        (Session.related_commitAlone (server backend) writer.sparing_body _ rfl)
  | @settlement db after charges instructionId chainRegistry sign trace committed =>
      have kept := kept_of_commits inverted.kept (.session _ committed)
      exact inverted.of_spares kept (spares_settlement committed)
  | @elsewhere db after charges other legs =>
      refine ⟨kept_of_commits inverted.kept (.elsewhere other), inverted.legs.trans legs.symm,
        inverted.positive, fun memberId => ?_⟩
      have known : ∀ entry ∈ db.journalEntries, entry.accountId ∈ db.accounts.map Account.id :=
        fun entry member => (inverted.kept.balanced.entries entry member).account
      exact (poolBalance_of_opened other.entries other.accounts known memberId _ _).trans
        (inverted.locked memberId)

/-- The step novates no trade. -/
def Unnovated (_ : Book) : BookLabel → Prop
  | .novate _ => False
  | _ => True

/-- A run without charges has novated no trade. -/
theorem run_of_uncharged {start last : Book}
    (run : Run (BookStep backend) unrestricted start last) (none_charged : last.charges = []) :
    Run (BookStep backend) Unnovated start last := by
  induction run with
  | refl => exact .refl start
  | snoc run _ step induction =>
      cases step with
      | novate => simp at none_charged
      | reject ran => exact .snoc (induction none_charged) (by exact trivial) (.reject ran)
      | writer writer => exact .snoc (induction none_charged) (by exact trivial) (.writer writer)
      | settlement committed =>
          exact .snoc (induction none_charged) (by exact trivial) (.settlement committed)
      | elsewhere other legs =>
          exact .snoc (induction none_charged) (by exact trivial) (.elsewhere other legs)

theorem uncharged_of_run {start last : Book} (uncharged : start.charges = [])
    (run : Run (BookStep backend) Unnovated start last) : last.charges = [] := by
  have kept : ∀ book label next, book.charges = [] → Unnovated book label →
      BookStep backend book label next → next.charges = [] := by
    intro book label next nothing unnovated step
    cases step with
    | novate => exact unnovated.elim
    | reject | writer | settlement | elsewhere => exact nothing
  exact run.invariant kept uncharged

/-- A member that has been charged has a positive sum of charges. -/
theorem charged_pos {book : Book} (positive : ∀ charge ∈ book.charges, 0 < charge.amount)
    {charge : Charge} (member : charge ∈ book.charges) : 0 < charged book charge.memberId := by
  have inside : charge ∈ book.charges.filter fun other => other.memberId = charge.memberId := by
    simp [member]
  have amounts : ∀ amount ∈ (book.charges.filter fun other =>
      other.memberId = charge.memberId).map Charge.amount, 0 ≤ amount := by
    intro amount there
    obtain ⟨other, selected, rfl⟩ := List.mem_map.mp there
    exact (positive other (List.mem_of_mem_filter selected)).le
  exact (positive charge member).trans_le
    (List.single_le_sum amounts _ (List.mem_map_of_mem inside))

theorem lockedIsCharged_iff {book : Book} (inverted : Inverted backend book) :
    LockedIsCharged book ↔ book.charges = [] := by
  constructor
  · intro locked
    by_contra charged_some
    obtain ⟨charge, member⟩ := List.exists_mem_of_ne_nil _ charged_some
    have sum := charged_pos inverted.positive member
    have same := (inverted.locked charge.memberId).symm.trans (locked charge.memberId)
    linarith
  · intro nothing memberId
    rw [inverted.locked, charged, nothing, fiberSum_nil, neg_zero]

/-- A novation adds what it charges to the available balances. -/
theorem available_of_novate {book next : Book} {data : TradeData}
    (step : BookStep backend book (.novate data) next) (memberId : Uuid) :
    poolBalance next.committed memberId .marginIm .available =
      poolBalance book.committed memberId .marginIm .available +
        (charged next memberId - charged book memberId) := by
  cases step with
  | @novate db after charges data trace ids ran accepted =>
      rw [(charges_novateTrade ran).available, charged_append db, charged_pair]
      ring

theorem charged_lt_of_novate {book next : Book} {data : TradeData}
    (step : BookStep backend book (.novate data) next) :
    charged book data.buyerMemberId < charged next data.buyerMemberId := by
  cases step with
  | @novate db after charges data trace ids ran accepted =>
      have positive := (charges_novateTrade ran).positive
      rw [charged_append db, charged_pair, if_pos rfl]
      split <;> linarith

/-- Every leg has one charge.  The locked balances are the sums of the charges exactly in the runs
that novate no trade, and a novation raises the available balances by what it charges instead of
lowering them. -/
theorem lockedIsCharged_of_run {start last : Book} (opened : Opened start.committed)
    (legless : start.committed.novatedTrades = []) (uncharged : start.charges = [])
    (run : Run (BookStep backend) unrestricted start last) :
    last.charges.map (fun charge => (charge.legId, charge.memberId)) =
        last.committed.novatedTrades.map legParty ∧
      (LockedIsCharged last ↔ Run (BookStep backend) Unnovated start last) ∧
      ∀ data next, BookStep backend last (.novate data) next →
        (∀ memberId, poolBalance next.committed memberId .marginIm .available =
          poolBalance last.committed memberId .marginIm .available +
            (charged next memberId - charged last memberId)) ∧
        charged last data.buyerMemberId < charged next data.buyerMemberId := by
  have opening : Inverted backend start := by
    refine ⟨kept_of_opened opened, by simp [legless, uncharged], by simp [uncharged],
      fun memberId => ?_⟩
    have flat : ∀ id, accountBalance start.committed id = 0 := fun id => by
      rw [accountBalance, opened.entries, fiberSum_nil]
    simp [poolBalance, flat, charged, uncharged]
  have inverted := run.invariant (fun _ _ _ inverted _ step => inverted_step inverted step) opening
  refine ⟨inverted.legs,
    (lockedIsCharged_iff inverted).trans
      ⟨fun nothing => run_of_uncharged run nothing,
        fun unnovated => uncharged_of_run uncharged unnovated⟩,
    fun data next step => ?_⟩
  exact ⟨available_of_novate step, charged_lt_of_novate step⟩

/-- The terms of the submitted trade, 10 units at 9 with an initial margin of a tenth. -/
def tenAtNine : TradeData := ⟨4, 2, 1, 3, 10, 9⟩

/-- The house after its novation. -/
def novatedHouse : Database :=
  (novateTrade decimalBackend 4 tenAtNine ⟨6, "alice", none⟩ Consumers.tradeHouse).toOption.elim
    Consumers.tradeHouse Prod.snd

private theorem opened_tradeHouse : Opened Consumers.tradeHouse :=
  ⟨rfl, by decide +kernel⟩

private theorem novate_tradeHouse :
    ∃ charges, BookStep decimalBackend ⟨Consumers.tradeHouse, []⟩ (.novate tenAtNine)
      ⟨novatedHouse, charges⟩ := by
  have returned : (novateTrade decimalBackend 4 tenAtNine ⟨6, "alice", none⟩
      Consumers.tradeHouse).toOption.isSome = true := by decide +kernel
  have balanced : ((server decimalBackend).deferred Consumers.tradeHouse
      novatedHouse).toOption = some () := by decide +kernel
  obtain ⟨ids, ran⟩ := ok_of_isSome Consumers.tradeHouse returned
  exact ⟨_, .novate ran (accepted_of_toOption balanced)⟩

/-- The novation charges 9 to the buyer, whose available margin it raises. -/
theorem lockedIsCharged_of_run_tradeHouse :
    LockedIsCharged ⟨Consumers.tradeHouse, []⟩ ∧
      ∃ charges, charged ⟨Consumers.tradeHouse, []⟩ 2 < charged ⟨novatedHouse, charges⟩ 2 := by
  obtain ⟨charges, step⟩ := novate_tradeHouse
  have start : Run (BookStep decimalBackend) unrestricted ⟨Consumers.tradeHouse, []⟩
      ⟨Consumers.tradeHouse, []⟩ := .refl _
  obtain ⟨-, locked, raised⟩ := lockedIsCharged_of_run opened_tradeHouse rfl rfl start
  exact ⟨locked.mpr (.refl _), charges, (raised tenAtNine _ step).2⟩

/-- After the novation the buyer's locked margin is -9 and its available margin 9. -/
theorem not_lockedIsCharged_tradeHouse :
    ∃ last, Run (BookStep decimalBackend) unrestricted ⟨Consumers.tradeHouse, []⟩ last ∧
      poolBalance last.committed 2 .marginIm .locked = -9 ∧
      poolBalance last.committed 2 .marginIm .available = 9 ∧ ¬LockedIsCharged last := by
  obtain ⟨charges, step⟩ := novate_tradeHouse
  have run : Run (BookStep decimalBackend) unrestricted ⟨Consumers.tradeHouse, []⟩
      ⟨novatedHouse, charges⟩ := .snoc (.refl _) trivial step
  have locked : poolBalance novatedHouse 2 .marginIm .locked = -9 := by decide +kernel
  have available : poolBalance novatedHouse 2 .marginIm .available = 9 := by decide +kernel
  refine ⟨_, run, locked, available, fun holds => ?_⟩
  have sum := holds 2
  have charged_more := charged_lt_of_novate step
  have nothing : charged ⟨Consumers.tradeHouse, []⟩ tenAtNine.buyerMemberId = 0 := rfl
  rw [nothing] at charged_more
  rw [locked] at sum
  have buyer : tenAtNine.buyerMemberId = 2 := rfl
  rw [buyer] at charged_more
  linarith

end Novation

end ClearingHouse
