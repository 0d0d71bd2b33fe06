import ClearingHouse.Ledger.DoubleEntry
import ClearingHouse.Ledger.GatewayReport
import ClearingHouse.Ledger.Grants

/-!
# Reports over runs

`run_reconciliation` while the services go on.  Its connection reads what is committed, so each of
its queries has a snapshot of its own and other transactions commit between them.  Nothing that the
services write makes a report fail, except between the last two queries.
-/

namespace ClearingHouse

open StepSystem Transactions Transactions.Session

/-- The journals are numbered apart and confirmed, and every entry belongs to one. -/
structure JournalsConfirmed (db : Database) : Prop where
  journalIds : (db.journals.map Journal.id).Nodup
  numbered : ∀ journal ∈ db.journals, journal.id < db.nextUuid
  confirmed : ∀ journal ∈ db.journals, journal.status = .confirmed
  posted : ∀ entry ∈ db.journalEntries, entry.journalId ∈ db.journals.map Journal.id

variable {backend : Backend} {may : Allowance}

/-- Journals are confirmed at once, and valid entries are appended to them. -/
structure PostsJournals (backend : Backend) (db after : Database) : Prop where
  journals : JournalsConfirmed db → JournalsConfirmed after
  entries : ∃ added, after.journalEntries = db.journalEntries ++ added ∧
    ∀ entry ∈ added, entry.Valid backend db.accounts
  accounts : after.accounts = db.accounts

theorem PostsJournals.of_same {db after : Database}
    (journals : JournalsConfirmed db → JournalsConfirmed after)
    (entries : after.journalEntries = db.journalEntries) (accounts : after.accounts = db.accounts) :
    PostsJournals backend db after :=
  ⟨journals, ⟨[], by simp [entries]⟩, accounts⟩

instance : Std.Refl (PostsJournals backend) := ⟨fun _ => .of_same id rfl rfl⟩

instance : IsTrans Database (PostsJournals backend) where
  trans db middle after head tail := by
    obtain ⟨first, first_eq, first_valid⟩ := head.entries
    obtain ⟨second, second_eq, second_valid⟩ := tail.entries
    refine ⟨fun confirmed => tail.journals (head.journals confirmed), ⟨first ++ second, ?_, ?_⟩,
      tail.accounts.trans head.accounts⟩
    · rw [second_eq, first_eq, List.append_assoc]
    · rw [head.accounts] at second_valid
      exact List.forall_mem_append.mpr ⟨first_valid, second_valid⟩

theorem posts_of_writes {db after : Database} (writes : RowWrites backend may db after) :
    PostsJournals backend db after := by
  cases writes with
  | uuid =>
      refine .of_same (fun confirmed => { confirmed with numbered := ?_ }) rfl rfl
      exact fun journal member => (confirmed.numbered journal member).trans (Nat.lt_succ_self _)
  | journal journalType referenceType referenceId =>
      refine .of_same (fun confirmed => ?_) rfl rfl
      have fresh : db.nextUuid ∉ db.journals.map Journal.id := fun taken => by
        obtain ⟨journal, member, same⟩ := List.mem_map.mp taken
        exact absurd same (confirmed.numbered journal member).ne
      refine ⟨?_, fun journal member => ?_, fun journal member => ?_, fun entry member => ?_⟩
      · rw [List.map_append]
        exact confirmed.journalIds.append (List.nodup_singleton _)
          (List.disjoint_singleton.mpr fresh)
      · rcases List.mem_append.mp member with old | new
        · exact (confirmed.numbered journal old).trans (Nat.lt_succ_self _)
        · rw [List.mem_singleton.mp new]
          exact Nat.lt_succ_self _
      · rcases List.mem_append.mp member with old | new
        · exact confirmed.confirmed journal old
        · rw [List.mem_singleton.mp new]
      · rw [List.map_append]
        exact List.mem_append_left _ (confirmed.posted entry member)
  | journalEntry entry journal account valid posted own =>
      refine ⟨fun confirmed => { confirmed with posted := ?_ }, ⟨[entry], rfl, by simpa⟩, rfl⟩
      have known : entry.journalId ∈ db.journals.map Journal.id :=
        List.mem_map.mpr ⟨journal, posted, own⟩
      exact List.forall_mem_append.mpr ⟨confirmed.posted, by simpa using known⟩
  | outboxEvent =>
      refine .of_same (fun confirmed => { confirmed with numbered := ?_ }) rfl rfl
      exact fun journal member => Nat.lt_add_right 2 (confirmed.numbered journal member)
  | trade =>
      refine .of_same (fun confirmed => { confirmed with numbered := ?_ }) rfl rfl
      exact fun journal member => (confirmed.numbered journal member).trans (Nat.lt_succ_self _)
  | _ =>
      refine .of_same (fun confirmed => ?_) rfl rfl
      exact ⟨confirmed.journalIds, confirmed.numbered, confirmed.confirmed, confirmed.posted⟩

/-- The deferred trigger balances whatever is posted. -/
theorem balanced_of_posts {old new : Database} (balanced : Balanced backend old)
    (posts : PostsJournals backend old new)
    (accepted : checkInsertedEntries backend old new = .ok ()) :
    Balanced backend new := by
  have grows : Grows backend old { old with journalEntries := new.journalEntries } :=
    { entries := posts.entries
      accounts := rfl
      limits := rfl
      processed := rfl
      outbox := ⟨[], by simp⟩ }
  have committed := balanced_of_commit balanced grows accepted
  exact ⟨committed.journals, fun entry member => posts.accounts ▸ committed.entries entry member⟩

/-- A ledger as the services leave it. -/
structure PostedLedger (backend : Backend) (db : Database) : Prop extends JournalsConfirmed db where
  balanced : Balanced backend db

theorem posted_of_run {first last : Database} (run : Run (Operates backend) Operating first last)
    (posted : PostedLedger backend first) : PostedLedger backend last := by
  refine (restored_of_run (allows_everything first)
    (fun old new posted written accepted => ?_) run posted).2
  have posts : PostsJournals backend old new :=
    related_of_written (fun _ _ => posts_of_writes) written
  exact ⟨posts.journals posted.toJournalsConfirmed,
    balanced_of_posts posted.balanced posts accepted⟩

namespace Reconciliation

open BalanceView DecimalRounding Fibers Queries

variable {db replayed viewed : Database}

theorem admitted_of_posted (posted : PostedLedger backend db) : Admitted db where
  journalIds := posted.journalIds
  journals := posted.posted
  accounts := fun entry member => (posted.balanced.entries entry member).account
  oneSided := fun entry member => (posted.balanced.entries entry member).oneSided

theorem journalsBalance_of_posted (posted : PostedLedger backend db) : JournalsBalance db :=
  fun journal _ _ => posted.balanced.journals journal.id

/-- All entries are of confirmed journals. -/
theorem confirmedEntries_of_confirmed (confirmed : JournalsConfirmed db) :
    confirmedEntries db = db.journalEntries := by
  apply List.filter_eq_self.mpr
  intro entry member
  obtain ⟨journal, listed, same⟩ := List.mem_map.mp (confirmed.posted entry member)
  exact List.any_eq_true.mpr ⟨journal, listed, by simp [same, confirmed.confirmed journal listed]⟩

/-- The view of an account that exists. -/
theorem actualBalance_of_account (admitted : Admitted db) {account : Account}
    (member : account ∈ db.accounts) :
    actualBalance (ApiGateway.viewContent db) account.id = accountBalance db account.id := by
  have rows : ((ApiGateway.viewContent db).filter fun row => row.1 = account.id).Perm
      [(account.id, some (accountBalance db account.id))] := by
    have view := ((accountBalancesView_perm admitted).map fun row =>
      (row.1.id, some row.2)).filter fun row => row.1 = account.id
    refine view.trans (.of_eq ?_)
    rw [accountBalances, List.map_map, List.filter_map]
    exact congrArg _ (filter_key_eq_singleton db.accountIds_nodup member)
  rw [actualBalance, actualBalances, valueAt_collect, List.perm_singleton.mp rows]
  rfl

/-- The row of an account in the report. -/
def compared (content : ViewContent) (row : Uuid × ℚ) : AccountResult :=
  { accountId := row.1
    expectedBalance := row.2
    actualBalance := actualBalance content row.1
    difference := toDigits 28 (row.2 - actualBalance content row.1)
    status := if toDigits 28 (row.2 - actualBalance content row.1) = 0 then .ok else .mismatch }

theorem foldl_compareRow_details (content : ViewContent) (rows : List (Uuid × ℚ))
    (progress : List AccountResult × ℕ) :
    (rows.foldl (compareRow content) progress).1 = progress.1 ++ rows.map (compared content) := by
  induction rows generalizing progress with
  | nil => simp
  | cons row rows induction =>
      rw [List.foldl_cons, induction, List.map_cons, List.append_cons]
      rfl

/-- `run_reconciliation`, each query on a snapshot of its own. -/
def runReconciliationOn (counted grouped replayed viewed : Database) : ReconciliationReport :=
  let globalOk := checkGlobalBalance counted
  let journalOk := checkJournalIntegrity grouped
  let comparison :=
    (recomputedRows replayed).foldl (compareRow (ApiGateway.viewContent viewed)) ([], 0)
  { status := if comparison.2 = 0 ∧ globalOk = true ∧ journalOk = true then .pass else .fail
    globalBalanceOk := globalOk
    journalIntegrityOk := journalOk
    accountsChecked := (recomputedRows replayed).length
    mismatches := comparison.2
    details := comparison.1 }

/-- On one snapshot it is the report of a database. -/
theorem runReconciliationOn_same (db viewed : Database) :
    runReconciliationOn db db db viewed =
      runReconciliation db (ApiGateway.viewContent viewed) := rfl

/-- Accounts with entries whose balance changed. -/
def movedAccounts (replayed viewed : Database) : List Uuid :=
  (replayed.journalEntries.map JournalEntry.accountId).dedup.filter fun accountId =>
    accountBalance viewed accountId ≠ accountBalance replayed accountId

/-- What two posted ledgers with the same accounts show of each other. -/
theorem actualBalance_of_posted (posted : PostedLedger backend replayed)
    (after : PostedLedger backend viewed)
    (accounts : viewed.accounts = replayed.accounts) {entry : JournalEntry}
    (member : entry ∈ replayed.journalEntries) :
    actualBalance (ApiGateway.viewContent viewed) entry.accountId =
      accountBalance viewed entry.accountId := by
  obtain ⟨account, listed, same⟩ :=
    List.mem_map.mp (posted.balanced.entries entry member).account
  rw [← same]
  exact actualBalance_of_account (admitted_of_posted after) (accounts ▸ listed)

theorem recomputedRows_of_posted (posted : PostedLedger backend replayed) :
    recomputedRows replayed =
      (replayed.journalEntries.map JournalEntry.accountId).dedup.map fun accountId =>
        (accountId, accountBalance replayed accountId) := by
  have all := confirmedEntries_of_confirmed posted.toJournalsConfirmed
  rw [recomputedRows_eq (admitted_of_posted posted), checkedAccounts, all]
  apply List.map_congr_left
  intro accountId _
  rw [confirmedBalance, all, netOf, accountBalance]

/-- A report with these accounts as its mismatches. -/
structure Finds (report : ReconciliationReport) (moved : List Uuid) : Prop where
  globalBalanceOk : report.globalBalanceOk = true
  journalIntegrityOk : report.journalIntegrityOk = true
  mismatches : report.mismatches = moved.length
  details : (report.details.filter fun result => result.status = .mismatch).map
    AccountResult.accountId = moved
  status : report.status = .pass ↔ moved = []

theorem finds_movedAccounts {counted grouped : Database}
    (countedPosted : PostedLedger backend counted)
    (groupedPosted : PostedLedger backend grouped) (posted : PostedLedger backend replayed)
    (after : PostedLedger backend viewed) (accounts : viewed.accounts = replayed.accounts) :
    Finds (runReconciliationOn counted grouped replayed viewed)
      (movedAccounts replayed viewed) := by
  have globalOk : checkGlobalBalance counted = true :=
    checkGlobalBalance_of_journalsBalance (admitted_of_posted countedPosted)
      (journalsBalance_of_posted countedPosted)
  have journalOk : checkJournalIntegrity grouped = true :=
    (checkJournalIntegrity_iff (admitted_of_posted groupedPosted)).mpr
      (journalsBalance_of_posted groupedPosted)
  have shown : ∀ accountId ∈ (replayed.journalEntries.map JournalEntry.accountId).dedup,
      actualBalance (ApiGateway.viewContent viewed) accountId =
        accountBalance viewed accountId := by
    intro accountId used
    obtain ⟨entry, member, rfl⟩ := List.mem_map.mp (List.mem_dedup.mp used)
    exact actualBalance_of_posted posted after accounts member
  have count : (runReconciliationOn counted grouped replayed viewed).mismatches =
      (movedAccounts replayed viewed).length := by
    rw [runReconciliationOn, foldl_compareRow, Nat.zero_add, recomputedRows_of_posted posted,
      List.filter_map, List.length_map, movedAccounts]
    refine congrArg List.length (List.filter_congr fun accountId used => ?_)
    rw [Function.comp_apply, shown accountId used]
  have details : ((runReconciliationOn counted grouped replayed viewed).details.filter fun result =>
      result.status = .mismatch).map AccountResult.accountId = movedAccounts replayed viewed := by
    rw [runReconciliationOn, foldl_compareRow_details, List.nil_append,
      recomputedRows_of_posted posted, List.map_map, List.filter_map, List.map_map, movedAccounts]
    refine (List.map_id _).trans (List.filter_congr fun accountId used => ?_)
    have differs : toDigits 28 (accountBalance replayed accountId -
        accountBalance viewed accountId) = 0 ↔
          accountBalance viewed accountId = accountBalance replayed accountId := by
      rw [toDigits_eq_zero_iff (by decide), sub_eq_zero, eq_comm]
    simp only [Function.comp_apply, compared, shown accountId used, differs]
    by_cases same : accountBalance viewed accountId = accountBalance replayed accountId
    · simp [same]
    · simp [same]
  refine ⟨globalOk, journalOk, count, details, ?_⟩
  rw [← List.length_eq_zero_iff, ← count]
  simp only [runReconciliationOn, globalOk, journalOk, and_true]
  split
  · next none => exact iff_of_true rfl none
  · next some => exact iff_of_false nofun some

theorem posted_of_unposted {first : Database} (unposted : first.journals = [])
    (empty : first.journalEntries = []) : PostedLedger backend first where
  journalIds := by simp [unposted]
  numbered := by simp [unposted]
  confirmed := by simp [unposted]
  posted := by simp [empty]
  balanced := ⟨by simp [journalTotal, fiberSum, empty], by simp [empty]⟩

/-- Whatever commits while a report is made, its checks hold and its mismatches are the accounts
that changed between its last two queries. -/
theorem finds_of_run {first counted grouped replayed viewed : Database}
    (unposted : first.journals = []) (empty : first.journalEntries = [])
    (counting : Run (Operates backend) Operating first counted)
    (grouping : Run (Operates backend) Operating counted grouped)
    (replaying : Run (Operates backend) Operating grouped replayed)
    (viewing : Run (Operates backend) Operating replayed viewed) :
    Finds (runReconciliationOn counted grouped replayed viewed)
      (movedAccounts replayed viewed) := by
  have countedPosted : PostedLedger backend counted :=
    posted_of_run counting (posted_of_unposted unposted empty)
  have groupedPosted := posted_of_run grouping countedPosted
  have posted := posted_of_run replaying groupedPosted
  have after := posted_of_run viewing posted
  exact finds_movedAccounts countedPosted groupedPosted posted after
    (granted_of_run viewing).accounts

/-- The default fund of the open house is seeded. -/
def seedOpenHouse : HouseOperation := .seedDefaultFund openHouseIds 0

private theorem seeded_openHouse :
    ∃ replayed ∈ committedStates
        (called decimalBackend none (seedOpenHouse.body decimalBackend)) openHouse,
      movedAccounts replayed replayed = [] ∧ replayed.journalEntries.length = 2 ∧
      ∃ viewed ∈ committedStates
        (called decimalBackend none (seedOpenHouse.body decimalBackend)) replayed,
        (movedAccounts replayed viewed).length = 2 := by
  decide +kernel

/-- The fund is seeded again while a report is made. -/
theorem finds_of_run_openHouse :
    ∃ replayed viewed, (movedAccounts replayed viewed).length = 2 ∧
      Finds (runReconciliationOn openHouse openHouse replayed viewed)
        (movedAccounts replayed viewed) ∧
      Finds (runReconciliationOn openHouse openHouse replayed replayed) [] := by
  obtain ⟨replayed, seeded, same, -, viewed, again, moved⟩ := seeded_openHouse
  have replaying : Run (Operates decimalBackend) Operating openHouse replayed :=
    operate (.refl _) seeded
  have viewing : Run (Operates decimalBackend) Operating replayed viewed :=
    operate (.refl _) again
  refine ⟨replayed, viewed, moved,
    finds_of_run rfl rfl (.refl _) (.refl _) replaying viewing, ?_⟩
  rw [← same]
  exact finds_of_run rfl rfl (.refl _) (.refl _) replaying (.refl _)

end Reconciliation

end ClearingHouse
