import ClearingHouse.Ledger.BalanceView
import ClearingHouse.Library.DecimalRounding

/-!
# Reconciliation

The report of the reconciliation engine, for any content of the ledger tables and any content of
the balance view.  It compares the accounts that have a confirmed entry and no others.
-/

namespace ClearingHouse

namespace Reconciliation

open BalanceView DecimalRounding Fibers Queries

/-- `journal_entries je JOIN journals j WHERE j.status = 'confirmed'`. -/
def confirmedRows (db : Database) : List (JournalEntry × Journal) :=
  (innerJoin (fun entry journal => journal.id = entry.journalId) db.journalEntries
    db.journals).filter fun row => row.2.status = .confirmed

/-- `check_global_balance`. -/
def checkGlobalBalance (db : Database) : Bool :=
  match sumColumn ((confirmedRows db).map fun row => some row.1.debit) with
  | none => true
  | some totalDebits =>
      sumColumn ((confirmedRows db).map fun row => some row.1.credit) = some totalDebits

/-- `journals j JOIN journal_entries je WHERE j.status = 'confirmed' GROUP BY j.id`. -/
def journalGroups (db : Database) : List (Uuid × List (Journal × JournalEntry)) :=
  groupBy (fun row => row.1.id)
    ((innerJoin (fun journal entry => entry.journalId = journal.id) db.journals
      db.journalEntries).filter fun row => row.1.status = .confirmed)

/-- `check_journal_integrity`. -/
def checkJournalIntegrity (db : Database) : Bool :=
  ((journalGroups db).filter fun group =>
    sumColumn (group.2.map fun row => some row.2.debit) ≠
      sumColumn (group.2.map fun row => some row.2.credit)).length = 0

inductive AccountStatus
  | ok
  | mismatch
  deriving DecidableEq, Repr

structure AccountResult where
  accountId : Uuid
  expectedBalance : ℚ
  actualBalance : ℚ
  difference : ℚ
  status : AccountStatus
  deriving DecidableEq, Repr

inductive ReportStatus
  | pass
  | fail
  deriving DecidableEq, Repr

structure ReconciliationReport where
  status : ReportStatus
  globalBalanceOk : Bool
  journalIntegrityOk : Bool
  accountsChecked : ℕ
  mismatches : ℕ
  details : List AccountResult
  deriving DecidableEq, Repr

/-- The grouped query over confirmed entries; a group has a row, so its sums are not null. -/
def recomputedRows (db : Database) : List (Uuid × ℚ) :=
  (groupBy (fun row => row.1.accountId) (confirmedRows db)).map fun group =>
    (group.1, netSum (group.2.map fun row => some row.1.debit)
      (group.2.map fun row => some row.1.credit))

/-- Rows of `account_balances`: an account and its balance, which may be null. -/
abbrev ViewContent := List (Uuid × Option ℚ)

/-- The dictionary `actual_balances`. -/
def actualBalances (content : ViewContent) : List (Uuid × ℚ) :=
  collect Prod.fst (fun row => row.2.getD 0) (fun row _ => row.2.getD 0) content

/-- `actual_balances.get(account_id, Decimal("0"))`. -/
def actualBalance (content : ViewContent) (accountId : Uuid) : ℚ :=
  (valueAt accountId (actualBalances content)).getD 0

/-- One pass of the loop over the recomputed rows. -/
def compareRow (content : ViewContent) (progress : List AccountResult × ℕ) (row : Uuid × ℚ) :
    List AccountResult × ℕ :=
  let actual := actualBalance content row.1
  let diff := toDigits 28 (row.2 - actual)
  let result : AccountResult :=
    { accountId := row.1
      expectedBalance := row.2
      actualBalance := actual
      difference := diff
      status := if diff = 0 then .ok else .mismatch }
  (progress.1 ++ [result], if diff ≠ 0 then progress.2 + 1 else progress.2)

/-- `run_reconciliation`. -/
def runReconciliation (db : Database) (content : ViewContent) : ReconciliationReport :=
  let globalOk := checkGlobalBalance db
  let journalOk := checkJournalIntegrity db
  let compared := (recomputedRows db).foldl (compareRow content) ([], 0)
  { status := if compared.2 = 0 ∧ globalOk = true ∧ journalOk = true then .pass else .fail
    globalBalanceOk := globalOk
    journalIntegrityOk := journalOk
    accountsChecked := (recomputedRows db).length
    mismatches := compared.2
    details := compared.1 }

variable {db : Database}

/-- Every entry is joined to its journal, once. -/
theorem map_fst_confirmedRows (admitted : Admitted db) :
    (confirmedRows db).map Prod.fst = confirmedEntries db := by
  have single : SingleMatch (fun (entry : JournalEntry) (journal : Journal) =>
      decide (journal.id = entry.journalId) && decide (journal.status = .confirmed))
      db.journalEntries db.journals := by
    apply singleMatch_of_nodup admitted.journalIds
    intro entry journal journal' on on'
    simp only [Bool.and_eq_true, decide_eq_true_eq] at on on'
    exact on.1.trans on'.1.symm
  rw [confirmedRows, filter_snd_innerJoin fun journal : Journal => journal.status = .confirmed,
    map_fst_innerJoin single, confirmedEntries]
  apply List.filter_congr
  intro entry _
  simp [IsConfirmed]

theorem sumColumn_confirmedRows (admitted : Admitted db) (column : JournalEntry → ℚ) :
    sumColumn ((confirmedRows db).map fun row => some (column row.1)) =
      if confirmedEntries db = [] then none else some ((confirmedEntries db).map column).sum := by
  rw [← sumColumn_map_some, ← map_fst_confirmedRows admitted, List.map_map]
  rfl

theorem checkGlobalBalance_iff (admitted : Admitted db) :
    checkGlobalBalance db = true ↔
      ((confirmedEntries db).map JournalEntry.debit).sum =
        ((confirmedEntries db).map JournalEntry.credit).sum := by
  rw [checkGlobalBalance, sumColumn_confirmedRows admitted, sumColumn_confirmedRows admitted]
  by_cases empty : confirmedEntries db = []
  · simp [empty]
  · simp [empty, eq_comm]

/-- The rows of a confirmed journal. -/
theorem journalRows_eq (admitted : Admitted db) {journal : Journal} (member : journal ∈ db.journals)
    (confirmed : journal.status = .confirmed) :
    ((innerJoin (fun journal entry => entry.journalId = journal.id) db.journals
      db.journalEntries).filter fun row => row.1.status = .confirmed).filter
        (fun row => row.1.id = journal.id) =
      (db.journalEntries.filter fun entry => entry.journalId = journal.id).map
        (Prod.mk journal) := by
  have alone : (db.journals.filter fun other => other.status = .confirmed).filter
      (fun other => other.id = journal.id) = [journal] :=
    filter_key_eq_singleton (admitted.journalIds.sublist (List.filter_sublist.map _))
      (List.mem_filter.mpr ⟨member, by simp [confirmed]⟩)
  rw [filter_fst_innerJoin fun journal : Journal => journal.status = .confirmed,
    filter_fst_innerJoin fun other : Journal => other.id = journal.id, alone]
  simp [innerJoin]

theorem mem_journalGroups_keys {journalId : Uuid} :
    journalId ∈ (journalGroups db).map Prod.fst ↔
      ∃ journal ∈ db.journals, journal.id = journalId ∧ journal.status = .confirmed ∧
        ∃ entry ∈ db.journalEntries, entry.journalId = journalId := by
  rw [journalGroups, map_fst_groupBy, List.mem_dedup, List.mem_map]
  constructor
  · rintro ⟨⟨journal, entry⟩, inside, rfl⟩
    obtain ⟨joined, confirmed⟩ := List.mem_filter.mp inside
    obtain ⟨member, posted, same⟩ := mem_innerJoin.mp joined
    exact ⟨journal, member, rfl, by simpa using confirmed, entry, posted, by simpa using same⟩
  · rintro ⟨journal, member, rfl, confirmed, entry, posted, same⟩
    exact ⟨(journal, entry), List.mem_filter.mpr
      ⟨mem_innerJoin.mpr ⟨member, posted, by simpa using same⟩, by simpa using confirmed⟩, rfl⟩

/-- Every confirmed journal has equal debits and credits. -/
def JournalsBalance (db : Database) : Prop :=
  ∀ journal ∈ db.journals, journal.status = .confirmed →
    journalTotal JournalEntry.debit db journal.id = journalTotal JournalEntry.credit db journal.id

theorem checkJournalIntegrity_iff (admitted : Admitted db) :
    checkJournalIntegrity db = true ↔ JournalsBalance db := by
  have sums : ∀ journal ∈ db.journals, journal.status = .confirmed →
      (∃ entry ∈ db.journalEntries, entry.journalId = journal.id) →
        ∀ column : JournalEntry → ℚ,
          sumColumn ((((innerJoin (fun journal entry => entry.journalId = journal.id) db.journals
            db.journalEntries).filter fun row => row.1.status = .confirmed).filter
              (fun row => row.1.id = journal.id)).map fun row => some (column row.2)) =
            some (journalTotal column db journal.id) := by
    rintro journal member confirmed ⟨entry, posted, same⟩ column
    have present : (db.journalEntries.filter fun entry => entry.journalId = journal.id) ≠ [] :=
      List.ne_nil_of_mem (List.mem_filter.mpr ⟨posted, by simpa using same⟩)
    rw [journalRows_eq admitted member confirmed, List.map_map]
    exact (sumColumn_map_some column _).trans (if_neg present)
  have groups : ∀ group ∈ journalGroups db, group.2 =
      ((innerJoin (fun journal entry => entry.journalId = journal.id) db.journals
        db.journalEntries).filter fun row => row.1.status = .confirmed).filter
          fun row => row.1.id = group.1 := by
    intro group inside
    obtain ⟨key, -, rfl⟩ := List.mem_map.mp inside
    rfl
  rw [checkJournalIntegrity, decide_eq_true_eq, List.length_eq_zero_iff, List.filter_eq_nil_iff]
  constructor
  · intro balanced journal member confirmed
    by_cases used : ∃ entry ∈ db.journalEntries, entry.journalId = journal.id
    · have key : journal.id ∈ (journalGroups db).map Prod.fst :=
        mem_journalGroups_keys.mpr ⟨journal, member, rfl, confirmed, used⟩
      obtain ⟨group, inside, same⟩ := List.mem_map.mp key
      have equal := balanced group inside
      rw [groups group inside, same, sums journal member confirmed used,
        sums journal member confirmed used] at equal
      simpa using equal
    · have unused : (db.journalEntries.filter fun entry => entry.journalId = journal.id) = [] :=
        List.filter_eq_nil_iff.mpr fun entry inside same =>
          used ⟨entry, inside, by simpa using same⟩
      simp [journalTotal, fiberSum, unused]
  · intro balanced group inside
    obtain ⟨journal, member, same, confirmed, used⟩ :=
      mem_journalGroups_keys.mp (List.mem_map_of_mem inside)
    rw [groups group inside, ← same]
    rw [← same] at used
    rw [sums journal member confirmed used, sums journal member confirmed used,
      balanced journal member confirmed]
    simp

/-- Balanced journals balance the ledger. -/
theorem checkGlobalBalance_of_journalsBalance (admitted : Admitted db)
    (balanced : JournalsBalance db) : checkGlobalBalance db = true := by
  rw [checkGlobalBalance_iff admitted]
  have total : ∀ column : JournalEntry → ℚ,
      ((confirmedEntries db).map column).sum =
        (((db.journals.filter fun journal => journal.status = .confirmed).map Journal.id).map
          fun journalId => fiberSum JournalEntry.journalId column (confirmedEntries db)
            journalId).sum := fun column => by
    refine (sum_fiberSum (admitted.journalIds.sublist (List.filter_sublist.map _)) _ _ ?_).symm
    intro entry inside
    have confirmed := (List.mem_filter.mp inside).2
    obtain ⟨journal, member, holds⟩ := List.any_eq_true.mp confirmed
    simp only [decide_eq_true_eq] at holds
    exact List.mem_map.mpr ⟨journal, List.mem_filter.mpr ⟨member, by simpa using holds.2⟩, holds.1⟩
  have journal : ∀ journal ∈ db.journals, journal.status = .confirmed →
      ∀ column : JournalEntry → ℚ,
        fiberSum JournalEntry.journalId column (confirmedEntries db) journal.id =
          journalTotal column db journal.id := by
    intro journal member confirmed column
    rw [journalTotal, fiberSum, fiberSum, confirmedEntries, List.filter_filter]
    refine congrArg (fun entries => (List.map column entries).sum)
      (List.filter_congr fun entry _ => ?_)
    by_cases same : entry.journalId = journal.id
    · have found : IsConfirmed db entry = true :=
        List.any_eq_true.mpr ⟨journal, member, by simp [same, confirmed]⟩
      simp [same, found]
    · simp [same]
  rw [total, total]
  refine congrArg List.sum (List.map_congr_left fun journalId inside => ?_)
  obtain ⟨found, selected, rfl⟩ := List.mem_map.mp inside
  obtain ⟨member, confirmed⟩ := List.mem_filter.mp selected
  have status : found.status = .confirmed := by simpa using confirmed
  rw [journal found member status, journal found member status, balanced found member status]

/-- Accounts with a confirmed entry. -/
def checkedAccounts (db : Database) : List Uuid :=
  ((confirmedEntries db).map JournalEntry.accountId).dedup

theorem recomputedRows_eq (admitted : Admitted db) :
    recomputedRows db =
      (checkedAccounts db).map fun accountId => (accountId, confirmedBalance db accountId) := by
  have keys : (confirmedRows db).map (fun row => row.1.accountId) =
      (confirmedEntries db).map JournalEntry.accountId := by
    rw [← map_fst_confirmedRows admitted, List.map_map]
    rfl
  rw [recomputedRows, groupBy, keys, List.map_map, checkedAccounts]
  refine List.map_congr_left fun accountId _ => congrArg (Prod.mk accountId) ?_
  have entries : ((confirmedRows db).filter fun row => row.1.accountId = accountId).map Prod.fst =
      (confirmedEntries db).filter fun entry => entry.accountId = accountId := by
    rw [← map_fst_confirmedRows admitted, List.filter_map]
    rfl
  dsimp only
  rw [netSum_map_some, confirmedBalance, netOf, fiberSum, ← entries, List.map_map]
  rfl

theorem compareRow_snd (content : ViewContent) (progress : List AccountResult × ℕ)
    (row : Uuid × ℚ) :
    (compareRow content progress row).2 =
      progress.2 + if actualBalance content row.1 ≠ row.2 then 1 else 0 := by
  have differs : toDigits 28 (row.2 - actualBalance content row.1) ≠ 0 ↔
      actualBalance content row.1 ≠ row.2 := by
    rw [Ne, toDigits_eq_zero_iff (by decide), sub_eq_zero, eq_comm]
  rw [compareRow]
  dsimp only
  by_cases same : actualBalance content row.1 ≠ row.2
  · rw [if_pos same, if_pos (differs.mpr same)]
  · rw [if_neg same, if_neg (differs.not.mpr same), Nat.add_zero]

/-- The loop counts the rows that differ. -/
theorem foldl_compareRow (content : ViewContent) (rows : List (Uuid × ℚ))
    (progress : List AccountResult × ℕ) :
    (rows.foldl (compareRow content) progress).2 =
      progress.2 + (rows.filter fun row => actualBalance content row.1 ≠ row.2).length := by
  induction rows generalizing progress with
  | nil => rfl
  | cons row rows induction =>
      rw [List.foldl_cons, induction, compareRow_snd, Nat.add_assoc]
      by_cases differs : actualBalance content row.1 ≠ row.2
      · simp [differs, Nat.add_comm]
      · simp [differs]

/-- The balance of the view is not the one over confirmed journals. -/
def Differs (db : Database) (content : ViewContent) (accountId : Uuid) : Prop :=
  actualBalance content accountId ≠ confirmedBalance db accountId

instance (content : ViewContent) (accountId : Uuid) : Decidable (Differs db content accountId) :=
  inferInstanceAs (Decidable (_ ≠ _))

theorem mismatches_eq (admitted : Admitted db) (content : ViewContent) :
    (runReconciliation db content).mismatches =
      ((checkedAccounts db).filter fun accountId => Differs db content accountId).length := by
  rw [runReconciliation, foldl_compareRow, Nat.zero_add, recomputedRows_eq admitted,
    List.filter_map, List.length_map]
  rfl

/-- A report passes when nothing that it compares differs and the journals balance. -/
theorem status_eq_pass_iff (admitted : Admitted db) (content : ViewContent) :
    (runReconciliation db content).status = .pass ↔
      (runReconciliation db content).mismatches = 0 ∧ JournalsBalance db := by
  have checks : (checkGlobalBalance db = true ∧ checkJournalIntegrity db = true) ↔
      JournalsBalance db := by
    rw [checkJournalIntegrity_iff admitted]
    exact ⟨And.right, fun balanced =>
      ⟨checkGlobalBalance_of_journalsBalance admitted balanced, balanced⟩⟩
  rw [← checks]
  rw [runReconciliation]
  dsimp only
  by_cases passed : ((recomputedRows db).foldl (compareRow content) ([], 0)).2 = 0 ∧
      checkGlobalBalance db = true ∧ checkJournalIntegrity db = true
  · simp [passed]
  · rw [if_neg passed]
    exact ⟨fun status => (nomatch status), fun holds => absurd holds passed⟩

/-- The number of accounts on which view and ledger differ. -/
def differences (db : Database) (content : ViewContent) : ℕ :=
  (db.accounts.filter fun account => Differs db content account.id).length

/-- The accounts that differ are those that the loop finds and those without a confirmed entry. -/
theorem differences_eq (admitted : Admitted db) (content : ViewContent) :
    differences db content = (runReconciliation db content).mismatches +
      (db.accounts.filter fun account =>
        account.id ∉ checkedAccounts db ∧ Differs db content account.id).length := by
  have known : ∀ accountId ∈ checkedAccounts db, accountId ∈ db.accounts.map Account.id := by
    intro accountId checked
    obtain ⟨entry, inside, rfl⟩ := List.mem_map.mp (List.mem_dedup.mp checked)
    exact admitted.accounts entry (List.mem_of_mem_filter inside)
  have found : (((db.accounts.map Account.id).filter fun accountId =>
      Differs db content accountId).filter fun accountId => accountId ∈ checkedAccounts db).Perm
        ((checkedAccounts db).filter fun accountId => Differs db content accountId) := by
    refine (List.perm_ext_iff_of_nodup ((db.accountIds_nodup.filter _).filter _)
      ((List.nodup_dedup _).filter _)).mpr fun accountId => ?_
    simp only [List.mem_filter, decide_eq_true_eq]
    exact ⟨fun ⟨⟨_, differs⟩, checked⟩ => ⟨checked, differs⟩,
      fun ⟨checked, differs⟩ => ⟨⟨known accountId checked, differs⟩, checked⟩⟩
  have ids : differences db content = ((db.accounts.map Account.id).filter fun accountId =>
      Differs db content accountId).length := by
    rw [differences, List.filter_map, List.length_map]
    rfl
  have unfound : (((db.accounts.map Account.id).filter fun accountId =>
      Differs db content accountId).filter fun accountId =>
        !decide (accountId ∈ checkedAccounts db)).length =
      (db.accounts.filter fun account =>
        account.id ∉ checkedAccounts db ∧ Differs db content account.id).length := by
    rw [List.filter_filter, List.filter_map, List.length_map]
    refine congrArg List.length (List.filter_congr fun account _ => ?_)
    simp
  rw [ids, mismatches_eq admitted, ← found.length_eq, ← unfound]
  exact List.length_eq_length_filter_add _

/-- The report passes exactly when journals balance and the view shows the confirmed ledger, and it
counts the accounts where it does not. -/
structure SoundAndComplete (db : Database) (content : ViewContent) : Prop where
  pass : (runReconciliation db content).status = .pass ↔
    JournalsBalance db ∧ ∀ account ∈ db.accounts,
      actualBalance content account.id = confirmedBalance db account.id
  mismatches : (runReconciliation db content).mismatches = differences db content

/-- An account without a confirmed entry has balance zero in the view. -/
def IdleAtZero (db : Database) (content : ViewContent) : Prop :=
  ∀ account ∈ db.accounts, (∀ entry ∈ confirmedEntries db, entry.accountId ≠ account.id) →
    actualBalance content account.id = 0

theorem idleAtZero_iff (content : ViewContent) :
    IdleAtZero db content ↔
      (db.accounts.filter fun account =>
        account.id ∉ checkedAccounts db ∧ Differs db content account.id) = [] := by
  have idle : ∀ accountId, accountId ∉ checkedAccounts db ↔
      ∀ entry ∈ confirmedEntries db, entry.accountId ≠ accountId := fun accountId => by
    simp [checkedAccounts]
  have zero : ∀ accountId, accountId ∉ checkedAccounts db → confirmedBalance db accountId = 0 := by
    intro accountId unchecked
    rw [confirmedBalance, netOf, fiberSum, List.filter_eq_nil_iff.mpr]
    · rfl
    · exact fun entry inside => by simpa using (idle accountId).mp unchecked entry inside
  rw [List.filter_eq_nil_iff]
  simp only [decide_eq_true_eq, not_and]
  constructor
  · intro idleAtZero account member unchecked differs
    exact differs ((idleAtZero account member ((idle _).mp unchecked)).trans
      (zero account.id unchecked).symm)
  · intro same account member unused
    have unchecked := (idle account.id).mpr unused
    exact (not_not.mp (same account member unchecked)).trans (zero account.id unchecked)

/-- The report is sound and complete exactly when accounts without a confirmed entry have balance
zero in the view. -/
theorem soundAndComplete_iff (admitted : Admitted db) (content : ViewContent) :
    SoundAndComplete db content ↔ IdleAtZero db content := by
  rw [idleAtZero_iff]
  constructor
  · intro report
    have count := differences_eq admitted content
    rw [← report.mismatches] at count
    exact List.length_eq_zero_iff.mp (by omega)
  · intro none
    have count : (runReconciliation db content).mismatches = differences db content := by
      rw [differences_eq admitted, none, List.length_nil, Nat.add_zero]
    refine ⟨?_, count⟩
    have all : differences db content = 0 ↔ ∀ account ∈ db.accounts,
        actualBalance content account.id = confirmedBalance db account.id := by
      rw [differences, List.length_eq_zero_iff, List.filter_eq_nil_iff]
      apply forall₂_congr
      intro account _
      rw [decide_eq_true_eq, Differs, not_ne_iff]
    rw [status_eq_pass_iff admitted, count, all, and_comm]

/-- What the view shows of the two accounts of the house, whatever the status of its journal. -/
def depositContent : ViewContent := [(2, some 1000), (3, some (-1000))]

theorem soundAndComplete_depositHouse :
    SoundAndComplete (depositHouse .confirmed) depositContent :=
  (soundAndComplete_iff (admitted_depositHouse .confirmed) depositContent).mpr
    (by unfold IdleAtZero; decide +kernel)

/-- Two accounts that have pending entries alone are not compared. -/
theorem not_soundAndComplete_depositHouse :
    ¬ ∀ db content, Admitted db → SoundAndComplete db content := by
  intro claim
  have report := claim (depositHouse .pending) depositContent (admitted_depositHouse .pending)
  have none : (runReconciliation (depositHouse .pending) depositContent).mismatches = 0 := by
    decide +kernel
  have two : differences (depositHouse .pending) depositContent = 2 := by decide +kernel
  have mismatches := report.mismatches
  omega

end Reconciliation

end ClearingHouse
