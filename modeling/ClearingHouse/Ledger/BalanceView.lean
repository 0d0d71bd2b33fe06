import ClearingHouse.Library.Queries
import ClearingHouse.Statements

/-!
# The balance view

The query of `account_balances`, join by join.  The status of a journal stands in the condition of
its outer join and the sums are over the entries, so a pending or rejected journal counts like a
confirmed one.
-/

namespace ClearingHouse

namespace BalanceView

open Fibers Queries

/-- `accounts a LEFT JOIN journal_entries je LEFT JOIN journals j AND j.status = 'confirmed'`. -/
def joined (db : Database) : List ((Account × Option JournalEntry) × Option Journal) :=
  leftJoin
    (fun row journal =>
      row.2.map JournalEntry.journalId = some journal.id ∧ journal.status = .confirmed)
    (leftJoin (fun account entry => entry.accountId = account.id) db.accounts db.journalEntries)
    db.journals

/-- `account_balances`; the columns that it groups by are those of an account. -/
def accountBalancesView (db : Database) : List (Account × ℚ) :=
  (groupBy (fun row => row.1.1) (joined db)).map fun group =>
    (group.1,
      netSum (group.2.map fun row => row.1.2.map JournalEntry.debit)
        (group.2.map fun row => row.1.2.map JournalEntry.credit))

/-- Primary and foreign keys, and the checks of `journal_entries`. -/
structure Admitted (db : Database) : Prop where
  journalIds : (db.journals.map Journal.id).Nodup
  journals : ∀ entry ∈ db.journalEntries, entry.journalId ∈ db.journals.map Journal.id
  accounts : ∀ entry ∈ db.journalEntries, entry.accountId ∈ db.accounts.map Account.id
  oneSided : ∀ entry ∈ db.journalEntries, entry.OneSided

/-- The entry belongs to a confirmed journal. -/
def IsConfirmed (db : Database) (entry : JournalEntry) : Bool :=
  db.journals.any fun journal => journal.id = entry.journalId ∧ journal.status = .confirmed

/-- Debits less credits of some entries on an account. -/
def netOf (entries : List JournalEntry) (accountId : Uuid) : ℚ :=
  fiberSum JournalEntry.accountId (fun entry => entry.debit - entry.credit) entries accountId

/-- The entries of confirmed journals. -/
def confirmedEntries (db : Database) : List JournalEntry :=
  db.journalEntries.filter (IsConfirmed db)

/-- The entries of pending and rejected journals. -/
def unconfirmedEntries (db : Database) : List JournalEntry :=
  db.journalEntries.filter fun entry => ¬IsConfirmed db entry

/-- Debits less credits of an account over its entries in confirmed journals. -/
def confirmedBalance (db : Database) (accountId : Uuid) : ℚ := netOf (confirmedEntries db) accountId

theorem accountBalance_eq_add (db : Database) (accountId : Uuid) :
    accountBalance db accountId =
      confirmedBalance db accountId + netOf (unconfirmedEntries db) accountId := by
  unfold accountBalance confirmedBalance netOf confirmedEntries unconfirmedEntries
  induction db.journalEntries with
  | nil => simp
  | cons entry entries induction =>
      rw [fiberSum_cons, induction]
      cases confirmed : IsConfirmed db entry <;> simp [confirmed, fiberSum_cons] <;> ring

theorem nodup_accounts (db : Database) : db.accounts.Nodup := db.accountIds_nodup.of_map _

theorem map_fst_joined {db : Database} (admitted : Admitted db) :
    (joined db).map Prod.fst =
      leftJoin (fun account entry => entry.accountId = account.id) db.accounts
        db.journalEntries := by
  refine map_fst_leftJoin
    (singleMatch_of_nodup admitted.journalIds fun row journal journal' on on' => ?_)
  simp only [decide_eq_true_eq] at on on'
  exact Option.some.inj (on.1.symm.trans on'.1)

/-- The group of an account has its entries, or one row of nulls. -/
theorem netSum_group {db : Database} (admitted : Admitted db) {account : Account}
    (member : account ∈ db.accounts) :
    netSum
        (((joined db).filter fun row => row.1.1 = account).map fun row =>
          row.1.2.map JournalEntry.debit)
        (((joined db).filter fun row => row.1.1 = account).map fun row =>
          row.1.2.map JournalEntry.credit) = accountBalance db account.id := by
  have group : ((joined db).filter fun row => row.1.1 = account).map Prod.fst =
      (leftJoin (fun account entry => entry.accountId = account.id) db.accounts
        db.journalEntries).filter fun row => row.1 = account := by
    rw [← map_fst_joined admitted, List.filter_map]
    rfl
  have columns : ∀ column : JournalEntry → ℚ,
      ((joined db).filter fun row => row.1.1 = account).map (fun row => row.1.2.map column) =
        ((leftJoin (fun account entry => entry.accountId = account.id) db.accounts
          db.journalEntries).filter fun row => row.1 = account).map
            fun row => row.2.map column := fun column => by
    rw [← group, List.map_map]
    rfl
  rw [columns, columns, filter_leftJoin (nodup_accounts db) member, accountBalance, fiberSum]
  cases found : db.journalEntries.filter fun entry => entry.accountId = account.id with
  | nil => rfl
  | cons entry entries =>
      rw [← netSum_map_some, List.map_map, List.map_map]
      rfl

/-- The view has one row for each account, with the sum over all its entries. -/
theorem accountBalancesView_perm {db : Database} (admitted : Admitted db) :
    (accountBalancesView db).Perm (accountBalances db) := by
  have keys : ((joined db).map fun row => row.1.1).dedup.Perm db.accounts := by
    refine (List.perm_ext_iff_of_nodup (List.nodup_dedup _) (nodup_accounts db)).mpr
      fun account => ?_
    have firsts : ((joined db).map fun row => row.1.1) =
        ((joined db).map Prod.fst).map Prod.fst := by
      rw [List.map_map]
      rfl
    rw [List.mem_dedup, firsts, map_fst_joined admitted]
    exact mem_map_fst_leftJoin
  have rows : accountBalancesView db =
      ((joined db).map fun row => row.1.1).dedup.map fun account =>
        (account, accountBalance db account.id) := by
    rw [accountBalancesView, groupBy, List.map_map]
    apply List.map_congr_left
    intro account inside
    rw [Function.comp_apply]
    exact congrArg (Prod.mk account) (netSum_group admitted (keys.mem_iff.mp inside))
  rw [rows]
  exact keys.map _

/-- The ledger without the journals that are not confirmed. -/
def confirmedLedger (db : Database) : Database :=
  { db with journalEntries := confirmedEntries db }

/-- The view shows the confirmed ledger: one row for each account, its balance over confirmed
journals, and nothing of what other journals hold. -/
structure ShowsConfirmed (db : Database) : Prop where
  rows : ((accountBalancesView db).map Prod.fst).Perm db.accounts
  balance : ∀ row ∈ accountBalancesView db, row.2 = confirmedBalance db row.1.id
  unaffected : (accountBalancesView db).Perm (accountBalancesView (confirmedLedger db))

theorem admitted_confirmedLedger {db : Database} (admitted : Admitted db) :
    Admitted (confirmedLedger db) where
  journalIds := admitted.journalIds
  journals := fun entry inside => admitted.journals entry (List.mem_of_mem_filter inside)
  accounts := fun entry inside => admitted.accounts entry (List.mem_of_mem_filter inside)
  oneSided := fun entry inside => admitted.oneSided entry (List.mem_of_mem_filter inside)

theorem rows_accountBalancesView {db : Database} (admitted : Admitted db) :
    ((accountBalancesView db).map Prod.fst).Perm db.accounts := by
  have rows := (accountBalancesView_perm admitted).map Prod.fst
  rw [accountBalances, List.map_map] at rows
  exact rows.trans (.of_eq (List.map_id _))

/-- The view shows the confirmed ledger exactly when, on every account, the entries of the other
journals cancel. -/
theorem showsConfirmed_iff {db : Database} (admitted : Admitted db) :
    ShowsConfirmed db ↔
      ∀ account ∈ db.accounts, netOf (unconfirmedEntries db) account.id = 0 := by
  have view := accountBalancesView_perm admitted
  constructor
  · intro shows account member
    have row : (account, accountBalance db account.id) ∈ accountBalancesView db :=
      view.mem_iff.mpr (List.mem_map.mpr ⟨account, member, rfl⟩)
    have balance : accountBalance db account.id = confirmedBalance db account.id :=
      shows.balance _ row
    rw [accountBalance_eq_add] at balance
    linarith
  · intro cancels
    have balance : ∀ account ∈ db.accounts,
        accountBalance db account.id = confirmedBalance db account.id := fun account member => by
      rw [accountBalance_eq_add, cancels account member, add_zero]
    refine ⟨rows_accountBalancesView admitted, fun row inside => ?_, ?_⟩
    · obtain ⟨account, member, rfl⟩ := List.mem_map.mp (view.mem_iff.mp inside)
      exact balance account member
    · refine view.trans (List.Perm.trans (.of_eq ?_)
        (accountBalancesView_perm (admitted_confirmedLedger admitted)).symm)
      exact List.map_congr_left fun account member => congrArg (Prod.mk account)
        (balance account member)

/-- Two accounts and one journal between them. -/
def depositHouse (status : JournalStatus) : Database :=
  { Database.opening [⟨1, "LEI1", .active, 0⟩] []
      [⟨2, 1, .collateral, "USD", .available⟩, ⟨3, 1, .marginIm, "USD", .available⟩] 10
      (by decide) (by decide) (by decide) with
    journals := [⟨4, .collateralTransfer, "test", none, status⟩]
    journalEntries := [⟨4, 2, 1000, 0⟩, ⟨4, 3, 0, 1000⟩] }

theorem admitted_depositHouse (status : JournalStatus) : Admitted (depositHouse status) where
  journalIds := List.nodup_singleton _
  journals := by simp [depositHouse]
  accounts := by simp [depositHouse, Database.opening]
  oneSided := by simp [depositHouse, JournalEntry.OneSided]

/-- A confirmed journal alone is shown. -/
theorem showsConfirmed_depositHouse : ShowsConfirmed (depositHouse .confirmed) :=
  (showsConfirmed_iff (admitted_depositHouse .confirmed)).mpr (by decide +kernel)

/-- A pending journal changes both balances. -/
theorem not_showsConfirmed_depositHouse :
    ¬ ∀ db, Admitted db → ShowsConfirmed db := by
  intro claim
  have shown := (claim (depositHouse .pending) (admitted_depositHouse .pending)).balance
    (⟨2, 1, .collateral, "USD", .available⟩, 1000) (by decide +kernel)
  have none : confirmedBalance (depositHouse .pending) 2 = 0 := by decide +kernel
  rw [none] at shown
  norm_num at shown

end BalanceView

end ClearingHouse
