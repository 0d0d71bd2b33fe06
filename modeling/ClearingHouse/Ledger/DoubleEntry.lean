import ClearingHouse.Ledger.Sessions
import ClearingHouse.Library.StepSystem
import ClearingHouse.Waterfall.Refinement

/-!
# Double entry

Every committed ledger is balanced: the entries of each journal debit as much as they credit, each
entry has one positive side, and the balances of all accounts sum to zero.  The row checks give
the second, the deferred trigger the first, and the third follows by summing entries by journal
instead of by account.
-/

namespace ClearingHouse

open Fibers Transactions Transactions.Session

/-- The invariant of committed ledgers. -/
structure Balanced (backend : Backend) (db : Database) : Prop where
  journals : ∀ journalId, journalTotal JournalEntry.debit db journalId =
    journalTotal JournalEntry.credit db journalId
  entries : ∀ entry ∈ db.journalEntries, entry.Valid backend db.accounts

variable {backend : Backend}

private theorem sum_mem_grid {column : JournalEntry → ℚ} {entries : List JournalEntry}
    (columns : ∀ entry ∈ entries, column entry ∈ backend.grid) (journalId : Uuid) :
    fiberSum JournalEntry.journalId column entries journalId ∈ backend.grid := by
  apply list_sum_mem
  intro value member
  obtain ⟨entry, inside, rfl⟩ := List.mem_map.mp member
  exact columns entry (List.mem_of_mem_filter inside)

/-- The trigger accepts a journal only if its totals agree. -/
theorem totals_of_validate {db : Database} {new : JournalEntry}
    (valid : ∀ entry ∈ db.journalEntries, entry.Valid backend db.accounts)
    (accepted : validateJournalBalance backend db new = .ok ()) :
    journalTotal JournalEntry.debit db new.journalId =
      journalTotal JournalEntry.credit db new.journalId := by
  unfold validateJournalBalance at accepted
  split at accepted
  · next totalDebit totalCredit debits credits =>
      have debit_eq := backend.store_of_mem
        (sum_mem_grid (fun entry inside => (valid entry inside).debit) _) debits
      have credit_eq := backend.store_of_mem
        (sum_mem_grid (fun entry inside => (valid entry inside).credit) _) credits
      split at accepted
      · cases accepted
      · next same => exact debit_eq.symm.trans ((not_not.mp same).trans credit_eq)
  · cases accepted

/-- The row checks and the deferred trigger restore the invariant at every commit. -/
theorem balanced_of_commit {old new : Database} (balanced : Balanced backend old)
    (grows : Grows backend old new) (accepted : checkInsertedEntries backend old new = .ok ()) :
    Balanced backend new := by
  obtain ⟨added, entries_eq, added_valid⟩ := grows.entries
  have valid : ∀ entry ∈ new.journalEntries, entry.Valid backend new.accounts := by
    rw [entries_eq, grows.accounts]
    intro entry member
    rcases List.mem_append.mp member with before | inserted
    · exact balanced.entries entry before
    · exact added_valid entry inserted
  have checked : ∀ entry ∈ added, validateJournalBalance backend new entry = .ok () := by
    rw [checkInsertedEntries, entries_eq, List.drop_left] at accepted
    exact forM_eq_ok.mp accepted
  refine ⟨fun journalId => ?_, valid⟩
  by_cases inserted : ∃ entry ∈ added, entry.journalId = journalId
  · obtain ⟨entry, member, rfl⟩ := inserted
    exact totals_of_validate valid (checked entry member)
  · have untouched : ∀ column : JournalEntry → ℚ,
        journalTotal column new journalId = journalTotal column old journalId := by
      intro column
      have none_added : added.filter (fun entry => entry.journalId = journalId) = [] := by
        rw [List.filter_eq_nil_iff]
        intro entry member
        simpa using fun same => inserted ⟨entry, member, same⟩
      have nothing : fiberSum JournalEntry.journalId column added journalId = 0 := by
        rw [fiberSum, none_added]
        rfl
      rw [journalTotal, journalTotal, entries_eq, fiberSum_append, nothing, add_zero]
    rw [untouched, untouched, balanced.journals]

/-- The view `account_balances` of a balanced ledger sums to zero. -/
theorem sum_accountBalances {db : Database} (balanced : Balanced backend db) :
    ((accountBalances db).map Prod.snd).sum = 0 := by
  have by_account : ((accountBalances db).map Prod.snd).sum =
      (db.journalEntries.map fun entry => entry.debit - entry.credit).sum := by
    have covered : ∀ entry ∈ db.journalEntries, entry.accountId ∈ db.accounts.map Account.id :=
      fun entry inside => (balanced.entries entry inside).account
    rw [← sum_fiberSum db.accountIds_nodup JournalEntry.accountId _ covered]
    simp only [accountBalances, List.map_map]
    rfl
  have by_journal : ∀ column : JournalEntry → ℚ, (db.journalEntries.map column).sum =
      ((db.journalEntries.map JournalEntry.journalId).dedup.map fun journalId =>
        journalTotal column db journalId).sum := by
    intro column
    refine (sum_fiberSum (List.nodup_dedup _) JournalEntry.journalId column ?_).symm
    exact fun entry inside => List.mem_dedup.mpr (List.mem_map_of_mem inside)
  have debits_eq_credits : (db.journalEntries.map JournalEntry.debit).sum =
      (db.journalEntries.map JournalEntry.credit).sum := by
    rw [by_journal, by_journal]
    simp only [balanced.journals]
  have separated : (db.journalEntries.map fun entry => entry.debit - entry.credit).sum +
      (db.journalEntries.map JournalEntry.credit).sum =
      (db.journalEntries.map JournalEntry.debit).sum := by
    rw [← List.sum_map_add]
    simp only [sub_add_cancel]
  rw [by_account]
  linarith

/-- What every commit keeps: a balanced ledger and non-negative credit limits. -/
structure Kept (backend : Backend) (db : Database) : Prop where
  balanced : Balanced backend db
  limits : ∀ member ∈ db.members, 0 ≤ member.creditLimit

theorem kept_of_commit {old new : Database} (kept : Kept backend old)
    (grows : Grows backend old new) (accepted : checkInsertedEntries backend old new = .ok ()) :
    Kept backend new := by
  refine ⟨balanced_of_commit kept.balanced grows accepted, fun member inside => ?_⟩
  have limit : member.creditLimit ∈ old.members.map Member.creditLimit :=
    grows.limits ▸ List.mem_map_of_mem inside
  obtain ⟨before, registered, same⟩ := List.mem_map.mp limit
  exact same ▸ kept.limits before registered

/-- A house before its first journal, with the credit limits its members are registered with. -/
structure Opened (db : Database) : Prop where
  entries : db.journalEntries = []
  limits : ∀ member ∈ db.members, 0 ≤ member.creditLimit

/-- A commit of the other services: it leaves the ledger alone, removes no account and registers
members with non-negative credit limits. -/
structure Elsewhere (db after : Database) : Prop where
  entries : after.journalEntries = db.journalEntries
  accounts : ∀ account ∈ db.accounts, account ∈ after.accounts
  limits : ∀ member ∈ after.members, 0 ≤ member.creditLimit

/-- What commits in a run of the house. -/
inductive Commit
  | writer (writer : LedgerWriter)
  | session (operation : LedgerSession)
  | elsewhere

/-- The commits of a run: a writer's transaction, any commit of a session, or another service. -/
inductive Commits (backend : Backend) : Database → Commit → Database → Prop
  | writer (writer : LedgerWriter) (db : Database) :
      Commits backend db (.writer writer) (commitAlone (server backend) (writer.body backend) db)
  | session (operation : LedgerSession) {db after : Database}
      (committed : after ∈ committedStates (operation.session backend) db) :
      Commits backend db (.session operation) after
  | elsewhere {db after : Database} (other : Elsewhere db after) :
      Commits backend db .elsewhere after

/-- Databases that committed transactions reach from an opened house. -/
def Reachable (backend : Backend) (db : Database) : Prop :=
  ∃ initial, Opened initial ∧
    StepSystem.Run (Commits backend) StepSystem.unrestricted initial db

theorem kept_of_opened {db : Database} (opened : Opened db) : Kept backend db := by
  refine ⟨⟨fun journalId => ?_, by simp [opened.entries]⟩, opened.limits⟩
  rw [journalTotal, journalTotal, opened.entries, fiberSum_nil, fiberSum_nil]

theorem survives_kept : Survives backend (Kept backend) :=
  fun _ _ kept grows accepted => kept_of_commit kept grows accepted

/-- One commit keeps the ledger. -/
theorem kept_of_commits {db after : Database} {commit : Commit} (kept : Kept backend db)
    (committed : Commits backend db commit after) : Kept backend after := by
  cases committed with
  | writer writer => exact survives_commitAlone survives_kept kept writer.growing_body
  | session operation committed =>
      exact committedStates_of_keeps
        (keepsLedger_session survives_kept operation) kept after committed
  | elsewhere other =>
      refine ⟨⟨fun journalId => ?_, fun entry member => ?_⟩, other.limits⟩
      · have before := kept.balanced.journals journalId
        rwa [journalTotal, journalTotal, ← other.entries] at before
      · have valid := kept.balanced.entries entry (other.entries ▸ member)
        obtain ⟨account, inside, same⟩ := List.mem_map.mp valid.account
        exact ⟨valid.oneSided, valid.debit, valid.credit,
          List.mem_map.mpr ⟨account, other.accounts account inside, same⟩⟩

theorem kept_of_reachable {db : Database} (reachable : Reachable backend db) :
    Kept backend db := by
  obtain ⟨initial, opened, run⟩ := reachable
  exact run.invariant (fun _ _ _ kept _ committed => kept_of_commits kept committed)
    (kept_of_opened opened)

/-- A transaction whose ledger would be unbalanced leaves no trace. -/
theorem commitAlone_of_unbalanced {db : Database} (balanced : Balanced backend db) {α : Type}
    {code : Sql α} (growing : Growing backend code) {value : α} {after : Database}
    (ran : code db = .ok (value, after)) (unbalanced : ¬Balanced backend after) :
    commitAlone (server backend) code db = db := by
  rw [commitAlone_eq, ran]
  cases checked : (server backend).deferred db after with
  | error failure => simp [checked]
  | ok done => exact absurd (balanced_of_commit balanced (growing ran) checked) unbalanced

open Waterfall in
/-- A posting of which exactly one of the two accounts exists. -/
def Lopsided (db : Database) (posting : Posting) : Prop :=
  (posting.account db).isSome ≠ (recoveryAccount db).isSome

open Waterfall in
private theorem sum_lopsided_ne_zero {db : Database} {postings : List Posting}
    (postable : ∀ posting ∈ postings, Postable backend db posting)
    (lopsided : ∃ posting ∈ postings, Lopsided db posting) :
    (postings.map fun posting =>
      (if (recoveryAccount db).isSome then posting.stored backend else 0) -
        if (posting.account db).isSome then posting.stored backend else 0).sum ≠ 0 := by
  obtain ⟨witness, witness_mem, uneven⟩ := lopsided
  have stored_pos : ∀ posting ∈ postings,
      (posting.account db).isSome ∨ (recoveryAccount db).isSome → 0 < posting.stored backend := by
    intro posting member present
    obtain ⟨stored, storing, positive⟩ := postable posting member present
    rw [Posting.stored, storing]
    exact positive
  have zero_sum : (postings.map fun _ : Posting => (0 : ℚ)).sum = 0 := by simp
  cases recovers : (recoveryAccount db).isSome with
  | true =>
      -- Every amount is collected, so a missing source leaves a surplus.
      refine ne_of_gt (zero_sum.symm.trans_lt (List.sum_lt_sum _ _ (fun posting member => ?_)
        ⟨witness, witness_mem, ?_⟩))
      · have positive := stored_pos posting member (.inr recovers)
        cases (posting.account db).isSome <;> simp [positive.le]
      · have positive := stored_pos witness witness_mem (.inr recovers)
        have missing : (witness.account db).isSome = false := by
          simpa [Lopsided, recovers] using uneven
        simpa [missing] using positive
  | false =>
      -- Nothing is collected, so a source that exists leaves a deficit.
      refine ne_of_lt ((List.sum_lt_sum _ _ (fun posting member => ?_)
        ⟨witness, witness_mem, ?_⟩).trans_eq zero_sum)
      · cases drawn : (posting.account db).isSome with
        | true => simpa using (stored_pos posting member (.inl drawn)).le
        | false => simp
      · have drawn : (witness.account db).isSome = true := by
          rw [Lopsided, recovers] at uneven
          exact Bool.not_eq_false _ |>.mp uneven
        simpa [drawn] using stored_pos witness witness_mem (.inl drawn)

open Waterfall in
/-- A waterfall that would post a lopsided journal leaves no trace. -/
theorem waterfall_of_lopsided {db : Database} (balanced : Balanced backend db) (memberId : Uuid)
    (triggerReason : Text) (totalExposure : ℚ) (trace : Option TraceContext)
    (lopsided : ∃ posting ∈ postingsAlong backend (waterfallTiers backend db memberId)
      totalExposure, Lopsided db posting) :
    commitAlone (server backend)
      ((LedgerWriter.waterfall memberId triggerReason totalExposure trace).body backend) db =
        db := by
  set code := (LedgerWriter.waterfall memberId triggerReason totalExposure trace).body backend
    with code_eq
  cases run : code db with
  | error failure => rw [commitAlone_eq, run]
  | ok result =>
      obtain ⟨done, after⟩ := result
      apply commitAlone_of_unbalanced balanced (LedgerWriter.growing_body _) run
      intro still
      rw [code_eq] at run
      obtain ⟨outcome, _, executed, ⟨⟩⟩ := Transaction.bind_eq_ok.mp run
      obtain ⟨absorbed, runnable⟩ := executeWaterfall_ran executed
      have moved := absorbed.swept.sum_balances
      rw [sum_accountBalances still, sum_accountBalances balanced, zero_add] at moved
      exact sum_lopsided_ne_zero (postable_of_accepted runnable.accepted) lopsided moved.symm

/-- Double entry in every reachable database: journals balance, entries are one-sided and within
their columns, and the balances sum to zero; a transaction that would break this, such as a
waterfall whose journal misses one of its two accounts, leaves no trace. -/
theorem doubleEntry_of_reachable (backend : Backend) {db : Database}
    (reachable : Reachable backend db) :
    (∀ journalId, journalTotal JournalEntry.debit db journalId =
        journalTotal JournalEntry.credit db journalId) ∧
      (∀ entry ∈ db.journalEntries,
        entry.OneSided ∧ entry.debit ∈ backend.grid ∧ entry.credit ∈ backend.grid) ∧
      ((accountBalances db).map Prod.snd).sum = 0 ∧
      (∀ (writer : LedgerWriter) (after : Database),
        writer.body backend db = .ok ((), after) → ¬Balanced backend after →
          commitAlone (server backend) (writer.body backend) db = db) ∧
      (∀ memberId triggerReason totalExposure trace,
        (∃ posting ∈ Waterfall.postingsAlong backend (Waterfall.waterfallTiers backend db memberId)
          totalExposure, Lopsided db posting) →
          commitAlone (server backend)
            ((LedgerWriter.waterfall memberId triggerReason totalExposure trace).body backend) db =
            db) := by
  have balanced := (kept_of_reachable reachable).balanced
  refine ⟨balanced.journals, fun entry member => ?_, sum_accountBalances balanced,
    fun writer after ran unbalanced =>
      commitAlone_of_unbalanced balanced writer.growing_body ran unbalanced,
    waterfall_of_lopsided balanced⟩
  have valid := balanced.entries entry member
  exact ⟨valid.oneSided, valid.debit, valid.credit⟩

/-- The house and one clearing member before the default fund is seeded. -/
def openHouse : Database :=
  Database.opening
    [⟨0, ccpLei, .active, 0⟩, ⟨1, "529900HNOAA1KXQJUQ27", .active, 50000000⟩] []
    (Seeding.seedAccounts 10 0 (Seeding.accountTypes ++ [.ccpEquity]) ++
      Seeding.seedAccounts 30 1 Seeding.accountTypes)
    100 (by decide) (by decide) (by decide)

/-- The identifiers of the members that `openHouse` knows. -/
def openHouseIds (name : String) : Uuid := if name = "Alpha Capital Markets" then 1 else 99

/-- The house after its default fund has been seeded. -/
def seededHouse (backend : Backend) : Database :=
  commitAlone (server backend) ((LedgerWriter.seeding openHouseIds 0).body backend) openHouse

theorem reachable_seededHouse (backend : Backend) : Reachable backend (seededHouse backend) :=
  ⟨openHouse, ⟨rfl, by decide +kernel⟩, .snoc (.refl openHouse) trivial (.writer _ _)⟩

theorem doubleEntry_seededHouse :
    (seededHouse decimalBackend).journalEntries.length = 2 ∧
      ((accountBalances (seededHouse decimalBackend)).map Prod.snd).sum = 0 :=
  ⟨by decide +kernel,
    (doubleEntry_of_reachable decimalBackend (reachable_seededHouse decimalBackend)).2.2.1⟩

end ClearingHouse
