import ClearingHouse.Waterfall.Execute

/-!
# Postings of the waterfall

A posting moves an amount from one account of a member to the settlement account of the house.
The journals of the waterfall have exactly the effect of a list of postings on the balances, and
they succeed exactly when the amounts survive storage.
-/

namespace ClearingHouse

namespace Waterfall

open Fibers Transactions
open Transaction (bind_eq_ok)

/-- An amount taken from an available account of a member. -/
structure Posting where
  memberId : Uuid
  sourceType : AccountType
  amount : ℚ
  deriving DecidableEq, Repr

/-- The account that collects what the waterfall recovers. -/
def recoveryAccount (db : Database) : Option Account :=
  (findCcp db).bind fun ccp => findAccount db ccp.id .settlement .available

/-- The account a posting draws on. -/
def Posting.account (db : Database) (posting : Posting) : Option Account :=
  findAccount db posting.memberId posting.sourceType .available

/-- The amount as it is stored. -/
def Posting.stored (backend : Backend) (posting : Posting) : ℚ :=
  (backend.store posting.amount).getD 0

@[simp] theorem stored_exactBackend (posting : Posting) :
    posting.stored exactBackend = posting.amount := rfl

/-- An amount on one account and nothing on the others. -/
def onAccount (account : Option Account) (amount : ℚ) (accountId : Uuid) : ℚ :=
  if account.map Account.id = some accountId then amount else 0

/-- Change of a balance by a posting. -/
def Posting.effect (backend : Backend) (db : Database) (accountId : Uuid) (posting : Posting) : ℚ :=
  onAccount (recoveryAccount db) (posting.stored backend) accountId -
    onAccount (posting.account db) (posting.stored backend) accountId

/-- The amount of a posting survives storage wherever an entry carries it. -/
def Postable (backend : Backend) (db : Database) (posting : Posting) : Prop :=
  (posting.account db).isSome ∨ (recoveryAccount db).isSome →
    ∃ stored, backend.store posting.amount = some stored ∧ 0 < stored

/-- A step left members and accounts alone and changed the balances by a list of postings. -/
structure Posted (backend : Backend) (postings : List Posting) (db after : Database) : Prop where
  members : after.members = db.members
  accounts : after.accounts = db.accounts
  balances : ∀ accountId, accountBalance after accountId =
    accountBalance db accountId + (postings.map (Posting.effect backend db accountId)).sum

section Lookups

variable {db after : Database}

theorem findAccount_congr (accounts : after.accounts = db.accounts) (memberId : Uuid)
    (accountType : AccountType) (pool : Pool) :
    findAccount after memberId accountType pool = findAccount db memberId accountType pool := by
  rw [findAccount, findAccount, accounts]

theorem findAccount_mem {memberId : Uuid} {accountType : AccountType} {pool : Pool}
    {account : Account} (found : findAccount db memberId accountType pool = some account) :
    account ∈ db.accounts := List.mem_of_find?_eq_some found

theorem findAccount_spec {memberId : Uuid} {accountType : AccountType} {pool : Pool}
    {account : Account} (found : findAccount db memberId accountType pool = some account) :
    account.memberId = memberId ∧ account.accountType = accountType ∧ account.pool = pool := by
  simpa using List.find?_some found

end Lookups

namespace Posted

variable {backend : Backend} {db middle after : Database} {postings later : List Posting}

theorem of_entries (members : after.members = db.members) (accounts : after.accounts = db.accounts)
    (entries : after.journalEntries = db.journalEntries) : Posted backend [] db after :=
  ⟨members, accounts, fun accountId => by simp [accountBalance, entries]⟩

theorem recoveryAccount_eq (posted : Posted backend postings db after) :
    recoveryAccount after = recoveryAccount db := by
  simp only [recoveryAccount, findCcp, findAccount, posted.members, posted.accounts]

theorem account_eq (posted : Posted backend postings db after) (posting : Posting) :
    posting.account after = posting.account db := findAccount_congr posted.accounts _ _ _

theorem effect_eq (posted : Posted backend postings db after) (accountId : Uuid)
    (posting : Posting) :
    posting.effect backend after accountId = posting.effect backend db accountId := by
  rw [Posting.effect, Posting.effect, posted.recoveryAccount_eq, posted.account_eq]

theorem postable_iff (posted : Posted backend postings db after) (posting : Posting) :
    Postable backend after posting ↔ Postable backend db posting := by
  rw [Postable, Postable, posted.recoveryAccount_eq, posted.account_eq]

theorem trans (first : Posted backend postings db middle)
    (second : Posted backend later middle after) :
    Posted backend (postings ++ later) db after := by
  refine ⟨second.members.trans first.members, second.accounts.trans first.accounts, ?_⟩
  intro accountId
  have moved : later.map (Posting.effect backend middle accountId) =
      later.map (Posting.effect backend db accountId) :=
    List.map_congr_left fun posting _ => first.effect_eq accountId posting
  rw [second.balances, first.balances, moved, List.map_append, List.sum_append, add_assoc]

/-- Nothing happens to an account that is not the recovery account and is not drawn on. -/
theorem balance_eq (posted : Posted backend postings db after) {account : Account}
    (inside : account ∈ db.accounts) (not_settlement : account.accountType ≠ .settlement)
    (not_drawn : ∀ posting ∈ postings, posting.sourceType = account.accountType →
      posting.memberId ≠ account.memberId) :
    accountBalance after account.id = accountBalance db account.id := by
  have same_of_id : ∀ other ∈ db.accounts, other.id = account.id → other = account :=
    fun other there same => List.inj_on_of_nodup_map db.accountIds_nodup there inside same
  have untouched : ∀ posting ∈ postings, posting.effect backend db account.id = 0 := by
    intro posting member
    have not_recovery : (recoveryAccount db).map Account.id ≠ some account.id := by
      intro hit
      obtain ⟨other, found, same⟩ := Option.map_eq_some_iff.mp hit
      obtain ⟨ccp, -, found⟩ := Option.bind_eq_some_iff.mp found
      have type := (findAccount_spec found).2.1
      rw [same_of_id other (findAccount_mem found) same] at type
      exact not_settlement type
    have not_source : (posting.account db).map Account.id ≠ some account.id := by
      intro hit
      obtain ⟨other, found, same⟩ := Option.map_eq_some_iff.mp hit
      obtain ⟨owner, type, -⟩ := findAccount_spec found
      rw [same_of_id other (findAccount_mem found) same] at owner type
      exact not_drawn posting member type.symm owner.symm
    rw [Posting.effect, onAccount, onAccount, if_neg not_recovery, if_neg not_source, sub_zero]
  rw [posted.balances, List.sum_eq_zero (by simpa using untouched), add_zero]

end Posted

theorem sum_onAccount {db : Database} {account : Option Account}
    (inside : ∀ row ∈ account, row ∈ db.accounts) (amount : ℚ) :
    (db.accounts.map fun row => onAccount account amount row.id).sum =
      if account.isSome then amount else 0 := by
  cases account with
  | none => simp [onAccount]
  | some row =>
      have single := sum_map_single db.accountIds_nodup
        (List.mem_map_of_mem (f := Account.id) (inside row rfl)) amount
      simpa [onAccount, List.map_map, Function.comp_def] using single

theorem recoveryAccount_mem {db : Database} {account : Account}
    (found : recoveryAccount db = some account) : account ∈ db.accounts := by
  obtain ⟨ccp, -, found⟩ := Option.bind_eq_some_iff.mp found
  exact findAccount_mem found

/-- A posting moves its amount between accounts, as far as they exist. -/
theorem sum_effect (backend : Backend) (db : Database) (posting : Posting) :
    (db.accounts.map fun row => posting.effect backend db row.id).sum =
      (if (recoveryAccount db).isSome then posting.stored backend else 0) -
        if (posting.account db).isSome then posting.stored backend else 0 := by
  have separated : (db.accounts.map fun row => posting.effect backend db row.id).sum +
      (db.accounts.map fun row =>
        onAccount (posting.account db) (posting.stored backend) row.id).sum =
      (db.accounts.map fun row =>
        onAccount (recoveryAccount db) (posting.stored backend) row.id).sum := by
    rw [← List.sum_map_add]
    simp only [Posting.effect, sub_add_cancel]
  have source_known : ∀ row ∈ posting.account db, row ∈ db.accounts :=
    fun row found => findAccount_mem found
  rw [sum_onAccount source_known, sum_onAccount fun row found => recoveryAccount_mem found]
    at separated
  linarith

private theorem whenFound_insert_eq_ok {backend : Backend} {account : Option Account}
    {journalId : Uuid} {debit credit : ℚ} {db after : Database}
    (known : ∀ row ∈ account, row.id ∈ db.accounts.map Account.id)
    (opened : journalId ∈ db.journals.map Journal.id) :
    whenFound account (fun row => insertJournalEntry backend journalId row.id debit credit) db =
        .ok ((), after) ↔
      (account.isSome → ∃ storedDebit storedCredit, backend.store debit = some storedDebit ∧
        backend.store credit = some storedCredit ∧
          ((0 < storedDebit ∧ storedCredit = 0) ∨ (storedDebit = 0 ∧ 0 < storedCredit))) ∧
      after =
        { db with
          journalEntries := db.journalEntries ++ account.toList.map fun row =>
            ⟨journalId, row.id, (backend.store debit).getD 0,
              (backend.store credit).getD 0⟩ } := by
  cases account with
  | none =>
      simp only [whenFound, Transaction.pure_apply, Option.isSome_none, Bool.false_eq_true,
        false_implies, true_and, Except.ok.injEq, Prod.mk.injEq, Option.toList_none, List.map_nil,
        List.append_nil]
      exact eq_comm
  | some row =>
      rw [whenFound, insertJournalEntry_eq_ok]
      have there := known row rfl
      constructor
      · rintro ⟨storedDebit, storedCredit, debited, credited, oneSided, -, -, rfl⟩
        exact ⟨fun _ => ⟨storedDebit, storedCredit, debited, credited, oneSided⟩,
          by simp [debited, credited]⟩
      · rintro ⟨storable, rfl⟩
        obtain ⟨storedDebit, storedCredit, debited, credited, oneSided⟩ := storable rfl
        exact ⟨storedDebit, storedCredit, debited, credited, oneSided, opened, there,
          by simp [debited, credited]⟩

private theorem fiberSum_toList (account : Option Account) (journalId : Uuid) (debit credit : ℚ)
    (accountId : Uuid) :
    fiberSum JournalEntry.accountId (fun entry => entry.debit - entry.credit)
      (account.toList.map fun row => ⟨journalId, row.id, debit, credit⟩) accountId =
      onAccount account (debit - credit) accountId := by
  cases account with
  | none => simp [onAccount]
  | some row => simp [onAccount, fiberSum_cons]

variable {backend : Backend}

/-- The entry that draws on the source account. -/
def sourceEntries (backend : Backend) (db : Database) (journalId : Uuid)
    (posting : Posting) : List JournalEntry :=
  (posting.account db).toList.map fun row =>
    ⟨journalId, row.id, (backend.store 0).getD 0, (backend.store posting.amount).getD 0⟩

/-- The entry that collects on the recovery account. -/
def recoveryEntries (backend : Backend) (db : Database) (journalId : Uuid)
    (posting : Posting) : List JournalEntry :=
  (recoveryAccount db).toList.map fun row =>
    ⟨journalId, row.id, (backend.store posting.amount).getD 0, (backend.store 0).getD 0⟩

private theorem posted_of_entries {posting : Posting} {journalId : Uuid} {db after : Database}
    (members : after.members = db.members) (accounts : after.accounts = db.accounts)
    (entries : after.journalEntries =
      db.journalEntries ++ sourceEntries backend db journalId posting ++
        recoveryEntries backend db journalId posting) :
    Posted backend [posting] db after := by
  refine ⟨members, accounts, fun accountId => ?_⟩
  rw [accountBalance, entries, sourceEntries, recoveryEntries, fiberSum_append, fiberSum_append,
    fiberSum_toList, fiberSum_toList, backend.store_zero, List.map_singleton,
    List.sum_singleton, Posting.effect, accountBalance]
  simp only [Posting.stored, onAccount, Option.getD_some]
  grind

private theorem credited_iff {amount : ℚ} :
    (∃ storedDebit storedCredit, backend.store 0 = some storedDebit ∧
      backend.store amount = some storedCredit ∧
        ((0 < storedDebit ∧ storedCredit = 0) ∨ (storedDebit = 0 ∧ 0 < storedCredit))) ↔
      ∃ stored, backend.store amount = some stored ∧ 0 < stored := by
  simp [backend.store_zero]

private theorem debited_iff {amount : ℚ} :
    (∃ storedDebit storedCredit, backend.store amount = some storedDebit ∧
      backend.store 0 = some storedCredit ∧
        ((0 < storedDebit ∧ storedCredit = 0) ∨ (storedDebit = 0 ∧ 0 < storedCredit))) ↔
      ∃ stored, backend.store amount = some stored ∧ 0 < stored := by
  simp [backend.store_zero]

private theorem account_known {db : Database} {account : Account}
    (inside : account ∈ db.accounts) : account.id ∈ db.accounts.map Account.id :=
  List.mem_map_of_mem inside

/-- What a waterfall journal does before its event: open the journal and post its entries. -/
def postedState (backend : Backend) (db : Database) (eventId : Uuid) (posting : Posting) :
    Database :=
  { db with
    nextUuid := db.nextUuid + 1
    journals := db.journals ++
      [⟨db.nextUuid, .defaultWaterfallStep, "default_event", some eventId, .confirmed⟩]
    journalEntries := db.journalEntries ++ sourceEntries backend db db.nextUuid posting ++
      recoveryEntries backend db db.nextUuid posting }

theorem createWaterfallJournal_eq_ok {eventId journalId : Uuid} {posting : Posting}
    {db after : Database} :
    createWaterfallJournal backend eventId posting.memberId posting.amount posting.sourceType db =
        .ok (journalId, after) ↔
      JournalType.defaultWaterfallStep ∈ backend.journalTypes ∧ Postable backend db posting ∧
        (do
          let _ ← insertOutboxEvent "default_event" eventId "waterfall.step.executed"
            "waterfall.step.executed"
            [("default_event_id", .uuid eventId), ("member_id", .uuid posting.memberId),
              ("amount", .decimal posting.amount),
              ("source", .literal posting.sourceType.value), ("journal_id", .uuid db.nextUuid)]
            none
          pure db.nextUuid : Sql Uuid) (postedState backend db eventId posting) =
          .ok (journalId, after) := by
  have source_known : ∀ row ∈ posting.account db, row.id ∈ db.accounts.map Account.id :=
    fun row found => account_known (findAccount_mem found)
  have recovery_known : ∀ row ∈ recoveryAccount db, row.id ∈ db.accounts.map Account.id :=
    fun row found => account_known (recoveryAccount_mem found)
  constructor
  · intro ran
    obtain ⟨_, _, ⟨⟩, ran⟩ := bind_eq_ok.mp ran
    obtain ⟨_, _, ⟨⟩, ran⟩ := bind_eq_ok.mp ran
    obtain ⟨_, _, opening, ran⟩ := bind_eq_ok.mp ran
    obtain ⟨admits, rfl⟩ := insertJournal_eq_ok.mp opening
    obtain ⟨_, _, crediting, ran⟩ := bind_eq_ok.mp ran
    obtain ⟨source_ok, rfl⟩ :=
      (whenFound_insert_eq_ok (by exact source_known) (by simp)).mp crediting
    obtain ⟨_, _, debiting, ran⟩ := bind_eq_ok.mp ran
    obtain ⟨recovery_ok, rfl⟩ :=
      (whenFound_insert_eq_ok (by exact recovery_known) (by simp)).mp debiting
    refine ⟨admits, ?_, ran⟩
    rintro (present | present)
    · exact credited_iff.mp (source_ok present)
    · exact debited_iff.mp (recovery_ok present)
  · rintro ⟨admits, postable, announced⟩
    refine bind_eq_ok.mpr ⟨_, _, rfl, bind_eq_ok.mpr ⟨_, _, rfl, bind_eq_ok.mpr ⟨(), _,
      insertJournal_eq_ok.mpr ⟨admits, rfl⟩, bind_eq_ok.mpr ⟨(), _,
        (whenFound_insert_eq_ok (by exact source_known) (by simp)).mpr ⟨?_, rfl⟩,
        bind_eq_ok.mpr ⟨(), _,
          (whenFound_insert_eq_ok (by exact recovery_known) (by simp)).mpr ⟨?_, rfl⟩, announced⟩⟩⟩⟩⟩
    · exact fun present => credited_iff.mpr (postable (.inl present))
    · exact fun present => debited_iff.mpr (postable (.inr present))

/-- A journal of the waterfall that runs has the effect of its posting, which survived storage. -/
theorem createWaterfallJournal_posted {eventId journalId : Uuid} (posting : Posting)
    {db after : Database}
    (ran : createWaterfallJournal backend eventId posting.memberId posting.amount
      posting.sourceType db = .ok (journalId, after)) :
    Posted backend [posting] db after ∧ Postable backend db posting := by
  obtain ⟨-, postable, announced⟩ := createWaterfallJournal_eq_ok.mp ran
  obtain ⟨_, middle, sent, ⟨⟩⟩ := bind_eq_ok.mp announced
  cases sent
  exact ⟨posted_of_entries rfl rfl rfl, postable⟩

/-- A posting that survives storage is posted. -/
theorem createWaterfallJournal_succeeds (admits : JournalType.defaultWaterfallStep ∈
    backend.journalTypes) (eventId : Uuid) (posting : Posting) {db : Database}
    (postable : Postable backend db posting) :
    ∃ journalId after, createWaterfallJournal backend eventId posting.memberId posting.amount
      posting.sourceType db = .ok (journalId, after) :=
  ⟨_, _, createWaterfallJournal_eq_ok.mpr ⟨admits, postable, rfl⟩⟩

end Waterfall

end ClearingHouse
