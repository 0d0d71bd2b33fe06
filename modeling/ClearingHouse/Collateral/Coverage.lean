import ClearingHouse.Collateral.Interleaving
import ClearingHouse.Settlement.Script

/-!
# Withdrawals and transfers alone

A withdrawal or a transfer that runs alone succeeds exactly when its amount is positive, its
accounts exist, the collateral covers it and the ledger can store it above zero.  The balance is
compared with the amount as it was passed; the ledger stores a rounded one, which the collateral
still covers, since balances have no more decimals than the column.
-/

namespace ClearingHouse

namespace Collateral

open DecimalRounding Fibers Transactions
open Settlement (FreshJournals accepted_of_balanced)
open Transaction (bind_eq_ok bind_of_error bind_of_ok)

/-- A withdrawal, or a transfer to a margin account. -/
def Operation.Draws : Operation → Prop
  | .deposit _ _ _ => False
  | .withdraw _ _ _ => True
  | .transfer _ _ marginType => marginType = .marginIm ∨ marginType = .marginVm

/-- The amount is not positive, an account is missing, the collateral does not cover the amount, or
the ledger would store it as zero. -/
def Operation.Refused (db : Database) (operation : Operation) : Prop :=
  operation.amount ≤ 0 ∨ operation.legs db = none ∨
    (∃ legs, operation.legs db = some legs ∧
      accountBalance db legs.credited < operation.amount) ∨
    decimalBackend.store operation.amount = some 0

/-- Run a function in a transaction of its own. -/
def runAlone {α : Type} (backend : Backend) (code : Sql α) : Session Database Failure α := do
  let value ← Session.execute (server backend) code
  Session.commit (server backend)
  pure value

/-- A call that runs alone raises, in one of its statements or at the commit. -/
def Operation.Raises (operation : Operation) (db : Database) : Prop :=
  ∃ failure, (runAlone decimalBackend (operation.code decimalBackend) (connect db)).1 =
    .error failure

/-- No ledger row is left by a call that raises: the committed database is the same, and the
exception came before the first insert or aborted the transaction. -/
structure Unwritten (operation : Operation) (db : Database) : Prop where
  committed :
    (runAlone decimalBackend (operation.code decimalBackend) (connect db)).2.committed = db
  stopped : (∃ failure, operation.check db = .error failure) ∨
    ∃ legs failure, operation.check db = .ok (legs, db) ∧
      operation.post decimalBackend legs db = .error failure ∧
      (server decimalBackend).aborts failure = true

/-- The stored amount left the collateral account, which covers it, for the other account of the
call, and no other balance changed. -/
structure Drawn (legs : Legs) (posted : ℚ) (db after : Database) : Prop where
  fell : accountBalance after legs.credited = accountBalance db legs.credited - posted
  covered : 0 ≤ accountBalance after legs.credited
  rose : accountBalance after legs.debited = accountBalance db legs.debited + posted
  others : ∀ id, id ≠ legs.credited → id ≠ legs.debited →
    accountBalance after id = accountBalance db id

variable {backend : Backend} {db after : Database} {legs : Legs} {operation : Operation}

/-- Accounts of different types have different identifiers. -/
theorem ids_ne {first second : Account} (known : first ∈ db.accounts)
    (there : second ∈ db.accounts) (unlike : first.accountType ≠ second.accountType) :
    first.id ≠ second.id := by
  intro same
  rw [List.inj_on_of_nodup_map db.accountIds_nodup known there same] at unlike
  exact unlike rfl

theorem takes_of_draws (draws : operation.Draws) : operation.takes = true := by
  cases operation with
  | deposit => exact draws.elim
  | withdraw | transfer => rfl

/-- The accounts of a call exist and are two. -/
theorem legs_known (draws : operation.Draws) (found : operation.legs db = some legs) :
    legs.credited ∈ db.accounts.map Account.id ∧ legs.debited ∈ db.accounts.map Account.id ∧
      legs.debited ≠ legs.credited := by
  cases operation with
  | deposit => exact draws.elim
  | withdraw memberId amount currency =>
      simp only [Operation.legs, Option.bind_eq_bind, Option.bind_eq_some_iff,
        Option.some.injEq] at found
      obtain ⟨memberAcct, member, ccpAcct, ccp, rfl⟩ := found
      obtain ⟨member_known, member_type, -⟩ := getAccount_eq_some member
      obtain ⟨ccp_known, ccp_type⟩ := getCcpAccount_eq_some ccp
      refine ⟨List.mem_map_of_mem member_known, List.mem_map_of_mem ccp_known, ?_⟩
      exact ids_ne ccp_known member_known (by rw [member_type, ccp_type]; decide)
  | transfer memberId amount marginType =>
      simp only [Operation.legs, Option.bind_eq_bind, Option.bind_eq_some_iff,
        Option.some.injEq] at found
      obtain ⟨collateralAcct, collateral, marginAcct, margin, rfl⟩ := found
      obtain ⟨collateral_known, collateral_type, -⟩ := getAccount_eq_some collateral
      obtain ⟨margin_known, margin_type, -⟩ := getAccount_eq_some margin
      refine ⟨List.mem_map_of_mem collateral_known, List.mem_map_of_mem margin_known, ?_⟩
      apply ids_ne margin_known collateral_known
      rw [collateral_type, margin_type]
      rcases draws with rfl | rfl <;> decide

section Inserts

variable {journalType : JournalType} {referenceType : String}
  {referenceId credited debited : Uuid} {amount posted : ℚ}

/-- The entries of a journal that moves an amount. -/
def movingEntries (legs : Legs) (posted : ℚ) (journalId : Uuid) : List JournalEntry :=
  [⟨journalId, legs.credited, 0, posted⟩, ⟨journalId, legs.debited, posted, 0⟩]

theorem creditThenDebit_of_stored (admits : journalType ∈ backend.journalTypes)
    (credited_known : legs.credited ∈ db.accounts.map Account.id)
    (debited_known : legs.debited ∈ db.accounts.map Account.id)
    (stored : backend.store amount = some posted) (positive : 0 < posted) :
    ∃ after, creditThenDebit backend journalType referenceType referenceId legs.credited
        legs.debited amount db = .ok (db.nextUuid, after) ∧
      after.journalEntries = db.journalEntries ++ movingEntries legs posted db.nextUuid := by
  refine ⟨_, bind_eq_ok.mpr ⟨_, _, rfl, bind_eq_ok.mpr ⟨(), _,
    insertJournal_eq_ok.mpr ⟨admits, rfl⟩, bind_eq_ok.mpr ⟨(), _,
      insertJournalEntry_eq_ok.mpr ⟨0, posted, backend.store_zero, stored, .inr ⟨rfl, positive⟩,
        by simp, credited_known, rfl⟩, bind_eq_ok.mpr ⟨(), _,
        insertJournalEntry_eq_ok.mpr ⟨posted, 0, stored, backend.store_zero, .inl ⟨positive, rfl⟩,
          by simp, debited_known, rfl⟩, rfl⟩⟩⟩⟩, ?_⟩
  simp [movingEntries]

/-- The first entry of an amount that is not stored above zero is rejected by the server. -/
theorem creditThenDebit_of_unstored (db : Database) (admits : journalType ∈ backend.journalTypes)
    (unstored : ∀ posted, backend.store amount = some posted → ¬0 < posted) :
    ∃ error, creditThenDebit backend journalType referenceType referenceId credited debited amount
      db = .error (.server error) := by
  have rejected : ∀ (journalId : Uuid) (state : Database), ∃ error,
      insertJournalEntry backend journalId credited 0 amount state = .error (.server error) := by
    intro journalId state
    rw [insertJournalEntry]
    rw [bind_of_ok (castNumeric_eq_ok.mpr ⟨backend.store_zero, rfl⟩)]
    cases stored : backend.store amount with
    | none => exact ⟨.numericValueOutOfRange, bind_of_error (by rw [castNumeric, stored]; rfl)⟩
    | some posted =>
        rw [bind_of_ok (castNumeric_eq_ok.mpr ⟨stored, rfl⟩)]
        have sided : ¬JournalEntry.OneSided ⟨journalId, credited, 0, posted⟩ := by
          rintro (⟨negative, -⟩ | ⟨-, positive⟩)
          · exact lt_irrefl 0 negative
          · exact unstored posted stored positive
        exact ⟨.checkViolation "journal_entries_check",
          bind_of_error (by rw [Transaction.require_apply, if_neg sided])⟩
  rw [creditThenDebit]
  rw [bind_of_ok (show uuid4 db = .ok (db.nextUuid, { db with nextUuid := db.nextUuid + 1 })
    from rfl), bind_of_ok (insertJournal_eq_ok.mpr ⟨admits, rfl⟩)]
  obtain ⟨error, raised⟩ := rejected db.nextUuid _
  exact ⟨error, bind_of_error raised⟩

end Inserts

/-- The journal type of a call. -/
def Operation.journalType : Operation → JournalType
  | .deposit _ _ _ | .transfer _ _ _ => .collateralDeposit
  | .withdraw _ _ _ => .collateralWithdrawal

theorem post_of_stored (draws : operation.Draws)
    (admits : operation.journalType ∈ backend.journalTypes)
    (found : operation.legs db = some legs) {posted : ℚ}
    (stored : backend.store operation.amount = some posted) (positive : 0 < posted) :
    ∃ receipt after, operation.post backend legs db = .ok (receipt, after) ∧
      after.journalEntries = db.journalEntries ++ movingEntries legs posted db.nextUuid := by
  obtain ⟨credited_known, debited_known, -⟩ := legs_known draws found
  cases operation with
  | deposit => exact draws.elim
  | withdraw memberId amount currency =>
      obtain ⟨moved, ran, entries⟩ := creditThenDebit_of_stored admits credited_known
        debited_known stored positive
      exact ⟨_, _, bind_eq_ok.mpr ⟨_, moved, ran, rfl⟩, entries⟩
  | transfer memberId amount marginType =>
      obtain ⟨moved, ran, entries⟩ := creditThenDebit_of_stored admits credited_known
        debited_known stored positive
      exact ⟨_, moved, bind_eq_ok.mpr ⟨_, moved, ran,
        bind_eq_ok.mpr ⟨(), moved, updatePostedMargin_apply .., rfl⟩⟩, entries⟩

theorem post_of_unstored (db : Database) (legs : Legs) (draws : operation.Draws)
    (admits : operation.journalType ∈ backend.journalTypes)
    (unstored : ∀ posted, backend.store operation.amount = some posted → ¬0 < posted) :
    ∃ error, operation.post backend legs db = .error (.server error) := by
  cases operation with
  | deposit => exact draws.elim
  | withdraw memberId amount currency =>
      obtain ⟨error, raised⟩ := creditThenDebit_of_unstored db admits unstored
      exact ⟨error, bind_of_error raised⟩
  | transfer memberId amount marginType =>
      obtain ⟨error, raised⟩ := creditThenDebit_of_unstored db admits unstored
      exact ⟨error, bind_of_error raised⟩

theorem runAlone_of_error {code : Sql Receipt} {failure : Failure}
    (raised : code db = .error failure) :
    (runAlone backend code (connect db)).1 = .error failure ∧
      (runAlone backend code (connect db)).2.committed = db := by
  obtain ⟨status, -, stopped⟩ := Session.execute_idleAt_error (server backend) [] raised
  rw [runAlone, Session.connect_eq_idleAt, Session.bind_of_error stopped]
  exact ⟨rfl, rfl⟩

theorem runAlone_of_ok {code : Sql Receipt} {receipt : Receipt}
    (ran : code db = .ok (receipt, after))
    (accepted : (server backend).deferred db after = .ok ()) :
    runAlone backend code (connect db) = (.ok receipt, Session.idleAt after [after]) := by
  rw [runAlone, Session.connect_eq_idleAt, Session.bind_of_ok (Session.execute_idleAt ran),
    Session.bind_of_ok (Session.commit_inTransaction accepted)]
  rfl

/-- A balance has no more decimals than the column. -/
theorem balance_mem_grid (columns : ∀ entry ∈ db.journalEntries, entry.Valid backend db.accounts)
    (accountId : Uuid) : accountBalance db accountId ∈ backend.grid := by
  apply list_sum_mem
  intro value member
  obtain ⟨entry, inside, rfl⟩ := List.mem_map.mp member
  have valid := columns entry (List.mem_of_mem_filter inside)
  exact sub_mem valid.debit valid.credit

/-- The conditions that the collateral and the column set. -/
structure Operation.Covers (operation : Operation) (db : Database) (legs : Legs) (posted : ℚ) :
    Prop where
  amount_pos : 0 < operation.amount
  found : operation.legs db = some legs
  enough : operation.amount ≤ accountBalance db legs.credited
  stored : decimalBackend.store operation.amount = some posted
  posted_pos : 0 < posted

theorem admits_journalType (operation : Operation) :
    operation.journalType ∈ decimalBackend.journalTypes := by
  cases operation <;> exact of_decide_eq_true rfl

/-- A call that is covered moves the stored amount. -/
theorem drawn_of_covers (draws : operation.Draws)
    (columns : ∀ entry ∈ db.journalEntries, entry.Valid decimalBackend db.accounts)
    (fresh : FreshJournals db) {posted : ℚ} (covers : operation.Covers db legs posted) :
    ∃ receipt after, runAlone decimalBackend (operation.code decimalBackend) (connect db) =
        (.ok receipt, Session.idleAt after [after]) ∧ Drawn legs posted db after := by
  have checked : operation.check db = .ok (legs, db) :=
    check_eq_ok.mpr ⟨covers.amount_pos, covers.found, fun _ => covers.enough, rfl⟩
  obtain ⟨receipt, after, ran, entries⟩ := post_of_stored draws (admits_journalType operation)
    covers.found covers.stored covers.posted_pos
  have accepted : (server decimalBackend).deferred db after = .ok () := by
    apply accepted_of_balanced fresh entries (by simp [movingEntries])
    intro entry member
    have same : entry.journalId = db.nextUuid := by
      simp only [movingEntries, List.mem_cons, List.not_mem_nil, or_false] at member
      rcases member with rfl | rfl <;> rfl
    refine ⟨posted, decimalBackend.store_stored covers.stored, ?_, ?_⟩ <;>
      simp [same, movingEntries, fiberSum_cons]
  have completes : operation.code decimalBackend db = .ok (receipt, after) := by
    rw [operation.code_eq, bind_of_ok checked]
    exact ran
  refine ⟨receipt, after, runAlone_of_ok completes accepted, ?_⟩
  obtain ⟨amount, amount_stored, -, posts⟩ := posts_post ran
  obtain rfl : posted = amount := Option.some.inj (covers.stored.symm.trans amount_stored)
  have apart := (legs_known draws covers.found).2.2
  have bounded := posted_le_of_check (takes_of_draws draws) checked (balance_mem_grid columns _)
    covers.stored
  constructor
  · rw [posts.balance, if_neg apart, if_pos rfl, add_zero]
  · rw [posts.balance, if_neg apart, if_pos rfl, add_zero]
    exact sub_nonneg.mpr bounded
  · rw [posts.balance, if_pos rfl, if_neg apart.symm, sub_zero]
  · intro id not_credited not_debited
    rw [posts.balance, if_neg not_debited.symm, if_neg not_credited.symm, add_zero, sub_zero]

/-- A call that is not covered raises, in a check or at its first entry. -/
theorem raises_of_not_covers (draws : operation.Draws)
    (uncovered : ∀ legs posted, ¬operation.Covers db legs posted) :
    operation.Raises db ∧ Unwritten operation db := by
  rw [Operation.Raises]
  cases checked : operation.check db with
  | error failure =>
      have raised : operation.code decimalBackend db = .error failure := by
        rw [operation.code_eq]
        exact bind_of_error checked
      obtain ⟨fails, committed⟩ := runAlone_of_error raised
      exact ⟨⟨failure, fails⟩, committed, .inl ⟨failure, checked⟩⟩
  | ok pair =>
      obtain ⟨legs, seen⟩ := pair
      obtain ⟨positive, found, enough, rfl⟩ := check_eq_ok.mp checked
      obtain ⟨error, stopped⟩ := post_of_unstored db legs draws
        (admits_journalType operation) fun posted stored above =>
          uncovered legs posted
            ⟨positive, found, enough (takes_of_draws draws), stored, above⟩
      have raised : operation.code decimalBackend db = .error (.server error) := by
        rw [operation.code_eq, bind_of_ok checked]
        exact stopped
      obtain ⟨fails, committed⟩ := runAlone_of_error raised
      exact ⟨⟨_, fails⟩, committed, .inr ⟨legs, _, checked, stopped, rfl⟩⟩

theorem stored_nonneg {amount posted : ℚ} (stored : decimalBackend.store amount = some posted)
    (amount_nonneg : 0 ≤ amount) : 0 ≤ posted := by
  rw [(toFixed_eq_some stored).1,
    ← toUnit_of_mem_fixedGrid halfAway_nearest (zero_mem (fixedGrid 8))]
  exact toUnit_mono halfAway_nearest (by norm_num) amount_nonneg

/-- The conditions fail exactly in the cases of a refusal, and when the column overflows. -/
theorem not_covers_iff : (∀ legs posted, ¬operation.Covers db legs posted) ↔
    operation.Refused db ∨ decimalBackend.store operation.amount = none := by
  constructor
  · intro uncovered
    by_cases positive : 0 < operation.amount
    · cases found : operation.legs db with
      | none => exact .inl (.inr (.inl found))
      | some legs =>
          by_cases enough : operation.amount ≤ accountBalance db legs.credited
          · cases stored : decimalBackend.store operation.amount with
            | none => exact .inr rfl
            | some posted =>
                have not_pos : ¬0 < posted := fun above =>
                  uncovered legs posted ⟨positive, found, enough, stored, above⟩
                obtain rfl := (not_lt.mp not_pos).antisymm (stored_nonneg stored positive.le)
                exact .inl (.inr (.inr (.inr stored)))
          · exact .inl (.inr (.inr (.inl ⟨legs, found, not_le.mp enough⟩)))
    · exact .inl (.inl (not_lt.mp positive))
  · rintro ((negative | missing | ⟨legs, found, short⟩ | zero) | overflows) other posted covers
    · exact covers.amount_pos.not_ge negative
    · cases missing.symm.trans covers.found
    · obtain rfl : legs = other := Option.some.inj (found.symm.trans covers.found)
      exact short.not_ge covers.enough
    · exact covers.posted_pos.ne (Option.some.inj (zero.symm.trans covers.stored))
    · cases overflows.symm.trans covers.stored

/-- A withdrawal or a transfer alone raises exactly when it is refused or its amount does not fit
the column; it then leaves no row, and otherwise it moves the stored amount, which the collateral
covers. -/
theorem drawing_exact (draws : operation.Draws)
    (columns : ∀ entry ∈ db.journalEntries, entry.Valid decimalBackend db.accounts)
    (fresh : FreshJournals db) :
    (operation.Raises db ↔
      operation.Refused db ∨ decimalBackend.store operation.amount = none) ∧
    (operation.Raises db → Unwritten operation db) ∧
    ∀ receipt connection,
      runAlone decimalBackend (operation.code decimalBackend) (connect db) =
          (.ok receipt, connection) →
        ∃ legs posted, operation.legs db = some legs ∧
          decimalBackend.store operation.amount = some posted ∧
          Drawn legs posted db connection.committed := by
  by_cases covered : ∃ legs posted, operation.Covers db legs posted
  · obtain ⟨legs, posted, covers⟩ := covered
    obtain ⟨receipt, after, ran, drawn⟩ := drawn_of_covers draws columns fresh covers
    have returns : ¬operation.Raises db := by
      rintro ⟨failure, raised⟩
      rw [ran] at raised
      cases raised
    refine ⟨iff_of_false returns fun refused => ?_, fun raises => absurd raises returns, ?_⟩
    · exact not_covers_iff.mpr refused legs posted covers
    · intro other connection ran'
      cases ran.symm.trans ran'
      exact ⟨legs, posted, covers.found, covers.stored, drawn⟩
  · have uncovered : ∀ legs posted, ¬operation.Covers db legs posted :=
      fun legs posted covers => covered ⟨legs, posted, covers⟩
    obtain ⟨raises, unwritten⟩ := raises_of_not_covers draws uncovered
    refine ⟨iff_of_true raises (not_covers_iff.mp uncovered), fun _ => unwritten, ?_⟩
    intro receipt connection ran
    obtain ⟨failure, raised⟩ := raises
    rw [ran] at raised
    cases raised

/-- The withdrawal of 80. -/
def withdrawEighty : Operation := withdrawal 80

private theorem legs_depositedHouse : withdrawEighty.legs depositedHouse = some ⟨2, 3⟩ := by
  decide +kernel

/-- Eighty can be withdrawn from a hundred. -/
theorem drawing_exact_depositedHouse : ¬withdrawEighty.Raises depositedHouse := by
  have columns : ∀ entry ∈ depositedHouse.journalEntries,
      entry.Valid decimalBackend depositedHouse.accounts := by
    intro entry member
    simp only [depositedHouse, List.mem_cons, List.not_mem_nil, or_false] at member
    have hundred : (100 : ℚ) ∈ fixedGrid 8 := mem_fixedGrid.mpr ⟨100 * 10 ^ 8, by norm_num⟩
    rcases member with rfl | rfl
    · exact ⟨.inl ⟨by norm_num, rfl⟩, hundred, zero_mem _, by decide⟩
    · exact ⟨.inr ⟨rfl, by norm_num⟩, zero_mem _, hundred, by decide⟩
  have fresh : FreshJournals depositedHouse := by
    rw [FreshJournals]
    decide +kernel
  rw [(drawing_exact (by trivial) columns fresh).1]
  have stored : decimalBackend.store 80 = some 80 := by decide +kernel
  have balance : accountBalance depositedHouse 2 = 100 := by decide +kernel
  rintro ((negative | missing | ⟨legs, found, short⟩ | zero) | overflows)
  · exact absurd negative (by norm_num [withdrawEighty, withdrawal, Operation.amount])
  · cases missing.symm.trans legs_depositedHouse
  · obtain rfl := Option.some.inj (legs_depositedHouse.symm.trans found)
    rw [balance] at short
    norm_num [withdrawEighty, withdrawal, Operation.amount] at short
  · exact absurd (Option.some.inj (stored.symm.trans zero)) (by norm_num)
  · cases stored.symm.trans overflows

/-- A house whose member has deposited nine times 10 to the 19, twice. -/
def vastHouse : Database :=
  { Database.opening [⟨0, ccpLei, .active, 0⟩, ⟨1, "LEI1", .active, 0⟩] []
      [⟨2, 1, .collateral, "USD", .available⟩, ⟨3, 0, .settlement, "USD", .available⟩] 20
      Database.nodup_ccpAndMember depositedHouse.accountIds_nodup
        depositedHouse.accountKeys_nodup with
    journals := [⟨4, .collateralDeposit, "member", some 1, .confirmed⟩,
      ⟨5, .collateralDeposit, "member", some 1, .confirmed⟩]
    journalEntries := [⟨4, 2, 9 * 10 ^ 19, 0⟩, ⟨4, 3, 0, 9 * 10 ^ 19⟩, ⟨5, 2, 9 * 10 ^ 19, 0⟩,
      ⟨5, 3, 0, 9 * 10 ^ 19⟩] }

/-- The withdrawal of an amount that no column holds. -/
def withdrawVast : Operation := .withdraw 1 (10 ^ 20) "USD"

/-- The withdrawal raises although the balance covers it and it does not round to zero. -/
theorem raises_vastHouse :
    (∀ entry ∈ vastHouse.journalEntries, entry.Valid decimalBackend vastHouse.accounts) ∧
    FreshJournals vastHouse ∧ withdrawVast.Draws ∧ withdrawVast.Raises vastHouse ∧
    ¬withdrawVast.Refused vastHouse := by
  have draws : withdrawVast.Draws := trivial
  have overflows : decimalBackend.store withdrawVast.amount = none := by decide +kernel
  have fresh : FreshJournals vastHouse := by
    rw [FreshJournals]
    decide +kernel
  have legs_eq : withdrawVast.legs vastHouse = some ⟨2, 3⟩ := by decide +kernel
  have balance : accountBalance vastHouse 2 = 18 * 10 ^ 19 := by decide +kernel
  refine ⟨fun entry member => ?_, fresh, draws, ?_, ?_⟩
  · simp only [vastHouse, List.mem_cons, List.not_mem_nil, or_false] at member
    have large : (9 * 10 ^ 19 : ℚ) ∈ fixedGrid 8 :=
      mem_fixedGrid.mpr ⟨9 * 10 ^ 19 * 10 ^ 8, by norm_num⟩
    rcases member with rfl | rfl | rfl | rfl
    · exact ⟨.inl ⟨by norm_num, rfl⟩, large, zero_mem _, by decide⟩
    · exact ⟨.inr ⟨rfl, by norm_num⟩, zero_mem _, large, by decide⟩
    · exact ⟨.inl ⟨by norm_num, rfl⟩, large, zero_mem _, by decide⟩
    · exact ⟨.inr ⟨rfl, by norm_num⟩, zero_mem _, large, by decide⟩
  · exact (raises_of_not_covers draws (not_covers_iff.mpr (.inr overflows))).1
  · rintro (negative | missing | ⟨legs, found, short⟩ | zero)
    · exact absurd negative (by norm_num [withdrawVast, Operation.amount])
    · cases missing.symm.trans legs_eq
    · obtain rfl := Option.some.inj (legs_eq.symm.trans found)
      rw [balance] at short
      norm_num [withdrawVast, Operation.amount] at short
    · cases overflows.symm.trans zero

end Collateral

end ClearingHouse
