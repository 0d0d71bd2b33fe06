import ClearingHouse.Ledger.Growth
import ClearingHouse.Library.StepSystem

/-!
# Concurrent collateral operations

Deposits, withdrawals and transfers as transactions that run side by side.  A transaction reads the
balance once, before its inserts, and nothing holds the balance until it commits.
-/

namespace ClearingHouse

namespace Collateral

open Fibers StepSystem Transactions
open Transaction (Respects bind_eq_ok respects_bind respects_pure respects_read respects_write)

/-- A call of one of the operations. -/
inductive Operation
  | deposit (memberId : Uuid) (amount : ℚ) (currency : String)
  | withdraw (memberId : Uuid) (amount : ℚ) (currency : String)
  | transfer (memberId : Uuid) (amount : ℚ) (marginType : AccountType)

/-- The function that is called. -/
def Operation.code (backend : Backend) : Operation → Sql Receipt
  | .deposit memberId amount currency => depositCollateral backend memberId amount currency
  | .withdraw memberId amount currency => withdrawCollateral backend memberId amount currency
  | .transfer memberId amount marginType => transferToMargin backend memberId amount marginType

def Operation.amount : Operation → ℚ
  | .deposit _ amount _ | .withdraw _ amount _ | .transfer _ amount _ => amount

/-- The operation takes its amount from a collateral account. -/
def Operation.takes : Operation → Bool
  | .deposit _ _ _ => false
  | .withdraw _ _ _ | .transfer _ _ _ => true

/-- The accounts of a posting. -/
structure Legs where
  credited : Uuid
  debited : Uuid
  deriving DecidableEq, Repr

/-- The queries of a call and its own checks, up to the first insert. -/
def Operation.check : Operation → Sql Legs
  | .deposit memberId amount currency => do
      require (0 < amount)
        (.raised .validationError [.literal "Deposit amount must be positive"])
      let db ← read
      let missing : Text := [.literal "Accounts not found for member ", .uuid memberId]
      let memberAcct ← orInvalid (getAccount db memberId .collateral .available currency) missing
      let ccpAcct ← orInvalid (getCcpAccount db .settlement .available currency) missing
      pure ⟨ccpAcct.id, memberAcct.id⟩
  | .withdraw memberId amount currency => do
      require (0 < amount)
        (.raised .validationError [.literal "Withdrawal amount must be positive"])
      let db ← read
      let memberAcct ← orInvalid (getAccount db memberId .collateral .available currency)
        [.literal "Collateral account not found for member ", .uuid memberId]
      let balance := accountBalance db memberAcct.id
      require (amount ≤ balance)
        (.raised .insufficientMarginError
          [.literal "Insufficient collateral: available=", .decimal balance,
            .literal ", requested=", .decimal amount])
      let ccpAcct ← orInvalid (getCcpAccount db .settlement .available currency)
        [.literal "CCP settlement account not found"]
      pure ⟨memberAcct.id, ccpAcct.id⟩
  | .transfer memberId amount marginType => do
      require (0 < amount)
        (.raised .validationError [.literal "Transfer amount must be positive"])
      let db ← read
      let missing : Text := [.literal "Accounts not found for member ", .uuid memberId]
      let collateralAcct ← orInvalid (getAccount db memberId .collateral .available "USD") missing
      let marginAcct ← orInvalid (getAccount db memberId marginType .available "USD") missing
      require (amount ≤ accountBalance db collateralAcct.id)
        (.raised .insufficientMarginError
          [.literal "Insufficient collateral for margin transfer"])
      pure ⟨collateralAcct.id, marginAcct.id⟩

/-- The accounts that a call needs. -/
def Operation.legs (db : Database) : Operation → Option Legs
  | .deposit memberId _ currency => do
      let memberAcct ← getAccount db memberId .collateral .available currency
      let ccpAcct ← getCcpAccount db .settlement .available currency
      some ⟨ccpAcct.id, memberAcct.id⟩
  | .withdraw memberId _ currency => do
      let memberAcct ← getAccount db memberId .collateral .available currency
      let ccpAcct ← getCcpAccount db .settlement .available currency
      some ⟨memberAcct.id, ccpAcct.id⟩
  | .transfer memberId _ marginType => do
      let collateralAcct ← getAccount db memberId .collateral .available "USD"
      let marginAcct ← getAccount db memberId marginType .available "USD"
      some ⟨collateralAcct.id, marginAcct.id⟩

/-- The statements of a call from its first insert on. -/
def Operation.post (backend : Backend) (legs : Legs) : Operation → Sql Receipt
  | .deposit memberId amount currency => do
      let journalId ← debitThenCredit backend .collateralDeposit "member" memberId legs.debited
        legs.credited amount
      announce "collateral.deposited" memberId amount currency journalId
      pure { journalId, memberId, amount }
  | .withdraw memberId amount currency => do
      let journalId ← creditThenDebit backend .collateralWithdrawal "member" memberId legs.credited
        legs.debited amount
      announce "collateral.withdrawn" memberId amount currency journalId
      pure { journalId, memberId, amount }
  | .transfer memberId amount marginType => do
      let journalId ← creditThenDebit backend .collateralDeposit "margin_call" memberId
        legs.credited legs.debited amount
      updatePostedMargin backend memberId marginType amount
      pure { journalId, memberId, amount }

/-- Undisturbed, a call runs its queries and then its other statements. -/
theorem Operation.code_eq (backend : Backend) (operation : Operation) :
    operation.code backend = operation.check >>= fun legs => operation.post backend legs := by
  cases operation with
  | deposit memberId amount currency =>
      simp [code, check, post, depositCollateral, bind_assoc]
  | withdraw memberId amount currency =>
      simp [code, check, post, withdrawCollateral, bind_assoc]
  | transfer memberId amount marginType =>
      simp [code, check, post, transferToMargin, bind_assoc]

/-- How far a call has come: nothing is read yet, or its checks have passed. -/
inductive Stage
  | begun
  | checked (legs : Legs)
  deriving DecidableEq, Repr

/-- A call whose transaction is open. -/
structure Call where
  operation : Operation
  stage : Stage

/-- The committed database and the open calls. -/
structure Vault where
  committed : Database
  calls : List Call

/-- What happens next.  A call is numbered by its position. -/
inductive VaultLabel
  | begin
  | check (position : ℕ)
  | commit (position : ℕ)
  | stop (position : ℕ)

/-- One step of a call at READ COMMITTED.  Nobody sees its inserts before its commit, so they are
taken together with it; the account rows that its queries find are never written. -/
inductive VaultStep (backend : Backend) : Vault → VaultLabel → Vault → Prop
  | begin {vault : Vault} (operation : Operation) :
      VaultStep backend vault .begin
        { vault with calls := vault.calls ++ [⟨operation, .begun⟩] }
  | check {vault : Vault} (front back : List Call) {operation : Operation} {legs : Legs}
      {seen : Database} (calls : vault.calls = front ++ ⟨operation, .begun⟩ :: back)
      (ran : operation.check vault.committed = .ok (legs, seen)) :
      VaultStep backend vault (.check front.length)
        { vault with calls := front ++ ⟨operation, .checked legs⟩ :: back }
  | commit {vault : Vault} (front back : List Call) {operation : Operation} {legs : Legs}
      {receipt : Receipt} {after : Database}
      (calls : vault.calls = front ++ ⟨operation, .checked legs⟩ :: back)
      (ran : operation.post backend legs vault.committed = .ok (receipt, after))
      (accepted : (server backend).deferred vault.committed after = .ok ()) :
      VaultStep backend vault (.commit front.length)
        { committed := after, calls := front ++ back }
  /-- A check or a statement raises, or the connection is lost. -/
  | stop {vault : Vault} (front back : List Call) {call : Call}
      (calls : vault.calls = front ++ call :: back) :
      VaultStep backend vault (.stop front.length) { vault with calls := front ++ back }

variable {backend : Backend} {db middle after : Database} {legs : Legs} {posted : ℚ}

/-- Entries and accounts are the same. -/
def SameLedger (db after : Database) : Prop :=
  after.journalEntries = db.journalEntries ∧ after.accounts = db.accounts

instance : Std.Refl SameLedger := ⟨fun _ => ⟨rfl, rfl⟩⟩

instance : IsTrans Database SameLedger :=
  ⟨fun _ _ _ first second => ⟨second.1.trans first.1, second.2.trans first.2⟩⟩

/-- An amount moves from one account to another. -/
structure Posts (legs : Legs) (posted : ℚ) (db after : Database) : Prop where
  balance : ∀ id, accountBalance after id =
    accountBalance db id + (if legs.debited = id then posted else 0) -
      if legs.credited = id then posted else 0
  accounts : after.accounts = db.accounts

theorem SameLedger.balance (same : SameLedger db after) (id : Uuid) :
    accountBalance after id = accountBalance db id := by
  rw [accountBalance, accountBalance, same.1]

theorem Posts.trans_same (posts : Posts legs posted db middle) (same : SameLedger middle after) :
    Posts legs posted db after :=
  ⟨fun id => (same.balance id).trans (posts.balance id), same.2.trans posts.accounts⟩

theorem sameLedger_uuid4 : Respects SameLedger uuid4 :=
  respects_bind respects_read fun _ =>
    respects_bind (respects_write fun _ => ⟨rfl, rfl⟩) fun _ => respects_pure _

theorem sameLedger_insertJournal (journalId : Uuid) (journalType : JournalType)
    (referenceType : String) (referenceId : Option Uuid) :
    Respects SameLedger
      (insertJournal backend journalId journalType referenceType referenceId) := by
  intro db _ after ran
  obtain ⟨-, rfl⟩ := insertJournal_eq_ok.mp ran
  exact ⟨rfl, rfl⟩

theorem sameLedger_announce (event : String) (memberId : Uuid) (amount : ℚ) (currency : String)
    (journalId : Uuid) :
    Respects SameLedger (announce event memberId amount currency journalId) := by
  intro db _ after ran
  cases ran
  exact ⟨rfl, rfl⟩

theorem sameLedger_updatePostedMargin (memberId : Uuid) (marginType : AccountType) (amount : ℚ) :
    Respects SameLedger (updatePostedMargin backend memberId marginType amount) := by
  intro db _ after ran
  rw [updatePostedMargin_apply] at ran
  cases ran
  exact ⟨rfl, rfl⟩

/-- An entry changes the balance of its account. -/
theorem balance_insertJournalEntry {journalId accountId : Uuid} {debit credit : ℚ}
    (ran : insertJournalEntry backend journalId accountId debit credit db = .ok ((), after)) :
    ∃ storedDebit storedCredit, backend.store debit = some storedDebit ∧
      backend.store credit = some storedCredit ∧
      JournalEntry.OneSided ⟨journalId, accountId, storedDebit, storedCredit⟩ ∧
      after.accounts = db.accounts ∧
      ∀ id, accountBalance after id =
        accountBalance db id + if accountId = id then storedDebit - storedCredit else 0 := by
  obtain ⟨storedDebit, storedCredit, debited, credited, oneSided, -, -, rfl⟩ :=
    insertJournalEntry_eq_ok.mp ran
  refine ⟨storedDebit, storedCredit, debited, credited, oneSided, rfl, fun id => ?_⟩
  rw [accountBalance, fiberSum_append, fiberSum_cons, fiberSum_nil, add_zero]
  rfl

/-- The credit of a posting. -/
theorem credit_insertJournalEntry {journalId accountId : Uuid} {amount : ℚ}
    (ran : insertJournalEntry backend journalId accountId 0 amount db = .ok ((), after)) :
    ∃ posted, backend.store amount = some posted ∧ 0 < posted ∧ after.accounts = db.accounts ∧
      ∀ id, accountBalance after id =
        accountBalance db id - if accountId = id then posted else 0 := by
  obtain ⟨zero, posted, zero_stored, stored, oneSided, accounts, balance⟩ :=
    balance_insertJournalEntry ran
  obtain rfl : zero = 0 := Option.some.inj (zero_stored.symm.trans backend.store_zero)
  have positive : 0 < posted := by simpa [JournalEntry.OneSided] using oneSided
  refine ⟨posted, stored, positive, accounts, fun id => ?_⟩
  rw [balance]
  split <;> ring

/-- The debit of a posting. -/
theorem debit_insertJournalEntry {journalId accountId : Uuid} {amount : ℚ}
    (ran : insertJournalEntry backend journalId accountId amount 0 db = .ok ((), after)) :
    ∃ posted, backend.store amount = some posted ∧ 0 < posted ∧ after.accounts = db.accounts ∧
      ∀ id, accountBalance after id =
        accountBalance db id + if accountId = id then posted else 0 := by
  obtain ⟨posted, zero, stored, zero_stored, oneSided, accounts, balance⟩ :=
    balance_insertJournalEntry ran
  obtain rfl : zero = 0 := Option.some.inj (zero_stored.symm.trans backend.store_zero)
  have positive : 0 < posted := by simpa [JournalEntry.OneSided] using oneSided
  refine ⟨posted, stored, positive, accounts, fun id => ?_⟩
  rw [balance, sub_zero]

theorem posts_creditThenDebit {journalType : JournalType} {referenceType : String}
    {referenceId credited debited journalId : Uuid} {amount : ℚ}
    (ran : creditThenDebit backend journalType referenceType referenceId credited debited
        amount db =
      .ok (journalId, after)) :
    ∃ posted, backend.store amount = some posted ∧ 0 < posted ∧
      Posts ⟨credited, debited⟩ posted db after := by
  obtain ⟨id, numbered, number, ran⟩ := bind_eq_ok.mp ran
  obtain ⟨⟨⟩, opened, journal, ran⟩ := bind_eq_ok.mp ran
  obtain ⟨⟨⟩, taken, credit, ran⟩ := bind_eq_ok.mp ran
  obtain ⟨⟨⟩, given, debit, done⟩ := bind_eq_ok.mp ran
  cases done
  have same : SameLedger db opened :=
    IsTrans.trans _ _ _ (sameLedger_uuid4 number) (sameLedger_insertJournal _ _ _ _ journal)
  obtain ⟨posted, stored, positive, accounts, balance⟩ := credit_insertJournalEntry credit
  obtain ⟨posted', stored', -, accounts', balance'⟩ := debit_insertJournalEntry debit
  obtain rfl : posted = posted' := Option.some.inj (stored.symm.trans stored')
  refine ⟨posted, stored, positive, fun id => ?_, accounts'.trans (accounts.trans same.2)⟩
  rw [balance', balance, same.balance]
  ring

theorem posts_debitThenCredit {journalType : JournalType} {referenceType : String}
    {referenceId credited debited journalId : Uuid} {amount : ℚ}
    (ran : debitThenCredit backend journalType referenceType referenceId debited credited
        amount db =
      .ok (journalId, after)) :
    ∃ posted, backend.store amount = some posted ∧ 0 < posted ∧
      Posts ⟨credited, debited⟩ posted db after := by
  obtain ⟨id, numbered, number, ran⟩ := bind_eq_ok.mp ran
  obtain ⟨⟨⟩, opened, journal, ran⟩ := bind_eq_ok.mp ran
  obtain ⟨⟨⟩, given, debit, ran⟩ := bind_eq_ok.mp ran
  obtain ⟨⟨⟩, taken, credit, done⟩ := bind_eq_ok.mp ran
  cases done
  have same : SameLedger db opened :=
    IsTrans.trans _ _ _ (sameLedger_uuid4 number) (sameLedger_insertJournal _ _ _ _ journal)
  obtain ⟨posted, stored, positive, accounts, balance⟩ := debit_insertJournalEntry debit
  obtain ⟨posted', stored', -, accounts', balance'⟩ := credit_insertJournalEntry credit
  obtain rfl : posted = posted' := Option.some.inj (stored.symm.trans stored')
  refine ⟨posted, stored, positive, fun id => ?_, accounts'.trans (accounts.trans same.2)⟩
  rw [balance', balance, same.balance]

/-- A call moves what the column makes of its amount. -/
theorem posts_post {operation : Operation} {receipt : Receipt}
    (ran : operation.post backend legs db = .ok (receipt, after)) :
    ∃ posted, backend.store operation.amount = some posted ∧ 0 < posted ∧
      Posts legs posted db after := by
  cases operation with
  | deposit memberId amount currency =>
      obtain ⟨journalId, moved, move, ran⟩ := bind_eq_ok.mp ran
      obtain ⟨⟨⟩, announced, announcement, done⟩ := bind_eq_ok.mp ran
      cases done
      obtain ⟨posted, stored, positive, posts⟩ := posts_debitThenCredit move
      exact ⟨posted, stored, positive,
        posts.trans_same (sameLedger_announce _ _ _ _ _ announcement)⟩
  | withdraw memberId amount currency =>
      obtain ⟨journalId, moved, move, ran⟩ := bind_eq_ok.mp ran
      obtain ⟨⟨⟩, announced, announcement, done⟩ := bind_eq_ok.mp ran
      cases done
      obtain ⟨posted, stored, positive, posts⟩ := posts_creditThenDebit move
      exact ⟨posted, stored, positive,
        posts.trans_same (sameLedger_announce _ _ _ _ _ announcement)⟩
  | transfer memberId amount marginType =>
      obtain ⟨journalId, moved, move, ran⟩ := bind_eq_ok.mp ran
      obtain ⟨⟨⟩, updated, update, done⟩ := bind_eq_ok.mp ran
      cases done
      obtain ⟨posted, stored, positive, posts⟩ := posts_creditThenDebit move
      exact ⟨posted, stored, positive,
        posts.trans_same (sameLedger_updatePostedMargin _ _ _ update)⟩

/-- An account that must not be overdrawn. -/
def IsCollateral (account : Account) : Prop :=
  account.accountType = .collateral ∧ account.pool = .available

/-- No collateral account is overdrawn. -/
def Solvent (db : Database) : Prop :=
  ∀ account ∈ db.accounts, IsCollateral account → 0 ≤ accountBalance db account.id

/-- The check of the balance would pass at the commit as well: the account covers what is posted. -/
def Covered (backend : Backend) (vault : Vault) : VaultLabel → Prop
  | .commit position => ∀ operation legs,
      vault.calls[position]? = some ⟨operation, .checked legs⟩ → operation.takes = true →
        legs.debited ≠ legs.credited → ∀ posted, backend.store operation.amount = some posted →
          posted ≤ accountBalance vault.committed legs.credited
  | _ => True

/-- What the queries of a call have found. -/
def Found (accounts : List Account) (operation : Operation) (legs : Legs) : Prop :=
  ∃ account ∈ accounts, account.id = legs.credited ∧
    if operation.takes then IsCollateral account else account.accountType = .settlement

/-- The invariant of a run that begins with some accounts. -/
structure Kept (accounts : List Account) (vault : Vault) : Prop where
  solvent : Solvent vault.committed
  same : vault.committed.accounts = accounts
  found : ∀ call ∈ vault.calls, ∀ legs, call.stage = .checked legs →
    Found accounts call.operation legs

theorem orInvalid_eq_ok {row : Option Account} {message : Text} {account : Account} :
    orInvalid row message db = .ok (account, after) ↔ row = some account ∧ db = after := by
  cases row with
  | none => simp [orInvalid, invalid]
  | some found => simp [orInvalid]

theorem getAccount_eq_some {memberId : Uuid} {accountType : AccountType} {pool : Pool}
    {currency : String} {account : Account}
    (found : getAccount db memberId accountType pool currency = some account) :
    account ∈ db.accounts ∧ account.accountType = accountType ∧ account.pool = pool := by
  have selected := List.find?_some found
  simp only [decide_eq_true_eq] at selected
  exact ⟨List.mem_of_find?_eq_some found, selected.2.1, selected.2.2.1⟩

theorem getCcpAccount_eq_some {accountType : AccountType} {pool : Pool} {currency : String}
    {account : Account} (found : getCcpAccount db accountType pool currency = some account) :
    account ∈ db.accounts ∧ account.accountType = accountType := by
  have selected := List.find?_some found
  simp only [decide_eq_true_eq] at selected
  exact ⟨List.mem_of_find?_eq_some found, selected.2.1⟩

/-- The checks pass exactly when the amount is positive, the accounts exist and the collateral that
is taken covers the amount; they write nothing. -/
theorem check_eq_ok {operation : Operation} :
    operation.check db = .ok (legs, after) ↔
      0 < operation.amount ∧ operation.legs db = some legs ∧
        (operation.takes = true → operation.amount ≤ accountBalance db legs.credited) ∧
        db = after := by
  cases operation with
  | deposit | withdraw | transfer =>
      simp only [Operation.check, Operation.legs, Operation.amount, Operation.takes, bind_eq_ok,
        orInvalid_eq_ok, Transaction.require_eq_ok, Transaction.read_apply, Transaction.pure_apply,
        Except.ok.injEq, Prod.mk.injEq, Option.bind_eq_bind, Option.bind_eq_some_iff,
        Option.some.injEq]
      grind

theorem found_check {operation : Operation} (ran : operation.check db = .ok (legs, after)) :
    Found db.accounts operation legs := by
  obtain ⟨-, located, -, -⟩ := check_eq_ok.mp ran
  cases operation with
  | deposit memberId amount currency =>
      simp only [Operation.legs, Option.bind_eq_bind, Option.bind_eq_some_iff,
        Option.some.injEq] at located
      obtain ⟨memberAcct, -, ccpAcct, ccp, rfl⟩ := located
      obtain ⟨there, is_settlement⟩ := getCcpAccount_eq_some ccp
      exact ⟨ccpAcct, there, rfl, is_settlement⟩
  | withdraw | transfer =>
      simp only [Operation.legs, Option.bind_eq_bind, Option.bind_eq_some_iff,
        Option.some.injEq] at located
      obtain ⟨source, found, _, -, rfl⟩ := located
      obtain ⟨there, is_collateral⟩ := getAccount_eq_some found
      exact ⟨source, there, rfl, is_collateral⟩

/-- A posting leaves no account overdrawn exactly if the collateral account that it is taken from
covers it. -/
theorem solvent_posts_iff {operation : Operation} (solvent : Solvent db)
    (found : Found db.accounts operation legs) (positive : 0 < posted)
    (posts : Posts legs posted db after) :
    Solvent after ↔
      (operation.takes = true → legs.debited ≠ legs.credited →
        posted ≤ accountBalance db legs.credited) := by
  obtain ⟨source, there, is_source, kind⟩ := found
  rw [Solvent, posts.accounts]
  constructor
  · intro covered takes apart
    rw [if_pos takes] at kind
    have balance := covered source there kind
    rw [is_source, posts.balance, if_neg apart, if_pos rfl] at balance
    linarith
  · intro covered account member is_collateral
    have before := solvent account member is_collateral
    rw [posts.balance]
    by_cases credited : legs.credited = account.id
    · have same : account = source :=
        List.inj_on_of_nodup_map db.accountIds_nodup member there
          (credited.symm.trans is_source.symm)
      by_cases takes : operation.takes = true
      · by_cases apart : legs.debited = legs.credited
        · rw [if_pos (apart.trans credited), if_pos credited]
          linarith
        · have enough := covered takes apart
          rw [if_pos credited, ← credited]
          split <;> linarith
      · rw [if_neg takes] at kind
        rw [same, IsCollateral, kind] at is_collateral
        cases is_collateral.1
    · rw [if_neg credited]
      split <;> linarith

theorem kept_step {accounts : List Account} {vault next : Vault} {label : VaultLabel}
    (kept : Kept accounts vault) (covered : Covered backend vault label)
    (step : VaultStep backend vault label next) : Kept accounts next := by
  cases step with
  | begin operation =>
      refine ⟨kept.solvent, kept.same, fun call member legs checked => ?_⟩
      rcases List.mem_append.mp member with old | new
      · exact kept.found call old legs checked
      · rw [List.mem_singleton.mp new] at checked
        cases checked
  | @check front back operation legs seen calls ran =>
      refine ⟨kept.solvent, kept.same, forall_replaced (calls ▸ kept.found) ?_⟩
      rintro _ ⟨⟩
      exact kept.same ▸ found_check ran
  | @commit front back operation legs receipt after calls ran accepted =>
      have at_position : vault.calls[front.length]? = some ⟨operation, .checked legs⟩ := by
        rw [calls, List.getElem?_append_right le_rfl, Nat.sub_self]
        rfl
      have found : Found vault.committed.accounts operation legs :=
        kept.same ▸ kept.found _ (List.mem_of_getElem? at_position) legs rfl
      obtain ⟨posted, stored, positive, posts⟩ := posts_post ran
      exact ⟨(solvent_posts_iff kept.solvent found positive posts).mpr fun takes apart =>
          covered operation legs at_position takes apart posted stored,
        posts.accounts.trans kept.same, forall_removed (calls ▸ kept.found)⟩
  | stop front back calls =>
      exact ⟨kept.solvent, kept.same, forall_removed (calls ▸ kept.found)⟩

/-- A step from a state of such a run keeps solvency exactly if it meets the condition. -/
theorem solvent_step_iff {accounts : List Account} {vault next : Vault} {label : VaultLabel}
    (kept : Kept accounts vault) (step : VaultStep backend vault label next) :
    Solvent next.committed ↔ Covered backend vault label := by
  refine ⟨fun solvent => ?_, fun covered => (kept_step kept covered step).solvent⟩
  cases step with
  | begin | check | stop => trivial
  | @commit front back operation legs receipt after calls ran accepted =>
      have at_position : vault.calls[front.length]? = some ⟨operation, .checked legs⟩ := by
        rw [calls, List.getElem?_append_right le_rfl, Nat.sub_self]
        rfl
      have found : Found vault.committed.accounts operation legs :=
        kept.same ▸ kept.found _ (List.mem_of_getElem? at_position) legs rfl
      obtain ⟨posted, stored, positive, posts⟩ := posts_post ran
      intro other otherLegs there takes apart amount amount_stored
      obtain ⟨rfl, same⟩ : operation = other ∧ Stage.checked legs = .checked otherLegs := by
        simpa using at_position.symm.trans there
      cases same
      obtain rfl : posted = amount := Option.some.inj (stored.symm.trans amount_stored)
      exact (solvent_posts_iff kept.solvent found positive posts).mp solvent takes apart

/-- If every withdrawal and transfer is still covered when it commits, no collateral account is ever
overdrawn, and a commit that is not covered overdraws one. -/
theorem solvent_of_run {start last : Vault} (idle : start.calls = [])
    (solvent : Solvent start.committed)
    (run : Run (VaultStep backend) (Covered backend) start last) :
    Solvent last.committed ∧
      ∀ label next, VaultStep backend last label next →
        (Solvent next.committed ↔ Covered backend last label) := by
  have opening : Kept start.committed.accounts start := ⟨solvent, rfl, by simp [idle]⟩
  have kept := run.invariant (fun _ _ _ kept covered step => kept_step kept covered step) opening
  exact ⟨kept.solvent, fun label next step => solvent_step_iff kept step⟩

/-- A check reads a balance that covers what the column makes of the amount, so a call that nobody
disturbs is covered. -/
theorem posted_le_of_check {operation : Operation} (takes : operation.takes = true)
    (ran : operation.check db = .ok (legs, after))
    (grid : accountBalance db legs.credited ∈ DecimalRounding.fixedGrid 8)
    (stored : decimalBackend.store operation.amount = some posted) :
    posted ≤ accountBalance db legs.credited := by
  obtain ⟨-, -, enough, -⟩ := check_eq_ok.mp ran
  have fits := (DecimalRounding.toFixed_eq_some stored).1
  rw [fits, ← DecimalRounding.toUnit_of_mem_fixedGrid DecimalRounding.halfAway_nearest grid]
  exact DecimalRounding.toUnit_mono DecimalRounding.halfAway_nearest (by norm_num) (enough takes)

/-- A house whose member has deposited 100. -/
def depositedHouse : Database :=
  { Database.opening [⟨0, ccpLei, .active, 0⟩, ⟨1, "LEI1", .active, 0⟩] []
      [⟨2, 1, .collateral, "USD", .available⟩, ⟨3, 0, .settlement, "USD", .available⟩] 20
      Database.nodup_ccpAndMember (by decide) (by decide) with
    journals := [⟨4, .collateralDeposit, "member", some 1, .confirmed⟩]
    journalEntries := [⟨4, 2, 100, 0⟩, ⟨4, 3, 0, 100⟩] }

/-- A withdrawal of the member. -/
def withdrawal (amount : ℚ) : Operation := .withdraw 1 amount "USD"

/-- A house after the withdrawal has been posted. -/
def afterWithdrawal (amount : ℚ) (db : Database) : Database :=
  ((withdrawal amount).post decimalBackend ⟨2, 3⟩ db).toOption.elim db Prod.snd

private theorem check_withdrawal {amount : ℚ}
    (found : ((withdrawal amount).check depositedHouse).toOption.map Prod.fst = some ⟨2, 3⟩) :
    ∃ seen, (withdrawal amount).check depositedHouse = .ok (⟨2, 3⟩, seen) := by
  cases ran : (withdrawal amount).check depositedHouse with
  | error failure => simp [ran, Except.toOption] at found
  | ok pair =>
      obtain ⟨legs, seen⟩ := pair
      simp only [ran, Except.toOption, Option.map_some, Option.some.injEq] at found
      exact ⟨seen, by rw [found]⟩

private theorem post_withdrawal {amount : ℚ} {db : Database}
    (returned : ((withdrawal amount).post decimalBackend ⟨2, 3⟩ db).toOption.isSome = true)
    (balanced : ((server decimalBackend).deferred db (afterWithdrawal amount db)).toOption =
      some ()) (calls : List Call) :
    VaultStep decimalBackend ⟨db, ⟨withdrawal amount, .checked ⟨2, 3⟩⟩ :: calls⟩ (.commit 0)
      ⟨afterWithdrawal amount db, calls⟩ := by
  obtain ⟨receipt, ran⟩ := ok_of_isSome db returned
  exact .commit [] calls rfl ran (accepted_of_toOption balanced)

private theorem covered_withdrawal {amount : ℚ} {db : Database}
    (stored : decimalBackend.store amount = some amount)
    (enough : amount ≤ accountBalance db 2) (calls : List Call) :
    Covered decimalBackend ⟨db, ⟨withdrawal amount, .checked ⟨2, 3⟩⟩ :: calls⟩ (.commit 0) := by
  rintro operation legs ⟨⟩ _ _ posted fits
  obtain rfl : amount = posted := Option.some.inj (stored.symm.trans fits)
  exact enough

private theorem solvent_depositedHouse : Solvent depositedHouse := by
  have balance : 0 ≤ accountBalance depositedHouse 2 := by decide +kernel
  intro account member is_collateral
  simp only [depositedHouse, Database.opening, List.mem_cons, List.not_mem_nil, or_false] at member
  rcases member with rfl | rfl
  · exact balance
  · cases is_collateral.1

private theorem first_eighty (calls : List Call) :
    VaultStep decimalBackend ⟨depositedHouse, ⟨withdrawal 80, .checked ⟨2, 3⟩⟩ :: calls⟩
      (.commit 0) ⟨afterWithdrawal 80 depositedHouse, calls⟩ := by
  have returned : ((withdrawal 80).post decimalBackend ⟨2, 3⟩ depositedHouse).toOption.isSome =
      true := by decide +kernel
  have balanced : ((server decimalBackend).deferred depositedHouse
      (afterWithdrawal 80 depositedHouse)).toOption = some () := by decide +kernel
  exact post_withdrawal returned balanced calls

/-- Two withdrawals read the balance of a given house before either commits. -/
private theorem both_checked {permitted : Vault → VaultLabel → Prop} {amount amount' : ℚ}
    (begins : ∀ vault, permitted vault .begin)
    (checks : ∀ vault position, permitted vault (.check position))
    (found : ((withdrawal amount).check depositedHouse).toOption.map Prod.fst = some ⟨2, 3⟩)
    (found' : ((withdrawal amount').check depositedHouse).toOption.map Prod.fst = some ⟨2, 3⟩) :
    Run (VaultStep decimalBackend) permitted ⟨depositedHouse, []⟩
      ⟨depositedHouse,
        [⟨withdrawal amount, .checked ⟨2, 3⟩⟩, ⟨withdrawal amount', .checked ⟨2, 3⟩⟩]⟩ := by
  obtain ⟨seen, checked⟩ := check_withdrawal found
  obtain ⟨seen', checked'⟩ := check_withdrawal found'
  have begun : Run (VaultStep decimalBackend) permitted ⟨depositedHouse, []⟩
      ⟨depositedHouse, [⟨withdrawal amount, .begun⟩, ⟨withdrawal amount', .begun⟩]⟩ :=
    .snoc (.snoc (.refl _) (begins _) (.begin (withdrawal amount))) (begins _)
      (.begin (withdrawal amount'))
  exact .snoc (.snoc begun (checks _ 0) (.check [] [_] rfl checked)) (checks _ 1)
    (.check [_] [] rfl checked')

/-- Withdrawals of 80 and 20 from 100, side by side. -/
theorem solvent_of_run_depositedHouse :
    Run (VaultStep decimalBackend) (Covered decimalBackend) ⟨depositedHouse, []⟩
        ⟨afterWithdrawal 20 (afterWithdrawal 80 depositedHouse), []⟩ ∧
      Solvent (afterWithdrawal 20 (afterWithdrawal 80 depositedHouse)) := by
  have returned : ((withdrawal 20).post decimalBackend ⟨2, 3⟩
      (afterWithdrawal 80 depositedHouse)).toOption.isSome = true := by decide +kernel
  have balanced : ((server decimalBackend).deferred (afterWithdrawal 80 depositedHouse)
      (afterWithdrawal 20 (afterWithdrawal 80 depositedHouse))).toOption = some () := by
    decide +kernel
  have run : Run (VaultStep decimalBackend) (Covered decimalBackend) ⟨depositedHouse, []⟩
      ⟨afterWithdrawal 20 (afterWithdrawal 80 depositedHouse), []⟩ :=
    .snoc
      (.snoc
        (both_checked (fun _ => trivial) (fun _ _ => trivial) (by decide +kernel)
          (by decide +kernel))
        (covered_withdrawal (by decide +kernel) (by decide +kernel) _) (first_eighty _))
      (covered_withdrawal (by decide +kernel) (by decide +kernel) [])
      (post_withdrawal returned balanced [])
  exact ⟨run, (solvent_of_run rfl solvent_depositedHouse run).1⟩

/-- Two withdrawals of 80 read the balance of 100 before either commits. -/
theorem not_solvent_depositedHouse :
    ∃ last, Run (VaultStep decimalBackend) unrestricted ⟨depositedHouse, []⟩ last ∧
      Solvent depositedHouse ∧ ¬Solvent last.committed := by
  have returned : ((withdrawal 80).post decimalBackend ⟨2, 3⟩
      (afterWithdrawal 80 depositedHouse)).toOption.isSome = true := by decide +kernel
  have balanced : ((server decimalBackend).deferred (afterWithdrawal 80 depositedHouse)
      (afterWithdrawal 80 (afterWithdrawal 80 depositedHouse))).toOption = some () := by
    decide +kernel
  have run : Run (VaultStep decimalBackend) unrestricted ⟨depositedHouse, []⟩
      ⟨afterWithdrawal 80 (afterWithdrawal 80 depositedHouse), []⟩ :=
    .snoc
      (.snoc
        (both_checked (fun _ => trivial) (fun _ _ => trivial) (by decide +kernel)
          (by decide +kernel))
        trivial (first_eighty _))
      trivial (post_withdrawal returned balanced [])
  have overdrawn :
      ¬0 ≤ accountBalance (afterWithdrawal 80 (afterWithdrawal 80 depositedHouse)) 2 := by
    decide +kernel
  have there : ⟨2, 1, .collateral, "USD", .available⟩ ∈
      (afterWithdrawal 80 (afterWithdrawal 80 depositedHouse)).accounts := by decide +kernel
  refine ⟨_, run, solvent_depositedHouse, fun solvent => overdrawn ?_⟩
  have balance := solvent ⟨2, 1, .collateral, "USD", .available⟩ there ⟨rfl, rfl⟩
  exact balance

end Collateral

end ClearingHouse
