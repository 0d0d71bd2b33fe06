import ClearingHouse.Statements

/-!
# Collateral

Deposits, withdrawals and transfers to margin.  Each posts one journal between two accounts.
-/

namespace ClearingHouse

namespace Collateral

open Transactions

/-- `_get_account`. -/
def getAccount (db : Database) (memberId : Uuid) (accountType : AccountType) (pool : Pool)
    (currency : String) : Option Account :=
  db.accounts.find? fun account =>
    account.memberId = memberId ∧ account.accountType = accountType ∧ account.pool = pool ∧
      account.currency = currency

/-- `_get_ccp_account`. -/
def getCcpAccount (db : Database) (accountType : AccountType) (pool : Pool) (currency : String) :
    Option Account :=
  db.accounts.find? fun account =>
    (account.memberId ∈ (db.members.filter fun member => member.lei = ccpLei).map Member.id) ∧
      account.accountType = accountType ∧ account.pool = pool ∧ account.currency = currency

/-- Raise `ValidationError`. -/
def invalid {α : Type} (message : Text) : Sql α := raise (.raised .validationError message)

/-- The value of an optional row, or `ValidationError`. -/
def orInvalid (row : Option Account) (message : Text) : Sql Account :=
  match row with
  | some account => pure account
  | none => invalid message

/-- What an operation returns. -/
structure Receipt where
  journalId : Uuid
  memberId : Uuid
  amount : ℚ
  deriving DecidableEq, Repr

/-- A confirmed journal that debits one account and credits another, the debit posted first. -/
def debitThenCredit (backend : Backend) (journalType : JournalType) (referenceType : String)
    (referenceId : Uuid) (debited credited : Uuid) (amount : ℚ) : Sql Uuid := do
  let journalId ← uuid4
  insertJournal backend journalId journalType referenceType (some referenceId)
  insertJournalEntry backend journalId debited amount 0
  insertJournalEntry backend journalId credited 0 amount
  pure journalId

/-- A confirmed journal that debits one account and credits another, the credit posted first. -/
def creditThenDebit (backend : Backend) (journalType : JournalType) (referenceType : String)
    (referenceId : Uuid) (credited debited : Uuid) (amount : ℚ) : Sql Uuid := do
  let journalId ← uuid4
  insertJournal backend journalId journalType referenceType (some referenceId)
  insertJournalEntry backend journalId credited 0 amount
  insertJournalEntry backend journalId debited amount 0
  pure journalId

/-- The outbox event of a deposit or a withdrawal. -/
def announce (event : String) (memberId : Uuid) (amount : ℚ) (currency : String)
    (journalId : Uuid) : Sql Unit := do
  let _ ← insertOutboxEvent "collateral" memberId event event
    [("member_id", .uuid memberId), ("amount", .decimal amount), ("currency", .literal currency),
      ("journal_id", .uuid journalId)] none

/-- `deposit_collateral`. -/
def depositCollateral (backend : Backend) (memberId : Uuid) (amount : ℚ) (currency : String) :
    Sql Receipt := do
  require (0 < amount)
    (.raised .validationError [.literal "Deposit amount must be positive"])
  let db ← read
  let missing : Text := [.literal "Accounts not found for member ", .uuid memberId]
  let memberAcct ← orInvalid (getAccount db memberId .collateral .available currency) missing
  let ccpAcct ← orInvalid (getCcpAccount db .settlement .available currency) missing
  let journalId ← debitThenCredit backend .collateralDeposit "member" memberId memberAcct.id
    ccpAcct.id amount
  announce "collateral.deposited" memberId amount currency journalId
  pure { journalId, memberId, amount }

/-- `withdraw_collateral`. -/
def withdrawCollateral (backend : Backend) (memberId : Uuid) (amount : ℚ) (currency : String) :
    Sql Receipt := do
  require (0 < amount)
    (.raised .validationError [.literal "Withdrawal amount must be positive"])
  let db ← read
  let memberAcct ← orInvalid (getAccount db memberId .collateral .available currency)
    [.literal "Collateral account not found for member ", .uuid memberId]
  let balance := accountBalance db memberAcct.id
  require (amount ≤ balance)
    (.raised .insufficientMarginError
      [.literal "Insufficient collateral: available=", .decimal balance, .literal ", requested=",
        .decimal amount])
  let ccpAcct ← orInvalid (getCcpAccount db .settlement .available currency)
    [.literal "CCP settlement account not found"]
  let journalId ← creditThenDebit backend .collateralWithdrawal "member" memberId memberAcct.id
    ccpAcct.id amount
  announce "collateral.withdrawn" memberId amount currency journalId
  pure { journalId, memberId, amount }

/-- `_update_posted_margin`: the account type is compared with the column `margin_type`. -/
def updatePostedMargin (backend : Backend) (memberId : Uuid) (marginType : AccountType)
    (amount : ℚ) : Sql Unit := do
  let db ← read
  let rows ← db.marginRequirements.mapM fun requirement =>
    if requirement.memberId = memberId ∧ requirement.marginType.value = marginType.value then do
      let postedAmount ← castNumeric backend (requirement.postedAmount + amount)
      pure { requirement with postedAmount }
    else pure requirement
  write fun db => { db with marginRequirements := rows }

/-- No account type is a margin type, so no requirement is updated. -/
theorem updatePostedMargin_apply (backend : Backend) (memberId : Uuid) (marginType : AccountType)
    (amount : ℚ) (db : Database) :
    updatePostedMargin backend memberId marginType amount db = .ok ((), db) := by
  have unlike : ∀ type : MarginType, type.value ≠ marginType.value := by
    intro type
    cases type <;> cases marginType <;> decide
  have passed : (fun requirement : MarginRequirement =>
      if requirement.memberId = memberId ∧ requirement.marginType.value = marginType.value then do
        let postedAmount ← castNumeric backend (requirement.postedAmount + amount)
        pure { requirement with postedAmount }
      else pure requirement : MarginRequirement → Sql MarginRequirement) =
        fun requirement => pure (id requirement) :=
    funext fun requirement => if_neg fun matched => unlike requirement.marginType matched.2
  simp only [updatePostedMargin, passed, List.mapM_pure, List.map_id, Transaction.bind_apply,
    Transaction.read_apply, Transaction.pure_apply, Transaction.write_apply]

/-- `transfer_to_margin`. -/
def transferToMargin (backend : Backend) (memberId : Uuid) (amount : ℚ)
    (marginType : AccountType) : Sql Receipt := do
  require (0 < amount)
    (.raised .validationError [.literal "Transfer amount must be positive"])
  let db ← read
  let missing : Text := [.literal "Accounts not found for member ", .uuid memberId]
  let collateralAcct ← orInvalid (getAccount db memberId .collateral .available "USD") missing
  let marginAcct ← orInvalid (getAccount db memberId marginType .available "USD") missing
  require (amount ≤ accountBalance db collateralAcct.id)
    (.raised .insufficientMarginError [.literal "Insufficient collateral for margin transfer"])
  let journalId ← creditThenDebit backend .collateralDeposit "margin_call" memberId
    collateralAcct.id marginAcct.id amount
  updatePostedMargin backend memberId marginType amount
  pure { journalId, memberId, amount }

section Respects

open Transaction

variable {backend : Backend} {relation : Database → Database → Prop} [Std.Refl relation]

theorem respects_orInvalid (row : Option Account) (message : Text) :
    Respects relation (orInvalid row message) := by
  cases row with
  | some account => exact respects_pure account
  | none => exact respects_raise _

variable [IsTrans Database relation]

theorem respects_debitThenCredit (admits : AdmitsPostings backend relation)
    (journalType : JournalType) (referenceType : String)
    (referenceId debited credited : Uuid) (amount : ℚ) :
    Respects relation
      (debitThenCredit backend journalType referenceType referenceId debited credited amount) :=
  respects_bind admits.uuid4 fun _ => respects_bind (admits.journal ..) fun _ =>
    respects_bind (admits.entry ..) fun _ => respects_bind (admits.entry ..) fun _ =>
      respects_pure _

theorem respects_creditThenDebit (admits : AdmitsPostings backend relation)
    (journalType : JournalType) (referenceType : String)
    (referenceId credited debited : Uuid) (amount : ℚ) :
    Respects relation
      (creditThenDebit backend journalType referenceType referenceId credited debited amount) :=
  respects_bind admits.uuid4 fun _ => respects_bind (admits.journal ..) fun _ =>
    respects_bind (admits.entry ..) fun _ => respects_bind (admits.entry ..) fun _ =>
      respects_pure _

theorem respects_depositCollateral (admits : AdmitsPostings backend relation)
    {memberId : Uuid} {amount : ℚ} {currency : String}
    (announces : ∀ journalId, Respects relation
      (announce "collateral.deposited" memberId amount currency journalId)) :
    Respects relation (depositCollateral backend memberId amount currency) :=
  respects_bind (respects_require _ _) fun _ => respects_bind respects_read fun _ =>
    respects_bind (respects_orInvalid _ _) fun _ => respects_bind (respects_orInvalid _ _) fun _ =>
      respects_bind (respects_debitThenCredit admits ..) fun _ =>
        respects_bind (announces _) fun _ => respects_pure _

theorem respects_withdrawCollateral (admits : AdmitsPostings backend relation)
    {memberId : Uuid} {amount : ℚ} {currency : String}
    (announces : ∀ journalId, Respects relation
      (announce "collateral.withdrawn" memberId amount currency journalId)) :
    Respects relation (withdrawCollateral backend memberId amount currency) :=
  respects_bind (respects_require _ _) fun _ => respects_bind respects_read fun _ =>
    respects_bind (respects_orInvalid _ _) fun _ => respects_bind (respects_require _ _) fun _ =>
      respects_bind (respects_orInvalid _ _) fun _ =>
        respects_bind (respects_creditThenDebit admits ..) fun _ =>
          respects_bind (announces _) fun _ => respects_pure _

theorem respects_updatePostedMargin (requirements : ∀ (db : Database) rows,
      relation db { db with marginRequirements := rows })
    (memberId : Uuid) (marginType : AccountType) (amount : ℚ) :
    Respects relation (updatePostedMargin backend memberId marginType amount) := by
  refine respects_bind respects_read fun db => respects_bind (respects_mapM (fun row => ?_) _)
    fun rows => respects_write fun db => requirements db rows
  exact respects_ite (respects_bind (respects_castNumeric _) fun _ => respects_pure _)
    (respects_pure _)

theorem respects_transferToMargin (admits : AdmitsPostings backend relation) (memberId : Uuid)
    (amount : ℚ) (marginType : AccountType) :
    Respects relation (transferToMargin backend memberId amount marginType) :=
  respects_bind (respects_require _ _) fun _ => respects_bind respects_read fun _ =>
    respects_bind (respects_orInvalid _ _) fun _ => respects_bind (respects_orInvalid _ _) fun _ =>
      respects_bind (respects_require _ _) fun _ =>
        respects_bind (respects_creditThenDebit admits ..) fun _ =>
          respects_bind (respects_updatePostedMargin admits.requirements ..) fun _ =>
            respects_pure _

end Respects

end Collateral

end ClearingHouse
