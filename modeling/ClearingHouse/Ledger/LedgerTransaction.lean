import ClearingHouse.Library.Queries
import ClearingHouse.Statements

/-!
# Guarded transactions

`ledger_transaction` queries the entries of pending journals by the columns `direction` and
`amount`.  The migrated table has `debit` and `credit` instead, so the query is rejected whatever a
block has written, and no block commits.
-/

namespace ClearingHouse

/-- `value` of the enumeration. -/
def JournalStatus.value : JournalStatus → String
  | pending => "pending"
  | confirmed => "confirmed"
  | rejected => "rejected"

namespace LedgerTransaction

open Queries Transactions
open Transaction (bind_of_ok)

/-- Value of a column in a row; `unread` stands in columns that no query here refers to. -/
inductive Value
  | uuid (id : Uuid)
  | numeric (amount : ℚ)
  | text (value : String)
  | unread
  deriving DecidableEq, Repr

/-- `value` as a number. -/
def Value.toNumeric : Value → ℚ
  | .numeric amount => amount
  | _ => 0

/-- The columns of a table by name. -/
abbrev Columns (Row : Type) := List (String × (Row → Value))

/-- The columns of `journals` in migration 004. -/
def journalColumns : Columns Journal :=
  [("id", fun row => .uuid row.id), ("journal_type", fun _ => .unread),
    ("reference_type", fun row => .text row.referenceType), ("reference_id", fun _ => .unread),
    ("status", fun row => .text row.status.value), ("created_at", fun _ => .unread)]

/-- The columns of `journal_entries` in migration 004; no later migration alters them. -/
def journalEntryColumns : Columns JournalEntry :=
  [("id", fun _ => .unread), ("journal_id", fun row => .uuid row.journalId),
    ("account_id", fun row => .uuid row.accountId), ("debit", fun row => .numeric row.debit),
    ("credit", fun row => .numeric row.credit), ("created_at", fun _ => .unread)]

/-- A reference to a column, which the server resolves before it reads any row. -/
def resolve {Row : Type} (table : String) (columns : Columns Row) (name : String) :
    Except Failure (Row → Value) :=
  match columns.lookup name with
  | some column => .ok column
  | none => .error (.server (.undefinedColumn (table ++ "." ++ name)))

/-- The query of `_validate_journal_balance`: pending journals whose entries of the two directions
differ in their sums, with these sums. -/
def imbalancedJournals (journals : Columns Journal) (entries : Columns JournalEntry)
    (db : Database) : Except Failure (List (Value × ℚ × ℚ)) := do
  let journalId ← resolve "je" entries "journal_id"
  let id ← resolve "j" journals "id"
  let direction ← resolve "je" entries "direction"
  let amount ← resolve "je" entries "amount"
  let status ← resolve "j" journals "status"
  let joined := innerJoin (fun j je => journalId je = id j) db.journals db.journalEntries
  let pending := joined.filter fun row => status row.1 = .text "pending"
  let total (literal : String) (rows : List (Journal × JournalEntry)) : ℚ :=
    (rows.map fun row =>
      if direction row.2 = .text literal then (amount row.2).toNumeric else 0).sum
  let groups := (groupBy (fun row => id row.1) pending).map fun group =>
    (group.1, total "debit" group.2, total "credit" group.2)
  pure (groups.filter fun group => group.2.1 ≠ group.2.2)

/-- `LedgerImbalanceError` of a journal. -/
def ledgerImbalance (journalId : Uuid) (debitSum creditSum : ℚ) : Failure :=
  .raised .ledgerImbalanceError
    [.literal "Journal ", .uuid journalId, .literal " imbalanced: debits=", .decimal debitSum,
      .literal ", credits=", .decimal creditSum]

/-- `_validate_journal_balance`. -/
def validateJournalBalance : Sql Unit := fun db =>
  match imbalancedJournals journalColumns journalEntryColumns db with
  | .error failure => .error failure
  | .ok ((.uuid journalId, debitSum, creditSum) :: _) =>
      .error (ledgerImbalance journalId debitSum creditSum)
  | .ok _ => .ok ((), db)

/-- `ledger_transaction` around a block. -/
def ledgerTransaction (backend : Backend) (block : Sql Unit) : Session Database Failure Unit :=
  Session.transaction (server backend) (do
    block
    validateJournalBalance)

/-- An insert of a block. -/
inductive LedgerInsert
  | journal (row : Journal)
  | entry (row : JournalEntry)
  deriving DecidableEq, Repr

/-- `INSERT INTO journals` with any status. -/
def insertJournalRow (backend : Backend) (row : Journal) : Sql Unit := do
  require (row.journalType ∈ backend.journalTypes) (.server (.checkViolation "chk_journals_type"))
  let db ← read
  require (row.id ∉ db.journals.map Journal.id) (.server (.uniqueViolation "journals_pkey"))
  write fun db => { db with journals := db.journals ++ [row] }

/-- The statement of an insert. -/
def LedgerInsert.run (backend : Backend) : LedgerInsert → Sql Unit
  | .journal row => insertJournalRow backend row
  | .entry row => insertJournalEntry backend row.journalId row.accountId row.debit row.credit

/-- The journal that an insert writes a row of. -/
def LedgerInsert.journalId : LedgerInsert → Uuid
  | .journal row => row.id
  | .entry row => row.journalId

/-- The statements of a block. -/
def runBlock (backend : Backend) (block : List LedgerInsert) : Sql Unit :=
  block.forM (LedgerInsert.run backend)

/-- The entries of a journal have equal debits and credits. -/
def Balanced (db : Database) (journalId : Uuid) : Prop :=
  journalTotal JournalEntry.debit db journalId = journalTotal JournalEntry.credit db journalId

instance (db : Database) (journalId : Uuid) : Decidable (Balanced db journalId) :=
  inferInstanceAs (Decidable (_ = _))

/-- What the guard is for, of a block whose statements the server accepts: it commits if the
journals it wrote balance, and else an imbalance of one of them is raised and nothing changes. -/
structure Guards (backend : Backend) (block : List LedgerInsert) (db : Database) : Prop where
  commits : ∀ {written}, runBlock backend block db = .ok ((), written) →
    (∀ insert ∈ block, Balanced written insert.journalId) →
      ledgerTransaction backend (runBlock backend block) (connect db) =
        (.ok (), Session.idleAt written [written])
  refuses : ∀ {written}, runBlock backend block db = .ok ((), written) →
    (∃ insert ∈ block, ¬Balanced written insert.journalId) →
      ∃ insert ∈ block, ¬Balanced written insert.journalId ∧
        ledgerTransaction backend (runBlock backend block) (connect db) =
          (.error (ledgerImbalance insert.journalId
              (journalTotal JournalEntry.debit written insert.journalId)
              (journalTotal JournalEntry.credit written insert.journalId)), connect db)

/-- The query is rejected by its columns. -/
theorem validateJournalBalance_apply (db : Database) :
    validateJournalBalance db = .error (.server (.undefinedColumn "je.direction")) := rfl

variable {backend : Backend} {block : Sql Unit} {db written : Database}

/-- A block that runs to its end is rolled back by its guard. -/
theorem ledgerTransaction_of_ok (ran : block db = .ok ((), written)) :
    ledgerTransaction backend block (connect db) =
      (.error (.server (.undefinedColumn "je.direction")), connect db) := by
  have stops : (block >>= fun _ => validateJournalBalance) db =
      .error (.server (.undefinedColumn "je.direction")) :=
    (bind_of_ok ran).trans (validateJournalBalance_apply written)
  simp only [ledgerTransaction, Session.transaction, connect, stops]

/-- The guard serves its purpose for no block whose statements the server accepts. -/
theorem guards_iff (backend : Backend) (block : List LedgerInsert) (db : Database) :
    Guards backend block db ↔ ∃ failure, runBlock backend block db = .error failure := by
  constructor
  · intro guards
    cases ran : runBlock backend block db with
    | error failure => exact ⟨failure, rfl⟩
    | ok pair =>
        obtain ⟨⟨⟩, written⟩ := pair
        by_cases balanced : ∀ insert ∈ block, Balanced written insert.journalId
        · have commits := guards.commits ran balanced
          rw [ledgerTransaction_of_ok ran] at commits
          simp at commits
        · push Not at balanced
          obtain ⟨insert, -, -, refuses⟩ := guards.refuses ran balanced
          rw [ledgerTransaction_of_ok ran] at refuses
          simp [ledgerImbalance] at refuses
  · rintro ⟨failure, raised⟩
    constructor <;> intro written ran <;> simp [raised] at ran

/-- A house of two accounts. -/
def guardedHouse : Database :=
  Database.opening [⟨1, "MEMBER", .active, 0⟩] []
    [⟨2, 1, .marginIm, "USD", .available⟩, ⟨3, 1, .collateral, "USD", .available⟩] 10
    (by decide) (by decide) (by decide)

/-- A pending deposit of 100 with both its entries. -/
def pendingDeposit : List LedgerInsert :=
  [.journal ⟨7, .marginDeposit, "deposit", none, .pending⟩, .entry ⟨7, 2, 100, 0⟩,
    .entry ⟨7, 3, 0, 100⟩]

/-- A balanced deposit is not committed. -/
theorem not_guards_pendingDeposit :
    (∃ written, runBlock migratedBackend pendingDeposit guardedHouse = .ok ((), written) ∧
      ∀ insert ∈ pendingDeposit, Balanced written insert.journalId) ∧
    ledgerTransaction migratedBackend (runBlock migratedBackend pendingDeposit)
        (connect guardedHouse) =
      (.error (.server (.undefinedColumn "je.direction")), connect guardedHouse) ∧
    ¬Guards migratedBackend pendingDeposit guardedHouse := by
  obtain ⟨⟨⟩, ran⟩ := ok_of_isSome guardedHouse
    (by decide +kernel :
      (runBlock migratedBackend pendingDeposit guardedHouse).toOption.isSome = true)
  have balanced : ∀ insert ∈ pendingDeposit, Balanced
      ((runBlock migratedBackend pendingDeposit guardedHouse).toOption.elim guardedHouse Prod.snd)
      insert.journalId := by decide +kernel
  refine ⟨⟨_, ran, balanced⟩, ledgerTransaction_of_ok ran, fun guards => ?_⟩
  have commits := guards.commits ran balanced
  rw [ledgerTransaction_of_ok ran] at commits
  simp at commits

end LedgerTransaction

end ClearingHouse
