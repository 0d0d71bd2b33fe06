import ClearingHouse.Library.DecimalRounding
import ClearingHouse.Library.Fibers
import ClearingHouse.Library.Transaction
import ClearingHouse.Schema

/-!
# Statements

The SQL statements the services share, over the database state: identifiers, `NUMERIC(28, 8)`
columns, journals and their entries with the row checks, the deferred balance trigger, the balance
view, state transitions and the transactional outbox.  What the arithmetic and the column types do
to a number, and which literals the `CHECK` lists admit, is a parameter.
-/

namespace ClearingHouse

open DecimalRounding Fibers Transactions
open Transaction (bind_eq_ok)

/-- Arithmetic of the services and columns of the database. -/
structure Backend where
  /-- Result of one `Decimal` operation, from its exact value. -/
  round : ℚ → ℚ
  /-- Assignment to a `NUMERIC(28, 8)` column; `none` is an overflow. -/
  store : ℚ → Option ℚ
  /-- Division of two `NUMERIC` values by the server. -/
  divide : ℚ → ℚ → ℚ
  /-- Values a `NUMERIC(28, 8)` column can hold. -/
  grid : AddSubgroup ℚ
  round_zero : round 0 = 0
  round_pos : ∀ {x}, 0 < x → 0 < round x
  store_zero : store 0 = some 0
  store_mem : ∀ {x y}, store x = some y → y ∈ grid
  store_of_mem : ∀ {x y}, x ∈ grid → store x = some y → y = x
  store_stored : ∀ {x y}, store x = some y → store y = some y
  /-- `chk_journals_type`. -/
  journalTypes : List JournalType
  /-- `chk_waterfall_step_type`. -/
  stepTypes : List StepType
  /-- `chk_default_event_status`. -/
  defaultStatuses : List DefaultEventStatus

/-- `chk_journals_type` of migration 004. -/
def checkedJournalTypes : List JournalType :=
  [.marginDeposit, .marginWithdrawal, .marginCall, .settlement, .feeCollection, .defaultCloseOut,
    .waterfallLoss, .collateralTransfer, .netting, .adjustment, .defaultFundContribution]

/-- `chk_waterfall_step_type` of migration 012. -/
def checkedStepTypes : List StepType :=
  [.checkedDefaulterMargin, .checkedDefaulterDefaultFund, .checkedCcpFirstTranche,
    .checkedSurvivorDefaultFund, .checkedCcpSecondTranche, .checkedAssessmentPowers]

/-- `chk_default_event_status` of migration 012. -/
def checkedDefaultStatuses : List DefaultEventStatus :=
  [.detected, .marginApplied, .defaultFundApplied, .ccpSkinApplied, .assessmentApplied, .resolved,
    .escalated]

/-- Journal types the code writes although migration 004 does not list them. -/
def writtenJournalTypes : List JournalType :=
  [.collateralDeposit, .collateralWithdrawal, .variationMargin, .defaultWaterfallStep]

/-- Step types the code writes. -/
def writtenStepTypes : List StepType :=
  [.defaulterMargin, .defaulterDefaultFund, .ccpEquity, .survivingMembersDefaultFund,
    .lossAllocation]

/-- Default event statuses the code writes although migration 012 does not list them. -/
def writtenDefaultStatuses : List DefaultEventStatus := [.partiallyResolved]

/-- Weight of the leading base 10000 digit of a `NUMERIC`, and that digit. -/
def leadingDigit (x : ℚ) : ℤ × ℤ :=
  let weight := if x = 0 then 0 else Int.log 10000 |x|
  (weight, ⌊|x| / 10000 ^ weight⌋)

/-- `NUMERIC` division: at least sixteen significant digits and the scale of either operand, here
that of the sum of products in `member_positions`. -/
def divideNumeric (x y : ℚ) : ℚ :=
  let (weight, digit) := leadingDigit x
  let (weight', digit') := leadingDigit y
  let quotientWeight := weight - weight' - (if digit ≤ digit' then 1 else 0)
  let scale := (max (16 - quotientWeight * 4) 16).toNat
  toUnit halfAway (1 / 10 ^ scale) (x / y)

/-- The deployed arithmetic: the default `Decimal` context and PostgreSQL columns, with the
literals that the code writes added to the `CHECK` lists. -/
def decimalBackend : Backend where
  round := toDigits 28
  store := toFixed 28 8
  divide := divideNumeric
  grid := fixedGrid 8
  round_zero := toDigits_zero 28
  round_pos := toDigits_pos (by norm_num)
  store_zero := toFixed_of_mem (zero_mem _) (by norm_num)
  store_mem := toFixed_mem
  store_of_mem := fun member stored => by
    rw [(toFixed_eq_some stored).1, toUnit_of_mem_fixedGrid halfAway_nearest member]
  store_stored := fun stored => toFixed_of_mem (toFixed_mem stored) (toFixed_eq_some stored).2
  journalTypes := checkedJournalTypes ++ writtenJournalTypes
  stepTypes := checkedStepTypes ++ writtenStepTypes
  defaultStatuses := checkedDefaultStatuses ++ writtenDefaultStatuses

/-- The deployed arithmetic under the `CHECK` lists as migrated. -/
def migratedBackend : Backend :=
  { decimalBackend with
    journalTypes := checkedJournalTypes
    stepTypes := checkedStepTypes
    defaultStatuses := checkedDefaultStatuses }

/-- Exact arithmetic and unbounded columns, with the literals that the code writes added to the
`CHECK` lists. -/
def exactBackend : Backend where
  round := id
  store := some
  divide := fun x y => x / y
  grid := ⊤
  round_zero := rfl
  round_pos := id
  store_zero := rfl
  store_mem := fun _ => AddSubgroup.mem_top _
  store_of_mem := fun _ stored => (Option.some.inj stored).symm
  store_stored := fun _ => rfl
  journalTypes := checkedJournalTypes ++ writtenJournalTypes
  stepTypes := checkedStepTypes ++ writtenStepTypes
  defaultStatuses := checkedDefaultStatuses ++ writtenDefaultStatuses

@[simp] theorem exactBackend_round (x : ℚ) : exactBackend.round x = x := rfl

@[simp] theorem exactBackend_store (x : ℚ) : exactBackend.store x = some x := rfl

namespace Backend

variable (backend : Backend)

/-- `x + y` of two `Decimal`s. -/
def add (x y : ℚ) : ℚ := backend.round (x + y)

/-- `x - y` of two `Decimal`s. -/
def sub (x y : ℚ) : ℚ := backend.round (x - y)

/-- `x * y` of two `Decimal`s. -/
def mul (x y : ℚ) : ℚ := backend.round (x * y)

/-- `x / y` of two `Decimal`s, `y` not being zero. -/
def div (x y : ℚ) : ℚ := backend.round (x / y)

/-- `abs(x)` of a `Decimal`. -/
def abs (x : ℚ) : ℚ := backend.round |x|

/-- `sum` of `Decimal`s. -/
def sum (xs : List ℚ) : ℚ := xs.foldl backend.add 0

end Backend

/-- Exception classes that the services raise. -/
inductive ExceptionClass
  | validationError
  | insufficientMarginError
  | stateTransitionError
  | runtimeError
  | typeError
  | valueError
  | keyError
  | attributeError
  | ledgerImbalanceError
  deriving DecidableEq, Repr

/-- Errors that the database raises. -/
inductive ServerError
  | foreignKeyViolation (constraint : String)
  | uniqueViolation (constraint : String)
  | checkViolation (constraint : String)
  | numericValueOutOfRange
  | invalidTextRepresentation (value : Text)
  | unbalancedJournal (journalId : Uuid) (debits credits : ℚ)
  | insufficientPrivilege (table : String)
  | undefinedColumn (column : String)
  | inFailedSqlTransaction
  deriving DecidableEq, Repr

/-- An exception in a service. -/
inductive Failure
  | raised (exception : ExceptionClass) (message : Text)
  | server (error : ServerError)
  deriving DecidableEq, Repr

/-- `str(exc)`. -/
def Failure.message : Failure → Text
  | .raised _ message => message
  | .server (.foreignKeyViolation constraint) =>
      [.literal "violates foreign key constraint ", .literal constraint]
  | .server (.uniqueViolation constraint) =>
      [.literal "duplicate key value violates unique constraint ", .literal constraint]
  | .server (.checkViolation constraint) =>
      [.literal "violates check constraint ", .literal constraint]
  | .server .numericValueOutOfRange => [.literal "numeric field overflow"]
  | .server (.invalidTextRepresentation value) =>
      .literal "invalid input syntax for type uuid: " :: value
  | .server (.unbalancedJournal journalId debits credits) =>
      [.literal "Journal ", .uuid journalId, .literal " is unbalanced: debits=", .decimal debits,
        .literal " credits=", .decimal credits]
  | .server (.insufficientPrivilege table) =>
      [.literal "permission denied for table ", .literal table]
  | .server (.undefinedColumn column) =>
      [.literal "column ", .literal column, .literal " does not exist"]
  | .server .inFailedSqlTransaction => [.literal "current transaction is aborted"]

/-- Code inside one database transaction. -/
abbrev Sql (α : Type) : Type := Transaction Database Failure α

export Transaction (read write raise require)

/-- Run statements under a condition. -/
def runWhen (condition : Prop) [Decidable condition] (body : Sql Unit) : Sql Unit :=
  if condition then body else pure ()

/-- Run statements on the value of an optional row. -/
def whenFound {α : Type} (row : Option α) (body : α → Sql Unit) : Sql Unit :=
  match row with
  | some row => body row
  | none => pure ()

/-- `uuid.uuid4()`, and `gen_random_uuid()` of a column default. -/
def uuid4 : Sql Uuid := do
  let db ← read
  write fun db => { db with nextUuid := db.nextUuid + 1 }
  pure db.nextUuid

/-- Assignment of a value to a `NUMERIC(28, 8)` column. -/
def castNumeric (backend : Backend) (x : ℚ) : Sql ℚ :=
  match backend.store x with
  | some stored => pure stored
  | none => raise (.server .numericValueOutOfRange)

theorem castNumeric_eq_ok {backend : Backend} {x y : ℚ} {db after : Database} :
    castNumeric backend x db = .ok (y, after) ↔ backend.store x = some y ∧ db = after := by
  rw [castNumeric]
  cases stored : backend.store x with
  | none => simp
  | some value => simp

/-- Foreign key to `members`. -/
def requireMember (memberId : Uuid) (constraint : String) : Sql Unit := do
  let db ← read
  require (memberId ∈ db.members.map Member.id) (.server (.foreignKeyViolation constraint))

theorem requireMember_eq_ok {memberId : Uuid} {constraint : String} {value : Unit}
    {db after : Database} :
    requireMember memberId constraint db = .ok (value, after) ↔
      memberId ∈ db.members.map Member.id ∧ db = after := by
  rw [requireMember, Transaction.bind_of_ok (Transaction.read_apply db), Transaction.require_eq_ok]

theorem requireMember_of_mem (db : Database) {memberId : Uuid} {constraint : String}
    (member : memberId ∈ db.members.map Member.id) :
    requireMember memberId constraint db = .ok ((), db) :=
  requireMember_eq_ok.mpr ⟨member, rfl⟩

/-- `INSERT INTO journals` with status `confirmed`, the only status written. -/
def insertJournal (backend : Backend) (journalId : Uuid) (journalType : JournalType)
    (referenceType : String) (referenceId : Option Uuid) : Sql Unit := do
  require (journalType ∈ backend.journalTypes) (.server (.checkViolation "chk_journals_type"))
  write fun db =>
    { db with
      journals := db.journals ++
        [{ id := journalId, journalType, referenceType, referenceId, status := .confirmed }] }

/-- `CHECK ((debit > 0 AND credit = 0) OR (debit = 0 AND credit > 0))`; it entails the other row
check, `debit >= 0 AND credit >= 0`. -/
def JournalEntry.OneSided (entry : JournalEntry) : Prop :=
  (0 < entry.debit ∧ entry.credit = 0) ∨ (entry.debit = 0 ∧ 0 < entry.credit)

instance (entry : JournalEntry) : Decidable entry.OneSided :=
  inferInstanceAs (Decidable (_ ∨ _))

/-- `INSERT INTO journal_entries`. -/
def insertJournalEntry (backend : Backend) (journalId accountId : Uuid) (debit credit : ℚ) :
    Sql Unit := do
  let debit ← castNumeric backend debit
  let credit ← castNumeric backend credit
  let entry : JournalEntry := { journalId, accountId, debit, credit }
  require entry.OneSided (.server (.checkViolation "journal_entries_check"))
  let db ← read
  require (journalId ∈ db.journals.map Journal.id)
    (.server (.foreignKeyViolation "journal_entries_journal_id_fkey"))
  require (accountId ∈ db.accounts.map Account.id)
    (.server (.foreignKeyViolation "journal_entries_account_id_fkey"))
  write fun db => { db with journalEntries := db.journalEntries ++ [entry] }

theorem insertJournal_eq_ok {backend : Backend} {journalId : Uuid} {journalType : JournalType}
    {referenceType : String} {referenceId : Option Uuid} {db after : Database} :
    insertJournal backend journalId journalType referenceType referenceId db = .ok ((), after) ↔
      journalType ∈ backend.journalTypes ∧
        after =
          { db with
            journals := db.journals ++
              [⟨journalId, journalType, referenceType, referenceId, .confirmed⟩] } := by
  simp only [insertJournal, bind_eq_ok, Transaction.require_eq_ok, Transaction.write_apply,
    Except.ok.injEq, Prod.mk.injEq]
  grind

theorem insertJournalEntry_eq_ok {backend : Backend} {journalId accountId : Uuid}
    {debit credit : ℚ} {db after : Database} :
    insertJournalEntry backend journalId accountId debit credit db = .ok ((), after) ↔
      ∃ storedDebit storedCredit,
        backend.store debit = some storedDebit ∧ backend.store credit = some storedCredit ∧
          JournalEntry.OneSided ⟨journalId, accountId, storedDebit, storedCredit⟩ ∧
          journalId ∈ db.journals.map Journal.id ∧ accountId ∈ db.accounts.map Account.id ∧
          after =
            { db with
              journalEntries := db.journalEntries ++
                [⟨journalId, accountId, storedDebit, storedCredit⟩] } := by
  simp only [insertJournalEntry, bind_eq_ok, castNumeric_eq_ok, Transaction.require_eq_ok,
    Transaction.write_apply, Transaction.read_apply, Except.ok.injEq, Prod.mk.injEq]
  grind

/-- Sum of a column over the entries of one journal. -/
def journalTotal (column : JournalEntry → ℚ) (db : Database) (journalId : Uuid) : ℚ :=
  fiberSum JournalEntry.journalId column db.journalEntries journalId

/-- `validate_journal_balance`, with its two `NUMERIC(28, 8)` variables. -/
def validateJournalBalance (backend : Backend) (db : Database) (new : JournalEntry) :
    Except Failure Unit :=
  match backend.store (journalTotal JournalEntry.debit db new.journalId),
      backend.store (journalTotal JournalEntry.credit db new.journalId) with
  | some totalDebit, some totalCredit =>
      if totalDebit ≠ totalCredit then
        .error (.server (.unbalancedJournal new.journalId totalDebit totalCredit))
      else .ok ()
  | _, _ => .error (.server .numericValueOutOfRange)

/-- `trg_validate_journal_balance`: a commit runs the check for each inserted entry.  Entries are
never updated or deleted, so the inserted ones are those beyond the old table. -/
def checkInsertedEntries (backend : Backend) (old new : Database) : Except Failure Unit :=
  (new.journalEntries.drop old.journalEntries.length).forM (validateJournalBalance backend new)

/-- The database server. -/
def server (backend : Backend) : Server Database Failure where
  deferred := checkInsertedEntries backend
  aborts := fun failure =>
    match failure with
    | .server _ => true
    | .raised _ _ => false
  inFailedTransaction := .server .inFailedSqlTransaction

/-- A list of checks passes if each of them does. -/
theorem forM_eq_ok {α : Type} {items : List α} {check : α → Except Failure Unit} :
    items.forM check = .ok () ↔ ∀ item ∈ items, check item = .ok () := by
  induction items with
  | nil => exact iff_of_true rfl fun item member => absurd member List.not_mem_nil
  | cons head tail induction =>
      have unfolded : (head :: tail).forM check = (check head >>= fun _ => tail.forM check) := rfl
      rw [unfolded, List.forall_mem_cons, ← induction]
      cases first : check head with
      | ok done => exact (and_iff_right rfl).symm
      | error failure =>
          exact iff_of_false (fun passed => by cases passed) fun both => by cases both.1

/-- A commit without new entries is accepted. -/
theorem accepted_of_same {backend : Backend} {db after : Database}
    (same : after.journalEntries = db.journalEntries) :
    (server backend).deferred db after = .ok () := by
  simp [server, checkInsertedEntries, same]
  rfl

/-- What a successful outcome leaves, with a database for the other case. -/
theorem ok_of_isSome {α : Type} {outcome : Except Failure (α × Database)}
    (otherwise : Database) (returned : outcome.toOption.isSome = true) :
    ∃ value, outcome = .ok (value, outcome.toOption.elim otherwise Prod.snd) := by
  cases outcome with
  | error failure => simp [Except.toOption] at returned
  | ok pair => exact ⟨pair.1, rfl⟩

theorem accepted_of_toOption {check : Except Failure Unit}
    (passed : check.toOption = some ()) : check = .ok () := by
  cases check with
  | ok done => rfl
  | error failure => simp [Except.toOption] at passed

/-- Column `balance` of the view `account_balances`: the entries of one account, debits less
credits.  The view joins confirmed journals on the outer side and reads none of their columns, so
every entry counts. -/
def accountBalance (db : Database) (accountId : Uuid) : ℚ :=
  fiberSum JournalEntry.accountId (fun entry => entry.debit - entry.credit) db.journalEntries
    accountId

/-- The view `account_balances`. -/
def accountBalances (db : Database) : List (Account × ℚ) :=
  db.accounts.map fun account => (account, accountBalance db account.id)

/-- First account of a member with a type and a pool. -/
def findAccount (db : Database) (memberId : Uuid) (accountType : AccountType) (pool : Pool) :
    Option Account :=
  db.accounts.find? fun account =>
    account.memberId = memberId ∧ account.accountType = accountType ∧ account.pool = pool

/-- First member with the LEI of the house account. -/
def findCcp (db : Database) : Option Member := db.members.find? fun member => member.lei = ccpLei

structure TraceContext where
  traceId : Uuid
  actor : String
  parentEventId : Option Text
  deriving DecidableEq, Repr

/-- `TraceContext.new_system`. -/
def TraceContext.newSystem (serviceName : String) : Sql TraceContext := do
  let traceId ← uuid4
  pure { traceId, actor := "system:" ++ serviceName, parentEventId := none }

/-- The trace of the caller, or a new one of the service. -/
def traceOrSystem (trace : Option TraceContext) (serviceName : String) : Sql TraceContext :=
  match trace with
  | some trace => pure trace
  | none => TraceContext.newSystem serviceName

/-- `INSERT INTO state_transitions`. -/
def insertStateTransition (transition : StateTransition) : Sql Unit :=
  write fun db => { db with stateTransitions := db.stateTransitions ++ [transition] }

/-- `{**payload, key: value}`. -/
def Payload.set (payload : Payload) (key : String) (value : Json) : Payload :=
  update key value (fun _ => value) payload

/-- `payload.get(key)`. -/
def Payload.get? (payload : Payload) (key : String) : Option Json :=
  (payload.find? fun field => field.1 = key).map Prod.snd

@[simp] theorem Payload.get?_set_same (payload : Payload) (key : String) (value : Json) :
    (payload.set key value).get? key = some value := by
  induction payload with
  | nil => simp [Payload.set, Payload.get?, update]
  | cons field rest induction =>
      obtain ⟨name, old⟩ := field
      by_cases same : name = key
      · simp [Payload.set, Payload.get?, update, same]
      · simpa [Payload.set, Payload.get?, update, same] using induction

theorem Payload.get?_set_other (payload : Payload) {key other : String} (apart : other ≠ key)
    (value : Json) : (payload.set key value).get? other = payload.get? other := by
  induction payload with
  | nil => simp [Payload.set, Payload.get?, update, apart.symm]
  | cons field rest induction =>
      obtain ⟨name, old⟩ := field
      by_cases same : name = key
      · simp [Payload.set, Payload.get?, update, same, apart.symm]
      · by_cases here : name = other
        · subst here
          simp [Payload.set, Payload.get?, update, same]
        · simpa [Payload.set, Payload.get?, update, same, here] using induction

/-- `insert_outbox_event`. -/
def insertOutboxEvent (aggregateType : String) (aggregateId : Uuid) (eventType topic : String)
    (payload : Payload) (traceId : Option Uuid) : Sql Uuid := do
  let eventId ← uuid4
  let payloadWithId := payload.set "event_id" (.uuid eventId)
  let payloadWithTrace :=
    match traceId with
    | some traceId => payloadWithId.set "trace_id" (.uuid traceId)
    | none => payloadWithId
  let rowId ← uuid4
  write fun db =>
    { db with
      outboxEvents := db.outboxEvents ++
        [{ id := rowId, aggregateType, aggregateId, eventType, topic, payload := payloadWithTrace
           createdAt := db.now, publishedAt := none, traceId }] }
  pure eventId

section Respects

open Transaction

variable {backend : Backend} {relation : Database → Database → Prop} [Std.Refl relation]

theorem respects_castNumeric (x : ℚ) : Respects relation (castNumeric backend x) := by
  rw [castNumeric]
  split
  · exact respects_pure _
  · exact respects_raise _

theorem respects_runWhen (condition : Prop) [Decidable condition] {body : Sql Unit}
    (respects : Respects relation body) : Respects relation (runWhen condition body) :=
  respects_ite respects (respects_pure ())

theorem respects_whenFound {α : Type} (row : Option α) {body : α → Sql Unit}
    (respects : ∀ value, row = some value → Respects relation (body value)) :
    Respects relation (whenFound row body) := by
  cases row with
  | some value => exact respects value rfl
  | none => exact respects_pure ()

variable [IsTrans Database relation]

theorem respects_requireMember (memberId : Uuid) (constraint : String) :
    Respects relation (requireMember memberId constraint) :=
  respects_bind respects_read fun _ => respects_require _ _

theorem respects_traceOrSystem (numbers : Respects relation uuid4) (trace : Option TraceContext)
    (serviceName : String) : Respects relation (traceOrSystem trace serviceName) := by
  cases trace with
  | some trace => exact respects_pure trace
  | none => exact respects_bind numbers fun _ => respects_pure _

end Respects

/-- The relation admits what a posting consists of: identifiers, journals, entries and the margin
requirements that go with them.  Functions that write nothing else respect it. -/
structure AdmitsPostings (backend : Backend) (relation : Database → Database → Prop) : Prop where
  uuid4 : Transaction.Respects relation uuid4
  journal : ∀ journalId journalType referenceType referenceId,
    Transaction.Respects relation
      (insertJournal backend journalId journalType referenceType referenceId)
  entry : ∀ journalId accountId debit credit,
    Transaction.Respects relation (insertJournalEntry backend journalId accountId debit credit)
  requirements : ∀ (db : Database) rows, relation db { db with marginRequirements := rows }

theorem AdmitsPostings.mono {backend : Backend} {relation weaker : Database → Database → Prop}
    (admits : AdmitsPostings backend relation)
    (implies : ∀ {db after}, relation db after → weaker db after) :
    AdmitsPostings backend weaker where
  uuid4 := fun _ _ _ ran => implies (admits.uuid4 ran)
  journal := fun _ _ _ _ _ _ _ ran => implies (admits.journal _ _ _ _ ran)
  entry := fun _ _ _ _ _ _ _ ran => implies (admits.entry _ _ _ _ ran)
  requirements := fun db rows => implies (admits.requirements db rows)

end ClearingHouse
