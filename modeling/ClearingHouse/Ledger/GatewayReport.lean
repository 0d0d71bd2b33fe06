import ClearingHouse.Ledger.Reconciliation

/-!
# The report of the gateway

The API gateway repeats the reconciliation with its own treatment of nulls: a balance that is null
leaves the recomputed one as it is, where the engine subtracts zero.  The view has no null balance,
so the two reports agree on every database.
-/

namespace ClearingHouse

namespace ApiGateway

open BalanceView DecimalRounding Fibers
open Reconciliation (AccountStatus ReportStatus ViewContent)

/-- `ReconciliationAccountResult`, whose numbers are texts. -/
structure ReconciliationAccountResult where
  accountId : Uuid
  expectedBalance : Text
  actualBalance : Text
  difference : Text
  status : AccountStatus
  deriving DecidableEq, Repr

/-- `ReconciliationReport`. -/
structure ReconciliationReport where
  status : ReportStatus
  globalBalanceOk : Bool
  journalIntegrityOk : Bool
  accountsChecked : ℕ
  mismatches : ℕ
  details : List ReconciliationAccountResult
  deriving DecidableEq, Repr

/-- `_check_global_balance`, the query of the engine. -/
def checkGlobalBalance (db : Database) : Bool := Reconciliation.checkGlobalBalance db

/-- `_check_journal_integrity`, the query of the engine. -/
def checkJournalIntegrity (db : Database) : Bool := Reconciliation.checkJournalIntegrity db

/-- The dictionary `actual_balances`, which keeps the nulls. -/
def actualBalances (content : ViewContent) : List (Uuid × Option ℚ) :=
  collect Prod.fst Prod.snd (fun row _ => row.2) content

/-- `actual_balances.get(account_id, 0)`. -/
def actualBalance (content : ViewContent) (accountId : Uuid) : Option ℚ :=
  (valueAt accountId (actualBalances content)).getD (some 0)

/-- `expected - actual if actual is not None else expected`. -/
def difference (expected : ℚ) : Option ℚ → ℚ
  | some actual => toDigits 28 (expected - actual)
  | none => expected

/-- `str` of a number that may be missing. -/
def strOptional : Option ℚ → Text
  | some value => [.decimal value]
  | none => [.literal "None"]

/-- One pass of the loop over the recomputed rows. -/
def compareRow (content : ViewContent) (progress : List ReconciliationAccountResult × ℕ)
    (row : Uuid × ℚ) : List ReconciliationAccountResult × ℕ :=
  let actual := actualBalance content row.1
  let diff := difference row.2 actual
  let result : ReconciliationAccountResult :=
    { accountId := row.1
      expectedBalance := [.decimal row.2]
      actualBalance := strOptional actual
      difference := [.decimal diff]
      status := if diff = 0 then .ok else .mismatch }
  (progress.1 ++ [result], if diff ≠ 0 then progress.2 + 1 else progress.2)

/-- `run_reconciliation`; its first query is the one of the engine. -/
def runReconciliation (db : Database) (content : ViewContent) : ReconciliationReport :=
  let globalOk := checkGlobalBalance db
  let journalOk := checkJournalIntegrity db
  let recomputed := Reconciliation.recomputedRows db
  let compared := recomputed.foldl (compareRow content) ([], 0)
  { status := if compared.2 = 0 ∧ globalOk = true ∧ journalOk = true then .pass else .fail
    globalBalanceOk := globalOk
    journalIntegrityOk := journalOk
    accountsChecked := recomputed.length
    mismatches := compared.2
    details := compared.1 }

/-- Account, expected balance, difference and verdict of a row, as texts. -/
abbrev Verdict := Uuid × Text × Text × AccountStatus

def ReconciliationAccountResult.verdict (result : ReconciliationAccountResult) : Verdict :=
  (result.accountId, result.expectedBalance, result.difference, result.status)

/-- The verdict of the engine, its numbers printed. -/
def engineVerdict (result : Reconciliation.AccountResult) : Verdict :=
  (result.accountId, [.decimal result.expectedBalance], [.decimal result.difference],
    result.status)

/-- The reports say the same, up to the form of their numbers. -/
structure Agree (gateway : ReconciliationReport) (engine : Reconciliation.ReconciliationReport) :
    Prop where
  status : gateway.status = engine.status
  globalBalanceOk : gateway.globalBalanceOk = engine.globalBalanceOk
  journalIntegrityOk : gateway.journalIntegrityOk = engine.journalIntegrityOk
  accountsChecked : gateway.accountsChecked = engine.accountsChecked
  mismatches : gateway.mismatches = engine.mismatches
  details : gateway.details.map ReconciliationAccountResult.verdict =
    engine.details.map engineVerdict

/-- The query `SELECT account_id, balance FROM account_balances`. -/
def viewContent (db : Database) : ViewContent :=
  (accountBalancesView db).map fun row => (row.1.id, some row.2)

/-- Subtracting zero leaves a number as it is, unless it has more digits than the context. -/
def Representable (x : ℚ) : Prop := toDigits 28 x = x

variable {content : ViewContent}

/-- A change that forgets the old value keeps that of the last row. -/
private theorem foldl_last {α β γ : Type} (image : β → γ) (value : α → β) (rows : List α)
    (start : Option β) :
    rows.foldl (fun _ row => some (image (value row))) (start.map image) =
      (rows.foldl (fun _ row => some (value row)) start).map image := by
  induction rows generalizing start with
  | nil => rfl
  | cons row rows induction => exact induction (some (value row))

/-- The engine reads a null balance as zero. -/
theorem engine_actualBalance (content : ViewContent) (accountId : Uuid) :
    Reconciliation.actualBalance content accountId =
      (actualBalance content accountId).getD 0 := by
  have dictionary : valueAt accountId (Reconciliation.actualBalances content) =
      (valueAt accountId (actualBalances content)).map fun balance => balance.getD 0 := by
    rw [Reconciliation.actualBalances, actualBalances, valueAt_collect, valueAt_collect]
    exact foldl_last (fun balance : Option ℚ => balance.getD 0) Prod.snd _ none
  rw [Reconciliation.actualBalance, actualBalance, dictionary]
  cases valueAt accountId (actualBalances content) <;> rfl

/-- The differences of the two services are the same unless the balance is null and the expected
one too long. -/
theorem difference_eq_iff (expected : ℚ) (actual : Option ℚ) :
    difference expected actual = toDigits 28 (expected - actual.getD 0) ↔
      (actual = none → Representable expected) := by
  cases actual with
  | none => simp [difference, Representable, eq_comm]
  | some balance => simp [difference]

/-- The verdict on a row with a given difference. -/
def verdictOf (difference : Uuid × ℚ → ℚ) (row : Uuid × ℚ) : Verdict :=
  (row.1, [.decimal row.2], [.decimal (difference row)],
    if difference row = 0 then .ok else .mismatch)

theorem verdictOf_inj {first second : Uuid × ℚ → ℚ} {row : Uuid × ℚ} :
    verdictOf first row = verdictOf second row ↔ first row = second row := by
  constructor
  · intro same
    simpa [verdictOf] using congrArg (fun verdict : Verdict => verdict.2.2.1) same
  · intro same
    rw [verdictOf, verdictOf, same]

/-- A loop that appends a verdict for each row and counts the differences. -/
theorem foldl_verdicts {Result : Type} (view : Result → Verdict) (difference : Uuid × ℚ → ℚ)
    {compare : List Result × ℕ → Uuid × ℚ → List Result × ℕ}
    (step : ∀ progress row,
      (compare progress row).1.map view = progress.1.map view ++ [verdictOf difference row] ∧
        (compare progress row).2 = progress.2 + if difference row ≠ 0 then 1 else 0)
    (rows : List (Uuid × ℚ)) (progress : List Result × ℕ) :
    (rows.foldl compare progress).1.map view =
        progress.1.map view ++ rows.map (verdictOf difference) ∧
      (rows.foldl compare progress).2 =
        progress.2 + (rows.map fun row => if difference row ≠ 0 then 1 else 0).sum := by
  induction rows generalizing progress with
  | nil => simp
  | cons row rows induction =>
      obtain ⟨verdicts, count⟩ := induction (compare progress row)
      obtain ⟨appended, counted⟩ := step progress row
      refine ⟨?_, ?_⟩
      · rw [List.foldl_cons, verdicts, appended, List.append_assoc, List.singleton_append,
          List.map_cons]
      · rw [List.foldl_cons, count, counted, List.map_cons, List.sum_cons, Nat.add_assoc]

/-- The difference that the gateway reports of a row. -/
def gatewayDifference (content : ViewContent) (row : Uuid × ℚ) : ℚ :=
  difference row.2 (actualBalance content row.1)

/-- The difference that the engine reports of a row. -/
def engineDifference (content : ViewContent) (row : Uuid × ℚ) : ℚ :=
  toDigits 28 (row.2 - Reconciliation.actualBalance content row.1)

theorem gateway_compared (content : ViewContent) (rows : List (Uuid × ℚ)) :
    (rows.foldl (compareRow content) ([], 0)).1.map ReconciliationAccountResult.verdict =
        rows.map (verdictOf (gatewayDifference content)) ∧
      (rows.foldl (compareRow content) ([], 0)).2 =
        (rows.map fun row => if gatewayDifference content row ≠ 0 then 1 else 0).sum := by
  have step : ∀ progress row,
      (compareRow content progress row).1.map ReconciliationAccountResult.verdict =
          progress.1.map ReconciliationAccountResult.verdict ++
            [verdictOf (gatewayDifference content) row] ∧
        (compareRow content progress row).2 =
          progress.2 + if gatewayDifference content row ≠ 0 then 1 else 0 := by
    intro progress row
    rw [compareRow, List.map_append]
    exact ⟨rfl, (apply_ite (progress.2 + ·) _ 1 0).symm⟩
  simpa using foldl_verdicts _ _ step rows ([], 0)

theorem engine_compared (content : ViewContent) (rows : List (Uuid × ℚ)) :
    (rows.foldl (Reconciliation.compareRow content) ([], 0)).1.map engineVerdict =
        rows.map (verdictOf (engineDifference content)) ∧
      (rows.foldl (Reconciliation.compareRow content) ([], 0)).2 =
        (rows.map fun row => if engineDifference content row ≠ 0 then 1 else 0).sum := by
  have step : ∀ progress row,
      (Reconciliation.compareRow content progress row).1.map engineVerdict =
          progress.1.map engineVerdict ++ [verdictOf (engineDifference content) row] ∧
        (Reconciliation.compareRow content progress row).2 =
          progress.2 + if engineDifference content row ≠ 0 then 1 else 0 := by
    intro progress row
    rw [Reconciliation.compareRow, List.map_append]
    exact ⟨rfl, (apply_ite (progress.2 + ·) _ 1 0).symm⟩
  simpa using foldl_verdicts _ _ step rows ([], 0)

/-- The reports agree exactly when no account with a null balance has an expected one that is too
long. -/
theorem agree_iff (db : Database) (content : ViewContent) :
    Agree (runReconciliation db content) (Reconciliation.runReconciliation db content) ↔
      ∀ row ∈ Reconciliation.recomputedRows db,
        actualBalance content row.1 = none → Representable row.2 := by
  have rows : (∀ row ∈ Reconciliation.recomputedRows db,
      actualBalance content row.1 = none → Representable row.2) ↔
        ∀ row ∈ Reconciliation.recomputedRows db,
          gatewayDifference content row = engineDifference content row :=
    forall₂_congr fun row _ => by
      rw [gatewayDifference, engineDifference, engine_actualBalance, difference_eq_iff]
  obtain ⟨gateway_verdicts, gateway_count⟩ :=
    gateway_compared content (Reconciliation.recomputedRows db)
  obtain ⟨engine_verdicts, engine_count⟩ :=
    engine_compared content (Reconciliation.recomputedRows db)
  rw [rows]
  constructor
  · intro agree
    have verdicts := gateway_verdicts.symm.trans (agree.details.trans engine_verdicts)
    exact fun row member => verdictOf_inj.mp (List.map_inj_left.mp verdicts row member)
  · intro same
    have verdicts : (Reconciliation.recomputedRows db).map
        (verdictOf (gatewayDifference content)) =
          (Reconciliation.recomputedRows db).map (verdictOf (engineDifference content)) :=
      List.map_inj_left.mpr fun row member => verdictOf_inj.mpr (same row member)
    have counts : ((Reconciliation.recomputedRows db).foldl (compareRow content) ([], 0)).2 =
        ((Reconciliation.recomputedRows db).foldl (Reconciliation.compareRow content)
          ([], 0)).2 := by
      rw [gateway_count, engine_count]
      refine congrArg List.sum (List.map_congr_left fun row member => ?_)
      rw [same row member]
    refine ⟨?_, rfl, rfl, rfl, counts, ?_⟩
    · simp only [runReconciliation, Reconciliation.runReconciliation, counts, checkGlobalBalance,
        checkJournalIntegrity]
    · exact gateway_verdicts.trans (verdicts.trans engine_verdicts.symm)

private theorem foldl_last_ne_null {rows : ViewContent} (filled : ∀ row ∈ rows, row.2 ≠ none)
    {start : Option (Option ℚ)} (started : start ≠ some none) :
    rows.foldl (fun _ row => some row.2) start ≠ some none := by
  induction rows generalizing start with
  | nil => exact started
  | cons row rows induction =>
      obtain ⟨first, further⟩ := List.forall_mem_cons.mp filled
      exact induction further (by simpa using first)

/-- No balance of the view is null. -/
theorem actualBalance_viewContent (db : Database) (accountId : Uuid) :
    actualBalance (viewContent db) accountId ≠ none := by
  have filled : ∀ row ∈ (viewContent db).filter fun row => row.1 = accountId, row.2 ≠ none := by
    intro row member
    obtain ⟨shown, -, rfl⟩ := List.mem_map.mp (List.mem_of_mem_filter member)
    exact Option.some_ne_none shown.2
  have last := foldl_last_ne_null filled (nofun : (none : Option (Option ℚ)) ≠ some none)
  rw [actualBalance, actualBalances, valueAt_collect]
  intro null
  rw [Option.getD_eq_iff] at null
  rcases null with found | ⟨-, zero⟩
  · exact last found
  · cases zero

/-- The two reconciliations agree on every database; and on any other content of the view as far as
its balances are not null or the expected ones not too long. -/
theorem reconciliations_agree (db : Database) :
    Agree (runReconciliation db (viewContent db))
        (Reconciliation.runReconciliation db (viewContent db)) ∧
      ∀ content,
        Agree (runReconciliation db content) (Reconciliation.runReconciliation db content) ↔
          ∀ row ∈ Reconciliation.recomputedRows db,
            actualBalance content row.1 = none → Representable row.2 := by
  refine ⟨?_, agree_iff db⟩
  rw [agree_iff]
  exact fun row _ null => absurd null (actualBalance_viewContent db row.1)

end ApiGateway

end ClearingHouse
