import ClearingHouse.Statements

/-!
# Seeding

The default fund contributions that `seed-members.py` books before the house opens.
-/

namespace ClearingHouse

namespace Seeding

open Transactions

/-- `ACCOUNT_TYPES`. -/
def accountTypes : List AccountType :=
  [.marginIm, .marginVm, .defaultFund, .collateral, .settlement]

/-- `POOLS`. -/
def pools : List Pool := [.available, .locked]

/-- The accounts that seeding opens for one member, numbered from `firstId`. -/
def seedAccounts (firstId memberId : Uuid) (types : List AccountType) : List Account :=
  (types.flatMap fun accountType => pools.map fun pool => (accountType, pool)).mapIdx fun i kind =>
    { id := firstId + i, memberId, accountType := kind.1, currency := "USD", pool := kind.2 }

/-- `DEFAULT_FUND_AMOUNTS`. -/
def defaultFundAmounts : List (String × ℚ) :=
  [("Alpha Capital Markets", 5000000), ("Beta Securities LLC", 7500000),
    ("Gamma Digital Assets", 3000000), ("Delta Institutional Trading", 10000000),
    ("Epsilon Fund Services", 6000000)]

/-- Loop body of `seed_default_fund`: the fund account is debited and the equity of the house
credited. -/
def seedContribution (backend : Backend) (ccpId memberId : Uuid) (amount : ℚ) : Sql Unit := do
  let db ← read
  match findAccount db memberId .defaultFund .available,
      findAccount db ccpId .ccpEquity .available with
  | some memberAcct, some ccpAcct => do
      let journalId ← uuid4
      insertJournal backend journalId .defaultFundContribution "seed" none
      insertJournalEntry backend journalId memberAcct.id amount 0
      insertJournalEntry backend journalId ccpAcct.id 0 amount
  | _, _ => pure ()

/-- `seed_default_fund`. -/
def seedDefaultFund (backend : Backend) (memberIds : String → Uuid) (ccpId : Uuid) : Sql Unit :=
  defaultFundAmounts.forM fun contribution =>
    seedContribution backend ccpId (memberIds contribution.1) contribution.2

theorem respects_seedDefaultFund {backend : Backend} {relation : Database → Database → Prop}
    [Std.Refl relation] [IsTrans Database relation] (admits : AdmitsPostings backend relation)
    (memberIds : String → Uuid) (ccpId : Uuid) :
    Transaction.Respects relation (seedDefaultFund backend memberIds ccpId) := by
  refine Transaction.respects_forM (fun _ => Transaction.respects_bind
    Transaction.respects_read fun _ => ?_) _
  split
  · exact Transaction.respects_bind admits.uuid4 fun _ =>
      Transaction.respects_bind (admits.journal ..) fun _ =>
        Transaction.respects_bind (admits.entry ..) fun _ => admits.entry ..
  · exact Transaction.respects_pure ()

end Seeding

end ClearingHouse
