import ClearingHouse.Ledger.Grants

/-!
# The chart of accounts

Where the services post, whatever they are called with: the type of a journal determines the
accounts that it debits and credits.  No journal debits the equity of the house or locked initial
margin, so the house never earns its equity back and margin that is locked is never released.
-/

namespace ClearingHouse

open Fibers StepSystem Tables Transactions Transactions.Session

variable {backend : Backend} {transfers : AccountType → Prop}

/-- The entry is on an account where journals of its type are posted. -/
def JournalEntry.InPlace (margin : AccountType → Prop) (db : Database) (entry : JournalEntry) :
    Prop :=
  ∃ journal ∈ db.journals, ∃ account ∈ db.accounts, journal.id = entry.journalId ∧
    account.id = entry.accountId ∧
      Charted margin journal.journalType account entry.debit entry.credit

/-- Entries are added in place, each on one side. -/
structure PostedInPlace (margin : AccountType → Prop) (db after : Database) : Prop where
  accounts : after.accounts = db.accounts
  journals : db.journals <+: after.journals
  entries : ∃ added, after.journalEntries = db.journalEntries ++ added ∧
    ∀ entry ∈ added, entry.OneSided ∧ entry.InPlace margin after

theorem JournalEntry.InPlace.of_prefix {margin : AccountType → Prop} {db after : Database}
    {entry : JournalEntry} (inPlace : entry.InPlace margin db)
    (accounts : after.accounts = db.accounts) (journals : db.journals <+: after.journals) :
    entry.InPlace margin after := by
  obtain ⟨journal, posted, account, known, places⟩ := inPlace
  exact ⟨journal, journals.subset posted, account, accounts ▸ known, places⟩

theorem PostedInPlace.of_same {margin : AccountType → Prop} {db after : Database}
    (accounts : after.accounts = db.accounts) (journals : db.journals <+: after.journals)
    (entries : after.journalEntries = db.journalEntries) : PostedInPlace margin db after :=
  ⟨accounts, journals, [], by simp [entries]⟩

instance (margin : AccountType → Prop) : Std.Refl (PostedInPlace margin) :=
  ⟨fun _ => .of_same rfl List.prefix_rfl rfl⟩

instance (margin : AccountType → Prop) : IsTrans Database (PostedInPlace margin) where
  trans db middle after head tail := by
    obtain ⟨first, first_eq, first_placed⟩ := head.entries
    obtain ⟨second, second_eq, second_placed⟩ := tail.entries
    refine ⟨tail.accounts.trans head.accounts, head.journals.trans tail.journals,
      first ++ second, by rw [second_eq, first_eq, List.append_assoc], ?_⟩
    refine List.forall_mem_append.mpr ⟨fun entry member => ?_, second_placed⟩
    obtain ⟨sided, inPlace⟩ := first_placed entry member
    exact ⟨sided, inPlace.of_prefix tail.accounts tail.journals⟩

theorem postedInPlace_of_writes {may : Allowance} {db after : Database}
    (writes : RowWrites backend may db after) : PostedInPlace may.margin db after := by
  cases writes with
  | journal => exact .of_same rfl (List.prefix_append ..) rfl
  | journalEntry entry journal account valid posted own _ known same charted =>
      refine ⟨rfl, List.prefix_rfl, [entry], rfl, ?_⟩
      simp only [List.mem_singleton, forall_eq]
      exact ⟨valid.oneSided, journal, posted, account, known, own, same, charted⟩
  | _ => exact .of_same rfl List.prefix_rfl rfl

/-- Initial margin and whatever else collateral is transferred to. -/
def MarginOr (transfers : AccountType → Prop) (accountType : AccountType) : Prop :=
  accountType = .marginIm ∨ transfers accountType

/-- Everything is allowed, and collateral goes to margin. -/
def marginTransfers (transfers : AccountType → Prop) : Allowance :=
  { Allowance.everything with margin := MarginOr transfers }

theorem allows_marginTransfers (transfers : AccountType → Prop) (first : Database) :
    Allows backend (marginTransfers transfers) first where
  marginCall := trivial
  trade := fun _ => trivial
  leg := fun _ _ _ _ _ _ => trivial
  payable := fun _ _ _ _ _ _ _ => trivial
  variation := .inl trivial
  settlement := .inl trivial
  deposit := trivial
  withdrawal := trivial
  margin := .inl rfl
  waterfall := trivial
  defaults := trivial
  contribution := trivial

theorem operatingWith_marginOr {db : Database} {label : HouseLabel}
    (operating : OperatingWith transfers db label) :
    OperatingWith (MarginOr transfers) db label := by
  cases label with
  | elsewhere => exact operating
  | operation operation mark =>
      cases operation with
      | transferToMargin => exact .inr operating
      | _ => trivial

theorem postedInPlace_of_run {first last : Database}
    (run : Run (Operates backend) (OperatingWith transfers) first last) :
    PostedInPlace (MarginOr transfers) first last :=
  related_of_written (fun _ _ => postedInPlace_of_writes)
    (written_of_run (allows_marginTransfers transfers first)
      (run.mono fun _ _ => operatingWith_marginOr))

/-- Every entry that a run adds is where journals of its type are posted. -/
theorem inPlace_of_run {first last : Database}
    (run : Run (Operates backend) (OperatingWith transfers) first last) :
    ∀ entry ∈ last.journalEntries.drop first.journalEntries.length,
      entry.InPlace (MarginOr transfers) last := by
  obtain ⟨added, entries, placed⟩ := (postedInPlace_of_run run).entries
  intro entry member
  rw [entries, List.drop_left] at member
  exact (placed entry member).2

private theorem locked_tradelessHouse :
    ∃ middle ∈ committedStates (called decimalBackend none (tenUnits.body decimalBackend))
        tradelessHouse,
      ∃ last ∈ committedStates
        (called decimalBackend (some ("trade-ingestion", [.uuid 21]))
          (submittedUnits.body decimalBackend)) middle,
        last.journalEntries.length = 4 ∧ accountBalance last 8 = -9 := by
  decide +kernel

/-- A trade is submitted and novated, and both members lock margin. -/
theorem locking_tradelessHouse :
    ∃ last, Run (Operates decimalBackend) (OperatingWith fun _ => False) tradelessHouse last ∧
      last.journalEntries.length = 4 ∧ accountBalance last 8 = -9 := by
  obtain ⟨middle, submitted, last, novated, posted, locked⟩ := locked_tradelessHouse
  refine ⟨last, .snoc (.snoc (.refl _) ?_ (.operation submitted)) ?_ (.operation novated),
    posted, locked⟩
  · trivial
  · trivial

theorem inPlace_of_run_tradelessHouse :
    ∃ last : Database, last.journalEntries.length = 4 ∧
      ∀ entry ∈ last.journalEntries.drop 0, entry.InPlace (MarginOr fun _ => False) last := by
  obtain ⟨last, run, posted, -⟩ := locking_tradelessHouse
  exact ⟨last, posted, inPlace_of_run run⟩

/-- No journal debits the account. -/
def Account.Undebited (margin : AccountType → Prop) (account : Account) : Prop :=
  ∀ journalType, ¬Debits margin journalType account.accountType account.pool

/-- No journal credits the account. -/
def Account.Uncredited (account : Account) : Prop :=
  ∀ journalType, ¬Credits journalType account.accountType account.pool

variable {first last : Database} {account : Account}

/-- What a run adds on an account is as the account allows. -/
theorem added_of_run (run : Run (Operates backend) (OperatingWith transfers) first last)
    (known : account ∈ first.accounts) :
    ∃ added, accountBalance last account.id = accountBalance first account.id +
        fiberSum JournalEntry.accountId (fun entry => entry.debit - entry.credit) added account.id ∧
      ∀ entry ∈ added, entry.accountId = account.id → entry.OneSided ∧
        ∃ journalType, Charted (MarginOr transfers) journalType account entry.debit
          entry.credit := by
  have posted := postedInPlace_of_run run
  obtain ⟨added, entries, placed⟩ := posted.entries
  refine ⟨added, by rw [accountBalance, entries, fiberSum_append, ← accountBalance],
    fun entry member own => ?_⟩
  obtain ⟨sided, journal, -, other, there, -, same, charted⟩ := placed entry member
  have known' : account ∈ last.accounts := posted.accounts ▸ known
  obtain rfl : other = account :=
    List.inj_on_of_nodup_map last.accountIds_nodup there known' (same.trans own)
  exact ⟨sided, journal.journalType, charted⟩

/-- What is never debited never rises. -/
theorem accountBalance_le_of_run (undebited : account.Undebited (MarginOr transfers))
    (run : Run (Operates backend) (OperatingWith transfers) first last)
    (known : account ∈ first.accounts) :
    accountBalance last account.id ≤ accountBalance first account.id := by
  obtain ⟨added, balance, placed⟩ := added_of_run run known
  rw [balance, add_le_iff_nonpos_right]
  apply fiberSum_nonpos
  intro entry member own
  obtain ⟨sided, journalType, charted⟩ := placed entry member own
  rcases sided with ⟨debited, -⟩ | ⟨none, credited⟩
  · exact absurd (charted.debited debited.ne') (undebited journalType)
  · linarith

/-- What is never credited never falls. -/
theorem le_accountBalance_of_run (uncredited : account.Uncredited)
    (run : Run (Operates backend) (OperatingWith transfers) first last)
    (known : account ∈ first.accounts) :
    accountBalance first account.id ≤ accountBalance last account.id := by
  obtain ⟨added, balance, placed⟩ := added_of_run run known
  rw [balance, le_add_iff_nonneg_right]
  apply fiberSum_nonneg
  intro entry member own
  obtain ⟨sided, journalType, charted⟩ := placed entry member own
  rcases sided with ⟨debited, none⟩ | ⟨-, credited⟩
  · linarith
  · exact absurd (charted.credited credited.ne') (uncredited journalType)

/-- Equity is debited nowhere, unless collateral is transferred to it. -/
theorem undebited_equity (untransferred : ¬transfers .ccpEquity)
    (equity : account.accountType = .ccpEquity) : account.Undebited (MarginOr transfers) := by
  intro journalType
  cases journalType <;> simp [Debits, MarginOr, equity, untransferred]

/-- Among locked accounts only those of variation margin are debited. -/
theorem undebited_locked (locked : account.pool = .locked)
    (fixed : account.accountType ≠ .marginVm) : account.Undebited (MarginOr transfers) := by
  intro journalType
  cases journalType <;> simp [Debits, locked, fixed]

/-- Among locked accounts only those of margin are credited. -/
theorem uncredited_locked (locked : account.pool = .locked)
    (unmargined : account.accountType ≠ .marginIm) (fixed : account.accountType ≠ .marginVm) :
    account.Uncredited := by
  intro journalType
  cases journalType <;> simp [Credits, locked, unmargined, fixed]

/-- The equity of the house never rises and locked initial margin is never released; other locked
accounts, variation margin apart, are not used. -/
theorem oneWay_of_run (untransferred : ¬transfers .ccpEquity)
    (run : Run (Operates backend) (OperatingWith transfers) first last)
    (known : account ∈ first.accounts) :
    (account.accountType = .ccpEquity ∨ account.accountType = .marginIm ∧ account.pool = .locked →
      accountBalance last account.id ≤ accountBalance first account.id) ∧
    (account.pool = .locked → account.accountType ≠ .marginIm → account.accountType ≠ .marginVm →
      accountBalance last account.id = accountBalance first account.id) := by
  refine ⟨?_, fun locked unmargined fixed => le_antisymm ?_ ?_⟩
  · rintro (equity | ⟨initial, locked⟩)
    · exact accountBalance_le_of_run (undebited_equity untransferred equity) run known
    · refine accountBalance_le_of_run (undebited_locked locked ?_) run known
      rw [initial]
      exact nofun
  · exact accountBalance_le_of_run (undebited_locked locked fixed) run known
  · exact le_accountBalance_of_run (uncredited_locked locked unmargined fixed) run known

/-- The margin that member 1 has locked. -/
theorem oneWay_of_run_tradelessHouse :
    ∃ last, accountBalance last 8 = -9 ∧
      accountBalance last 8 ≤ accountBalance tradelessHouse 8 := by
  obtain ⟨last, run, -, locked⟩ := locking_tradelessHouse
  have account : (⟨8, 1, .marginIm, "USD", .locked⟩ : Account) ∈ tradelessHouse.accounts := by
    decide
  exact ⟨last, locked, (oneWay_of_run id run account).1 (.inr ⟨rfl, rfl⟩)⟩

end ClearingHouse
