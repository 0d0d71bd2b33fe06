import ClearingHouse.Ledger.Sessions

/-!
# The locked pool of initial margin

Novation alone posts on accounts of type `MARGIN_IM` in the pool `LOCKED`: every other operation
finds its accounts by another type or another pool.  So the balances of the locked pool, and the
legs of novated trades, are what novations have made of them.
-/

namespace ClearingHouse

open Transactions Transactions.Transaction
open Fibers (fiberSum_append fiberSum_cons fiberSum_nil)

/-- An account in which initial margin is locked. -/
def Account.LocksMargin (account : Account) : Prop :=
  account.accountType = .marginIm ∧ account.pool = .locked

/-- Over the given accounts, the balances of the locked pool and the legs are as before. -/
structure SparesLocked (accounts : List Account) (db after : Database) : Prop where
  same : after.accounts = accounts
  legs : after.novatedTrades = db.novatedTrades
  balances : ∀ account ∈ accounts, account.LocksMargin →
    accountBalance after account.id = accountBalance db account.id

/-- From states with the given accounts on, code spares the locked pool. -/
def SparedFrom (accounts : List Account) (db after : Database) : Prop :=
  db.accounts = accounts → SparesLocked accounts db after

variable {backend : Backend} {accounts : List Account}

instance : Std.Refl (SparedFrom accounts) := ⟨fun _ same => ⟨same, rfl, fun _ _ _ => rfl⟩⟩

instance : IsTrans Database (SparedFrom accounts) where
  trans _ _ _ first second same := by
    have head := first same
    have tail := second head.same
    exact ⟨tail.same, tail.legs.trans head.legs, fun account member locks =>
      (tail.balances account member locks).trans (head.balances account member locks)⟩

/-- Code that spares the locked pool. -/
abbrev Sparing {α : Type} (accounts : List Account) (code : Sql α) : Prop :=
  Respects (SparedFrom accounts) code

/-- No locked account has the identifier. -/
def Unlocked (accounts : List Account) (accountId : Uuid) : Prop :=
  ∀ account ∈ accounts, account.LocksMargin → account.id ≠ accountId

theorem SparedFrom.of_same {db after : Database}
    (entries : after.journalEntries = db.journalEntries)
    (same : after.accounts = db.accounts) (legs : after.novatedTrades = db.novatedTrades) :
    SparedFrom accounts db after := fun start =>
  ⟨same.trans start, legs, fun account _ _ => by rw [accountBalance, accountBalance, entries]⟩

theorem unlocked_of_mem {db : Database} (same : db.accounts = accounts) {account : Account}
    (member : account ∈ db.accounts) (free : ¬account.LocksMargin) :
    Unlocked accounts account.id := by
  intro other inside locks same_id
  have equal : other = account :=
    List.inj_on_of_nodup_map db.accountIds_nodup (same ▸ inside) member same_id
  exact free (equal ▸ locks)

/-- An account found by another type or in another pool. -/
theorem unlocked_of_findAccount {db : Database} (same : db.accounts = accounts) {memberId : Uuid}
    {accountType : AccountType} {pool : Pool} {account : Account}
    (found : findAccount db memberId accountType pool = some account)
    (other : accountType ≠ .marginIm ∨ pool ≠ .locked) : Unlocked accounts account.id := by
  have selected := List.find?_some found
  simp only [decide_eq_true_eq] at selected
  refine unlocked_of_mem same (List.mem_of_find?_eq_some found) fun locks => ?_
  rcases other with type | pool
  · exact type (selected.2.1.symm.trans locks.1)
  · exact pool (selected.2.2.symm.trans locks.2)

/-- What follows a query may use the accounts. -/
theorem sparing_query {α : Type} {next : Database → Sql α}
    (spares : ∀ db, db.accounts = accounts → Sparing accounts (next db)) :
    Sparing accounts (read >>= next) := by
  intro db value after ran start
  exact spares db start ran start

theorem sparing_uuid4 : Sparing accounts uuid4 :=
  respects_bind respects_read fun _ =>
    respects_bind (respects_write fun _ => .of_same rfl rfl rfl) fun _ => respects_pure _

theorem sparing_castNumeric (x : ℚ) : Sparing accounts (castNumeric backend x) := by
  rw [castNumeric]
  split
  · exact respects_pure _
  · exact respects_raise _

theorem sparing_requireMember (memberId : Uuid) (constraint : String) :
    Sparing accounts (requireMember memberId constraint) :=
  respects_bind respects_read fun _ => respects_require _ _

theorem sparing_insertJournal (journalId : Uuid) (journalType : JournalType)
    (referenceType : String) (referenceId : Option Uuid) :
    Sparing accounts (insertJournal backend journalId journalType referenceType referenceId) :=
  respects_bind (respects_require _ _) fun _ => respects_write fun _ => .of_same rfl rfl rfl

theorem sparing_insertJournalEntry (journalId : Uuid) {accountId : Uuid} (debit credit : ℚ)
    (unlocked : Unlocked accounts accountId) :
    Sparing accounts (insertJournalEntry backend journalId accountId debit credit) := by
  intro db _ after ran start
  obtain ⟨storedDebit, storedCredit, -, -, -, -, -, rfl⟩ := insertJournalEntry_eq_ok.mp ran
  refine ⟨start, rfl, fun account member locks => ?_⟩
  rw [accountBalance, fiberSum_append, fiberSum_cons, fiberSum_nil, add_zero,
    if_neg (unlocked account member locks).symm, add_zero]
  rfl

theorem sparing_insertStateTransition (transition : StateTransition) :
    Sparing accounts (insertStateTransition transition) :=
  respects_write fun _ => .of_same rfl rfl rfl

theorem sparing_insertOutboxEvent (aggregateType : String) (aggregateId : Uuid)
    (eventType topic : String) (payload : Payload) (traceId : Option Uuid) :
    Sparing accounts
      (insertOutboxEvent aggregateType aggregateId eventType topic payload traceId) :=
  respects_bind sparing_uuid4 fun _ => respects_bind sparing_uuid4 fun _ =>
    respects_bind (respects_write fun _ => .of_same rfl rfl rfl) fun _ => respects_pure _

theorem sparing_traceOrSystem (trace : Option TraceContext) (serviceName : String) :
    Sparing accounts (traceOrSystem trace serviceName) := by
  cases trace with
  | some trace => exact respects_pure trace
  | none => exact respects_bind sparing_uuid4 fun _ => respects_pure _

theorem sparing_runWhen (condition : Prop) [Decidable condition] {body : Sql Unit}
    (spares : Sparing accounts body) : Sparing accounts (runWhen condition body) :=
  respects_ite spares (respects_pure ())

theorem sparing_whenFound {α : Type} (row : Option α) {body : α → Sql Unit}
    (spares : ∀ value, row = some value → Sparing accounts (body value)) :
    Sparing accounts (whenFound row body) := by
  cases row with
  | some value => exact spares value rfl
  | none => exact respects_pure ()

namespace Collateral

theorem sparing_orInvalid {α : Type} (row : Option Account) (message : Text)
    {next : Account → Sql α}
    (spares : ∀ account, row = some account → Sparing accounts (next account)) :
    Sparing accounts (orInvalid row message >>= next) := by
  cases row with
  | some account => exact spares account rfl
  | none => exact respects_raise _

theorem unlocked_of_getAccount {db : Database} (same : db.accounts = accounts) {memberId : Uuid}
    {accountType : AccountType} {currency : String} {account : Account}
    (found : getAccount db memberId accountType .available currency = some account) :
    Unlocked accounts account.id := by
  have selected := List.find?_some found
  simp only [decide_eq_true_eq] at selected
  refine unlocked_of_mem same (List.mem_of_find?_eq_some found) fun locks => ?_
  rw [Account.LocksMargin, selected.2.2.1] at locks
  cases locks.2

theorem unlocked_of_getCcpAccount {db : Database} (same : db.accounts = accounts)
    {accountType : AccountType} {currency : String} {account : Account}
    (found : getCcpAccount db accountType .available currency = some account) :
    Unlocked accounts account.id := by
  have selected := List.find?_some found
  simp only [decide_eq_true_eq] at selected
  refine unlocked_of_mem same (List.mem_of_find?_eq_some found) fun locks => ?_
  rw [Account.LocksMargin, selected.2.2.1] at locks
  cases locks.2

theorem sparing_debitThenCredit (journalType : JournalType) (referenceType : String)
    (referenceId : Uuid) {debited credited : Uuid} (amount : ℚ)
    (debit : Unlocked accounts debited) (credit : Unlocked accounts credited) :
    Sparing accounts
      (debitThenCredit backend journalType referenceType referenceId debited credited amount) :=
  respects_bind sparing_uuid4 fun _ => respects_bind (sparing_insertJournal _ _ _ _) fun _ =>
    respects_bind (sparing_insertJournalEntry _ _ _ debit) fun _ =>
      respects_bind (sparing_insertJournalEntry _ _ _ credit) fun _ => respects_pure _

theorem sparing_creditThenDebit (journalType : JournalType) (referenceType : String)
    (referenceId : Uuid) {credited debited : Uuid} (amount : ℚ)
    (credit : Unlocked accounts credited) (debit : Unlocked accounts debited) :
    Sparing accounts
      (creditThenDebit backend journalType referenceType referenceId credited debited amount) :=
  respects_bind sparing_uuid4 fun _ => respects_bind (sparing_insertJournal _ _ _ _) fun _ =>
    respects_bind (sparing_insertJournalEntry _ _ _ credit) fun _ =>
      respects_bind (sparing_insertJournalEntry _ _ _ debit) fun _ => respects_pure _

theorem sparing_announce (event : String) (memberId : Uuid) (amount : ℚ) (currency : String)
    (journalId : Uuid) : Sparing accounts (announce event memberId amount currency journalId) :=
  respects_bind (sparing_insertOutboxEvent _ _ _ _ _ _) fun _ => respects_pure _

theorem sparing_updatePostedMargin (memberId : Uuid) (marginType : AccountType) (amount : ℚ) :
    Sparing accounts (updatePostedMargin backend memberId marginType amount) := by
  refine respects_bind respects_read fun db => respects_bind (respects_mapM (fun row => ?_) _)
    fun rows => respects_write fun _ => .of_same rfl rfl rfl
  split
  · exact respects_bind (sparing_castNumeric _) fun _ => respects_pure _
  · exact respects_pure _

theorem sparing_depositCollateral (memberId : Uuid) (amount : ℚ) (currency : String) :
    Sparing accounts (depositCollateral backend memberId amount currency) :=
  respects_bind (respects_require _ _) fun _ => sparing_query fun _ same =>
    sparing_orInvalid _ _ fun _ member => sparing_orInvalid _ _ fun _ ccp =>
      respects_bind (sparing_debitThenCredit _ _ _ _ (unlocked_of_getAccount same member)
        (unlocked_of_getCcpAccount same ccp)) fun _ =>
        respects_bind (sparing_announce _ _ _ _ _) fun _ => respects_pure _

theorem sparing_withdrawCollateral (memberId : Uuid) (amount : ℚ) (currency : String) :
    Sparing accounts (withdrawCollateral backend memberId amount currency) :=
  respects_bind (respects_require _ _) fun _ => sparing_query fun _ same =>
    sparing_orInvalid _ _ fun _ member => respects_bind (respects_require _ _) fun _ =>
      sparing_orInvalid _ _ fun _ ccp =>
        respects_bind (sparing_creditThenDebit _ _ _ _ (unlocked_of_getAccount same member)
          (unlocked_of_getCcpAccount same ccp)) fun _ =>
          respects_bind (sparing_announce _ _ _ _ _) fun _ => respects_pure _

theorem sparing_transferToMargin (memberId : Uuid) (amount : ℚ) (marginType : AccountType) :
    Sparing accounts (transferToMargin backend memberId amount marginType) :=
  respects_bind (respects_require _ _) fun _ => sparing_query fun _ same =>
    sparing_orInvalid _ _ fun _ collateral => sparing_orInvalid _ _ fun _ margin =>
      respects_bind (respects_require _ _) fun _ =>
        respects_bind (sparing_creditThenDebit _ _ _ _ (unlocked_of_getAccount same collateral)
          (unlocked_of_getAccount same margin)) fun _ =>
          respects_bind (sparing_updatePostedMargin _ _ _) fun _ => respects_pure _

end Collateral

namespace Margin

theorem sparing_updateMarginRequirement (memberId instrumentId : Uuid) (marginType : MarginType)
    (requiredAmount : ℚ) :
    Sparing accounts
      (updateMarginRequirement backend memberId instrumentId marginType requiredAmount) := by
  refine respects_bind (sparing_castNumeric _) fun _ => respects_bind respects_read fun db => ?_
  split
  · exact respects_bind (sparing_castNumeric _) fun _ =>
      respects_write fun _ => .of_same rfl rfl rfl
  · exact respects_bind (sparing_castNumeric _) fun _ => respects_bind sparing_uuid4 fun _ =>
      respects_write fun _ => .of_same rfl rfl rfl

theorem sparing_transferVariation (instrumentId : Uuid) {available locked : Uuid} (vmAmount : ℚ)
    (free : Unlocked accounts available) (held : Unlocked accounts locked) :
    Sparing accounts (transferVariation backend instrumentId available locked vmAmount) := by
  refine respects_bind sparing_uuid4 fun _ => respects_bind (sparing_insertJournal _ _ _ _)
    fun _ => ?_
  by_cases positive : 0 < vmAmount
  · rw [if_pos positive]
    exact respects_bind (sparing_insertJournalEntry _ _ _ free) fun _ =>
      sparing_insertJournalEntry _ _ _ held
  · rw [if_neg positive]
    exact respects_bind (sparing_insertJournalEntry _ _ _ held) fun _ =>
      sparing_insertJournalEntry _ _ _ free

/-- The locked account of the variation margin is none of the initial margin. -/
theorem sparing_processVariationMargin (memberId instrumentId : Uuid) (vmAmount : ℚ) :
    Sparing accounts (processVariationMargin backend memberId instrumentId vmAmount) := by
  apply sparing_query
  intro db same
  split
  · next available locked free held =>
      exact respects_bind (sparing_transferVariation _ _
        (unlocked_of_findAccount same free (.inl (by decide)))
        (unlocked_of_findAccount same held (.inl (by decide)))) fun _ =>
        sparing_updateMarginRequirement _ _ _ _
  · exact respects_pure ()

theorem sparing_issueMarginCall (deadline : Timestamp) (memberId instrumentId : Uuid)
    (shortfall : ℚ) (trace : TraceContext) :
    Sparing accounts (issueMarginCall backend deadline memberId instrumentId shortfall trace) :=
  respects_bind sparing_uuid4 fun _ => respects_bind respects_read fun _ =>
    respects_bind (sparing_castNumeric _) fun _ =>
      respects_bind (respects_write fun _ => .of_same rfl rfl rfl) fun _ =>
        respects_bind (sparing_insertStateTransition _) fun _ =>
          respects_bind (sparing_insertOutboxEvent _ _ _ _ _ _) fun _ => respects_pure _

theorem sparing_orTypeError (value : Option ℚ) : Sparing accounts (orTypeError value) := by
  unfold orTypeError
  split
  · exact respects_pure _
  · exact respects_raise _

theorem sparing_recalculatePosition (deadline : Timestamp) (trace : TraceContext)
    (calls : List Payload) (position : Position) :
    Sparing accounts (recalculatePosition backend deadline trace calls position) := by
  refine respects_bind (sparing_orTypeError _) fun _ =>
    respects_bind (sparing_updateMarginRequirement _ _ _ _) fun _ =>
      respects_bind (sparing_orTypeError _) fun _ =>
        respects_bind (sparing_runWhen _ (sparing_processVariationMargin _ _ _))
          fun _ => respects_bind respects_read fun db => ?_
  exact respects_ite (respects_bind (sparing_issueMarginCall _ _ _ _ _) fun _ => respects_pure _)
    (respects_pure _)

theorem sparing_recalculateMargins (deadline : Timestamp) (trace : TraceContext) :
    Sparing accounts (recalculateMargins backend deadline trace) :=
  respects_bind respects_read fun _ =>
    respects_foldlM (fun calls position =>
      sparing_recalculatePosition deadline trace calls position)
      _ _

end Margin

namespace Seeding

theorem sparing_seedContribution (ccpId memberId : Uuid) (amount : ℚ) :
    Sparing accounts (seedContribution backend ccpId memberId amount) := by
  apply sparing_query
  intro db same
  split
  · next memberAcct ccpAcct fund equity =>
      exact respects_bind sparing_uuid4 fun _ => respects_bind (sparing_insertJournal _ _ _ _)
        fun _ => respects_bind (sparing_insertJournalEntry _ _ _
          (unlocked_of_findAccount same fund (.inl (by decide)))) fun _ =>
          sparing_insertJournalEntry _ _ _ (unlocked_of_findAccount same equity (.inl (by decide)))
  · exact respects_pure ()

theorem sparing_seedDefaultFund (memberIds : String → Uuid) (ccpId : Uuid) :
    Sparing accounts (seedDefaultFund backend memberIds ccpId) :=
  respects_forM (fun _ => sparing_seedContribution _ _ _) _

end Seeding

namespace Settlement

theorem sparing_updateInstruction (instructionId : Uuid)
    (change : SettlementInstruction → SettlementInstruction) :
    Sparing accounts (updateInstruction instructionId change) :=
  respects_write fun _ => .of_same rfl rfl rfl

theorem sparing_advanceStatus (instructionId : Uuid) (fromStatus toStatus : InstructionStatus)
    (reason : Text) (trace : TraceContext) :
    Sparing accounts (advanceStatus instructionId fromStatus toStatus reason trace) :=
  respects_bind (respects_ite (respects_pure ()) (respects_raise _)) fun _ =>
    respects_bind (sparing_updateInstruction _ _) fun _ => sparing_insertStateTransition _

theorem sparing_emitSettlementEvent (instructionId : Uuid) (eventType : String)
    (aggregateId : Uuid) (trace : TraceContext) :
    Sparing accounts (emitSettlementEvent instructionId eventType aggregateId trace) :=
  respects_bind (sparing_insertOutboxEvent _ _ _ _ _ _) fun _ => respects_pure _

theorem sparing_failInstruction (instructionId : Uuid) (fromStatus : InstructionStatus)
    (reason : Text) (trace : TraceContext) :
    Sparing accounts (failInstruction instructionId fromStatus reason trace) :=
  respects_bind (sparing_updateInstruction _ _) fun _ =>
    respects_bind (sparing_insertStateTransition _) fun _ => sparing_emitSettlementEvent _ _ _ _

theorem sparing_postSettlement (instructionId : Uuid) {fromAcct toAcct : Uuid} (amount : ℚ)
    (journalId : Uuid) (payer : Unlocked accounts fromAcct) (payee : Unlocked accounts toAcct) :
    Sparing accounts (postSettlement backend instructionId fromAcct toAcct amount journalId) :=
  respects_bind (sparing_insertJournal _ _ _ _) fun _ =>
    respects_bind (sparing_insertJournalEntry _ _ _ payer) fun _ =>
      sparing_insertJournalEntry _ _ _ payee

theorem sparing_settleCash (instruction : SettlementInstruction) (trace : TraceContext) :
    Sparing accounts (settleCash backend instruction trace) := by
  apply sparing_query
  intro db same
  split
  · next fromAcct toAcct payer payee =>
      have post : ∀ journalId, Sparing accounts (postSettlement backend instruction.id fromAcct.id
          toAcct.id instruction.amount journalId) := fun journalId =>
        sparing_postSettlement _ _ _ (unlocked_of_findAccount same payer (.inl (by decide)))
          (unlocked_of_findAccount same payee (.inl (by decide)))
      exact respects_bind (sparing_advanceStatus _ _ _ _ _) fun _ =>
        respects_bind (sparing_advanceStatus _ _ _ _ _) fun _ =>
          respects_bind (sparing_advanceStatus _ _ _ _ _) fun _ =>
            respects_bind sparing_uuid4 fun journalId =>
              respects_bind (sparing_runWhen _ (post journalId)) fun _ =>
                respects_bind (sparing_advanceStatus _ _ _ _ _) fun _ =>
                  respects_bind (sparing_emitSettlementEvent _ _ _ _) fun _ => respects_pure _
  · exact respects_bind (sparing_failInstruction _ _ _ _) fun _ => respects_pure _

theorem sparing_finalizeEntries (instruction : SettlementInstruction) :
    Sparing accounts (finalizeEntries backend instruction) := by
  apply sparing_query
  intro db same
  split
  · next fromAcct toAcct payer payee =>
      exact respects_bind sparing_uuid4 fun _ => sparing_postSettlement _ _ _
        (unlocked_of_findAccount same payer (.inl (by decide)))
        (unlocked_of_findAccount same payee (.inl (by decide)))
  · exact respects_pure ()

theorem sparing_finalizeRows (instruction : SettlementInstruction) (blockNumber : Option ℕ)
    (confirmations : ℕ) (trace : TraceContext) :
    Sparing accounts (finalizeRows backend instruction blockNumber confirmations trace) :=
  respects_bind (sparing_finalizeEntries _) fun _ =>
    respects_bind (sparing_updateInstruction _ _) fun _ =>
      respects_bind (sparing_advanceStatus _ _ _ _ _) fun _ => sparing_emitSettlementEvent _ _ _ _

theorem respected_sparedFrom : Respected backend (SparedFrom accounts) where
  update := sparing_updateInstruction
  advance := sparing_advanceStatus
  fail := sparing_failInstruction
  finalize := sparing_finalizeRows
  cash := sparing_settleCash

end Settlement

namespace Waterfall

/-- Losses are taken from the available pool. -/
theorem sparing_createWaterfallJournal (eventId memberId : Uuid) (amount : ℚ)
    (sourceAccountType : AccountType) :
    Sparing accounts
      (createWaterfallJournal backend eventId memberId amount sourceAccountType) := by
  refine sparing_query fun db same => respects_bind sparing_uuid4 fun _ =>
    respects_bind (sparing_insertJournal _ _ _ _) fun _ =>
      respects_bind (sparing_whenFound _ fun account found => ?_) fun _ =>
        respects_bind (sparing_whenFound _ fun account found => ?_) fun _ =>
          respects_bind (sparing_insertOutboxEvent _ _ _ _ _ _) fun _ => respects_pure _
  · exact sparing_insertJournalEntry _ _ _ (unlocked_of_findAccount same found (.inr (by decide)))
  · obtain ⟨ccp, -, found⟩ := Option.bind_eq_some_iff.mp found
    exact sparing_insertJournalEntry _ _ _ (unlocked_of_findAccount same found (.inr (by decide)))

theorem sparing_recordStep (eventId : Uuid) (stepOrder : ℕ) (stepType : StepType)
    (available applied remaining : ℚ) (journalId : Option Uuid) :
    Sparing accounts
      (recordStep backend eventId stepOrder stepType available applied remaining journalId) :=
  respects_bind sparing_uuid4 fun _ => respects_bind (sparing_castNumeric _) fun _ =>
    respects_bind (sparing_castNumeric _) fun _ => respects_bind (sparing_castNumeric _) fun _ =>
      respects_bind (respects_require _ _) fun _ =>
        respects_bind (respects_write fun _ => .of_same rfl rfl rfl) fun _ => respects_pure _

theorem sparing_journalPositive (eventId : Uuid) (source : Option Uuid) (applied : ℚ)
    (sourceType : AccountType) :
    Sparing accounts (journalPositive backend eventId source applied sourceType) := by
  unfold journalPositive
  split
  · exact respects_ite
      (respects_bind (sparing_createWaterfallJournal _ _ _ _) fun _ => respects_pure _)
      (respects_pure none)
  · exact respects_pure none

theorem sparing_drawOn (eventId : Uuid) (source : Option Uuid) (sourceType : AccountType)
    (available remaining : ℚ) (stepOrder : ℕ) (stepType : StepType) :
    Sparing accounts
      (drawOn backend eventId source sourceType available remaining stepOrder stepType) :=
  respects_bind (sparing_journalPositive _ _ _ _) fun _ =>
    respects_bind (sparing_recordStep _ _ _ _ _ _ _) fun _ => respects_pure _

theorem sparing_spreadOver (eventId : Uuid) (sourceType : AccountType) (rows : List (Uuid × ℚ))
    (total remaining : ℚ) (cap : ℚ → ℚ) (stepOrder : ℕ) (stepType : StepType) :
    Sparing accounts
      (spreadOver backend eventId sourceType rows total remaining cap stepOrder stepType) := by
  refine respects_bind ?_ fun _ =>
    respects_bind (sparing_recordStep _ _ _ _ _ _ _) fun _ => respects_pure _
  refine respects_ite (respects_foldlM (fun totalApplied survivor => ?_) _ _) (respects_pure _)
  exact respects_ite (respects_pure _) (respects_ite
    (respects_bind (sparing_createWaterfallJournal _ _ _ _) fun _ => respects_pure _)
    (respects_pure _))

theorem sparing_continueWith {step : ℚ → Sql (ℚ × StepRecord)} {after : Sql Unit}
    (steps : ∀ loss, Sparing accounts (step loss)) (closes : Sparing accounts after)
    (progress : ℚ × List StepRecord) : Sparing accounts (continueWith step after progress) :=
  respects_ite (respects_bind (steps _) fun _ => respects_bind closes fun _ => respects_pure _)
    (respects_pure _)

theorem sparing_runSteps (eventId memberId : Uuid) (totalExposure : ℚ) (trace : TraceContext) :
    Sparing accounts (runSteps backend eventId memberId totalExposure trace) :=
  respects_bind (respects_bind respects_read fun _ => sparing_drawOn _ _ _ _ _ _ _) fun _ =>
    respects_bind (sparing_insertStateTransition _) fun _ =>
      respects_bind (sparing_continueWith
        (fun _ => respects_bind respects_read fun _ => sparing_drawOn _ _ _ _ _ _ _)
        (sparing_insertStateTransition _) _) fun _ =>
      respects_bind (sparing_continueWith
        (fun _ => respects_bind respects_read fun _ => sparing_drawOn _ _ _ _ _ _ _)
        (sparing_insertStateTransition _) _) fun _ =>
      respects_bind (sparing_continueWith
        (fun _ => respects_bind respects_read fun _ => sparing_spreadOver _ _ _ _ _ _ _ _)
        (sparing_insertStateTransition _) _) fun _ =>
      sparing_continueWith
        (fun _ => respects_bind respects_read fun _ => sparing_spreadOver _ _ _ _ _ _ _ _)
        (respects_pure _) _

theorem sparing_executeWaterfall (memberId : Uuid) (triggerReason : Text) (totalExposure : ℚ)
    (trace : Option TraceContext) :
    Sparing accounts (executeWaterfall backend memberId triggerReason totalExposure trace) := by
  refine respects_bind (sparing_traceOrSystem _ _) fun _ => respects_bind sparing_uuid4 fun _ =>
    respects_bind ?_ fun _ => respects_bind (sparing_runSteps _ _ _ _) fun _ =>
      respects_bind ?_ fun _ => respects_pure _
  · exact respects_bind (sparing_requireMember _ _) fun _ =>
      respects_bind (sparing_castNumeric _) fun _ => respects_bind (respects_require _ _) fun _ =>
        respects_bind (respects_write fun _ => .of_same rfl rfl rfl) fun _ =>
          respects_bind (respects_write fun _ => .of_same rfl rfl rfl) fun _ =>
            respects_bind (sparing_insertOutboxEvent _ _ _ _ _ _) fun _ => respects_pure _
  · exact respects_bind (respects_require _ _) fun _ =>
      respects_bind (respects_write fun _ => .of_same rfl rfl rfl) fun _ =>
        respects_bind (sparing_insertOutboxEvent _ _ _ _ _ _) fun _ => respects_pure _

end Waterfall

theorem LedgerWriter.sparing_body (writer : LedgerWriter) :
    Sparing accounts (writer.body backend) := by
  have discard : ∀ {α : Type} {code : Sql α}, Sparing accounts code →
      Sparing accounts (code >>= fun _ => pure ()) :=
    fun spares => respects_bind spares fun _ => respects_pure ()
  cases writer with
  | deposit => exact discard (Collateral.sparing_depositCollateral _ _ _)
  | withdrawal => exact discard (Collateral.sparing_withdrawCollateral _ _ _)
  | transferToMargin => exact discard (Collateral.sparing_transferToMargin _ _ _)
  | recalculation => exact discard (Margin.sparing_recalculateMargins _ _)
  | cashSettlement => exact discard (Settlement.sparing_settleCash _ _)
  | dvpAdvance => exact Settlement.sparing_advanceStatus _ _ _ _ _
  | dvpFinalization => exact Settlement.sparing_finalizeRows _ _ _ _
  | dvpFailure => exact Settlement.sparing_failInstruction _ _ _ _
  | waterfall => exact discard (Waterfall.sparing_executeWaterfall _ _ _ _)
  | seeding => exact Seeding.sparing_seedDefaultFund _ _

theorem Novation.sparing_rejectTrade (tradeId : Uuid) (reason : Text) (trace : TraceContext) :
    Sparing accounts (rejectTrade tradeId reason trace) :=
  respects_bind (respects_write fun _ => .of_same rfl rfl rfl) fun _ =>
    respects_bind (sparing_insertStateTransition _) fun _ =>
      respects_bind (sparing_insertOutboxEvent _ _ _ _ _ _) fun _ => respects_pure _

end ClearingHouse
