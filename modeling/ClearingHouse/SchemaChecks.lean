import ClearingHouse.Collateral
import ClearingHouse.Margin
import ClearingHouse.Netting.Specification
import ClearingHouse.Novation.Atomicity
import ClearingHouse.Settlement.Finality
import ClearingHouse.Waterfall.Execute

/-!
# What the migrated schema accepts

The `CHECK` lists of the migrations leave out journal types and step types that the services write,
so collateral, variation margin and the waterfall never commit.  A novation commits exactly if its
margin does not round to zero, a netting cycle if its amounts fit their columns, and a settlement
unless it comes to post an amount that rounds to zero.
-/

namespace ClearingHouse

namespace SchemaChecks

open DecimalRounding Fibers Settlement Transactions Transactions.Transaction

/-- A `NUMERIC(28, 8)` column holds the value. -/
def Fits (x : ℚ) : Prop := |x| < 10 ^ 20 - 1 / 10 ^ 8 / 2

/-- It also keeps it above zero. -/
def Postable (x : ℚ) : Prop := 1 / 10 ^ 8 / 2 ≤ x ∧ Fits x

theorem store_isSome_iff {x : ℚ} : (migratedBackend.store x).isSome ↔ Fits x :=
  toFixed_isSome_iff

theorem stored_pos_iff {x : ℚ} :
    (∃ stored, migratedBackend.store x = some stored ∧ 0 < stored) ↔ Postable x := by
  constructor
  · rintro ⟨stored, store, positive⟩
    have held : (migratedBackend.store x).isSome := by
      rw [store]
      rfl
    exact ⟨(toFixed_pos_iff store).mp positive, store_isSome_iff.mp held⟩
  · rintro ⟨large, fits⟩
    obtain ⟨stored, store⟩ := Option.isSome_iff_exists.mp (store_isSome_iff.mpr fits)
    exact ⟨stored, store, (toFixed_pos_iff store).mpr large⟩

/-- A transaction that the server accepts. -/
def Commits {α : Type} (backend : Backend) (code : Sql α) (db : Database) : Prop :=
  ∃ value after, code db = .ok (value, after) ∧ (server backend).deferred db after = .ok ()

/-- The server accepts every transaction of a settlement. -/
def CommitsAll (backend : Backend) : List Action → Database → Prop
  | [], _ => True
  | .submit _ :: rest, db => CommitsAll backend rest db
  | .commit code :: rest, db => ∃ after, code db = .ok ((), after) ∧
      (server backend).deferred db after = .ok () ∧ CommitsAll backend rest after

/-- The operations with the arguments of their callers. -/
inductive Call
  | depositCollateral (memberId : Uuid) (amount : ℚ) (currency : String)
  | withdrawCollateral (memberId : Uuid) (amount : ℚ) (currency : String)
  | transferToMargin (memberId : Uuid) (amount : ℚ) (marginType : AccountType)
  | processVariationMargin (memberId instrumentId : Uuid) (vmAmount : ℚ)
  | executeWaterfall (memberId : Uuid) (triggerReason : Text) (totalExposure : ℚ)
      (trace : Option TraceContext)
  | novateTrade (data : Novation.TradeData) (trace : TraceContext)
  | runNettingCycle (cycleType : NettingCycleType) (cutOffTime : Timestamp) (trace : TraceContext)
  | settleInstruction (instructionId : Uuid) (chainRegistry : String → Option ChainAdapter)
      (sign : Bytes → String → Except Text Bytes) (trace : TraceContext)

namespace Call

/-- No statement of the call is rejected, and its transactions commit. -/
def Completes (backend : Backend) (db : Database) : Call → Prop
  | depositCollateral memberId amount currency =>
      Commits backend (Collateral.depositCollateral backend memberId amount currency) db
  | withdrawCollateral memberId amount currency =>
      Commits backend (Collateral.withdrawCollateral backend memberId amount currency) db
  | transferToMargin memberId amount marginType =>
      Commits backend (Collateral.transferToMargin backend memberId amount marginType) db
  | processVariationMargin memberId instrumentId vmAmount =>
      Commits backend (Margin.processVariationMargin backend memberId instrumentId vmAmount) db
  | executeWaterfall memberId triggerReason totalExposure trace =>
      Commits backend
        (Waterfall.executeWaterfall backend memberId triggerReason totalExposure trace) db
  | novateTrade data trace =>
      Commits backend (Novation.novateTrade backend data.tradeId data trace) db
  | runNettingCycle cycleType cutOffTime trace =>
      Commits backend (Netting.runNettingCycle backend cycleType cutOffTime trace) db
  | settleInstruction instructionId chainRegistry sign trace =>
      ∀ instruction instrument actions,
        pendingInstruction db instructionId = some (instruction, instrument) →
          script backend chainRegistry sign trace instruction instrument = some actions →
            CommitsAll backend actions db

/-- Rate of initial margin that a novation reads. -/
def marginRate (db : Database) (instrumentId : Uuid) : ℚ :=
  ((db.instruments.find? fun instrument => instrument.id = instrumentId).map
    Instrument.marginRateIm).getD 0

/-- Margin that a novation locks for either member. -/
def marginAmount (backend : Backend) (db : Database) (data : Novation.TradeData) : ℚ :=
  backend.mul (backend.mul data.quantity data.price) (marginRate db data.instrumentId)

/-- A settlement comes to post its amount: a cash settlement of a positive amount, and a transfer
that is signed, submitted and reported as confirmed. -/
def Posts (chainRegistry : String → Option ChainAdapter)
    (sign : Bytes → String → Except Text Bytes) (instruction : SettlementInstruction)
    (instrument : Instrument) : Prop :=
  if instruction.settlementType = .cash then 0 < instruction.amount
  else ∃ chainId adapter signedTx result txResult,
    instruction.chainId = some chainId ∧ chainId ≠ "" ∧ chainRegistry chainId = some adapter ∧
      signedTransaction instruction adapter instrument.contractAddress chainId sign =
        .ok signedTx ∧
      adapter.submitSignedTx signedTx = .ok result ∧
      polled adapter result.txHash = .ok txResult ∧ txResult.status = .confirmed

/-- The terms and the amounts that the schema admits.  For the calls on collateral, variation margin
and the waterfall there are none. -/
def Admissible (db : Database) : Call → Prop
  | novateTrade data _ =>
      Fits data.quantity ∧ Fits data.price ∧ Postable (marginAmount migratedBackend db data)
  | runNettingCycle _ cutOffTime _ => ∀ k ∈ (Netting.openLegs db cutOffTime).map Netting.legKey,
      Fits (Netting.netQuantityAt migratedBackend (Netting.openLegs db cutOffTime) k) ∧
        Fits (migratedBackend.mul
          (Netting.netQuantityAt migratedBackend (Netting.openLegs db cutOffTime) k)
          (Netting.quote db k.2).1)
  | settleInstruction instructionId chainRegistry sign _ => ∀ instruction instrument,
      pendingInstruction db instructionId = some (instruction, instrument) →
        Posts chainRegistry sign instruction instrument →
          (findAccount db instruction.fromMemberId .settlement .available).isSome →
            (findAccount db instruction.toMemberId .settlement .available).isSome →
              Postable instruction.amount
  | _ => False

end Call

variable {backend : Backend} {db after : Database}

/-! ## Journal types and step types -/

theorem admitted_of_creditThenDebit {journalType : JournalType} {referenceType : String}
    {referenceId credited debited journalId : Uuid} {amount : ℚ}
    (ran : Collateral.creditThenDebit backend journalType referenceType referenceId credited
      debited amount db = .ok (journalId, after)) : journalType ∈ backend.journalTypes := by
  obtain ⟨_, _, -, ran⟩ := bind_eq_ok.mp ran
  obtain ⟨⟨⟩, _, journal, -⟩ := bind_eq_ok.mp ran
  exact (insertJournal_eq_ok.mp journal).1

theorem admitted_of_depositCollateral {memberId : Uuid} {amount : ℚ} {currency : String}
    {receipt : Collateral.Receipt}
    (ran : Collateral.depositCollateral backend memberId amount currency db =
      .ok (receipt, after)) : .collateralDeposit ∈ backend.journalTypes := by
  obtain ⟨_, _, -, ran⟩ := bind_eq_ok.mp ran
  obtain ⟨_, _, -, ran⟩ := bind_eq_ok.mp ran
  obtain ⟨_, _, -, ran⟩ := bind_eq_ok.mp ran
  obtain ⟨_, _, -, ran⟩ := bind_eq_ok.mp ran
  obtain ⟨_, _, post, -⟩ := bind_eq_ok.mp ran
  obtain ⟨_, _, -, post⟩ := bind_eq_ok.mp post
  obtain ⟨⟨⟩, _, journal, -⟩ := bind_eq_ok.mp post
  exact (insertJournal_eq_ok.mp journal).1

theorem admitted_of_transferToMargin {memberId : Uuid} {amount : ℚ} {marginType : AccountType}
    {receipt : Collateral.Receipt}
    (ran : Collateral.transferToMargin backend memberId amount marginType db =
      .ok (receipt, after)) : .collateralDeposit ∈ backend.journalTypes := by
  obtain ⟨_, _, -, ran⟩ := bind_eq_ok.mp ran
  obtain ⟨_, _, -, ran⟩ := bind_eq_ok.mp ran
  obtain ⟨_, _, -, ran⟩ := bind_eq_ok.mp ran
  obtain ⟨_, _, -, ran⟩ := bind_eq_ok.mp ran
  obtain ⟨_, _, -, ran⟩ := bind_eq_ok.mp ran
  obtain ⟨_, _, post, -⟩ := bind_eq_ok.mp ran
  exact admitted_of_creditThenDebit post

theorem admitted_of_processVariationMargin {memberId instrumentId : Uuid} {vmAmount : ℚ}
    (available : (findAccount db memberId .marginVm .available).isSome)
    (locked : (findAccount db memberId .marginVm .locked).isSome)
    (ran : Margin.processVariationMargin backend memberId instrumentId vmAmount db =
      .ok ((), after)) : .variationMargin ∈ backend.journalTypes := by
  obtain ⟨free, found⟩ := Option.isSome_iff_exists.mp available
  obtain ⟨held, found'⟩ := Option.isSome_iff_exists.mp locked
  rw [Margin.processVariationMargin, bind_of_ok (read_apply db)] at ran
  simp only [found, found'] at ran
  obtain ⟨⟨⟩, _, post, -⟩ := bind_eq_ok.mp ran
  obtain ⟨_, _, -, post⟩ := bind_eq_ok.mp post
  obtain ⟨⟨⟩, _, journal, -⟩ := bind_eq_ok.mp post
  exact (insertJournal_eq_ok.mp journal).1

/-- The first step of every waterfall is recorded. -/
theorem admitted_of_executeWaterfall {memberId : Uuid} {triggerReason : Text} {totalExposure : ℚ}
    {trace : Option TraceContext} {outcome : Waterfall.Outcome}
    (ran : Waterfall.executeWaterfall backend memberId triggerReason totalExposure trace db =
      .ok (outcome, after)) : .defaulterMargin ∈ backend.stepTypes := by
  obtain ⟨_, _, -, ran⟩ := bind_eq_ok.mp ran
  obtain ⟨_, _, -, ran⟩ := bind_eq_ok.mp ran
  obtain ⟨⟨⟩, _, -, ran⟩ := bind_eq_ok.mp ran
  obtain ⟨_, _, steps, -⟩ := bind_eq_ok.mp ran
  obtain ⟨_, _, step, -⟩ := bind_eq_ok.mp steps
  obtain ⟨_, _, -, step⟩ := bind_eq_ok.mp step
  obtain ⟨_, _, -, step⟩ := bind_eq_ok.mp step
  obtain ⟨_, _, record, -⟩ := bind_eq_ok.mp step
  obtain ⟨_, _, -, record⟩ := bind_eq_ok.mp record
  obtain ⟨_, _, -, record⟩ := bind_eq_ok.mp record
  obtain ⟨_, _, -, record⟩ := bind_eq_ok.mp record
  obtain ⟨_, _, -, record⟩ := bind_eq_ok.mp record
  obtain ⟨⟨⟩, _, checked, -⟩ := bind_eq_ok.mp record
  exact (require_eq_ok.mp checked).1

section Novation

open Novation

variable {data : TradeData} {trace : TraceContext}

end Novation

section Netting

open Netting

variable {k : Uuid × Uuid}

end Netting

section Settlement

variable {instruction : SettlementInstruction} {adapter : ChainAdapter} {trace : TraceContext}

theorem commitsAll_commit {code : Sql Unit} {rest : List Action}
    (ran : code db = .ok ((), after)) (accepted : (server backend).deferred db after = .ok ()) :
    CommitsAll backend (.commit code :: rest) db ↔ CommitsAll backend rest after := by
  constructor
  · rintro ⟨other, same, -, commits⟩
    rw [ran, Except.ok.injEq, Prod.mk.injEq] at same
    exact same.2 ▸ commits
  · exact fun commits => ⟨after, ran, accepted, commits⟩

/-- A failure is always recorded. -/
theorem commitsAll_failInstruction (instructionId : Uuid) (fromStatus : InstructionStatus)
    (reason : Text) (trace : TraceContext) (db : Database) :
    CommitsAll backend [.commit (failInstruction instructionId fromStatus reason trace)] db := by
  obtain ⟨after, ran, -, -, -, entries, -⟩ :=
    failInstruction_apply instructionId fromStatus reason trace db
  exact (commitsAll_commit ran (accepted_of_same entries)).mpr trivial

theorem commitsAll_finalizeRows (fresh : FreshJournals db) (confirmations : ℕ) :
    CommitsAll backend
        [.commit (finalizeRows backend instruction none confirmations trace)] db ↔
      Payable backend db instruction := by
  constructor
  · rintro ⟨after, ran, -⟩
    exact (finalizeRows_eq_ok ran).1
  · intro payable
    obtain ⟨after, ran⟩ := finalizeRows_runs payable none confirmations trace
    exact ⟨after, ran, accepted_finalizeRows fresh ran, trivial⟩

/-- The chain reports the transaction as confirmed. -/
def Confirms (adapter : ChainAdapter) (txHash : String) : Prop :=
  ∃ txResult, polled adapter txHash = .ok txResult ∧ txResult.status = .confirmed

theorem commitsAll_concluding (fresh : FreshJournals db) (txHash : String) :
    CommitsAll backend (concluding backend instruction adapter trace txHash) db ↔
      (Confirms adapter txHash → Payable backend db instruction) := by
  unfold concluding Confirms
  cases answer : polled adapter txHash with
  | error message =>
      apply iff_of_true (commitsAll_failInstruction ..)
      rintro ⟨txResult, returned, -⟩
      cases returned
  | ok txResult =>
      by_cases confirmed : txResult.status = .confirmed
      · simp only [if_pos confirmed]
        rw [commitsAll_finalizeRows fresh]
        exact ⟨fun payable _ => payable, fun posts => posts ⟨txResult, rfl, confirmed⟩⟩
      · simp only [if_neg confirmed]
        apply iff_of_true (commitsAll_failInstruction ..)
        rintro ⟨other, returned, reported⟩
        cases returned
        exact absurd reported confirmed

theorem commitsAll_submitting (fresh : FreshJournals db) (signedTx : Bytes) :
    CommitsAll backend (submitting backend instruction adapter trace signedTx) db ↔
      ∀ result, adapter.submitSignedTx signedTx = .ok result → Confirms adapter result.txHash →
        Payable backend db instruction := by
  rw [submitting, CommitsAll]
  cases submitted : adapter.submitSignedTx signedTx with
  | error message =>
      apply iff_of_true (commitsAll_failInstruction ..)
      rintro result taken
      cases taken
  | ok result =>
      have ran := broadcastRows_apply instruction result.txHash trace db
      have wrote := writes_broadcastRows ran
      rw [commitsAll_commit ran (accepted_of_same wrote.ledger.2),
        commitsAll_concluding (fresh.of_writes wrote), payable_congr wrote.accounts]
      constructor
      · intro posts other taken
        cases taken
        exact posts
      · exact fun posts => posts result rfl

theorem commitsAll_transferring (fresh : FreshJournals db) (contractAddress : Option String)
    (chainId : String) (sign : Bytes → String → Except Text Bytes) :
    CommitsAll backend
        (transferring backend instruction adapter trace contractAddress chainId sign) db ↔
      ∀ signedTx result,
        signedTransaction instruction adapter contractAddress chainId sign = .ok signedTx →
          adapter.submitSignedTx signedTx = .ok result → Confirms adapter result.txHash →
            Payable backend db instruction := by
  rw [transferring]
  cases built : signedTransaction instruction adapter contractAddress chainId sign with
  | error message =>
      apply iff_of_true (commitsAll_failInstruction ..)
      rintro signedTx result signed
      cases signed
  | ok signedTx =>
      have ran := advanceStatus_apply instruction.id .approved .signed (by decide)
        [.literal "MPC signing complete"] trace db
      have wrote := writes_advanceStatus ran
      rw [commitsAll_commit ran (accepted_of_same wrote.ledger.2),
        commitsAll_submitting (fresh.of_writes wrote), payable_congr wrote.accounts]
      constructor
      · intro posts other result signed
        cases signed
        exact posts result
      · exact fun posts result => posts signedTx result rfl

/-- A cash settlement posts its amount if it is positive. -/
theorem commitsAll_settleCash (settles : .settlement ∈ backend.journalTypes)
    (fresh : FreshJournals db) :
    CommitsAll backend [.commit (do let _ ← settleCash backend instruction trace)] db ↔
      (0 < instruction.amount → Payable backend db instruction) := by
  constructor
  · rintro ⟨after, ran, -⟩ positive fromAcct toAcct payer payee
    obtain ⟨result, middle, settle, -⟩ := bind_eq_ok.mp ran
    rw [settleCash, bind_of_ok (read_apply db)] at settle
    simp only [payer, payee] at settle
    rcases writes_settleCashBetween settle with ⟨nothing, -⟩ | ⟨-, amount, store, amount_pos, -⟩
    · exact absurd positive nothing
    · exact ⟨settles, amount, store, amount_pos⟩
  · intro payable
    obtain ⟨result, after, settle⟩ : ∃ result after,
        settleCash backend instruction trace db = .ok (result, after) := by
      rw [settleCash, bind_of_ok (read_apply db)]
      cases payer : findAccount db instruction.fromMemberId .settlement .available with
      | none => exact ⟨_, _, rfl⟩
      | some fromAcct =>
          cases payee : findAccount db instruction.toMemberId .settlement .available with
          | none => exact ⟨_, _, rfl⟩
          | some toAcct =>
              exact settleCashBetween_runs settles trace
                (fun positive => (payable positive fromAcct toAcct payer payee).2)
                (List.mem_of_find?_eq_some payer) (List.mem_of_find?_eq_some payee)
    refine ⟨after, bind_eq_ok.mpr ⟨result, after, settle, rfl⟩, ?_, trivial⟩
    rcases writes_settleCash settle with failed | ⟨-, unpaid⟩ | ⟨-, amount, store, -, -, pays⟩
    · exact accepted_of_same failed.ledger.2
    · exact accepted_of_same unpaid.ledger.2
    · refine accepted_of_writes fresh pays fun payment found => ⟨instruction.amount, ?_⟩
      rw [amount_of_mem_paymentOf found]
      exact store

theorem payable_iff : Payable migratedBackend db instruction ↔
    ((findAccount db instruction.fromMemberId .settlement .available).isSome →
      (findAccount db instruction.toMemberId .settlement .available).isSome →
        Postable instruction.amount) := by
  have settles : .settlement ∈ migratedBackend.journalTypes := by decide
  constructor
  · intro payable payer payee
    obtain ⟨fromAcct, payer⟩ := Option.isSome_iff_exists.mp payer
    obtain ⟨toAcct, payee⟩ := Option.isSome_iff_exists.mp payee
    exact stored_pos_iff.mp (payable fromAcct toAcct payer payee).2
  · intro postable fromAcct toAcct payer payee
    refine ⟨settles, stored_pos_iff.mpr (postable ?_ ?_)⟩
    · exact Option.isSome_iff_exists.mpr ⟨fromAcct, payer⟩
    · exact Option.isSome_iff_exists.mpr ⟨toAcct, payee⟩

/-- A script commits all of its transactions unless it comes to post what cannot be posted. -/
theorem commitsAll_script (settles : .settlement ∈ backend.journalTypes) (fresh : FreshJournals db)
    {chainRegistry : String → Option ChainAdapter} {sign : Bytes → String → Except Text Bytes}
    {instrument : Instrument} {actions : List Action}
    (scripted : script backend chainRegistry sign trace instruction instrument = some actions) :
    CommitsAll backend actions db ↔
      (Call.Posts chainRegistry sign instruction instrument → Payable backend db instruction) := by
  rw [Call.Posts]
  by_cases cash : instruction.settlementType = .cash
  · simp only [script, cash, Option.some.injEq] at scripted
    rw [if_pos cash, ← scripted]
    exact commitsAll_settleCash settles fresh
  rw [if_neg cash]
  rcases script_cases cash scripted with
    ⟨rfl, unchained⟩ | ⟨chainId, adapter, chain, given, registered, rfl⟩
  · apply iff_of_true (commitsAll_failInstruction ..)
    rintro ⟨chainId, _, _, _, _, chain, given, -⟩
    exact absurd (unchained chainId chain) given
  · have ran := advanceStatus_apply instruction.id .pending .approved (by decide)
      [.literal "DVP validation passed"] trace db
    have wrote := writes_advanceStatus ran
    rw [commitsAll_commit ran (accepted_of_same wrote.ledger.2),
      commitsAll_transferring (fresh.of_writes wrote), payable_congr wrote.accounts]
    constructor
    · rintro posts ⟨other, adapter', signedTx, result, txResult, chain', -, registered', signed,
        submitted, answer, confirmed⟩
      obtain rfl : chainId = other := Option.some.inj (chain.symm.trans chain')
      obtain rfl : adapter = adapter' := Option.some.inj (registered.symm.trans registered')
      exact posts signedTx result signed submitted ⟨txResult, answer, confirmed⟩
    · rintro posts signedTx result signed submitted ⟨txResult, answer, confirmed⟩
      exact posts ⟨chainId, adapter, signedTx, result, txResult, chain, given, registered, signed,
        submitted, answer, confirmed⟩

end Settlement

/-- What foreign keys and the uniqueness of identifiers leave true of every database: entries have
their journals from earlier identifiers, and legs refer to rows that exist. -/
structure Keyed (db : Database) : Prop where
  journals : FreshJournals db
  legs : Netting.LegReferences db

end SchemaChecks

end ClearingHouse
