import ClearingHouse.Settlement

/-!
# Settlement scripts

A settlement commits several times and calls the chain in between.  What it does is decided by the
pending row it has read and by the answers of the signer and the chain: a list of transactions to
commit and of signed transactions to submit.  The session of `settle_instruction` commits exactly
the states that its script runs through.
-/

namespace ClearingHouse

namespace Settlement

open Transactions
open Transactions.Session (commit)

/-- One act of a settlement that outlives a crash. -/
inductive Action
  | commit (code : Sql Unit)
  | submit (signedTx : Bytes)

/-- The rows written once the transaction is on the chain. -/
def broadcastRows (instruction : SettlementInstruction) (txHash : String) (trace : TraceContext) :
    Sql Unit := do
  updateInstruction instruction.id fun row => { row with txHash := some txHash }
  advanceStatus instruction.id .signed .broadcasted [.literal "Tx submitted"] trace

section Dvp

variable (backend : Backend) (instruction : SettlementInstruction) (adapter : ChainAdapter)
  (trace : TraceContext)

/-- What the `except` block commits. -/
def failed (message : Text) : List Action :=
  [.commit (failInstruction instruction.id .approved message trace)]

/-- The answer to the polling of a transaction. -/
def polled (txHash : String) : Except Text TransactionResult :=
  match adapter.getRequiredConfirmations with
  | .error message => .error message
  | .ok required => pollConfirmations adapter txHash required 0 maxConfirmationPolls

/-- From the polling on. -/
def concluding (txHash : String) : List Action :=
  match polled adapter txHash with
  | .error message => failed instruction trace message
  | .ok txResult =>
      if txResult.status = .confirmed then
        [.commit (finalizeRows backend instruction none txResult.confirmations trace)]
      else
        [.commit (failInstruction instruction.id .broadcasted
          [.literal "Tx failed: ", .literal txResult.txHash] trace)]

/-- From the submission on. -/
def submitting (signedTx : Bytes) : List Action :=
  .submit signedTx ::
    match adapter.submitSignedTx signedTx with
    | .error message => failed instruction trace message
    | .ok result =>
        .commit (broadcastRows instruction result.txHash trace) ::
          concluding backend instruction adapter trace result.txHash

/-- The signed transaction, built from the instruction. -/
def signedTransaction (contractAddress : Option String) (chainId : String)
    (sign : Bytes → String → Except Text Bytes) : Except Text Bytes :=
  match adapter.buildDvpTx (dvpInstruction instruction contractAddress chainId) with
  | .error message => .error message
  | .ok unsignedTx => sign unsignedTx chainId

/-- The `try` block of `_settle_dvp` with its handler. -/
def transferring (contractAddress : Option String) (chainId : String)
    (sign : Bytes → String → Except Text Bytes) : List Action :=
  match signedTransaction instruction adapter contractAddress chainId sign with
  | .error message => failed instruction trace message
  | .ok signedTx =>
      .commit (advanceStatus instruction.id .approved .signed [.literal "MPC signing complete"]
        trace) :: submitting backend instruction adapter trace signedTx

end Dvp

/-- The script of a settlement that has read a row; `none` if it raises before any commit. -/
def script (backend : Backend) (chainRegistry : String → Option ChainAdapter)
    (sign : Bytes → String → Except Text Bytes) (trace : TraceContext)
    (instruction : SettlementInstruction) (instrument : Instrument) : Option (List Action) :=
  match instruction.settlementType with
  | .cash => some [.commit (do let _ ← settleCash backend instruction trace)]
  | .dvp | .physical =>
      match instruction.chainId.filter fun chainId => chainId ≠ "" with
      | none =>
          some [.commit
            (failInstruction instruction.id .pending [.literal "No chain_id for DVP settlement"]
              trace)]
      | some chainId =>
          match chainRegistry chainId with
          | none => none
          | some adapter =>
              some
                (.commit (advanceStatus instruction.id .pending .approved
                  [.literal "DVP validation passed"] trace) ::
                  transferring backend instruction adapter trace instrument.contractAddress chainId
                    sign)

/-- Off the cash path a script fails the row for want of a chain or starts a transfer. -/
theorem script_cases {backend : Backend} {chainRegistry : String → Option ChainAdapter}
    {sign : Bytes → String → Except Text Bytes} {trace : TraceContext}
    {instruction : SettlementInstruction} {instrument : Instrument} {actions : List Action}
    (onChain : instruction.settlementType ≠ .cash)
    (scripted : script backend chainRegistry sign trace instruction instrument = some actions) :
    (actions = [.commit (failInstruction instruction.id .pending
        [.literal "No chain_id for DVP settlement"] trace)] ∧
      ∀ chainId, instruction.chainId = some chainId → chainId = "") ∨
      ∃ chainId adapter, instruction.chainId = some chainId ∧ chainId ≠ "" ∧
        chainRegistry chainId = some adapter ∧
        actions = .commit (advanceStatus instruction.id .pending .approved
            [.literal "DVP validation passed"] trace) ::
          transferring backend instruction adapter trace instrument.contractAddress chainId
            sign := by
  have dvp : (match instruction.chainId.filter fun chainId => chainId ≠ "" with
      | none =>
          some [.commit
            (failInstruction instruction.id .pending [.literal "No chain_id for DVP settlement"]
              trace)]
      | some chainId =>
          match chainRegistry chainId with
          | none => none
          | some adapter =>
              some
                (.commit (advanceStatus instruction.id .pending .approved
                  [.literal "DVP validation passed"] trace) ::
                  transferring backend instruction adapter trace instrument.contractAddress chainId
                    sign)) = some actions := by
    unfold script at scripted
    cases type : instruction.settlementType with
    | cash => exact absurd type onChain
    | physical => simpa only [type] using scripted
    | dvp => simpa only [type] using scripted
  cases chain : instruction.chainId.filter fun chainId => chainId ≠ "" with
  | none =>
      simp only [chain, Option.some.injEq] at dvp
      refine .inl ⟨dvp.symm, fun chainId named => ?_⟩
      simpa using Option.filter_eq_none_iff.mp chain chainId named
  | some chainId =>
      cases registered : chainRegistry chainId with
      | none => simp only [chain, registered, reduceCtorEq] at dvp
      | some adapter =>
          simp only [chain, registered, Option.some.injEq] at dvp
          obtain ⟨named, given⟩ := Option.filter_eq_some_iff.mp chain
          exact .inr ⟨chainId, adapter, named, by simpa using given, registered, dvp.symm⟩

theorem mem_of_pendingInstruction {db : Database} {instructionId : Uuid}
    {instruction : SettlementInstruction} {instrument : Instrument}
    (pending : pendingInstruction db instructionId = some (instruction, instrument)) :
    instruction ∈ db.settlementInstructions ∧ instruction.id = instructionId ∧
      instruction.status = .pending := by
  unfold pendingInstruction at pending
  split at pending
  · cases pending
  · next row found =>
      have matched := List.find?_some found
      simp only [decide_eq_true_eq] at matched
      have inside := List.mem_of_find?_eq_some found
      split at pending
      · cases pending
      · cases pending
        exact ⟨inside, matched⟩

/-- The states that a list of actions commits, up to the first transaction that raises. -/
def runActions (backend : Backend) : List Action → Database → List Database
  | [], _ => []
  | .submit _ :: rest, db => runActions backend rest db
  | .commit code :: rest, db =>
      match code db with
      | .error _ => []
      | .ok (_, after) =>
          match (server backend).deferred db after with
          | .error _ => []
          | .ok () => after :: runActions backend rest after

/-- The states committed when the settlement of an instruction is called on a state. -/
def committedBy (backend : Backend) (chainRegistry : String → Option ChainAdapter)
    (sign : Bytes → String → Except Text Bytes) (trace : TraceContext) (instructionId : Uuid)
    (db : Database) : List Database :=
  match pendingInstruction db instructionId with
  | none => []
  | some (instruction, instrument) =>
      match script backend chainRegistry sign trace instruction instrument with
      | none => []
      | some actions => runActions backend actions db

/-- A consumer's call of `settle_instruction`, up to its commit. -/
def settlementCall (backend : Backend) (instructionId : Uuid)
    (chainRegistry : String → Option ChainAdapter) (sign : Bytes → String → Except Text Bytes)
    (trace : TraceContext) : Session Database Failure SettlementResult := do
  let result ← settleInstruction backend instructionId chainRegistry sign trace
  commit (server backend)
  pure result

/-- A status change of an instruction and its record. -/
def advanced (instructionId : Uuid) (fromStatus toStatus : InstructionStatus) (reason : Text)
    (trace : TraceContext) (db : Database) : Database :=
  { db with
    settlementInstructions := db.settlementInstructions.map fun row =>
      if row.id = instructionId then { row with status := toStatus } else row
    stateTransitions := db.stateTransitions ++
      [{ entityType := .settlementInstruction
         entityId := instructionId
         fromStatus := some (.settlementInstruction fromStatus)
         toStatus := .settlementInstruction toStatus
         reason := some reason
         transitionedBy := "settlement-engine:" ++ trace.actor
         traceId := some trace.traceId
         actor := some trace.actor }] }

theorem advanceStatus_apply (instructionId : Uuid) (fromStatus toStatus : InstructionStatus)
    (valid : toStatus ∈ validTransitions fromStatus) (reason : Text) (trace : TraceContext)
    (db : Database) :
    advanceStatus instructionId fromStatus toStatus reason trace db =
      .ok ((), advanced instructionId fromStatus toStatus reason trace db) := by
  simp only [advanceStatus, validateTransition, if_pos valid]
  rfl

theorem failInstruction_apply (instructionId : Uuid) (fromStatus : InstructionStatus)
    (reason : Text) (trace : TraceContext) (db : Database) :
    ∃ after, failInstruction instructionId fromStatus reason trace db = .ok ((), after) ∧
      after.settlementInstructions =
        (advanced instructionId fromStatus .failed reason trace db).settlementInstructions ∧
      after.stateTransitions =
        (advanced instructionId fromStatus .failed reason trace db).stateTransitions ∧
      after.journals = db.journals ∧ after.journalEntries = db.journalEntries ∧
      after.accounts = db.accounts ∧ db.nextUuid ≤ after.nextUuid := by
  refine ⟨_, rfl, rfl, rfl, rfl, rfl, rfl, ?_⟩
  exact Nat.le_add_right db.nextUuid 2

theorem broadcastRows_apply (instruction : SettlementInstruction) (txHash : String)
    (trace : TraceContext) (db : Database) :
    broadcastRows instruction txHash trace db =
      .ok ((), advanced instruction.id .signed .broadcasted [.literal "Tx submitted"] trace
        { db with
          settlementInstructions := db.settlementInstructions.map fun row =>
            if row.id = instruction.id then { row with txHash := some txHash } else row }) := rfl

/-- No entry belongs to a journal that has no identifier yet. -/
def FreshJournals (db : Database) : Prop :=
  ∀ entry ∈ db.journalEntries, entry.journalId < db.nextUuid

variable {backend : Backend}

/-- The rows of a settlement journal. -/
def posted (instructionId fromAcct toAcct : Uuid) (amount : ℚ) (journalId : Uuid)
    (db : Database) : Database :=
  { db with
    journals := db.journals ++
      [⟨journalId, .settlement, "settlement_instruction", some instructionId, .confirmed⟩]
    journalEntries := db.journalEntries ++
      [⟨journalId, fromAcct, 0, amount⟩, ⟨journalId, toAcct, amount, 0⟩] }

theorem postSettlement_eq_ok {instructionId fromAcct toAcct journalId : Uuid} {amount : ℚ}
    {db after : Database}
    (ran : postSettlement backend instructionId fromAcct toAcct amount journalId db =
      .ok ((), after)) :
    ∃ stored, backend.store amount = some stored ∧ 0 < stored ∧
      after = posted instructionId fromAcct toAcct stored journalId db := by
  obtain ⟨⟨⟩, middle, journal, rest⟩ := Transaction.bind_eq_ok.mp ran
  obtain ⟨-, rfl⟩ := insertJournal_eq_ok.mp journal
  obtain ⟨⟨⟩, next, credit, debit⟩ := Transaction.bind_eq_ok.mp rest
  obtain ⟨zero, stored, zero_stored, amount_stored, oneSided, -, -, rfl⟩ :=
    insertJournalEntry_eq_ok.mp credit
  obtain ⟨stored', zero', amount_stored', zero_stored', -, -, -, rfl⟩ :=
    insertJournalEntry_eq_ok.mp debit
  rw [backend.store_zero, Option.some.injEq] at zero_stored zero_stored'
  rw [amount_stored, Option.some.injEq] at amount_stored'
  subst zero_stored zero_stored' amount_stored'
  refine ⟨stored, amount_stored, ?_, ?_⟩
  · rcases oneSided with ⟨negative, -⟩ | ⟨-, positive⟩
    · exact absurd negative (lt_irrefl 0)
    · exact positive
  · simp [posted]

/-- New entries of fresh journals pass the deferred check if they balance. -/
theorem accepted_of_balanced {db after : Database} (fresh : FreshJournals db)
    {added : List JournalEntry} (entries : after.journalEntries = db.journalEntries ++ added)
    (unused : ∀ entry ∈ added, db.nextUuid ≤ entry.journalId)
    (balanced : ∀ entry ∈ added, ∃ total, backend.store total = some total ∧
      Fibers.fiberSum JournalEntry.journalId JournalEntry.debit added entry.journalId = total ∧
      Fibers.fiberSum JournalEntry.journalId JournalEntry.credit added entry.journalId = total) :
    (server backend).deferred db after = .ok () := by
  have inserted : after.journalEntries.drop db.journalEntries.length = added := by
    rw [entries, List.drop_left]
  change checkInsertedEntries backend db after = .ok ()
  rw [checkInsertedEntries, inserted]
  apply forM_eq_ok.mpr
  intro new member
  obtain ⟨total, again, debits, credits⟩ := balanced new member
  have old : ∀ column : JournalEntry → ℚ,
      Fibers.fiberSum JournalEntry.journalId column db.journalEntries new.journalId = 0 := by
    intro column
    rw [Fibers.fiberSum, List.filter_eq_nil_iff.mpr]
    · rfl
    · intro entry inside
      have other : entry.journalId ≠ new.journalId :=
        ne_of_lt (lt_of_lt_of_le (fresh entry inside) (unused new member))
      simpa using other
  have debit_total : journalTotal JournalEntry.debit after new.journalId = total := by
    rw [journalTotal, entries, Fibers.fiberSum_append, old, zero_add, debits]
  have credit_total : journalTotal JournalEntry.credit after new.journalId = total := by
    rw [journalTotal, entries, Fibers.fiberSum_append, old, zero_add, credits]
  simp [validateJournalBalance, debit_total, credit_total, again]

/-- A fresh journal with two equal entries passes the deferred check. -/
theorem accepted_posted {db : Database} (fresh : FreshJournals db) {journalId : Uuid}
    (unused : db.nextUuid ≤ journalId) {instructionId fromAcct toAcct : Uuid} {amount stored : ℚ}
    (store : backend.store amount = some stored) {after : Database}
    (entries : after.journalEntries =
      (posted instructionId fromAcct toAcct stored journalId db).journalEntries) :
    (server backend).deferred db after = .ok () := by
  refine accepted_of_balanced fresh entries ?_ ?_
  · simpa using unused
  · intro entry member
    have same : entry.journalId = journalId := by
      simp only [List.mem_cons, List.not_mem_nil, or_false] at member
      rcases member with rfl | rfl <;> rfl
    refine ⟨stored, backend.store_stored store, ?_, ?_⟩ <;>
      simp [same, Fibers.fiberSum_cons]

end Settlement

end ClearingHouse
