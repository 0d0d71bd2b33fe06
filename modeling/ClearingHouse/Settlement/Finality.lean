import ClearingHouse.Settlement.CashCalls
import ClearingHouse.Settlement.Failure

/-!
# Finality

A transfer is final once the chain reports it confirmed as deep as it requires.  The polling looks
at the depth only before its last query, so a transfer is taken as final too early exactly if the
last query reports it confirmed and not deep enough.
-/

namespace ClearingHouse

namespace Settlement

open Transactions Transaction
open Transactions.Session (committedStates)

variable {backend : Backend} {db after : Database} {instructionId : Uuid}
  {instruction : SettlementInstruction} {adapter : ChainAdapter} {trace : TraceContext}

/-- The entries of a finalization can be posted, if both accounts exist. -/
def Payable (backend : Backend) (db : Database) (instruction : SettlementInstruction) : Prop :=
  ∀ fromAcct toAcct,
    findAccount db instruction.fromMemberId .settlement .available = some fromAcct →
    findAccount db instruction.toMemberId .settlement .available = some toAcct →
      JournalType.settlement ∈ backend.journalTypes ∧
        ∃ stored, backend.store instruction.amount = some stored ∧ 0 < stored

theorem payable_congr (accounts : after.accounts = db.accounts) :
    Payable backend after instruction ↔ Payable backend db instruction := by
  unfold Payable findAccount
  rw [accounts]

theorem payable_of_finalizeEntries
    (ran : finalizeEntries backend instruction db = .ok ((), after)) :
    Payable backend db instruction ∧ after.settlementInstructions = db.settlementInstructions := by
  rw [finalizeEntries, bind_of_ok (read_apply db)] at ran
  cases payer : findAccount db instruction.fromMemberId .settlement .available with
  | none =>
      simp only [payer] at ran
      cases ran
      have unpaid : Payable backend db instruction := fun _ _ found => by simp [payer] at found
      exact ⟨unpaid, rfl⟩
  | some fromAcct =>
      cases payee : findAccount db instruction.toMemberId .settlement .available with
      | none =>
          simp only [payer, payee] at ran
          cases ran
          have unpaid : Payable backend db instruction := fun _ _ _ found => by
            simp [payee] at found
          exact ⟨unpaid, rfl⟩
      | some toAcct =>
          simp only [payer, payee] at ran
          obtain ⟨journalId, numbered, number, post⟩ := bind_eq_ok.mp ran
          cases number
          obtain ⟨stored, store, positive, rfl⟩ := postSettlement_eq_ok post
          obtain ⟨⟨⟩, _, journal, -⟩ := bind_eq_ok.mp post
          exact ⟨fun _ _ _ _ => ⟨(insertJournal_eq_ok.mp journal).1, stored, store, positive⟩, rfl⟩

theorem finalizeEntries_runs (payable : Payable backend db instruction) :
    ∃ after, finalizeEntries backend instruction db = .ok ((), after) := by
  rw [finalizeEntries, bind_of_ok (read_apply db)]
  cases payer : findAccount db instruction.fromMemberId .settlement .available with
  | none => exact ⟨db, rfl⟩
  | some fromAcct =>
      cases payee : findAccount db instruction.toMemberId .settlement .available with
      | none => exact ⟨db, rfl⟩
      | some toAcct =>
          obtain ⟨settles, stored, store, positive⟩ := payable fromAcct toAcct payer payee
          have known : ∀ {memberId account},
              findAccount db memberId .settlement .available = some account →
                account.id ∈ db.accounts.map Account.id := fun found =>
            List.mem_map_of_mem (List.mem_of_find?_eq_some found)
          exact ⟨_, bind_eq_ok.mpr ⟨_, _, rfl, postSettlement_runs settles _ _ store positive
            (known payer) (known payee)⟩⟩

/-- The columns that a finalization sets. -/
theorem finalizeRows_eq_ok {blockNumber : Option ℕ} {confirmations : ℕ}
    (ran : finalizeRows backend instruction blockNumber confirmations trace db =
      .ok ((), after)) :
    Payable backend db instruction ∧
      ∀ row ∈ after.settlementInstructions, row.id = instruction.id →
        row.confirmations = confirmations ∧
          ∃ old ∈ db.settlementInstructions, old.id = instruction.id ∧ row.txHash = old.txHash := by
  obtain ⟨⟨⟩, paid, entries, ran⟩ := bind_eq_ok.mp ran
  obtain ⟨⟨⟩, counted, update, ran⟩ := bind_eq_ok.mp ran
  obtain ⟨⟨⟩, moved, advance, event⟩ := bind_eq_ok.mp ran
  obtain ⟨payable, same⟩ := payable_of_finalizeEntries entries
  cases update
  rw [advanceStatus_apply _ _ _ (by decide)] at advance
  cases advance
  cases event
  refine ⟨payable, fun row member named => ?_⟩
  simp only [advanced, List.map_map, List.mem_map, same, Function.comp_apply] at member
  obtain ⟨old, inside, rfl⟩ := member
  by_cases own : old.id = instruction.id
  · simp only [own, if_true]
    exact ⟨trivial, old, inside, own, rfl⟩
  · simp only [own, if_false] at named

theorem finalizeRows_runs (payable : Payable backend db instruction) (blockNumber : Option ℕ)
    (confirmations : ℕ) (trace : TraceContext) :
    ∃ after, finalizeRows backend instruction blockNumber confirmations trace db =
      .ok ((), after) := by
  obtain ⟨paid, entries⟩ := finalizeEntries_runs payable
  exact ⟨_, bind_eq_ok.mpr ⟨(), paid, entries, bind_eq_ok.mpr ⟨(), _, rfl, bind_eq_ok.mpr
    ⟨(), _, advanceStatus_apply _ _ _ (by decide) _ _ _, rfl⟩⟩⟩⟩

/-- The chain has reported the transaction of a row confirmed as deep as it requires, and the depth
is recorded. -/
def Final (adapter : ChainAdapter) (row : SettlementInstruction) : Prop :=
  ∃ required txHash asked answer, adapter.getRequiredConfirmations = .ok required ∧
    row.txHash = some txHash ∧ adapter.getTxStatus txHash asked = .ok answer ∧
    answer.status = .confirmed ∧ answer.confirmations = row.confirmations ∧
    required ≤ row.confirmations

/-- Whatever is recorded as confirmed is final. -/
def RespectsFinality (adapter : ChainAdapter) (instructionId : Uuid) (db : Database) : Prop :=
  ∀ row ∈ db.settlementInstructions, row.id = instructionId → row.status = .confirmed →
    Final adapter row

/-- The polling runs out, and its last query reports a confirmation that is not deep enough. -/
def ConfirmedEarly (adapter : ChainAdapter) (txHash : String) : Prop :=
  ∃ required, adapter.getRequiredConfirmations = .ok required ∧
    Inconclusive adapter txHash required maxConfirmationPolls ∧
    ∃ answer, adapter.getTxStatus txHash maxConfirmationPolls = .ok answer ∧
      answer.status = .confirmed ∧ answer.confirmations < required

theorem StatusAt.respectsFinality {status : InstructionStatus}
    (at_status : StatusAt instructionId status db) (other : status ≠ .confirmed) :
    RespectsFinality adapter instructionId db := fun row inside same confirmed =>
  absurd ((at_status.rows row inside same).symm.trans confirmed) other

/-- The `except` block confirms nothing. -/
theorem respectsFinality_failed {status : InstructionStatus} {message : Text}
    (at_status : StatusAt instruction.id status db) :
    ∀ state ∈ runActions backend (failed instruction trace message) db,
      RespectsFinality adapter instruction.id state := by
  intro state member
  obtain ⟨after, ran, -⟩ := failInstruction_apply instruction.id .approved message trace db
  have only : state = after := by
    simp only [failed, runActions, ran] at member
    split at member
    · cases member
    · exact List.mem_singleton.mp member
  subst only
  exact (at_status.of_writes (writes_failInstruction ran)).respectsFinality (by simp [statusAfter])

/-- A polling that returns a confirmation asks no more, or has asked for the last time. -/
theorem polled_confirmed {txHash : String} {answer : TransactionResult}
    (returned : polled adapter txHash = .ok answer) (confirmed : answer.status = .confirmed) :
    ∃ required asked, adapter.getRequiredConfirmations = .ok required ∧
      adapter.getTxStatus txHash asked = .ok answer ∧
      (required ≤ answer.confirmations ∨ ConfirmedEarly adapter txHash) := by
  rw [polled] at returned
  cases known : adapter.getRequiredConfirmations with
  | error message => simp [known] at returned
  | ok required =>
      simp only [known] at returned
      obtain ⟨asked, bounded, same, earlier, stopped⟩ :=
        pollConfirmations_stops adapter txHash required
      rw [same] at returned
      refine ⟨required, asked, rfl, returned, ?_⟩
      by_cases deep : required ≤ answer.confirmations
      · exact .inl deep
      · rcases bounded.lt_or_eq with before | last
        · rcases stopped before answer returned with ⟨-, deep'⟩ | reported
          · exact absurd deep' deep
          · rw [confirmed] at reported
            cases reported
        · subst last
          exact .inr ⟨required, known, earlier, answer, returned, confirmed, Nat.lt_of_not_le deep⟩

/-- What the last query reports is what the polling returns. -/
theorem polled_of_confirmedEarly {txHash : String} (early : ConfirmedEarly adapter txHash) :
    ∃ required answer, adapter.getRequiredConfirmations = .ok required ∧
      polled adapter txHash = .ok answer ∧ answer.status = .confirmed ∧
      answer.confirmations < required := by
  obtain ⟨required, known, inconclusive, answer, reported, confirmed, shallow⟩ := early
  obtain ⟨asked, bounded, returned, earlier, stopped⟩ :=
    pollConfirmations_stops adapter txHash required
  have last : asked = maxConfirmationPolls := by
    by_contra apart
    have before : asked < maxConfirmationPolls := by omega
    obtain ⟨answer', got, unsettled⟩ := inconclusive asked before
    exact unsettled (stopped before answer' got)
  rw [last] at returned
  refine ⟨required, answer, known, ?_, confirmed, shallow⟩
  rw [polled, known]
  exact returned.trans reported

/-- The rows of an instruction name a transaction. -/
def HashAt (instructionId : Uuid) (txHash : String) (db : Database) : Prop :=
  ∀ row ∈ db.settlementInstructions, row.id = instructionId → row.txHash = some txHash

/-- From the polling on, finality is respected unless the confirmation is early and can be
recorded. -/
theorem respectsFinality_concluding {txHash : String} (fresh : FreshJournals db)
    (at_status : StatusAt instruction.id .broadcasted db)
    (hashed : HashAt instruction.id txHash db) :
    (∀ state ∈ runActions backend (concluding backend instruction adapter trace txHash) db,
      RespectsFinality adapter instruction.id state) ↔
      ¬(ConfirmedEarly adapter txHash ∧ Payable backend db instruction) := by
  constructor
  · rintro respects ⟨early, payable⟩
    obtain ⟨required, answer, known, returned, confirmed, shallow⟩ :=
      polled_of_confirmedEarly early
    obtain ⟨after, ran⟩ := finalizeRows_runs payable none answer.confirmations trace
    have accepted := accepted_finalizeRows fresh ran
    have member : after ∈
        runActions backend (concluding backend instruction adapter trace txHash) db := by
      simp [concluding, returned, confirmed, runActions, ran, accepted]
    obtain ⟨-, columns⟩ := finalizeRows_eq_ok ran
    obtain ⟨amount, writes, -⟩ := writes_finalizeRows ran
    have at_confirmed := at_status.of_writes writes
    obtain ⟨row, inside, same⟩ := at_confirmed.present
    obtain ⟨required', -, -, -, known', -, -, -, -, deep⟩ :=
      respects after member row inside same (at_confirmed.rows row inside same)
    rw [known, Except.ok.injEq] at known'
    rw [(columns row inside same).1] at deep
    omega
  · intro excluded state member
    unfold concluding at member
    cases returned : polled adapter txHash with
    | error message =>
        rw [returned] at member
        exact respectsFinality_failed at_status state member
    | ok answer =>
        simp only [returned] at member
        by_cases confirmed : answer.status = .confirmed
        · simp only [confirmed, if_true, runActions] at member
          split at member
          · cases member
          · next after ran =>
              split at member
              · cases member
              · obtain rfl := List.mem_singleton.mp member
                obtain ⟨payable, columns⟩ := finalizeRows_eq_ok ran
                obtain ⟨required, asked, known, reported, deep | early⟩ :=
                  polled_confirmed returned confirmed
                · intro row inside same _
                  obtain ⟨count, old, there, own, hash⟩ := columns row inside same
                  exact ⟨required, txHash, asked, answer, known, hash.trans (hashed old there own),
                    reported, confirmed, count.symm, count ▸ deep⟩
                · exact absurd ⟨early, payable⟩ excluded
        · simp only [confirmed, if_false, runActions] at member
          obtain ⟨after, ran, -, -, -, entries, -⟩ := failInstruction_apply instruction.id
            .broadcasted [.literal "Tx failed: ", .literal answer.txHash] trace db
          have accepted : (server backend).deferred db after = .ok () := accepted_of_same entries
          simp only [ran, accepted, List.mem_singleton] at member
          subst member
          exact (at_status.of_writes (writes_failInstruction ran)).respectsFinality (by decide)

/-- The chain takes the transaction of an instruction and reports it confirmed too early. -/
def TakenEarly (adapter : ChainAdapter) (instruction : SettlementInstruction)
    (contractAddress : Option String) (chainId : String)
    (sign : Bytes → String → Except Text Bytes) : Prop :=
  ∃ signedTx result,
    signedTransaction instruction adapter contractAddress chainId sign = .ok signedTx ∧
      adapter.submitSignedTx signedTx = .ok result ∧ ConfirmedEarly adapter result.txHash

/-- After the commit of a transaction that leaves the ledger alone. -/
theorem runActions_commit {code : Sql Unit} {rest : List Action}
    (ran : code db = .ok ((), after)) (entries : after.journalEntries = db.journalEntries) :
    runActions backend (.commit code :: rest) db = after :: runActions backend rest after := by
  have accepted : (server backend).deferred db after = .ok () := accepted_of_same entries
  simp only [runActions, ran, accepted]

theorem respectsFinality_submitting {signedTx : Bytes} (fresh : FreshJournals db)
    (at_status : StatusAt instruction.id .signed db) :
    (∀ state ∈ runActions backend (submitting backend instruction adapter trace signedTx) db,
      RespectsFinality adapter instruction.id state) ↔
      ¬∃ result, adapter.submitSignedTx signedTx = .ok result ∧
        ConfirmedEarly adapter result.txHash ∧ Payable backend db instruction := by
  rw [submitting, runActions]
  cases submitted : adapter.submitSignedTx signedTx with
  | error message =>
      apply iff_of_true (respectsFinality_failed at_status)
      rintro ⟨result, taken, -⟩
      cases taken
  | ok result =>
      have broadcast := broadcastRows_apply instruction result.txHash trace db
      obtain ⟨broadcasted, written⟩ : ∃ broadcasted,
          broadcastRows instruction result.txHash trace db = .ok ((), broadcasted) := ⟨_, broadcast⟩
      have wrote := writes_broadcastRows written
      have at_broadcasted := at_status.of_writes wrote
      have hashed : HashAt instruction.id result.txHash broadcasted := by
        rw [broadcast, Except.ok.injEq, Prod.mk.injEq] at written
        intro row member same
        rw [← written.2, advanced] at member
        simp only [List.map_map, List.mem_map, Function.comp_apply] at member
        obtain ⟨old, -, rfl⟩ := member
        by_cases own : old.id = instruction.id
        · simp [own]
        · simp [own] at same
      rw [runActions_commit written wrote.ledger.2, List.forall_mem_cons,
        respectsFinality_concluding (fresh.of_writes wrote) at_broadcasted hashed,
        payable_congr wrote.accounts]
      constructor
      · rintro ⟨-, excluded⟩ ⟨result', taken, early⟩
        cases taken
        exact excluded early
      · intro excluded
        exact ⟨at_broadcasted.respectsFinality (by decide),
          fun early => excluded ⟨result, rfl, early⟩⟩

theorem respectsFinality_transferring {contractAddress : Option String} {chainId : String}
    {sign : Bytes → String → Except Text Bytes} (fresh : FreshJournals db)
    (at_status : StatusAt instruction.id .approved db) :
    (∀ state ∈ runActions backend
        (transferring backend instruction adapter trace contractAddress chainId sign) db,
      RespectsFinality adapter instruction.id state) ↔
      ¬(TakenEarly adapter instruction contractAddress chainId sign ∧
        Payable backend db instruction) := by
  unfold transferring TakenEarly
  cases built : signedTransaction instruction adapter contractAddress chainId sign with
  | error message =>
      apply iff_of_true (respectsFinality_failed at_status)
      rintro ⟨⟨signedTx, result, signed, -⟩, -⟩
      cases signed
  | ok signedTx =>
      have sign_ok := advanceStatus_apply instruction.id .approved .signed (by decide)
        [.literal "MPC signing complete"] trace db
      generalize advanced instruction.id .approved .signed [.literal "MPC signing complete"] trace
        db = signed at sign_ok
      have wrote := writes_advanceStatus sign_ok
      have at_signed := at_status.of_writes wrote
      rw [runActions_commit sign_ok wrote.ledger.2, List.forall_mem_cons,
        respectsFinality_submitting (fresh.of_writes wrote) at_signed,
        payable_congr wrote.accounts]
      constructor
      · rintro ⟨-, excluded⟩ ⟨⟨signedTx', result, same, taken, early⟩, payable⟩
        cases same
        exact excluded ⟨result, taken, early, payable⟩
      · intro excluded
        refine ⟨at_signed.respectsFinality (by decide), ?_⟩
        rintro ⟨result, taken, early, payable⟩
        exact excluded ⟨⟨signedTx, result, rfl, taken, early⟩, payable⟩

/-- A call for a pending instruction on a chain that has an adapter. -/
structure ChainCall (db : Database) (instructionId : Uuid)
    (chainRegistry : String → Option ChainAdapter) where
  instruction : SettlementInstruction
  instrument : Instrument
  chainId : String
  adapter : ChainAdapter
  pending : pendingInstruction db instructionId = some (instruction, instrument)
  onChain : instruction.settlementType ≠ .cash
  chain : instruction.chainId = some chainId
  named : chainId ≠ ""
  registered : chainRegistry chainId = some adapter

variable {chainRegistry : String → Option ChainAdapter} {sign : Bytes → String → Except Text Bytes}

/-- Every committed state of a call respects finality exactly if the chain does not take the
transaction and report it confirmed too early, with entries that can be posted. -/
theorem respectsFinality_iff (backend : Backend) (trace : TraceContext) (fresh : FreshJournals db)
    (unique : (db.settlementInstructions.map SettlementInstruction.id).Nodup)
    (call : ChainCall db instructionId chainRegistry) :
    (∀ state ∈ committedStates
        (settlementCall backend instructionId chainRegistry sign trace) db,
      RespectsFinality call.adapter instructionId state) ↔
      ¬(TakenEarly call.adapter call.instruction call.instrument.contractAddress call.chainId sign ∧
        Payable backend db call.instruction) := by
  obtain ⟨instruction, instrument, chainId, adapter, found, onChain, chain, named, registered⟩ :=
    call
  obtain ⟨rfl, pending⟩ := statusAt_of_pending unique found
  obtain ⟨extra, commits, repeats⟩ := committedStates_settlementCall chainRegistry sign trace
    backend instruction.id fresh
  have approve := advanceStatus_apply instruction.id .pending .approved (by decide)
    [.literal "DVP validation passed"] trace db
  generalize advanced instruction.id .pending .approved [.literal "DVP validation passed"]
    trace db = approved at approve
  have wrote := writes_advanceStatus approve
  have at_approved := pending.of_writes wrote
  have states : committedBy backend chainRegistry sign trace instruction.id db =
      approved :: runActions backend
        (transferring backend instruction adapter trace instrument.contractAddress chainId sign)
        approved := by
    simp only [committedBy, found, script_of_onChain onChain chain named registered]
    exact runActions_commit approve wrote.ledger.2
  have script : (∀ state ∈ committedBy backend chainRegistry sign trace instruction.id db,
      RespectsFinality adapter instruction.id state) ↔
        ¬(TakenEarly adapter instruction instrument.contractAddress chainId sign ∧
          Payable backend db instruction) := by
    rw [states, List.forall_mem_cons, ← payable_congr wrote.accounts,
      respectsFinality_transferring (fresh.of_writes wrote) at_approved]
    exact and_iff_right (at_approved.respectsFinality (by decide))
  rw [commits, ← script]
  constructor
  · exact fun all state member => all state (List.mem_append_left _ member)
  · intro all state member
    rcases List.mem_append.mp member with inside | again
    · exact all state inside
    · apply all state
      rw [repeats state again, states, List.getLastD_cons]
      exact List.getLastD_mem_cons

/-- The call for the instruction of `dvpHouse` on a chain. -/
def dvpCall (adapter : ChainAdapter) : ChainCall dvpHouse 5 (fun _ => some adapter) where
  instruction := dvpRow
  instrument := dvpInstrument
  chainId := "ethereum-mainnet"
  adapter := adapter
  pending := pendingInstruction_dvpHouse
  onChain := dvpRow_onChain
  chain := dvpRow_chain
  named := ethereum_named
  registered := ethereum_registered adapter

/-- A chain that reports the required depth at once. -/
theorem respectsFinality_dvpHouse :
    (committedStates
        (settlementCall decimalBackend 5 (fun _ => some (chainReporting .confirmed 2)) echoSigner
          systemTrace) dvpHouse).length = 5 ∧
      ∀ state ∈ committedStates
          (settlementCall decimalBackend 5 (fun _ => some (chainReporting .confirmed 2)) echoSigner
            systemTrace) dvpHouse,
        RespectsFinality (chainReporting .confirmed 2) 5 state := by
  have fresh : FreshJournals dvpHouse := by simp [FreshJournals, dvpHouse, Database.opening]
  refine ⟨by decide +kernel, ?_⟩
  refine (respectsFinality_iff decimalBackend systemTrace fresh (by decide)
    (dvpCall (chainReporting .confirmed 2))).mpr ?_
  rintro ⟨⟨signedTx, result, -, -, required, known, inconclusive, -⟩, -⟩
  cases known
  obtain ⟨answer, got, unsettled⟩ := inconclusive 0 (by decide)
  cases got
  exact unsettled (.inl ⟨rfl, le_rfl⟩)

/-- A chain that requires two confirmations and never reports more than one. -/
theorem not_respectsFinality_dvpHouse :
    ¬ ∀ (db : Database) (instructionId : Uuid) (chainRegistry : String → Option ChainAdapter)
        (sign : Bytes → String → Except Text Bytes) (trace : TraceContext),
      FreshJournals db → (db.settlementInstructions.map SettlementInstruction.id).Nodup →
        ∀ call : ChainCall db instructionId chainRegistry,
          ∀ state ∈ committedStates
              (settlementCall decimalBackend instructionId chainRegistry sign trace) db,
            RespectsFinality call.adapter instructionId state := by
  intro claim
  have fresh : FreshJournals dvpHouse := by simp [FreshJournals, dvpHouse, Database.opening]
  obtain ⟨state, committed, row, inside, same, confirmed, count⟩ : ∃ state ∈ committedStates
      (settlementCall decimalBackend 5 (fun _ => some (chainReporting .confirmed 1)) echoSigner
        systemTrace) dvpHouse,
      ∃ row ∈ state.settlementInstructions, row.id = 5 ∧ row.status = .confirmed ∧
        row.confirmations = 1 := by decide +kernel
  obtain ⟨required, -, -, -, known, -, -, -, -, deep⟩ :=
    claim dvpHouse 5 _ echoSigner systemTrace fresh (by decide)
      (dvpCall (chainReporting .confirmed 1)) state committed row inside same confirmed
  cases known
  omega

end Settlement

end ClearingHouse
