import ClearingHouse.Settlement.Commits

/-!
# Cash settlements in turn

A call on a pending cash instruction whose members have their settlement accounts commits one
transaction: the row is confirmed, and its amount has moved from the account of the payer to that
of the payee.
-/

namespace ClearingHouse

namespace Settlement

open Transactions Transactions.Transaction
open Transactions.Session (committedStates)

variable {backend : Backend}

/-- A pending cash row whose amount and accounts are there. -/
structure CashReady (backend : Backend) (db : Database) (row : SettlementInstruction) : Prop where
  pending : ∃ instrument, pendingInstruction db row.id = some (row, instrument)
  cash : row.settlementType = .cash
  stored : backend.store row.amount = some row.amount
  nonneg : 0 ≤ row.amount
  payer : ∃ account, findAccount db row.fromMemberId .settlement .available = some account
  payee : ∃ account, findAccount db row.toMemberId .settlement .available = some account

/-- The payment of a settled row; an amount of zero is not posted. -/
def paid (db : Database) (row : SettlementInstruction) : Option Payment :=
  if 0 < row.amount then paymentOf db row row.amount else none

theorem postSettlement_runs (settles : JournalType.settlement ∈ backend.journalTypes)
    (instructionId : Uuid) {fromAcct toAcct : Uuid} (journalId : Uuid) {amount stored : ℚ}
    {db : Database} (store : backend.store amount = some stored) (positive : 0 < stored)
    (payer : fromAcct ∈ db.accounts.map Account.id) (payee : toAcct ∈ db.accounts.map Account.id) :
    postSettlement backend instructionId fromAcct toAcct amount journalId db =
      .ok ((), posted instructionId fromAcct toAcct stored journalId db) := by
  refine bind_eq_ok.mpr ⟨(), _, insertJournal_eq_ok.mpr ⟨settles, rfl⟩, bind_eq_ok.mpr
    ⟨(), _, insertJournalEntry_eq_ok.mpr ⟨0, stored, backend.store_zero, store,
      .inr ⟨rfl, positive⟩, by simp, payer, rfl⟩, insertJournalEntry_eq_ok.mpr
        ⟨stored, 0, store, backend.store_zero, .inl ⟨positive, rfl⟩, by simp, payee, ?_⟩⟩⟩
  simp [posted]

theorem settleCashBetween_runs (settles : JournalType.settlement ∈ backend.journalTypes)
    {row : SettlementInstruction} {fromAcct toAcct : Account} (trace : TraceContext) {db : Database}
    (payable : 0 < row.amount → ∃ stored, backend.store row.amount = some stored ∧ 0 < stored)
    (payer : fromAcct ∈ db.accounts) (payee : toAcct ∈ db.accounts) :
    ∃ result after, settleCashBetween backend row fromAcct toAcct trace db =
      .ok (result, after) := by
  have advances : ∀ (fromStatus toStatus : InstructionStatus) (reason : Text) (db : Database),
      toStatus ∈ validTransitions fromStatus →
        advanceStatus row.id fromStatus toStatus reason trace db =
          .ok ((), advanced row.id fromStatus toStatus reason trace db) :=
    fun fromStatus toStatus reason db valid => advanceStatus_apply _ _ _ valid _ _ _
  set broadcast := advanced row.id .signed .broadcasted [.literal "Cash: no broadcast needed"] trace
    (advanced row.id .approved .signed [.literal "Cash: no signing needed"] trace
      (advanced row.id .pending .approved [.literal "Validation passed"] trace db))
  obtain ⟨posts, pays⟩ : ∃ posts, runWhen (0 < row.amount)
      (postSettlement backend row.id fromAcct.id toAcct.id row.amount broadcast.nextUuid)
      { broadcast with nextUuid := broadcast.nextUuid + 1 } = .ok ((), posts) := by
    by_cases positive : 0 < row.amount
    · obtain ⟨stored, store, stored_pos⟩ := payable positive
      rw [runWhen, if_pos positive]
      exact ⟨_, postSettlement_runs settles row.id _ store stored_pos
        (List.mem_map_of_mem payer) (List.mem_map_of_mem payee)⟩
    · rw [runWhen, if_neg positive]
      exact ⟨_, rfl⟩
  obtain ⟨after, announces⟩ : ∃ after, emitSettlementEvent row.id "settlement.completed"
      row.fromMemberId trace (advanced row.id .broadcasted .confirmed
        [.literal "Cash settlement completed"] trace posts) = .ok ((), after) := ⟨_, rfl⟩
  refine ⟨.confirmed row.id (some broadcast.nextUuid) none, after, ?_⟩
  refine bind_eq_ok.mpr ⟨(), _, advances .pending .approved _ db (by decide), bind_eq_ok.mpr
    ⟨(), _, advances .approved .signed _ _ (by decide), bind_eq_ok.mpr
      ⟨(), broadcast, advances .signed .broadcasted _ _ (by decide), bind_eq_ok.mpr
        ⟨_, _, rfl, bind_eq_ok.mpr ⟨(), posts, pays, bind_eq_ok.mpr
          ⟨(), _, advances .broadcasted .confirmed _ _ (by decide), ?_⟩⟩⟩⟩⟩⟩
  exact bind_eq_ok.mpr ⟨(), after, announces, rfl⟩

/-- The cash settlement of a ready row confirms and pays it. -/
theorem settleCash_runs (settles : JournalType.settlement ∈ backend.journalTypes)
    {row : SettlementInstruction} (trace : TraceContext) {db : Database}
    (ready : CashReady backend db row) :
    ∃ result after, settleCash backend row trace db = .ok (result, after) ∧
      Writes row.id cashSteps (paid db row) db after := by
  obtain ⟨fromAcct, payer⟩ := ready.payer
  obtain ⟨toAcct, payee⟩ := ready.payee
  obtain ⟨result, after, ran⟩ := settleCashBetween_runs settles trace
    (fun positive => ⟨_, ready.stored, positive⟩) (List.mem_of_find?_eq_some payer)
    (List.mem_of_find?_eq_some payee)
  refine ⟨result, after, ?_, ?_⟩
  · rw [settleCash, bind_apply, read_apply]
    simp only [payer, payee]
    exact ran
  · rcases writes_settleCashBetween ran with ⟨nothing, unpaid⟩ | ⟨positive, amount, store, -, pays⟩
    · rw [paid, if_neg nothing]
      exact unpaid
    · obtain rfl : row.amount = amount := Option.some.inj (ready.stored.symm.trans store)
      rw [paid, if_pos positive, paymentOf]
      simpa only [payer, payee] using pays

/-- What a call of `settle_instruction` is given. -/
structure Request where
  instructionId : Uuid
  chainRegistry : String → Option ChainAdapter
  sign : Bytes → String → Except Text Bytes
  trace : TraceContext

/-- The committed state after a call. -/
def settled (backend : Backend) (db : Database) (request : Request) : Database :=
  (committedStates (settlementCall backend request.instructionId request.chainRegistry
    request.sign request.trace) db).getLastD db

/-- The committed state after some calls, one after the other. -/
def settleAll (backend : Backend) (requests : List Request) (db : Database) : Database :=
  requests.foldl (settled backend) db

theorem settled_of_ready (settles : JournalType.settlement ∈ backend.journalTypes)
    {db : Database} (fresh : FreshJournals db) {row : SettlementInstruction}
    (ready : CashReady backend db row) {request : Request}
    (requested : request.instructionId = row.id) :
    Writes row.id cashSteps (paid db row) db (settled backend db request) := by
  obtain ⟨result, after, ran, writes⟩ := settleCash_runs settles request.trace ready
  obtain ⟨instrument, pending⟩ := ready.pending
  have accepted : (server backend).deferred db after = .ok () := by
    refine accepted_of_writes fresh writes fun payment pays => ⟨row.amount, ?_⟩
    unfold paid paymentOf at pays
    split at pays
    · split at pays
      · cases pays
        exact ready.stored
      · cases pays
    · cases pays
  have commits : committedBy backend request.chainRegistry request.sign request.trace
      request.instructionId db = [after] := by
    rw [requested, committedBy, pending]
    have scripted : script backend request.chainRegistry request.sign request.trace row instrument =
        some [.commit (do let _ ← settleCash backend row request.trace)] := by
      rw [script, ready.cash]
    simp only [scripted, runActions]
    have unit : (do let _ ← settleCash backend row request.trace : Sql Unit) db =
        .ok ((), after) := bind_eq_ok.mpr ⟨result, after, ran, rfl⟩
    simp only [unit, accepted]
  obtain ⟨extra, states, repeats⟩ := committedStates_settlementCall request.chainRegistry
    request.sign request.trace backend request.instructionId fresh
  rw [commits] at states repeats
  have last : settled backend db request = after := by
    rw [settled, states]
    cases extra using List.reverseRecOn with
    | nil => rfl
    | append_singleton extra state =>
        rw [← List.append_assoc, List.getLastD_concat]
        exact repeats state (by simp)
  rw [last]
  exact writes

/-- What a member receives from a row, less what it pays. -/
def collected (memberId : Uuid) (row : SettlementInstruction) : ℚ :=
  (if row.toMemberId = memberId then row.amount else 0) -
    if row.fromMemberId = memberId then row.amount else 0

/-- Different members have different settlement accounts. -/
theorem findAccount_id_eq_iff {db : Database} {memberId memberId' : Uuid}
    {accountType : AccountType} {pool : Pool} {account account' : Account}
    (found : findAccount db memberId accountType pool = some account)
    (found' : findAccount db memberId' accountType pool = some account') :
    account.id = account'.id ↔ memberId = memberId' := by
  constructor
  · intro same
    have owner := List.find?_some found
    have owner' := List.find?_some found'
    have one : account = account' := List.inj_on_of_nodup_map db.accountIds_nodup
      (List.mem_of_find?_eq_some found) (List.mem_of_find?_eq_some found') same
    simp only [decide_eq_true_eq] at owner owner'
    rw [← owner.1, ← owner'.1, one]
  · rintro rfl
    rw [Option.some.inj (found.symm.trans found')]

theorem accountBalance_of_writes {instructionId : Uuid} {steps : List StatusStep}
    {payment : Payment} {db after : Database}
    (writes : Writes instructionId steps (some payment) db after) (accountId : Uuid) :
    accountBalance after accountId = accountBalance db accountId +
      ((if payment.toAcct = accountId then payment.amount else 0) -
        if payment.fromAcct = accountId then payment.amount else 0) := by
  obtain ⟨journalId, -, -, -, entries⟩ := writes.ledger
  simp only [accountBalance, entries, posted, Fibers.fiberSum_append, Fibers.fiberSum_cons,
    Fibers.fiberSum_nil, sub_zero, zero_sub, add_zero]
  split <;> split <;> ring

/-- A settled row moves its amount. -/
theorem accountBalance_of_paid {steps : List StatusStep} {db after : Database}
    {row : SettlementInstruction} (ready : CashReady backend db row)
    (writes : Writes row.id steps (paid db row) db after) {memberId : Uuid} {account : Account}
    (found : findAccount db memberId .settlement .available = some account) :
    accountBalance after account.id = accountBalance db account.id + collected memberId row := by
  obtain ⟨fromAcct, payer⟩ := ready.payer
  obtain ⟨toAcct, payee⟩ := ready.payee
  by_cases positive : 0 < row.amount
  · rw [paid, if_pos positive, paymentOf] at writes
    simp only [payer, payee] at writes
    rw [accountBalance_of_writes writes, collected]
    simp only [findAccount_id_eq_iff payer found, findAccount_id_eq_iff payee found]
  · have zero : row.amount = 0 := le_antisymm (not_lt.mp positive) ready.nonneg
    rw [paid, if_neg positive] at writes
    simp [accountBalance, writes.ledger.2, collected, zero]

theorem pendingInstruction_of_writes {instructionId other : Uuid} {steps : List StatusStep}
    {payment : Option Payment} {db after : Database}
    (writes : Writes instructionId steps payment db after) (apart : other ≠ instructionId) :
    pendingInstruction after other = pendingInstruction db other := by
  obtain ⟨change, moved, rows⟩ := writes.rows
  have same_id : ∀ row, (change row).id = row.id := fun row => congrArg Prod.fst (moved.terms row)
  have found : after.settlementInstructions.find?
        (fun row => row.id = other ∧ row.status = .pending) =
      db.settlementInstructions.find? fun row => row.id = other ∧ row.status = .pending := by
    rw [rows, List.find?_map]
    have selects : ((fun row : SettlementInstruction =>
        decide (row.id = other ∧ row.status = .pending)) ∘ change) =
        fun row => decide (row.id = other ∧ row.status = .pending) := by
      funext row
      by_cases here : row.id = instructionId
      · have elsewhere : row.id ≠ other := fun same => apart (same.symm.trans here)
        simp [same_id, elsewhere]
      · simp [moved.other row here]
    rw [selects]
    cases first : db.settlementInstructions.find?
        (fun row => row.id = other ∧ row.status = .pending) with
    | none => rfl
    | some row =>
        have selected := List.find?_some first
        simp only [decide_eq_true_eq] at selected
        have at_other : row.id = other := selected.1
        rw [Option.map_some, moved.other row fun here => apart (at_other.symm.trans here)]
  rw [pendingInstruction, pendingInstruction, found, writes.instruments]

theorem CashReady.of_writes {instructionId : Uuid} {steps : List StatusStep}
    {payment : Option Payment} {db after : Database} {row : SettlementInstruction}
    (ready : CashReady backend db row) (writes : Writes instructionId steps payment db after)
    (apart : row.id ≠ instructionId) : CashReady backend after row := by
  obtain ⟨instrument, pending⟩ := ready.pending
  have same_account : ∀ memberId, findAccount after memberId .settlement .available =
      findAccount db memberId .settlement .available := fun memberId => by
    rw [findAccount, findAccount, writes.accounts]
  refine ⟨⟨instrument, (pendingInstruction_of_writes writes apart).trans pending⟩, ready.cash,
    ready.stored, ready.nonneg, ?_, ?_⟩
  · rw [same_account]
    exact ready.payer
  · rw [same_account]
    exact ready.payee

/-- Ready rows are settled in turn: all are confirmed, and every member has collected its
amounts. -/
theorem settleAll_of_ready (settles : JournalType.settlement ∈ backend.journalTypes)
    {requests : List Request} {rows : List SettlementInstruction} {db : Database}
    (fresh : FreshJournals db)
    (requested : requests.map Request.instructionId = rows.map SettlementInstruction.id)
    (distinct : (rows.map SettlementInstruction.id).Nodup)
    (ready : ∀ row ∈ rows, CashReady backend db row) :
    (∀ row ∈ db.settlementInstructions, row.id ∉ rows.map SettlementInstruction.id →
        row ∈ (settleAll backend requests db).settlementInstructions) ∧
      (∀ row ∈ rows, ∃ last ∈ (settleAll backend requests db).settlementInstructions,
        last.id = row.id ∧ last.status = .confirmed) ∧
      ∀ memberId account, findAccount db memberId .settlement .available = some account →
        accountBalance (settleAll backend requests db) account.id =
          accountBalance db account.id + (rows.map (collected memberId)).sum := by
  induction rows generalizing requests db with
  | nil =>
      obtain rfl : requests = [] := List.map_eq_nil_iff.mp requested
      exact ⟨fun row member _ => member, by simp, fun _ _ _ => by simp [settleAll]⟩
  | cons row rows induction =>
      obtain ⟨request, rest, rfl, requested_row, requested_rows⟩ :=
        List.map_eq_cons_iff.mp requested
      obtain ⟨row_fresh, rows_distinct⟩ := List.nodup_cons.mp distinct
      have row_ready := ready row List.mem_cons_self
      have writes := settled_of_ready settles fresh row_ready requested_row
      have apart : ∀ other ∈ rows, other.id ≠ row.id := fun other member same =>
        row_fresh (same ▸ List.mem_map_of_mem member)
      obtain ⟨kept, confirmed, balances⟩ := induction (fresh.of_writes writes) requested_rows
        rows_distinct fun other member =>
          (ready other (List.mem_cons_of_mem _ member)).of_writes writes (apart other member)
      obtain ⟨change, moved, changed⟩ := writes.rows
      refine ⟨fun other member outside => ?_, fun other member => ?_,
        fun memberId account found => ?_⟩
      · rw [List.map_cons, List.mem_cons, not_or] at outside
        refine kept other ?_ outside.2
        rw [changed, ← moved.other other outside.1]
        exact List.mem_map_of_mem member
      · rcases List.mem_cons.mp member with rfl | later
        · obtain ⟨instrument, pending⟩ := row_ready.pending
          obtain ⟨inside, -, -⟩ := mem_of_pendingInstruction pending
          have same_id : (change other).id = other.id := congrArg Prod.fst (moved.terms other)
          refine ⟨change other, kept _ ?_ (same_id ▸ row_fresh), same_id, moved.status other rfl⟩
          rw [changed]
          exact List.mem_map_of_mem inside
        · exact confirmed other later
      · have found' : findAccount (settled backend db request) memberId .settlement .available =
            some account := by
          rw [findAccount, writes.accounts]
          exact found
        rw [List.map_cons, List.sum_cons, ← add_assoc,
          ← accountBalance_of_paid row_ready writes found]
        exact balances memberId account found'

end Settlement

end ClearingHouse
