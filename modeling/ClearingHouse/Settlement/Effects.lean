import ClearingHouse.Settlement.Script

/-!
# What a settlement writes

Each transaction of a settlement moves the status of its instruction along some recorded steps and
posts at most one journal.  One statement describes the writes of every transaction; the invariants
of settlements follow from it.
-/

namespace ClearingHouse

namespace Settlement

open Transactions Transactions.Transaction

/-- A status change: from, to. -/
abbrev StatusStep := InstructionStatus × InstructionStatus

/-- What the record of a status change says. -/
def recordOf (instructionId : Uuid) (step : StatusStep) :
    StateEntityType × Uuid × Option EntityStatus × EntityStatus :=
  (.settlementInstruction, instructionId, some (.settlementInstruction step.1),
    .settlementInstruction step.2)

/-- Entity and statuses of a transition. -/
def transitionKey (transition : StateTransition) :
    StateEntityType × Uuid × Option EntityStatus × EntityStatus :=
  (transition.entityType, transition.entityId, transition.fromStatus, transition.toStatus)

/-- An instruction without the columns that a settlement changes. -/
def terms (row : SettlementInstruction) :
    Uuid × SettlementType × Option Uuid × Uuid × Uuid × Uuid × ℚ × ℚ × Option String :=
  (row.id, row.settlementType, row.nettingCycleId, row.fromMemberId, row.toMemberId,
    row.instrumentId, row.quantity, row.amount, row.chainId)

/-- The status after some steps. -/
def statusAfter (steps : List StatusStep) (status : InstructionStatus) : InstructionStatus :=
  (steps.getLast?.map Prod.snd).getD status

/-- The effect of a transaction on the instruction table. -/
structure Moved (instructionId : Uuid) (steps : List StatusStep)
    (change : SettlementInstruction → SettlementInstruction) : Prop where
  terms : ∀ row, terms (change row) = terms row
  other : ∀ row, row.id ≠ instructionId → change row = row
  status : ∀ row, row.id = instructionId → (change row).status = statusAfter steps row.status

/-- Paying account, receiving account and amount of a journal. -/
structure Payment where
  fromAcct : Uuid
  toAcct : Uuid
  amount : ℚ

/-- What a transaction writes: status steps of one instruction with their records, and at most one
settlement journal. -/
structure Writes (instructionId : Uuid) (steps : List StatusStep) (payment : Option Payment)
    (db after : Database) : Prop where
  rows : ∃ change, Moved instructionId steps change ∧
    after.settlementInstructions = db.settlementInstructions.map change
  transitions : ∃ added, after.stateTransitions = db.stateTransitions ++ added ∧
    added.map transitionKey = steps.map (recordOf instructionId)
  ledger : match payment with
    | none => after.journals = db.journals ∧ after.journalEntries = db.journalEntries
    | some payment => ∃ journalId, db.nextUuid ≤ journalId ∧ journalId < after.nextUuid ∧
        after.journals = (posted instructionId payment.fromAcct payment.toAcct payment.amount
          journalId db).journals ∧
        after.journalEntries = (posted instructionId payment.fromAcct payment.toAcct
          payment.amount journalId db).journalEntries
  accounts : after.accounts = db.accounts
  instruments : after.instruments = db.instruments
  uuids : db.nextUuid ≤ after.nextUuid

theorem statusAfter_append (first second : List StatusStep) (status : InstructionStatus) :
    statusAfter (first ++ second) status = statusAfter second (statusAfter first status) := by
  cases second using List.reverseRecOn with
  | nil => simp [statusAfter]
  | append_singleton second last => simp [statusAfter, ← List.append_assoc]

theorem Moved.trans {instructionId : Uuid} {first second : List StatusStep}
    {change change' : SettlementInstruction → SettlementInstruction}
    (head : Moved instructionId first change) (tail : Moved instructionId second change') :
    Moved instructionId (first ++ second) (change' ∘ change) := by
  have same_id : ∀ row, (change row).id = row.id := fun row => congrArg Prod.fst (head.terms row)
  refine ⟨fun row => (tail.terms _).trans (head.terms row), fun row other => ?_, fun row same => ?_⟩
  · rw [Function.comp_apply, head.other row other, tail.other row other]
  · rw [Function.comp_apply, tail.status _ ((same_id row).trans same), head.status row same,
      statusAfter_append]

theorem Moved.id (instructionId : Uuid) : Moved instructionId [] fun row => row :=
  ⟨fun _ => rfl, fun _ _ => rfl, fun _ _ => rfl⟩

namespace Writes

variable {instructionId : Uuid} {first second : List StatusStep} {payment : Option Payment}
  {db middle after : Database}

theorem of_same (rows : after.settlementInstructions = db.settlementInstructions)
    (transitions : after.stateTransitions = db.stateTransitions)
    (journals : after.journals = db.journals) (entries : after.journalEntries = db.journalEntries)
    (accounts : after.accounts = db.accounts) (instruments : after.instruments = db.instruments)
    (uuids : db.nextUuid ≤ after.nextUuid) : Writes instructionId [] none db after where
  rows := ⟨_, .id instructionId, by simp [rows]⟩
  transitions := ⟨[], by simp [transitions], rfl⟩
  ledger := ⟨journals, entries⟩
  accounts := accounts
  instruments := instruments
  uuids := uuids

private theorem rows_trans (head : Writes instructionId first payment db middle)
    {payment' : Option Payment} (tail : Writes instructionId second payment' middle after) :
    ∃ change, Moved instructionId (first ++ second) change ∧
      after.settlementInstructions = db.settlementInstructions.map change := by
  obtain ⟨change, moved, rows⟩ := head.rows
  obtain ⟨change', moved', rows'⟩ := tail.rows
  exact ⟨change' ∘ change, moved.trans moved', by rw [rows', rows, List.map_map]⟩

private theorem transitions_trans (head : Writes instructionId first payment db middle)
    {payment' : Option Payment} (tail : Writes instructionId second payment' middle after) :
    ∃ added, after.stateTransitions = db.stateTransitions ++ added ∧
      added.map transitionKey = (first ++ second).map (recordOf instructionId) := by
  obtain ⟨added, extended, keys⟩ := head.transitions
  obtain ⟨added', extended', keys'⟩ := tail.transitions
  exact ⟨added ++ added', by rw [extended', extended, List.append_assoc],
    by rw [List.map_append, keys, keys', List.map_append]⟩

/-- Steps before a payment. -/
theorem trans (head : Writes instructionId first none db middle)
    (tail : Writes instructionId second payment middle after) :
    Writes instructionId (first ++ second) payment db after where
  rows := rows_trans head tail
  transitions := transitions_trans head tail
  ledger := by
    obtain ⟨journals, entries⟩ := head.ledger
    have ledger := tail.ledger
    cases payment with
    | none => exact ⟨ledger.1.trans journals, ledger.2.trans entries⟩
    | some payment =>
        obtain ⟨journalId, fresh, used, journals', entries'⟩ := ledger
        refine ⟨journalId, head.uuids.trans fresh, used, ?_, ?_⟩
        · rw [journals', posted, posted, journals]
        · rw [entries', posted, posted, entries]
  accounts := tail.accounts.trans head.accounts
  instruments := tail.instruments.trans head.instruments
  uuids := head.uuids.trans tail.uuids

/-- Steps after a payment. -/
theorem trans_unpaid (head : Writes instructionId first payment db middle)
    (tail : Writes instructionId second none middle after) :
    Writes instructionId (first ++ second) payment db after where
  rows := rows_trans head tail
  transitions := transitions_trans head tail
  ledger := by
    obtain ⟨journals, entries⟩ := tail.ledger
    have ledger := head.ledger
    cases payment with
    | none => exact ⟨journals.trans ledger.1, entries.trans ledger.2⟩
    | some payment =>
        obtain ⟨journalId, fresh, used, journals', entries'⟩ := ledger
        exact ⟨journalId, fresh, used.trans_le tail.uuids, journals.trans journals',
          entries.trans entries'⟩
  accounts := tail.accounts.trans head.accounts
  instruments := tail.instruments.trans head.instruments
  uuids := head.uuids.trans tail.uuids

end Writes

theorem writes_advanced (instructionId : Uuid) (fromStatus toStatus : InstructionStatus)
    (reason : Text) (trace : TraceContext) (db : Database) :
    Writes instructionId [(fromStatus, toStatus)] none db
      (advanced instructionId fromStatus toStatus reason trace db) where
  rows := by
    refine ⟨fun row => if row.id = instructionId then { row with status := toStatus } else row,
      ⟨fun row => ?_, fun row other => if_neg other, fun row same => ?_⟩, rfl⟩
    · split <;> rfl
    · rw [if_pos same]
      rfl
  transitions := ⟨_, rfl, rfl⟩
  ledger := ⟨rfl, rfl⟩
  accounts := rfl
  instruments := rfl
  uuids := le_rfl

theorem writes_advanceStatus {instructionId : Uuid} {fromStatus toStatus : InstructionStatus}
    {reason : Text} {trace : TraceContext} {db after : Database}
    (ran : advanceStatus instructionId fromStatus toStatus reason trace db = .ok ((), after)) :
    Writes instructionId [(fromStatus, toStatus)] none db after := by
  by_cases valid : toStatus ∈ validTransitions fromStatus
  · rw [advanceStatus_apply _ _ _ valid] at ran
    cases ran
    exact writes_advanced ..
  · simp [advanceStatus, validateTransition, if_neg valid, Transaction.bind_apply] at ran

theorem writes_failInstruction {instructionId : Uuid} {fromStatus : InstructionStatus}
    {reason : Text} {trace : TraceContext} {db after : Database}
    (ran : failInstruction instructionId fromStatus reason trace db = .ok ((), after)) :
    Writes instructionId [(fromStatus, .failed)] none db after := by
  obtain ⟨found, computed, rows, transitions, journals, entries, accounts, uuids⟩ :=
    failInstruction_apply instructionId fromStatus reason trace db
  rw [computed] at ran
  cases ran
  have advance := writes_advanced instructionId fromStatus .failed reason trace db
  obtain ⟨change, moved, changed⟩ := advance.rows
  obtain ⟨added, extended, keys⟩ := advance.transitions
  exact ⟨⟨change, moved, rows.trans changed⟩, ⟨added, transitions.trans extended, keys⟩,
    ⟨journals, entries⟩, accounts, by cases computed; rfl, uuids⟩

/-- A change of columns that are no terms. -/
theorem writes_updateInstruction {instructionId : Uuid}
    {change : SettlementInstruction → SettlementInstruction} {db after : Database}
    (ran : updateInstruction instructionId change db = .ok ((), after))
    (same_terms : ∀ row, terms (change row) = terms row)
    (same_status : ∀ row, (change row).status = row.status) :
    Writes instructionId [] none db after := by
  cases ran
  refine ⟨⟨fun row => if row.id = instructionId then change row else row,
    ⟨fun row => ?_, fun row other => if_neg other, fun row same => ?_⟩, rfl⟩,
    ⟨[], by simp, rfl⟩, ⟨rfl, rfl⟩, rfl, rfl, le_rfl⟩
  · split
    · exact same_terms row
    · rfl
  · rw [if_pos same, same_status]
    rfl

theorem writes_emitSettlementEvent (instructionId' : Uuid) {instructionId aggregateId : Uuid}
    {eventType : String} {trace : TraceContext} {db after : Database}
    (ran : emitSettlementEvent instructionId eventType aggregateId trace db = .ok ((), after)) :
    Writes instructionId' [] none db after := by
  cases ran
  exact .of_same rfl rfl rfl rfl rfl rfl (Nat.le_add_right db.nextUuid 2)

theorem writes_broadcastRows {instruction : SettlementInstruction} {txHash : String}
    {trace : TraceContext} {db after : Database}
    (ran : broadcastRows instruction txHash trace db = .ok ((), after)) :
    Writes instruction.id [(.signed, .broadcasted)] none db after := by
  obtain ⟨⟨⟩, middle, updated, moved⟩ := bind_eq_ok.mp ran
  have update : Writes instruction.id [] none db middle :=
    writes_updateInstruction updated (fun _ => rfl) fun _ => rfl
  exact update.trans (writes_advanceStatus moved)

/-- A journal under the next identifier. -/
theorem writes_postSettlement {backend : Backend} {instructionId fromAcct toAcct : Uuid}
    {amount : ℚ}
    {db after : Database}
    (ran : (do let journalId ← uuid4
               postSettlement backend instructionId fromAcct toAcct amount journalId :
                 Sql Unit) db = .ok ((), after)) :
    ∃ stored, backend.store amount = some stored ∧ 0 < stored ∧
      Writes instructionId [] (some ⟨fromAcct, toAcct, stored⟩) db after := by
  obtain ⟨stored, store, positive, rfl⟩ := postSettlement_eq_ok ran
  refine ⟨stored, store, positive, ⟨_, .id instructionId, by simp [posted]⟩,
    ⟨[], by simp [posted], rfl⟩, ⟨db.nextUuid, le_rfl, Nat.lt_succ_self _, rfl, rfl⟩, rfl, rfl,
    Nat.le_succ _⟩

/-- The payment of an instruction, once both accounts exist. -/
def paymentOf (db : Database) (instruction : SettlementInstruction) (amount : ℚ) :
    Option Payment :=
  match findAccount db instruction.fromMemberId .settlement .available,
      findAccount db instruction.toMemberId .settlement .available with
  | some fromAcct, some toAcct => some ⟨fromAcct.id, toAcct.id, amount⟩
  | _, _ => none

theorem amount_of_mem_paymentOf {db : Database} {instruction : SettlementInstruction} {amount : ℚ}
    {payment : Payment} (found : payment ∈ paymentOf db instruction amount) :
    payment.amount = amount := by
  unfold paymentOf at found
  split at found
  · cases found
    rfl
  · cases found

theorem writes_finalizeEntries {backend : Backend} {instruction : SettlementInstruction}
    {db after : Database} (ran : finalizeEntries backend instruction db = .ok ((), after)) :
    ∃ amount, Writes instruction.id [] (paymentOf db instruction amount) db after ∧
      ((paymentOf db instruction amount).isSome →
        backend.store instruction.amount = some amount ∧ 0 < amount) := by
  simp only [finalizeEntries, bind_eq_ok, Transaction.read_apply, Except.ok.injEq,
    Prod.mk.injEq] at ran
  obtain ⟨_, _, ⟨rfl, rfl⟩, ran⟩ := ran
  unfold paymentOf
  cases payer : findAccount db instruction.fromMemberId .settlement .available with
  | none =>
      simp only [payer] at ran
      cases ran
      exact ⟨0, .of_same rfl rfl rfl rfl rfl rfl le_rfl, by simp⟩
  | some fromAcct =>
      cases payee : findAccount db instruction.toMemberId .settlement .available with
      | none =>
          simp only [payer, payee] at ran
          cases ran
          exact ⟨0, .of_same rfl rfl rfl rfl rfl rfl le_rfl, by simp⟩
      | some toAcct =>
          simp only [payer, payee] at ran
          obtain ⟨amount, store, positive, writes⟩ := writes_postSettlement ran
          exact ⟨amount, writes, fun _ => ⟨store, positive⟩⟩

theorem writes_finalizeRows {backend : Backend} {instruction : SettlementInstruction}
    {blockNumber : Option ℕ} {confirmations : ℕ} {trace : TraceContext} {db after : Database}
    (ran : finalizeRows backend instruction blockNumber confirmations trace db = .ok ((), after)) :
    ∃ amount,
      Writes instruction.id [(.broadcasted, .confirmed)] (paymentOf db instruction amount) db
        after ∧
      ((paymentOf db instruction amount).isSome →
        backend.store instruction.amount = some amount ∧ 0 < amount) := by
  obtain ⟨⟨⟩, paid, entries, ran⟩ := bind_eq_ok.mp ran
  obtain ⟨⟨⟩, counted, update, ran⟩ := bind_eq_ok.mp ran
  obtain ⟨⟨⟩, moved, advance, event⟩ := bind_eq_ok.mp ran
  obtain ⟨amount, payment, stored⟩ := writes_finalizeEntries entries
  have columns : Writes instruction.id [] none paid counted :=
    writes_updateInstruction update (fun _ => rfl) fun _ => rfl
  have steps := (columns.trans (writes_advanceStatus advance)).trans
    (writes_emitSettlementEvent instruction.id event)
  exact ⟨amount, payment.trans_unpaid steps, stored⟩

/-- The steps of a cash settlement. -/
def cashSteps : List StatusStep :=
  [(.pending, .approved), (.approved, .signed), (.signed, .broadcasted), (.broadcasted, .confirmed)]

theorem writes_settleCashBetween {backend : Backend} {instruction : SettlementInstruction}
    {fromAcct toAcct : Account} {trace : TraceContext} {result : SettlementResult}
    {db after : Database}
    (ran : settleCashBetween backend instruction fromAcct toAcct trace db = .ok (result, after)) :
    (¬0 < instruction.amount ∧ Writes instruction.id cashSteps none db after) ∨
      (0 < instruction.amount ∧ ∃ amount, backend.store instruction.amount = some amount ∧
        0 < amount ∧
        Writes instruction.id cashSteps (some ⟨fromAcct.id, toAcct.id, amount⟩) db after) := by
  obtain ⟨⟨⟩, approved, approve, ran⟩ := bind_eq_ok.mp ran
  obtain ⟨⟨⟩, signed, sign, ran⟩ := bind_eq_ok.mp ran
  obtain ⟨⟨⟩, broadcasted, broadcast, ran⟩ := bind_eq_ok.mp ran
  obtain ⟨journalId, numbered, number, ran⟩ := bind_eq_ok.mp ran
  obtain ⟨⟨⟩, paid, pay, ran⟩ := bind_eq_ok.mp ran
  obtain ⟨⟨⟩, confirmed, confirm, ran⟩ := bind_eq_ok.mp ran
  obtain ⟨⟨⟩, announced, event, done⟩ := bind_eq_ok.mp ran
  cases done
  have before := ((writes_advanceStatus approve).trans (writes_advanceStatus sign)).trans
    (writes_advanceStatus broadcast)
  have finish := (writes_advanceStatus confirm).trans
    (writes_emitSettlementEvent instruction.id event)
  by_cases positive : 0 < instruction.amount
  · refine .inr ⟨positive, ?_⟩
    rw [runWhen, if_pos positive] at pay
    obtain ⟨amount, store, amount_pos, payment⟩ :=
      writes_postSettlement (bind_eq_ok.mpr ⟨journalId, numbered, number, pay⟩)
    exact ⟨amount, store, amount_pos, before.trans (payment.trans_unpaid finish)⟩
  · refine .inl ⟨positive, ?_⟩
    rw [runWhen, if_neg positive] at pay
    cases pay
    cases number
    have unpaid : Writes instruction.id [] none broadcasted
        { broadcasted with nextUuid := broadcasted.nextUuid + 1 } :=
      .of_same rfl rfl rfl rfl rfl rfl (Nat.le_succ _)
    exact before.trans (unpaid.trans finish)

/-- A cash settlement fails on a missing account, and otherwise takes every step, with a payment
exactly if the amount is positive. -/
theorem writes_settleCash {backend : Backend} {instruction : SettlementInstruction}
    {trace : TraceContext} {result : SettlementResult} {db after : Database}
    (ran : settleCash backend instruction trace db = .ok (result, after)) :
    Writes instruction.id [(.pending, .failed)] none db after ∨
      (¬0 < instruction.amount ∧ Writes instruction.id cashSteps none db after) ∨
      (0 < instruction.amount ∧ ∃ amount, backend.store instruction.amount = some amount ∧
        0 < amount ∧ (paymentOf db instruction amount).isSome ∧
        Writes instruction.id cashSteps (paymentOf db instruction amount) db after) := by
  simp only [settleCash, bind_eq_ok, Transaction.read_apply, Except.ok.injEq, Prod.mk.injEq] at ran
  obtain ⟨_, _, ⟨rfl, rfl⟩, ran⟩ := ran
  have missing : (do failInstruction instruction.id .pending
                       [.literal "Settlement accounts not found"] trace
                     pure (SettlementResult.failed [.literal "accounts_not_found"]) :
                       Sql SettlementResult) db = .ok (result, after) →
      Writes instruction.id [(.pending, .failed)] none db after := by
    intro ran
    obtain ⟨⟨⟩, middle, fail, done⟩ := bind_eq_ok.mp ran
    cases done
    exact writes_failInstruction fail
  cases payer : findAccount db instruction.fromMemberId .settlement .available with
  | none =>
      simp only [payer] at ran
      exact .inl (missing ran)
  | some fromAcct =>
      cases payee : findAccount db instruction.toMemberId .settlement .available with
      | none =>
          simp only [payer, payee] at ran
          exact .inl (missing ran)
      | some toAcct =>
          simp only [payer, payee] at ran
          rcases writes_settleCashBetween ran with
            unpaid | ⟨positive, amount, store, amount_pos, paid⟩
          · exact .inr (.inl unpaid)
          · refine .inr (.inr ⟨positive, amount, store, amount_pos, ?_, ?_⟩)
            · simp [paymentOf, payer, payee]
            · simpa [paymentOf, payer, payee] using paid

end Settlement

end ClearingHouse
