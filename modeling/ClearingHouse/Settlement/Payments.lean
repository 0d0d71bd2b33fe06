import ClearingHouse.Settlement.StatusRuns

/-!
# Payments over runs

A script pays in its last transaction or not at all, together with the step to `confirmed`.  So a
confirmed instruction of a positive amount has exactly one journal and any other has none, unless
a transfer is confirmed while an account of one of its members is missing.
-/

namespace ClearingHouse

namespace Settlement

open StepSystem Transactions
open Transactions.Session (committedStates)

/-- Steps that end in a status, wherever they start. -/
def Ends (steps : List StatusStep) (final : InstructionStatus) : Prop :=
  ∀ status, statusAfter steps status = final

/-- Both members have a settlement account. -/
def HasAccounts (db : Database) (instruction : SettlementInstruction) : Prop :=
  (paymentOf db instruction instruction.amount).isSome

/-- The payment that an instruction needs: its amount between the accounts, or none if there is
nothing to pay. -/
def Due (backend : Backend) (db : Database) (instruction : SettlementInstruction)
    (payment : Option Payment) : Prop :=
  (payment = none ∧ ¬0 < instruction.amount) ∨
    ∃ amount, backend.store instruction.amount = some amount ∧ HasAccounts db instruction ∧
      payment = paymentOf db instruction amount

/-- Only the last part of a confirmed transfer is left. -/
def Finalizes (backend : Backend) (instruction : SettlementInstruction) (actions : List Action) :
    Prop :=
  ∃ confirmations trace,
    actions = [.commit (finalizeRows backend instruction none confirmations trace)]

/-- Every transaction of a script goes on without confirming or paying, or is the last and fails the
instruction, or is the last and confirms it with the payment that is due; a transfer may also be
confirmed without its accounts, and then nothing is paid. -/
def Settles (backend : Backend) (instruction : SettlementInstruction) : List Action → Prop
  | [] => True
  | .submit _ :: rest => rest ≠ [] ∧ Settles backend instruction rest
  | .commit code :: rest =>
      ∀ ⦃db after⦄, code db = .ok ((), after) →
        (rest ≠ [] ∧ ∃ steps final, final ≠ .confirmed ∧ Ends steps final ∧
          Writes instruction.id steps none db after ∧ Settles backend instruction rest) ∨
        (rest = [] ∧ ∃ steps, Ends steps .failed ∧ Writes instruction.id steps none db after) ∨
        (rest = [] ∧ ∃ steps payment, Ends steps .confirmed ∧
          Writes instruction.id steps payment db after ∧
            (Due backend db instruction payment ∨
              (Finalizes backend instruction [.commit code] ∧ ¬HasAccounts db instruction ∧
                payment = none)))

variable {backend : Backend} {instruction : SettlementInstruction} {adapter : ChainAdapter}
  {trace : TraceContext}

theorem ends_single (fromStatus toStatus : InstructionStatus) :
    Ends [(fromStatus, toStatus)] toStatus := fun _ => rfl

theorem ends_cashSteps : Ends cashSteps .confirmed := fun _ => rfl

theorem isSome_paymentOf (db : Database) (instruction : SettlementInstruction) (amount : ℚ) :
    (paymentOf db instruction amount).isSome ↔ HasAccounts db instruction := by
  unfold HasAccounts paymentOf
  cases findAccount db instruction.fromMemberId .settlement .available with
  | none => simp
  | some fromAcct => cases findAccount db instruction.toMemberId .settlement .available <;> simp

theorem paymentOf_eq_none {db : Database} (missing : ¬HasAccounts db instruction) (amount : ℚ) :
    paymentOf db instruction amount = none := by
  rw [← isSome_paymentOf db instruction amount] at missing
  exact Option.not_isSome_iff_eq_none.mp missing

theorem settles_failInstruction (fromStatus : InstructionStatus) (message : Text) :
    Settles backend instruction
      [.commit (failInstruction instruction.id fromStatus message trace)] :=
  fun _ _ ran => .inr (.inl ⟨rfl, _, ends_single _ _, writes_failInstruction ran⟩)

theorem settles_concluding (txHash : String) :
    Settles backend instruction (concluding backend instruction adapter trace txHash) := by
  rw [concluding]
  cases polled adapter txHash with
  | error message => exact settles_failInstruction _ message
  | ok txResult =>
      dsimp only
      split
      · intro db after ran
        obtain ⟨amount, writes, stored⟩ := writes_finalizeRows ran
        refine .inr (.inr ⟨rfl, _, _, ends_single _ _, writes, ?_⟩)
        by_cases accounts : HasAccounts db instruction
        · have isSome := (isSome_paymentOf db instruction amount).mpr accounts
          exact .inl (.inr ⟨amount, (stored isSome).1, accounts, rfl⟩)
        · exact .inr ⟨⟨_, _, rfl⟩, accounts, paymentOf_eq_none accounts amount⟩
      · exact settles_failInstruction _ _

theorem concluding_ne_nil (txHash : String) :
    concluding backend instruction adapter trace txHash ≠ [] := by
  rw [concluding]
  cases polled adapter txHash with
  | error message => simp [failed]
  | ok txResult =>
      dsimp only
      split <;> simp

theorem settles_transferring (contractAddress : Option String) (chainId : String)
    (sign : Bytes → String → Except Text Bytes) :
    Settles backend instruction
      (transferring backend instruction adapter trace contractAddress chainId sign) := by
  rw [transferring]
  cases signedTransaction instruction adapter contractAddress chainId sign with
  | error message => exact settles_failInstruction _ message
  | ok signedTx =>
      intro db after ran
      refine .inl ⟨by simp [submitting], _, .signed, by decide, ends_single _ _,
        writes_advanceStatus ran, ?_⟩
      simp only [submitting, Settles]
      cases adapter.submitSignedTx signedTx with
      | error message => exact ⟨by simp [failed], settles_failInstruction _ message⟩
      | ok result =>
          refine ⟨by simp, fun db after ran => .inl ⟨concluding_ne_nil _, _, .broadcasted,
            by decide, ends_single _ _, writes_broadcastRows ran, settles_concluding _⟩⟩

theorem transferring_ne_nil (contractAddress : Option String) (chainId : String)
    (sign : Bytes → String → Except Text Bytes) :
    transferring backend instruction adapter trace contractAddress chainId sign ≠ [] := by
  rw [transferring]
  split <;> simp [failed]

theorem settles_settleCash :
    Settles backend instruction [.commit (do let _ ← settleCash backend instruction trace)] := by
  intro db after ran
  obtain ⟨result, middle, settled, done⟩ := Transaction.bind_eq_ok.mp ran
  cases done
  rcases writes_settleCash settled with
    failed | ⟨nothing, unpaid⟩ | ⟨positive, amount, store, -, accounts, paid⟩
  · exact .inr (.inl ⟨rfl, _, ends_single _ _, failed⟩)
  · exact .inr (.inr ⟨rfl, _, _, ends_cashSteps, unpaid, .inl (.inl ⟨rfl, nothing⟩)⟩)
  · exact .inr (.inr ⟨rfl, _, _, ends_cashSteps, paid, .inl (.inr ⟨amount, store,
      (isSome_paymentOf db instruction amount).mp accounts, rfl⟩)⟩)

theorem settles_script {chainRegistry : String → Option ChainAdapter}
    {sign : Bytes → String → Except Text Bytes} {instrument : Instrument} {actions : List Action}
    (scripted : script backend chainRegistry sign trace instruction instrument = some actions) :
    Settles backend instruction actions := by
  by_cases cash : instruction.settlementType = .cash
  · rw [script, cash] at scripted
    cases scripted
    exact settles_settleCash
  · rcases script_cases cash scripted with ⟨rfl, -⟩ | ⟨chainId, adapter, -, -, -, rfl⟩
    · exact settles_failInstruction _ _
    · exact fun db after ran => .inl ⟨transferring_ne_nil _ _ _, _, .approved, by decide,
        ends_single _ _, writes_advanceStatus ran, settles_transferring _ _ _⟩

/-- The journal of a payment under an identifier. -/
def paidBy (instructionId journalId : Uuid) : Journal :=
  ⟨journalId, .settlement, "settlement_instruction", some instructionId, .confirmed⟩

section Ledger

variable {instructionId : Uuid} {steps : List StatusStep} {payment : Option Payment}
  {db after : Database}

/-- The journals a transaction adds. -/
theorem Writes.journals_eq (writes : Writes instructionId steps payment db after) :
    ∃ journalId, db.nextUuid ≤ journalId ∧
      after.journals = db.journals ++ (payment.map fun _ => paidBy instructionId journalId).toList ∧
      after.journalEntries = db.journalEntries ++
        (payment.map fun payment => [(⟨journalId, payment.fromAcct, 0, payment.amount⟩ :
          JournalEntry), ⟨journalId, payment.toAcct, payment.amount, 0⟩]).getD [] ∧
      ((payment.isSome = true) → journalId < after.nextUuid) := by
  have ledger := writes.ledger
  cases payment with
  | none => exact ⟨db.nextUuid, le_rfl, by simp [ledger.1], by simp [ledger.2], by simp⟩
  | some payment =>
      obtain ⟨journalId, unused, used, journals, entries⟩ := ledger
      exact ⟨journalId, unused, journals, entries, fun _ => used⟩

theorem FreshLedger.of_writes (fresh : FreshLedger db)
    (writes : Writes instructionId steps payment db after) : FreshLedger after := by
  refine ⟨fresh.entries.of_writes writes, fun journal member => ?_⟩
  obtain ⟨journalId, -, journals, -, used⟩ := writes.journals_eq
  rw [journals, List.mem_append] at member
  rcases member with old | new
  · exact (fresh.journals journal old).trans_le writes.uuids
  · cases payment with
    | none => cases new
    | some payment =>
        rw [List.mem_singleton.mp new]
        exact used rfl

/-- The journals that refer to an instruction, after a transaction. -/
theorem Writes.settlementJournals_eq (writes : Writes instructionId steps payment db after) :
    ∃ journalId, db.nextUuid ≤ journalId ∧
      (∀ id, settlementJournals after id = settlementJournals db id ++
        if id = instructionId then (payment.map fun _ => paidBy instructionId journalId).toList
        else []) ∧
      after.journalEntries = db.journalEntries ++
        (payment.map fun payment => [(⟨journalId, payment.fromAcct, 0, payment.amount⟩ :
          JournalEntry), ⟨journalId, payment.toAcct, payment.amount, 0⟩]).getD [] := by
  obtain ⟨journalId, unused, journals, entries, -⟩ := writes.journals_eq
  refine ⟨journalId, unused, fun id => ?_, entries⟩
  rw [settlementJournals, journals, List.filter_append, settlementJournals]
  congr 1
  cases payment with
  | none => simp
  | some payment =>
      by_cases same : id = instructionId
      · simp [same, paidBy]
      · simp [same, paidBy, Ne.symm same]

theorem settlementJournals_subset (db : Database) (id : Uuid) :
    settlementJournals db id ⊆ db.journals := List.filter_subset_self _

/-- A transaction adds no entry to a journal that exists. -/
theorem Writes.entriesOf_old (writes : Writes instructionId steps payment db after)
    {journalId : Uuid} (old : journalId < db.nextUuid) :
    entriesOf after journalId = entriesOf db journalId := by
  obtain ⟨fresh, unused, -, entries, -⟩ := writes.journals_eq
  have other : fresh ≠ journalId := (old.trans_le unused).ne'
  rw [entriesOf, entries, List.filter_append, entriesOf]
  cases payment <;> simp [other]

/-- A transaction without a payment leaves the journals of every instruction alone. -/
theorem Writes.settlementJournals_unpaid (writes : Writes instructionId steps none db after)
    (id : Uuid) : settlementJournals after id = settlementJournals db id := by
  obtain ⟨journalId, -, journals, -⟩ := writes.settlementJournals_eq
  rw [journals]
  simp

theorem Writes.settlementJournals_other (writes : Writes instructionId steps payment db after)
    {id : Uuid} (other : id ≠ instructionId) :
    settlementJournals after id = settlementJournals db id := by
  obtain ⟨journalId, -, journals, -⟩ := writes.settlementJournals_eq
  rw [journals, if_neg other, List.append_nil]

/-- A payment adds one journal with its two entries. -/
theorem Writes.settlementJournals_paid {paid : Payment} (fresh : FreshLedger db)
    (writes : Writes instructionId steps (some paid) db after) :
    ∃ journal,
      settlementJournals after instructionId = settlementJournals db instructionId ++ [journal] ∧
      entriesOf after journal.id = [⟨journal.id, paid.fromAcct, 0, paid.amount⟩,
        ⟨journal.id, paid.toAcct, paid.amount, 0⟩] := by
  obtain ⟨journalId, unused, journals, entries⟩ := writes.settlementJournals_eq
  refine ⟨paidBy instructionId journalId, by simp [journals], ?_⟩
  have unwritten : db.journalEntries.filter (fun entry => entry.journalId = journalId) = [] := by
    rw [List.filter_eq_nil_iff]
    intro entry member
    have older := (fresh.entries entry member).trans_le unused
    simpa using older.ne
  rw [entriesOf, entries, List.filter_append, paidBy, unwritten]
  simp

end Ledger

/-- A settlement account of a member. -/
def SettlementAccountOf (db : Database) (memberId accountId : Uuid) : Prop :=
  ∃ account ∈ db.accounts, account.id = accountId ∧ account.memberId = memberId ∧
    account.accountType = .settlement ∧ account.pool = .available

/-- One journal refers to an instruction.  It has two entries: the amount is credited to the paying
member and debited to the receiving one, which lowers the balance of the one and raises that of the
other. -/
def PaidOnce (db : Database) (row : SettlementInstruction) : Prop :=
  ∃ journal fromAcct toAcct, settlementJournals db row.id = [journal] ∧
    SettlementAccountOf db row.fromMemberId fromAcct ∧
    SettlementAccountOf db row.toMemberId toAcct ∧
    entriesOf db journal.id =
      [⟨journal.id, fromAcct, 0, row.amount⟩, ⟨journal.id, toAcct, row.amount, 0⟩]

/-- An instruction of a positive amount is paid once if it is confirmed, and otherwise not. -/
structure PostedIffConfirmed (db : Database) (row : SettlementInstruction) : Prop where
  confirmed : row.status = .confirmed → 0 < row.amount → PaidOnce db row
  otherwise : row.status ≠ .confirmed → settlementJournals db row.id = []

/-- Every instruction is posted if and only if it is confirmed. -/
def PostedOnce (db : Database) : Prop :=
  ∀ row ∈ db.settlementInstructions, PostedIffConfirmed db row

/-- A transfer that is confirmed finds the accounts of both members. -/
def Accounted (backend : Backend) (calls : Calls) : CallLabel → Prop
  | .act position =>
      ∀ call ∈ calls.running[position]?, Finalizes backend call.instruction call.actions →
        0 < call.instruction.amount → HasAccounts calls.committed call.instruction
  | _ => True

/-- Every instruction is posted if and only if it is confirmed, and every call in progress settles a
row that is not confirmed yet. -/
structure Booked (backend : Backend) (calls : Calls) : Prop where
  distinct : (calls.committed.settlementInstructions.map SettlementInstruction.id).Nodup
  amounts : ∀ row ∈ calls.committed.settlementInstructions, row.amount ∈ backend.grid
  fresh : FreshLedger calls.committed
  posted : PostedOnce calls.committed
  apart : (calls.running.map fun call => call.instruction.id).Nodup
  running : ∀ call ∈ calls.running, call.actions ≠ [] →
    Settles backend call.instruction call.actions ∧
      ∃ row ∈ calls.committed.settlementInstructions,
        terms row = terms call.instruction ∧ row.status ≠ .confirmed

section Rows

variable {db after : Database} {row : SettlementInstruction}

theorem id_of_terms {row' : SettlementInstruction} (same : terms row = terms row') :
    row.id = row'.id := congrArg Prod.fst same

theorem amount_of_terms {row' : SettlementInstruction} (same : terms row = terms row') :
    row.amount = row'.amount := by
  simp only [terms, Prod.mk.injEq] at same
  exact same.2.2.2.2.2.2.2.1

theorem settlementAccountOf_of_findAccount {memberId : Uuid} {account : Account}
    (found : findAccount db memberId .settlement .available = some account) :
    SettlementAccountOf db memberId account.id := by
  have spec := List.find?_some found
  simp only [decide_eq_true_eq] at spec
  exact ⟨account, List.mem_of_find?_eq_some found, rfl, spec⟩

theorem SettlementAccountOf.mono {memberId accountId : Uuid}
    (known : SettlementAccountOf db memberId accountId) (accounts : db.accounts ⊆ after.accounts) :
    SettlementAccountOf after memberId accountId := by
  obtain ⟨account, member, spec⟩ := known
  exact ⟨account, accounts member, spec⟩

/-- Nothing about a row changes as long as its journals and their entries stay. -/
theorem PostedIffConfirmed.of_same (posted : PostedIffConfirmed db row)
    (accounts : db.accounts ⊆ after.accounts)
    (journals : settlementJournals after row.id = settlementJournals db row.id)
    (entries : ∀ journal ∈ settlementJournals db row.id,
      entriesOf after journal.id = entriesOf db journal.id) : PostedIffConfirmed after row := by
  refine ⟨fun confirmed positive => ?_, fun other => by rw [journals, posted.otherwise other]⟩
  obtain ⟨journal, fromAcct, toAcct, only, payer, payee, both⟩ :=
    posted.confirmed confirmed positive
  refine ⟨journal, fromAcct, toAcct, by rw [journals, only], payer.mono accounts,
    payee.mono accounts, ?_⟩
  rw [entries journal (by simp [only]), both]

/-- The payment of an instruction goes between settlement accounts of its members. -/
theorem accounts_of_paymentOf {instruction : SettlementInstruction} {amount : ℚ} {paid : Payment}
    (payment : paymentOf db instruction amount = some paid) :
    SettlementAccountOf db instruction.fromMemberId paid.fromAcct ∧
      SettlementAccountOf db instruction.toMemberId paid.toAcct ∧ paid.amount = amount := by
  unfold paymentOf at payment
  cases payer : findAccount db instruction.fromMemberId .settlement .available with
  | none => simp [payer] at payment
  | some fromAcct =>
      cases payee : findAccount db instruction.toMemberId .settlement .available with
      | none => simp [payer, payee] at payment
      | some toAcct =>
          simp only [payer, payee, Option.some.injEq] at payment
          subst payment
          exact ⟨settlementAccountOf_of_findAccount payer, settlementAccountOf_of_findAccount payee,
            rfl⟩

/-- The rows of a transaction: each is an old one with its terms, unchanged unless the transaction
is about it, and then in the status that the steps end in. -/
theorem Writes.row_of_mem {instructionId : Uuid} {steps : List StatusStep}
    {payment : Option Payment} {final : InstructionStatus} (ends : Ends steps final)
    (writes : Writes instructionId steps payment db after)
    (member : row ∈ after.settlementInstructions) :
    ∃ old ∈ db.settlementInstructions, terms row = terms old ∧
      (old.id ≠ instructionId → row = old) ∧ (old.id = instructionId → row.status = final) := by
  obtain ⟨change, moved, rows⟩ := writes.rows
  rw [rows] at member
  obtain ⟨old, inside, rfl⟩ := List.mem_map.mp member
  exact ⟨old, inside, moved.terms old, moved.other old,
    fun same => (moved.status old same).trans (ends old.status)⟩

/-- A row stays, with its terms. -/
theorem Writes.mem_of_row {instructionId : Uuid} {steps : List StatusStep}
    {payment : Option Payment} {final : InstructionStatus} (ends : Ends steps final)
    (writes : Writes instructionId steps payment db after)
    (member : row ∈ db.settlementInstructions) :
    ∃ new ∈ after.settlementInstructions, terms new = terms row ∧
      (row.id ≠ instructionId → new = row) ∧ (row.id = instructionId → new.status = final) := by
  obtain ⟨change, moved, rows⟩ := writes.rows
  rw [rows]
  exact ⟨change row, List.mem_map_of_mem member, moved.terms row, moved.other row,
    fun same => (moved.status row same).trans (ends row.status)⟩

theorem Writes.ids_eq {instructionId : Uuid} {steps : List StatusStep} {payment : Option Payment}
    (writes : Writes instructionId steps payment db after) :
    after.settlementInstructions.map SettlementInstruction.id =
      db.settlementInstructions.map SettlementInstruction.id := by
  obtain ⟨change, moved, rows⟩ := writes.rows
  rw [rows, List.map_map]
  exact List.map_congr_left fun row _ => congrArg Prod.fst (moved.terms row)

/-- The row of a confirmed payment. -/
theorem paidOnce_of_due {instruction : SettlementInstruction} {steps : List StatusStep}
    {payment : Option Payment} (fresh : FreshLedger db)
    (unpaid : settlementJournals db instruction.id = []) (grid : instruction.amount ∈ backend.grid)
    (due : Due backend db instruction payment) (positive : 0 < instruction.amount)
    (writes : Writes instruction.id steps payment db after) (same : terms row = terms instruction) :
    PaidOnce after row := by
  simp only [terms, Prod.mk.injEq] at same
  obtain ⟨same_id, -, -, same_from, same_to, -, -, same_amount, -⟩ := same
  rcases due with ⟨-, nothing⟩ | ⟨amount, store, accounts, paid⟩
  · exact absurd positive nothing
  · have stored := backend.store_of_mem grid store
    have isSome := (isSome_paymentOf db instruction amount).mpr accounts
    obtain ⟨payment', payment_eq⟩ := Option.isSome_iff_exists.mp isSome
    rw [paid, payment_eq] at writes
    obtain ⟨payer, payee, amount_eq⟩ := accounts_of_paymentOf payment_eq
    obtain ⟨journal, journals, entries⟩ := writes.settlementJournals_paid fresh
    have known : db.accounts ⊆ after.accounts := writes.accounts ▸ List.Subset.refl _
    refine ⟨journal, payment'.fromAcct, payment'.toAcct, ?_, ?_, ?_, ?_⟩
    · rw [same_id, journals, unpaid, List.nil_append]
    · exact same_from ▸ payer.mono known
    · exact same_to ▸ payee.mono known
    · rw [entries, amount_eq, stored, same_amount]

end Rows

variable {calls : Calls}

/-- What a transaction leaves of the rows, once the row it is about is dealt with. -/
theorem Booked.posted_of_writes {db after : Database} {running : List Call}
    (booked : Booked backend ⟨db, running⟩) {row : SettlementInstruction}
    (member : row ∈ db.settlementInstructions) (same : terms row = terms instruction)
    {steps : List StatusStep} {payment : Option Payment} {final : InstructionStatus}
    (ends : Ends steps final) (writes : Writes instruction.id steps payment db after)
    (about : ∀ new ∈ after.settlementInstructions, terms new = terms instruction →
      new.status = final → PostedIffConfirmed after new) : PostedOnce after := by
  intro new inside
  obtain ⟨old, old_mem, new_terms, apart, arrived⟩ := writes.row_of_mem ends inside
  by_cases own : old.id = instruction.id
  · have row_id : row.id = instruction.id := id_of_terms same
    have same_row : old = row :=
      List.inj_on_of_nodup_map booked.distinct old_mem member (own.trans row_id.symm)
    exact about new inside (new_terms.trans (same_row ▸ same)) (arrived own)
  · rw [apart own]
    refine (booked.posted old old_mem).of_same (writes.accounts ▸ List.Subset.refl _)
      (writes.settlementJournals_other own) fun journal listed => ?_
    exact writes.entriesOf_old
      (booked.fresh.journals journal (settlementJournals_subset db _ listed))

/-- One transaction of a call keeps the books. -/
theorem booked_commit {db after : Database} {front back : List Call} {code : Sql Unit}
    {rest : List Action}
    (booked : Booked backend ⟨db, front ++ ⟨instruction, .commit code :: rest⟩ :: back⟩)
    (accounted : Finalizes backend instruction (.commit code :: rest) → 0 < instruction.amount →
      HasAccounts db instruction)
    (ran : code db = .ok ((), after)) :
    Booked backend ⟨after, front ++ ⟨instruction, rest⟩ :: back⟩ := by
  obtain ⟨settles, row, row_mem, row_terms, unconfirmed⟩ :=
    booked.running ⟨instruction, .commit code :: rest⟩ (by simp) (by simp)
  have row_id : row.id = instruction.id := id_of_terms row_terms
  have unpaid : settlementJournals db instruction.id = [] := by
    rw [← row_id]
    exact (booked.posted row row_mem).otherwise unconfirmed
  have grid : instruction.amount ∈ backend.grid :=
    amount_of_terms row_terms ▸ booked.amounts row row_mem
  have ids : front.map (fun call => call.instruction.id) ++ instruction.id ::
      back.map (fun call => call.instruction.id) =
      (front ++ ⟨instruction, .commit code :: rest⟩ :: back).map
        fun call => call.instruction.id := by simp
  -- every outcome of the transaction writes some steps; what differs is how its own row ends
  have finish : ∀ {steps payment final}, Ends steps final →
      Writes instruction.id steps payment db after →
      (∀ new ∈ after.settlementInstructions, terms new = terms instruction →
        new.status = final → PostedIffConfirmed after new) →
      (rest ≠ [] → Settles backend instruction rest ∧ final ≠ .confirmed) →
      Booked backend ⟨after, front ++ ⟨instruction, rest⟩ :: back⟩ := by
    intro steps payment final ends writes about continued
    refine ⟨by rw [writes.ids_eq]; exact booked.distinct, fun new inside => ?_,
      booked.fresh.of_writes writes, booked.posted_of_writes row_mem row_terms ends writes about,
      by simpa using booked.apart, fun call member unfinished => ?_⟩
    · obtain ⟨old, old_mem, new_terms, -⟩ := writes.row_of_mem ends inside
      rw [amount_of_terms new_terms]
      exact booked.amounts old old_mem
    · have others : call ∈ front ∨ call ∈ back → Settles backend call.instruction call.actions ∧
          ∃ row ∈ after.settlementInstructions,
            terms row = terms call.instruction ∧ row.status ≠ .confirmed := by
        intro other
        obtain ⟨settles', row', row_mem', row_terms', unconfirmed'⟩ := booked.running call (by
          simp only [List.mem_append, List.mem_cons]
          exact other.imp_right .inr) unfinished
        obtain ⟨new, new_mem, -, kept, -⟩ := writes.mem_of_row ends row_mem'
        have apart : row'.id ≠ instruction.id := by
          rw [id_of_terms row_terms']
          have nodup := booked.apart
          simp only [← ids, List.nodup_append, List.nodup_cons, List.mem_map, List.mem_cons]
            at nodup
          rcases other with ahead | behind
          · exact nodup.2.2 _ ⟨call, ahead, rfl⟩ _ (.inl rfl)
          · exact fun same => nodup.2.1.1 ⟨call, behind, same⟩
        rw [kept apart] at new_mem
        exact ⟨settles', row', new_mem, row_terms', unconfirmed'⟩
      simp only [List.mem_append, List.mem_cons] at member
      rcases member with ahead | rfl | behind
      · exact others (.inl ahead)
      · obtain ⟨settles', unfinished'⟩ := continued unfinished
        obtain ⟨new, new_mem, new_terms, -, arrived⟩ := writes.mem_of_row ends row_mem
        exact ⟨settles', new, new_mem, new_terms.trans row_terms, by
          rw [arrived row_id]
          exact unfinished'⟩
      · exact others (.inr behind)
  have still_unpaid : ∀ {steps}, Writes instruction.id steps none db after →
      ∀ new, terms new = terms instruction → settlementJournals after new.id = [] := by
    intro steps writes new same
    rw [id_of_terms same, writes.settlementJournals_unpaid, unpaid]
  rcases settles ran with ⟨-, steps, final, other, ends, writes, settles'⟩ |
      ⟨last, steps, ends, writes⟩ | ⟨last, steps, payment, ends, writes, due⟩
  · refine finish ends writes (fun new _ same status => ⟨fun confirmed => ?_, fun _ =>
      still_unpaid writes new same⟩) fun _ => ⟨settles', other⟩
    exact absurd (status.symm.trans confirmed) other
  · refine finish ends writes (fun new _ same status => ⟨fun confirmed => ?_, fun _ =>
      still_unpaid writes new same⟩) fun more => absurd last more
    exact absurd (status.symm.trans confirmed) (by decide)
  · refine finish ends writes (fun new _ same status => ⟨fun _ positive => ?_, fun other =>
      absurd status other⟩) fun more => absurd last more
    have positive' : 0 < instruction.amount := amount_of_terms same ▸ positive
    have due' : Due backend db instruction payment := by
      rcases due with due | ⟨finalizes, missing, -⟩
      · exact due
      · exact absurd (accounted (last ▸ finalizes) positive') missing
    exact paidOnce_of_due booked.fresh unpaid grid due' positive' writes same

theorem booked_step {before after : Calls} {label : CallLabel} (booked : Booked backend before)
    (sequence : InSequence before label) (accounted : Accounted backend before label)
    (step : CallStep backend before label after) : Booked backend after := by
  cases step with
  | @read db running instructionId _ _ _ instruction _ actions pending scripted =>
      obtain ⟨inside, same, status⟩ := mem_of_pendingInstruction pending
      refine ⟨booked.distinct, booked.amounts, booked.fresh, booked.posted, ?_,
        fun call member unfinished => ?_⟩
      · rw [List.map_append, List.nodup_append]
        refine ⟨booked.apart, by simp, fun id old id' new => ?_⟩
        obtain ⟨call, member, rfl⟩ := List.mem_map.mp old
        rw [List.map_singleton, List.mem_singleton] at new
        rw [new, same]
        exact sequence call member
      · rcases List.mem_append.mp member with old | new
        · exact booked.running call old unfinished
        · rw [List.mem_singleton.mp new]
          exact ⟨settles_script scripted, instruction, inside, rfl, by rw [status]; decide⟩
  | @commit db after front back instruction code rest ran accepted =>
      refine booked_commit booked (fun finalizes positive => ?_) ran
      exact accounted ⟨instruction, .commit code :: rest⟩ (by simp) finalizes positive
  | @submit db front back instruction signedTx rest =>
      refine ⟨booked.distinct, booked.amounts, booked.fresh, booked.posted,
        by simpa using booked.apart, fun call member unfinished => ?_⟩
      simp only [List.mem_append, List.mem_cons] at member
      rcases member with ahead | rfl | behind
      · exact booked.running call (by simp [ahead]) unfinished
      · obtain ⟨settles, known⟩ :=
          booked.running ⟨instruction, .submit signedTx :: rest⟩ (by simp) (by simp)
        exact ⟨settles.2, known⟩
      · exact booked.running call (by simp [behind]) unfinished
  | @stop db front back call =>
      have sublist : List.Sublist (front ++ back) (front ++ call :: back) :=
        List.Sublist.append_left (List.sublist_cons_self _ _) front
      exact ⟨booked.distinct, booked.amounts, booked.fresh, booked.posted,
        booked.apart.sublist (sublist.map _),
        fun call member => booked.running call (sublist.subset member)⟩
  | @elsewhere db after running new undisturbed =>
      have rows : ∀ {row}, row ∈ after.settlementInstructions →
          row ∈ db.settlementInstructions ∨ row ∈ new := by
        intro row member
        rwa [undisturbed.rows, List.mem_append] at member
      refine ⟨undisturbed.distinct, fun row member => ?_, undisturbed.fresh, fun row member => ?_,
        booked.apart, fun call member unfinished => ?_⟩
      · rcases rows member with old | added
        · exact booked.amounts row old
        · exact (undisturbed.untouched row added).amount
      · rcases rows member with old | added
        · exact (booked.posted row old).of_same undisturbed.accounts (undisturbed.journals row.id)
            (undisturbed.entries row.id)
        · have untouched := undisturbed.untouched row added
          refine ⟨fun confirmed => ?_, fun _ =>
            (undisturbed.journals row.id).trans untouched.unpaid⟩
          exact absurd (untouched.pending.symm.trans confirmed) (by decide)
      · obtain ⟨settles, row, row_mem, known⟩ := booked.running call member unfinished
        refine ⟨settles, row, ?_, known⟩
        rw [undisturbed.rows]
        exact List.mem_append_left _ row_mem

/-- In every run in which no transfer is confirmed without the accounts of its members, calls of one
instruction in sequence, an instruction of a positive amount is paid once if it is confirmed, and
none is paid otherwise. -/
theorem postedOnce_of_run {backend : Backend} {start last : Calls}
    (unsettled : Unsettled backend start.committed) (idle : start.running = [])
    (run : Run (CallStep backend)
      (fun calls label => InSequence calls label ∧ Accounted backend calls label) start last) :
    PostedOnce last.committed := by
  have opening : Booked backend start := by
    refine ⟨unsettled.distinct, fun row member => (unsettled.untouched row member).amount,
      unsettled.fresh, fun row member => ?_, by simp [idle], by simp [idle]⟩
    have untouched := unsettled.untouched row member
    refine ⟨fun confirmed => ?_, fun _ => untouched.unpaid⟩
    exact absurd (untouched.pending.symm.trans confirmed) (by decide)
  exact (run.invariant (fun _ _ _ booked permitted step =>
    booked_step booked permitted.1 permitted.2 step) opening).posted

/-- The chain of `dvpHouse` confirms, and the payment is posted. -/
theorem postedOnce_of_run_dvpHouse :
    ∃ last, Run (CallStep decimalBackend)
        (fun calls label => InSequence calls label ∧ Accounted decimalBackend calls label)
        ⟨dvpHouse, []⟩ last ∧
      (∃ row ∈ last.committed.settlementInstructions, row.status = .confirmed) ∧
      PostedOnce last.committed := by
  have confirmed : ∃ state ∈ committedStates
      (settlementCall decimalBackend 5 (fun _ => some (chainReporting .confirmed 2)) echoSigner
        systemTrace) dvpHouse,
      ∃ row ∈ state.settlementInstructions, row.status = .confirmed := by decide +kernel
  have banked : ∀ state ∈ dvpHouse :: committedBy decimalBackend
      (fun _ => some (chainReporting .confirmed 2)) echoSigner systemTrace 5 dvpHouse,
      (paymentOf state dvpRow dvpRow.amount).isSome := by decide +kernel
  obtain ⟨state, committed, found⟩ := confirmed
  obtain ⟨running, run⟩ := run_of_committedStates
    (fun calls label => InSequence calls label ∧ Accounted decimalBackend calls label)
    unsettled_dvpHouse.fresh.entries 5 _ _ _ ⟨by simp [InSequence], trivial⟩
    (fun instruction instrument pending state member rest => ⟨trivial, fun call at_zero _ _ => by
      have row : instruction = dvpRow := by
        have inside := (mem_of_pendingInstruction pending).1
        exact List.mem_singleton.mp inside
      cases at_zero
      rw [row]
      exact banked state member⟩) committed
  exact ⟨_, run, found, postedOnce_of_run unsettled_dvpHouse rfl run⟩

/-- `dvpHouse` before its members have accounts. -/
def accountlessHouse : Database :=
  { dvpHouse with
    accounts := []
    accountIds_nodup := Database.nodup_noAccountIds
    accountKeys_nodup := Database.nodup_noAccountKeys }

/-- Without accounts the transfer is confirmed and nothing is posted. -/
theorem not_postedOnce_accountlessHouse :
    ∃ last, Run (CallStep decimalBackend) InSequence ⟨accountlessHouse, []⟩ last ∧
      ¬PostedOnce last.committed := by
  have unpaid : ∃ state ∈ committedStates
      (settlementCall decimalBackend 5 (fun _ => some (chainReporting .confirmed 2)) echoSigner
        systemTrace) accountlessHouse,
      ∃ row ∈ state.settlementInstructions, row.status = .confirmed ∧ 0 < row.amount ∧
        settlementJournals state row.id = [] := by decide +kernel
  obtain ⟨state, committed, row, member, confirmed, positive, empty⟩ := unpaid
  have fresh : FreshJournals accountlessHouse := unsettled_dvpHouse.fresh.entries
  obtain ⟨running, run⟩ := run_of_committedStates InSequence fresh 5 _ _ _
    (by simp [InSequence]) (fun _ _ _ _ _ _ => trivial) committed
  refine ⟨_, run, fun postedOnce => ?_⟩
  obtain ⟨journal, _, _, only, -⟩ := (postedOnce row member).confirmed confirmed positive
  rw [empty] at only
  cases only

end Settlement

end ClearingHouse
