import ClearingHouse.Library.TextFields
import ClearingHouse.Settlement.Finality
import ClearingHouse.Settlement.Payments
import ClearingHouse.Signing

/-!
# The stub chain

The chain adapter that the settlement engine registers.  It writes an instruction out as a text,
keeps the transactions submitted to it in memory, and confirms one once it has been polled often
enough since its last submission.
-/

namespace ClearingHouse

namespace Settlement

open Fibers TextFields
open DecimalRounding (fixedGrid mem_fixedGrid)

/-- `TransferInstruction`. -/
structure TransferInstruction where
  chainId : String
  fromAddress : String
  toAddress : String
  tokenAddress : String
  amount : ℚ
  instructionId : Uuid
  deriving DecidableEq, Repr

/-- A `NUMERIC(28, 8)` in a formatted string. -/
def amountStr (amount : ℚ) : List Char := decimalStr 8 ⌊amount * 10 ^ 8⌋

/-- `payload.encode("utf-8")`. -/
def encodeUtf8 (payload : List Char) : Bytes :=
  (String.ofList payload).toUTF8.data.toList.map UInt8.toNat

/-- `build_transfer_tx`. -/
def buildTransferTx (instruction : TransferInstruction) : Bytes :=
  encodeUtf8
    ("transfer:".toList ++ instruction.chainId.toList ++
      ':' :: instruction.fromAddress.toList ++ ':' :: instruction.toAddress.toList ++
      ':' :: amountStr instruction.amount ++ ':' :: uuidStr instruction.instructionId)

/-- `build_dvp_tx`; the addresses are the identifiers of members. -/
def buildDvpTx (instruction : DvpInstruction) : Bytes :=
  encodeUtf8
    ("dvp:".toList ++ instruction.chainId.toList ++
      ':' :: uuidStr instruction.sellerAddress ++ ':' :: uuidStr instruction.buyerAddress ++
      ':' :: amountStr instruction.assetAmount ++ ':' :: amountStr instruction.paymentAmount ++
      ':' :: uuidStr instruction.instructionId)

/-- Identifiers have 128 bits and amounts come from `NUMERIC(28, 8)` columns. -/
structure DvpInstruction.Typed (instruction : DvpInstruction) : Prop where
  seller : instruction.sellerAddress < 2 ^ 128
  buyer : instruction.buyerAddress < 2 ^ 128
  asset : instruction.assetAmount ∈ fixedGrid 8
  payment : instruction.paymentAmount ∈ fixedGrid 8
  id : instruction.instructionId < 2 ^ 128

theorem encodeUtf8_inj {payload payload' : List Char}
    (same : encodeUtf8 payload = encodeUtf8 payload') : payload = payload' := by
  have bytes := List.map_injective_iff.mpr (fun _ _ => UInt8.toNat_inj.mp) same
  have strings : (String.ofList payload).toByteArray = (String.ofList payload').toByteArray :=
    ByteArray.ext (Array.toList_inj.mp bytes)
  exact String.ofList_injective (String.toByteArray_inj.mp strings)

theorem amountStr_inj {amount amount' : ℚ} (storable : amount ∈ fixedGrid 8)
    (storable' : amount' ∈ fixedGrid 8) (same : amountStr amount = amountStr amount') :
    amount = amount' := by
  have scaled : ∀ {x : ℚ}, x ∈ fixedGrid 8 → (⌊x * 10 ^ 8⌋ : ℚ) = x * 10 ^ 8 := by
    intro x member
    obtain ⟨n, rfl⟩ := mem_fixedGrid.mp member
    have whole : (n : ℚ) * (1 / 10 ^ 8) * 10 ^ 8 = n := by ring
    rw [whole, Int.floor_intCast]
  have equal : amount * 10 ^ 8 = amount' * 10 ^ 8 := by
    rw [← scaled storable, ← scaled storable', decimalStr_inj same]
  exact mul_right_cancel₀ (by norm_num) equal

/-- An unsigned transaction determines its instruction but for the addresses of the tokens. -/
theorem buildDvpTx_eq_iff {instruction instruction' : DvpInstruction}
    (typed : instruction.Typed) (typed' : instruction'.Typed) :
    buildDvpTx instruction = buildDvpTx instruction' ↔
      instruction' =
        { instruction with
          assetTokenAddress := instruction'.assetTokenAddress
          paymentTokenAddress := instruction'.paymentTokenAddress } := by
  constructor
  · intro same
    have payload := encodeUtf8_inj same
    obtain ⟨payload, ids⟩ := separate (colon_notMem_uuidStr _) (colon_notMem_uuidStr _) payload
    obtain ⟨payload, payments⟩ :=
      separate (colon_notMem_decimalStr _ _) (colon_notMem_decimalStr _ _) payload
    obtain ⟨payload, assets⟩ :=
      separate (colon_notMem_decimalStr _ _) (colon_notMem_decimalStr _ _) payload
    obtain ⟨payload, buyers⟩ := separate (colon_notMem_uuidStr _) (colon_notMem_uuidStr _) payload
    obtain ⟨chains, sellers⟩ := separate (colon_notMem_uuidStr _) (colon_notMem_uuidStr _) payload
    have chain := String.toList_inj.mp (List.append_cancel_left chains)
    have seller := uuidStr_inj typed.seller typed'.seller sellers
    have buyer := uuidStr_inj typed.buyer typed'.buyer buyers
    have asset := amountStr_inj typed.asset typed'.asset assets
    have payment := amountStr_inj typed.payment typed'.payment payments
    have id := uuidStr_inj typed.id typed'.id ids
    cases instruction'
    dsimp only at chain seller buyer asset payment id
    subst chain seller buyer asset payment id
    rfl
  · intro same
    rw [same]
    rfl

theorem buildDvpTx_eq_iff_dvpHouse :
    (buildDvpTx (dvpInstruction dvpRow none "ethereum-mainnet") =
        buildDvpTx { dvpInstruction dvpRow none "ethereum-mainnet" with paymentAmount := 10 } ↔
      False) := by
  have onGrid : ∀ n : ℤ, (n : ℚ) ∈ fixedGrid 8 := fun n =>
    mem_fixedGrid.mpr ⟨n * 10 ^ 8, by push_cast; ring⟩
  have ten : (10 : ℚ) ∈ fixedGrid 8 := onGrid 10
  have hundred : (100 : ℚ) ∈ fixedGrid 8 := onGrid 100
  refine (buildDvpTx_eq_iff ⟨by decide, by decide, ten, hundred, by decide⟩
    ⟨by decide, by decide, ten, ten, by decide⟩).trans (iff_false_intro fun same => ?_)
  have amounts := congrArg DvpInstruction.paymentAmount same
  norm_num [dvpInstruction, dvpRow] at amounts

/-- `_TrackedTx`. -/
structure TrackedTx where
  signedTx : Bytes
  pollCount : ℕ
  deriving DecidableEq, Repr

/-- `StubChainAdapter`. -/
structure StubChainAdapter where
  confirmationsRequired : ℕ
  transactions : List (String × TrackedTx)
  deriving DecidableEq, Repr

/-- `StubChainAdapter(confirmations_required)`. -/
def newStub (confirmationsRequired : ℕ) : StubChainAdapter where
  confirmationsRequired := confirmationsRequired
  transactions := []

/-- `TransactionResult` with its `error`. -/
structure StubResult extends TransactionResult where
  error : Option Text
  deriving DecidableEq, Repr

/-- `hashlib.sha256(signed_tx).hexdigest()`. -/
def txHashOf (sha256 : List UInt8 → List UInt8) (signedTx : Bytes) : String :=
  Signing.hexdigest (sha256 (signedTx.map UInt8.ofNat))

namespace StubChainAdapter

/-- `get_tx_status`. -/
def getTxStatus (chain : StubChainAdapter) (txHash : String) : StubResult × StubChainAdapter :=
  match valueAt txHash chain.transactions with
  | none =>
      ({ txHash, status := .failed, confirmations := 0
         error := some [.literal "Unknown transaction: ", .literal txHash] }, chain)
  | some tracked =>
      let pollCount := tracked.pollCount + 1
      ({ txHash
         status := if chain.confirmationsRequired ≤ pollCount then .confirmed else .pending
         confirmations := pollCount
         error := none },
        { chain with
          transactions := update txHash tracked (fun tracked => { tracked with pollCount })
            chain.transactions })

section Hash

variable (sha256 : List UInt8 → List UInt8)

/-- `submit_signed_tx`. -/
def submitSignedTx (chain : StubChainAdapter) (signedTx : Bytes) :
    StubResult × StubChainAdapter :=
  let txHash := txHashOf sha256 signedTx
  ({ txHash, status := .pending, confirmations := 0, error := none },
    { chain with
      transactions := update txHash ⟨signedTx, 0⟩ (fun _ => ⟨signedTx, 0⟩) chain.transactions })

/-- A call of the adapter by some settlement. -/
inductive Operation
  | submit (signedTx : Bytes)
  | poll (txHash : String)
  deriving DecidableEq, Repr

/-- The adapter after a call. -/
def step (chain : StubChainAdapter) : Operation → StubChainAdapter
  | .submit signedTx => (chain.submitSignedTx sha256 signedTx).2
  | .poll txHash => (chain.getTxStatus txHash).2

/-- The adapter after some calls. -/
def after (chain : StubChainAdapter) (operations : List Operation) : StubChainAdapter :=
  operations.foldl (step sha256) chain

/-- How often a transaction has been polled since it was last submitted, if it ever was. -/
def pollsSince (txHash : String) (operations : List Operation) (before : Option ℕ) : Option ℕ :=
  operations.foldl
    (fun polls operation =>
      match operation with
      | .submit signedTx => if txHashOf sha256 signedTx = txHash then some 0 else polls
      | .poll polled => if polled = txHash then polls.map (· + 1) else polls)
    before

/-- What a poll is answered, given the number of polls before it. -/
def answer (confirmationsRequired : ℕ) (txHash : String) : Option ℕ → StubResult
  | none =>
      { txHash, status := .failed, confirmations := 0
        error := some [.literal "Unknown transaction: ", .literal txHash] }
  | some polls =>
      { txHash
        status := if confirmationsRequired ≤ polls + 1 then .confirmed else .pending
        confirmations := polls + 1
        error := none }

end Hash

/-- The number of polls that the adapter keeps of a transaction. -/
def pollsOf (chain : StubChainAdapter) (txHash : String) : Option ℕ :=
  (valueAt txHash chain.transactions).map TrackedTx.pollCount

variable {sha256 : List UInt8 → List UInt8}

theorem getTxStatus_fst (chain : StubChainAdapter) (txHash : String) :
    (chain.getTxStatus txHash).1 =
      answer chain.confirmationsRequired txHash (chain.pollsOf txHash) := by
  unfold getTxStatus pollsOf
  cases valueAt txHash chain.transactions <;> rfl

@[simp] theorem confirmationsRequired_step (chain : StubChainAdapter) (operation : Operation) :
    (chain.step sha256 operation).confirmationsRequired = chain.confirmationsRequired := by
  cases operation with
  | submit signedTx => rfl
  | poll txHash =>
      unfold step getTxStatus
      dsimp only
      cases valueAt txHash chain.transactions <;> rfl

theorem pollsOf_step (chain : StubChainAdapter) (operation : Operation) (txHash : String) :
    (chain.step sha256 operation).pollsOf txHash =
      pollsSince sha256 txHash [operation] (chain.pollsOf txHash) := by
  cases operation with
  | submit signedTx =>
      simp only [step, submitSignedTx, pollsOf, valueAt_update, pollsSince, List.foldl_cons,
        List.foldl_nil]
      by_cases own : txHashOf sha256 signedTx = txHash
      · simp [own]
      · simp [own, Ne.symm own]
  | poll polled =>
      simp only [step, pollsSince, List.foldl_cons, List.foldl_nil]
      by_cases own : polled = txHash
      · subst own
        unfold getTxStatus pollsOf
        cases found : valueAt polled chain.transactions with
        | none => simp [found]
        | some tracked => simp [valueAt_update, found]
      · rw [if_neg own]
        unfold getTxStatus pollsOf
        cases valueAt polled chain.transactions with
        | none => rfl
        | some tracked => simp [valueAt_update, Ne.symm own]

theorem after_spec (sha256 : List UInt8 → List UInt8) (chain : StubChainAdapter)
    (operations : List Operation) (txHash : String) :
    (chain.after sha256 operations).confirmationsRequired = chain.confirmationsRequired ∧
      (chain.after sha256 operations).pollsOf txHash =
        pollsSince sha256 txHash operations (chain.pollsOf txHash) := by
  induction operations generalizing chain with
  | nil => exact ⟨rfl, rfl⟩
  | cons operation operations induction =>
      obtain ⟨required, polls⟩ := induction (chain.step sha256 operation)
      refine ⟨required.trans (confirmationsRequired_step chain operation), polls.trans ?_⟩
      rw [pollsOf_step]
      rfl

theorem pollsSince_append (txHash : String) (first second : List Operation)
    (before : Option ℕ) :
    pollsSince sha256 txHash (first ++ second) before =
      pollsSince sha256 txHash second (pollsSince sha256 txHash first before) :=
  List.foldl_append

/-- No operation submits a transaction again. -/
def NotSubmitted (sha256 : List UInt8 → List UInt8) (txHash : String)
    (operations : List Operation) : Prop :=
  ∀ signedTx, .submit signedTx ∈ operations → txHashOf sha256 signedTx ≠ txHash

/-- Between submissions the polls are counted. -/
theorem pollsSince_of_notSubmitted {txHash : String} {operations : List Operation}
    (undisturbed : NotSubmitted sha256 txHash operations) (before : Option ℕ) :
    pollsSince sha256 txHash operations before =
      before.map (· + operations.count (.poll txHash)) := by
  induction operations generalizing before with
  | nil => cases before <;> rfl
  | cons operation operations induction =>
      have rest := induction fun signedTx inside =>
        undisturbed signedTx (List.mem_cons_of_mem _ inside)
      rw [← List.singleton_append, pollsSince_append, rest]
      cases operation with
      | submit signedTx =>
          have other := undisturbed signedTx List.mem_cons_self
          simp [pollsSince, other]
      | poll polled =>
          by_cases own : polled = txHash
          · subst own
            cases before with
            | none => simp [pollsSince]
            | some polls => simp [pollsSince, Nat.add_assoc, Nat.add_comm 1]
          · simp [pollsSince, own]

/-- A transaction that has been submitted stays known. -/
theorem isSome_pollsSince (sha256 : List UInt8 → List UInt8) (txHash : String)
    (operations : List Operation) {before : Option ℕ}
    (known : before.isSome) : (pollsSince sha256 txHash operations before).isSome := by
  induction operations generalizing before with
  | nil => exact known
  | cons operation operations induction =>
      apply induction
      cases operation with
      | submit signedTx => by_cases own : txHashOf sha256 signedTx = txHash <;> simp [own, known]
      | poll polled => by_cases own : polled = txHash <;> simp [own, known]

theorem pollsSince_submit {txHash : String} {signedTx : Bytes}
    (own : txHashOf sha256 signedTx = txHash) (before later : List Operation) :
    pollsSince sha256 txHash (before ++ .submit signedTx :: later) none =
      pollsSince sha256 txHash later (some 0) := by
  rw [pollsSince_append]
  simp [pollsSince, own]

/-- The adapter that a settlement sees which polls the transaction it has submitted. -/
def adapter (sha256 : List UInt8 → List UInt8) (confirmationsRequired : ℕ) : ChainAdapter where
  buildDvpTx instruction := .ok (buildDvpTx instruction)
  submitSignedTx signedTx :=
    .ok { txHash := txHashOf sha256 signedTx, status := .pending, confirmations := 0 }
  getTxStatus txHash asked :=
    .ok (answer confirmationsRequired txHash (some asked)).toTransactionResult
  getRequiredConfirmations := .ok confirmationsRequired

/-- Whatever settlements share the adapter and in whatever order they call it, a transaction is
reported as failed exactly if nothing with its hash was submitted, and otherwise a settlement is
answered by the number of polls since the last submission, as if it had the adapter to itself. -/
theorem getTxStatus_after (sha256 : List UInt8 → List UInt8) (confirmationsRequired : ℕ)
    (operations : List Operation) (txHash : String) :
    ((((newStub confirmationsRequired).after sha256 operations).getTxStatus txHash).1.status =
        .failed ↔ NotSubmitted sha256 txHash operations) ∧
      ∀ before signedTx later, operations = before ++ .submit signedTx :: later →
        txHashOf sha256 signedTx = txHash → NotSubmitted sha256 txHash later →
        (adapter sha256 confirmationsRequired).getTxStatus txHash
            (later.count (.poll txHash)) =
          .ok (((newStub confirmationsRequired).after sha256 operations).getTxStatus
            txHash).1.toTransactionResult := by
  obtain ⟨required, polls⟩ := after_spec sha256 (newStub confirmationsRequired)
    operations txHash
  rw [getTxStatus_fst, required, polls]
  have start : (newStub confirmationsRequired).pollsOf txHash = none := rfl
  rw [start]
  refine ⟨⟨fun failed signedTx inside own => ?_, fun undisturbed => ?_⟩, ?_⟩
  · obtain ⟨before, later, rfl⟩ := List.append_of_mem inside
    rw [pollsSince_submit own] at failed
    have known : (some 0 : Option ℕ).isSome := rfl
    obtain ⟨count, counted⟩ := Option.isSome_iff_exists.mp
      (isSome_pollsSince sha256 txHash later known)
    rw [counted] at failed
    simp only [answer] at failed
    split at failed <;> cases failed
  · rw [pollsSince_of_notSubmitted undisturbed]
    rfl
  · rintro before signedTx later rfl own undisturbed
    rw [pollsSince_submit own, pollsSince_of_notSubmitted undisturbed, Option.map_some,
      Nat.zero_add]
    rfl

end StubChainAdapter

open Transactions
open Transactions.Session (committedStates)
open StubChainAdapter (adapter answer)

variable {sha256 : List UInt8 → List UInt8} {confirmationsRequired : ℕ}

/-- The polling stops at the required depth, or at the last query. -/
theorem pollConfirmations_adapter (txHash : String) (asked polls : ℕ)
    (shallow : asked < max confirmationsRequired 1) :
    pollConfirmations (adapter sha256 confirmationsRequired) txHash confirmationsRequired asked
        polls =
      .ok (answer confirmationsRequired txHash
        (some (min (max confirmationsRequired 1 - 1) (asked + polls)))).toTransactionResult := by
  induction polls generalizing asked with
  | zero =>
      have last : min (max confirmationsRequired 1 - 1) (asked + 0) = asked := by omega
      rw [last]
      rfl
  | succ polls induction =>
      rw [pollConfirmations]
      by_cases deep : confirmationsRequired ≤ asked + 1
      · have last : min (max confirmationsRequired 1 - 1) (asked + (polls + 1)) = asked := by omega
        rw [last]
        simp [adapter, answer, deep]
      · have next := induction (asked + 1) (by omega)
        have same : asked + 1 + polls = asked + (polls + 1) := by omega
        rw [same] at next
        simp only [adapter, answer, if_neg deep, reduceCtorEq, false_and, if_false]
        exact next

/-- The polling sees the transaction confirmed exactly if 31 polls are enough. -/
theorem polled_adapter (sha256 : List UInt8 → List UInt8) (confirmationsRequired : ℕ)
    (txHash : String) :
    ∃ result, polled (adapter sha256 confirmationsRequired) txHash = .ok result ∧
      (confirmationsRequired ≤ 31 →
        result.status = .confirmed ∧ result.confirmations = max confirmationsRequired 1) ∧
      (31 < confirmationsRequired → result.status = .pending) := by
  have returned : polled (adapter sha256 confirmationsRequired) txHash =
      .ok (answer confirmationsRequired txHash
        (some (min (max confirmationsRequired 1 - 1) (0 + 30)))).toTransactionResult :=
    pollConfirmations_adapter txHash 0 30 (by omega)
  refine ⟨_, returned, fun enough => ?_, fun few => ?_⟩
  · have count : min (max confirmationsRequired 1 - 1) (0 + 30) + 1 =
        max confirmationsRequired 1 := by omega
    simp [answer, count]
  · have short : ¬confirmationsRequired ≤ min (max confirmationsRequired 1 - 1) (0 + 30) + 1 := by
      omega
    simp [answer, short]

/-- The chains of the settlement engine, for which one adapter is registered. -/
def registry (sha256 : List UInt8 → List UInt8) (confirmationsRequired : ℕ) (chainId : String) :
    Option ChainAdapter :=
  valueAt chainId (Signing.buildChainRegistry (adapter sha256 confirmationsRequired))

theorem eq_adapter_of_registry {chainId : String} {chain : ChainAdapter}
    (registered : registry sha256 confirmationsRequired chainId = some chain) :
    chain = adapter sha256 confirmationsRequired := by
  simp only [registry, Signing.buildChainRegistry, Signing.register, valueAt] at registered
  split at registered
  · exact (Option.some.inj registered).symm
  · split at registered
    · exact (Option.some.inj registered).symm
    · cases registered

variable {backend : Backend} {db after : Database} {instructionId : Uuid} {trace : TraceContext}

/-- A failure keeps the hash that is recorded. -/
theorem HashAt.of_failInstruction {txHash : String} {fromStatus : InstructionStatus}
    {reason : Text} (hashed : HashAt instructionId txHash db)
    (ran : failInstruction instructionId fromStatus reason trace db = .ok ((), after)) :
    HashAt instructionId txHash after := by
  obtain ⟨last, ran', rows, -⟩ := failInstruction_apply instructionId fromStatus reason trace db
  rw [ran, Except.ok.injEq, Prod.mk.injEq] at ran'
  intro row member same
  rw [ran'.2, rows, advanced] at member
  obtain ⟨old, inside, rfl⟩ := List.mem_map.mp member
  by_cases own : old.id = instructionId
  · simp only [own, if_true]
    exact hashed old inside own
  · simp only [own, if_false] at same

/-- The ledger is as before. -/
def LedgerKept (db last : Database) : Prop :=
  last.journals = db.journals ∧ last.journalEntries = db.journalEntries

/-- The ledger has one new journal, of the stored amount between the accounts of the members. -/
def PaidOut (backend : Backend) (instruction : SettlementInstruction) (db last : Database) :
    Prop :=
  ∃ fromAcct toAcct journalId amount,
    findAccount db instruction.fromMemberId .settlement .available = some fromAcct ∧
    findAccount db instruction.toMemberId .settlement .available = some toAcct ∧
    db.nextUuid ≤ journalId ∧ backend.store instruction.amount = some amount ∧ 0 < amount ∧
    last.journals =
      (posted instruction.id fromAcct.id toAcct.id amount journalId db).journals ∧
    last.journalEntries =
      (posted instruction.id fromAcct.id toAcct.id amount journalId db).journalEntries

theorem paidOut_of_writes {instruction : SettlementInstruction} {steps : List StatusStep}
    {amount : ℚ} (accounts : HasAccounts db instruction)
    (writes : Writes instruction.id steps (paymentOf db instruction amount) db after)
    (stored : backend.store instruction.amount = some amount ∧ 0 < amount) :
    PaidOut backend instruction db after := by
  have ledger := writes.ledger
  unfold HasAccounts paymentOf at accounts
  unfold paymentOf at ledger
  cases payer : findAccount db instruction.fromMemberId .settlement .available with
  | none => simp [payer] at accounts
  | some fromAcct =>
      cases payee : findAccount db instruction.toMemberId .settlement .available with
      | none => simp [payer, payee] at accounts
      | some toAcct =>
          rw [payer, payee] at ledger
          obtain ⟨journalId, fresh, -, journals, entries⟩ := ledger
          exact ⟨fromAcct, toAcct, journalId, amount, payer, payee, fresh, stored.1, stored.2,
            journals, entries⟩

/-- What a settlement has recorded when its transaction has been polled: it is confirmed without a
journal if an account is missing. -/
structure Polled (backend : Backend) (confirmationsRequired : ℕ)
    (instruction : SettlementInstruction) (txHash : String) (db last : Database) : Prop where
  hashed : HashAt instruction.id txHash last
  tooDeep : 31 < confirmationsRequired →
    StatusAt instruction.id .failed last ∧ LedgerKept db last
  confirmed : confirmationsRequired ≤ 31 → Payable backend db instruction →
    StatusAt instruction.id .confirmed last ∧
      ∀ row ∈ last.settlementInstructions, row.id = instruction.id →
        row.confirmations = max confirmationsRequired 1
  paid : confirmationsRequired ≤ 31 → Payable backend db instruction →
    HasAccounts db instruction → PaidOut backend instruction db last
  missing : confirmationsRequired ≤ 31 → ¬HasAccounts db instruction →
    StatusAt instruction.id .confirmed last ∧ LedgerKept db last
  unpaid : confirmationsRequired ≤ 31 → ¬Payable backend db instruction →
    StatusAt instruction.id .broadcasted last ∧ LedgerKept db last

/-- Without an account nothing has to be posted. -/
theorem payable_of_missing {instruction : SettlementInstruction}
    (missing : ¬HasAccounts db instruction) : Payable backend db instruction := by
  intro fromAcct toAcct payer payee
  refine absurd ?_ missing
  simp [HasAccounts, paymentOf, payer, payee]

/-- Transactions before the polling that leave ledger and accounts alone do not show. -/
theorem Polled.of_writes {instruction : SettlementInstruction} {txHash : String}
    {steps : List StatusStep} {middle last : Database}
    (wrote : Writes instruction.id steps none db middle)
    (outcome : Polled backend confirmationsRequired instruction txHash middle last) :
    Polled backend confirmationsRequired instruction txHash db last := by
  obtain ⟨hashed, tooDeep, confirmed, paid, missing, unpaid⟩ := outcome
  have kept : LedgerKept middle last → LedgerKept db last := fun ledger =>
    ⟨ledger.1.trans wrote.ledger.1, ledger.2.trans wrote.ledger.2⟩
  have accounts : ∀ memberId, findAccount middle memberId .settlement .available =
      findAccount db memberId .settlement .available := fun memberId => by
    rw [findAccount, findAccount, wrote.accounts]
  have same : HasAccounts middle instruction ↔ HasAccounts db instruction := by
    rw [HasAccounts, HasAccounts, paymentOf, paymentOf, accounts, accounts]
  rw [payable_congr wrote.accounts] at confirmed paid unpaid
  rw [same] at paid missing
  refine ⟨hashed, fun many => ⟨(tooDeep many).1, kept (tooDeep many).2⟩, confirmed,
    fun few payable both => ?_, fun few none => ⟨(missing few none).1, kept (missing few none).2⟩,
    fun few stuck => ⟨(unpaid few stuck).1, kept (unpaid few stuck).2⟩⟩
  obtain ⟨fromAcct, toAcct, journalId, amount, payer, payee, fresh, stored, positive, journals,
    entries⟩ := paid few payable both
  refine ⟨fromAcct, toAcct, journalId, amount, (accounts _).symm.trans payer,
    (accounts _).symm.trans payee, wrote.uuids.trans fresh, stored, positive, ?_, ?_⟩
  · rw [journals, posted, posted, wrote.ledger.1]
  · rw [entries, posted, posted, wrote.ledger.2]

theorem polled_concluding (sha256 : List UInt8 → List UInt8) (confirmationsRequired : ℕ)
    (trace : TraceContext) {instruction : SettlementInstruction} {txHash : String}
    (fresh : FreshJournals db) (at_status : StatusAt instruction.id .broadcasted db)
    (hashed : HashAt instruction.id txHash db) :
    Polled backend confirmationsRequired instruction txHash db
      ((runActions backend (concluding backend instruction
        (adapter sha256 confirmationsRequired) trace txHash) db).getLastD db) := by
  obtain ⟨result, returned, deep, short⟩ := polled_adapter sha256 confirmationsRequired
    txHash
  by_cases enough : confirmationsRequired ≤ 31
  · obtain ⟨confirmed, count⟩ := deep enough
    have few : ¬31 < confirmationsRequired := by omega
    simp only [concluding, returned, confirmed, if_true, runActions]
    cases ran : finalizeRows backend instruction none result.confirmations trace db with
    | error failure =>
        have stuck : ¬Payable backend db instruction := by
          intro payable
          obtain ⟨last, runs⟩ := finalizeRows_runs payable none result.confirmations trace
          rw [ran] at runs
          cases runs
        exact ⟨hashed, fun many => absurd many few, fun _ payable => absurd payable stuck,
          fun _ payable => absurd payable stuck,
          fun _ missing => absurd (payable_of_missing missing) stuck,
          fun _ _ => ⟨at_status, rfl, rfl⟩⟩
    | ok pair =>
        obtain ⟨⟨⟩, last⟩ := pair
        obtain ⟨payable, columns⟩ := finalizeRows_eq_ok ran
        obtain ⟨amount, writes, stored⟩ := writes_finalizeRows ran
        simp only [accepted_finalizeRows fresh ran, List.getLastD_cons, List.getLastD_nil]
        refine ⟨fun row inside same => ?_, fun many => absurd many few, fun _ _ => ⟨?_, ?_⟩,
          fun _ _ accounts => ?_, fun _ missing => ⟨at_status.of_writes writes, ?_⟩,
          fun _ stuck => absurd payable stuck⟩
        · obtain ⟨-, old, there, own, hash⟩ := columns row inside same
          exact hash.trans (hashed old there own)
        · exact at_status.of_writes writes
        · exact fun row inside same => (columns row inside same).1.trans count
        · exact paidOut_of_writes accounts writes
            (stored ((isSome_paymentOf db instruction amount).mpr accounts))
        · rw [paymentOf_eq_none missing amount] at writes
          exact writes.ledger
  · have pending := short (by omega)
    obtain ⟨last, ran, -, -, journals, entries, -⟩ := failInstruction_apply instruction.id
      .broadcasted [.literal "Tx failed: ", .literal result.txHash] trace db
    simp only [concluding, returned, pending, reduceCtorEq, if_false,
      runActions_commit ran entries, runActions, List.getLastD_cons, List.getLastD_nil]
    exact ⟨hashed.of_failInstruction ran,
      fun _ => ⟨at_status.of_writes (writes_failInstruction ran), journals, entries⟩,
      fun few => absurd few enough, fun few => absurd few enough, fun few => absurd few enough,
      fun few => absurd few enough⟩

theorem polled_transferring (sha256 : List UInt8 → List UInt8) (confirmationsRequired : ℕ)
    (trace : TraceContext) {instruction : SettlementInstruction}
    {contractAddress : Option String} {chainId : String}
    {sign : Bytes → String → Except Text Bytes} {signedTx : Bytes} (fresh : FreshJournals db)
    (at_status : StatusAt instruction.id .approved db)
    (signed : sign (buildDvpTx (dvpInstruction instruction contractAddress chainId)) chainId =
      .ok signedTx) :
    Polled backend confirmationsRequired instruction (txHashOf sha256 signedTx) db
      ((runActions backend (transferring backend instruction
        (adapter sha256 confirmationsRequired) trace contractAddress chainId sign)
          db).getLastD db) := by
  have built : signedTransaction instruction (adapter sha256 confirmationsRequired)
      contractAddress chainId sign = .ok signedTx := signed
  have sign_ok := advanceStatus_apply instruction.id .approved .signed (by decide)
    [.literal "MPC signing complete"] trace db
  generalize advanced instruction.id .approved .signed [.literal "MPC signing complete"] trace
    db = middle at sign_ok
  have wrote := writes_advanceStatus sign_ok
  have broadcast := broadcastRows_apply instruction (txHashOf sha256 signedTx) trace middle
  obtain ⟨broadcasted, written⟩ : ∃ broadcasted,
      broadcastRows instruction (txHashOf sha256 signedTx) trace middle = .ok ((), broadcasted) :=
    ⟨_, broadcast⟩
  have wrote' := writes_broadcastRows written
  have hashed : HashAt instruction.id (txHashOf sha256 signedTx) broadcasted := by
    rw [broadcast, Except.ok.injEq, Prod.mk.injEq] at written
    intro row member same
    rw [← written.2, advanced] at member
    simp only [List.map_map, List.mem_map, Function.comp_apply] at member
    obtain ⟨old, -, rfl⟩ := member
    by_cases own : old.id = instruction.id
    · simp [own]
    · simp [own] at same
  have submits : (adapter sha256 confirmationsRequired).submitSignedTx signedTx =
      .ok { txHash := txHashOf sha256 signedTx, status := .pending, confirmations := 0 } := rfl
  have submitted : runActions backend (submitting backend instruction
      (adapter sha256 confirmationsRequired) trace signedTx) middle =
        broadcasted :: runActions backend (concluding backend instruction
          (adapter sha256 confirmationsRequired) trace (txHashOf sha256 signedTx))
            broadcasted := by
    rw [submitting, submits, runActions]
    exact runActions_commit written wrote'.ledger.2
  simp only [transferring, built, runActions_commit sign_ok wrote.ledger.2, submitted,
    List.getLastD_cons]
  exact ((polled_concluding sha256 confirmationsRequired trace
    ((fresh.of_writes wrote).of_writes wrote')
    ((at_status.of_writes wrote).of_writes wrote') hashed).of_writes wrote').of_writes wrote

/-- Where a settlement on the adapter ends: failed without a journal if the transaction cannot be
signed, and otherwise by the number of polls, by whether its entries can be posted and by whether
both accounts exist. -/
theorem settlement_on_adapter (backend : Backend) (trace : TraceContext)
    {sign : Bytes → String → Except Text Bytes} (fresh : FreshJournals db)
    (unique : (db.settlementInstructions.map SettlementInstruction.id).Nodup)
    (call : ChainCall db instructionId (registry sha256 confirmationsRequired)) :
    let last := (committedStates
      (settlementCall backend instructionId (registry sha256 confirmationsRequired) sign trace)
        db).getLastD db
    let signed := sign (buildDvpTx
      (dvpInstruction call.instruction call.instrument.contractAddress call.chainId)) call.chainId
    (∀ message, signed = .error message →
      StatusAt instructionId .failed last ∧ LedgerKept db last) ∧
      ∀ signedTx, signed = .ok signedTx →
        Polled backend confirmationsRequired call.instruction (txHashOf sha256 signedTx) db
          last := by
  obtain ⟨instruction, instrument, chainId, chain, found, onChain, named, given, registered⟩ :=
    call
  obtain rfl := eq_adapter_of_registry registered
  obtain ⟨rfl, pending⟩ := statusAt_of_pending unique found
  obtain ⟨extra, commits, repeats⟩ := committedStates_settlementCall
    (registry sha256 confirmationsRequired) sign trace backend instruction.id fresh
  have approve := advanceStatus_apply instruction.id .pending .approved (by decide)
    [.literal "DVP validation passed"] trace db
  generalize advanced instruction.id .pending .approved [.literal "DVP validation passed"]
    trace db = approved at approve
  have wrote := writes_advanceStatus approve
  have at_approved := pending.of_writes wrote
  have states : committedBy backend (registry sha256 confirmationsRequired) sign trace
      instruction.id db =
      approved :: runActions backend
        (transferring backend instruction (adapter sha256 confirmationsRequired) trace
          instrument.contractAddress chainId sign) approved := by
    simp only [committedBy, found, script_of_onChain onChain named given registered]
    exact runActions_commit approve wrote.ledger.2
  have ends : (committedStates (settlementCall backend instruction.id
      (registry sha256 confirmationsRequired) sign trace) db).getLastD db =
      (committedBy backend (registry sha256 confirmationsRequired) sign trace
        instruction.id db).getLastD db := by
    rw [commits]
    cases extra using List.reverseRecOn with
    | nil => rw [List.append_nil]
    | append_singleton earlier state =>
        rw [← repeats state (by simp), ← List.append_assoc, List.getLastD_concat]
  rw [ends, states, List.getLastD_cons]
  constructor
  · intro message raised
    have unsigned : signedTransaction instruction (adapter sha256 confirmationsRequired)
        instrument.contractAddress chainId sign = .error message := raised
    obtain ⟨last, ran, -, -, journals, entries, -⟩ :=
      failInstruction_apply instruction.id .approved message trace approved
    simp only [transferring, unsigned, failed, runActions_commit ran entries, runActions,
      List.getLastD_cons, List.getLastD_nil]
    exact ⟨at_approved.of_writes (writes_failInstruction ran),
      journals.trans wrote.ledger.1, entries.trans wrote.ledger.2⟩
  · intro signedTx signs
    exact (polled_transferring sha256 confirmationsRequired trace (fresh.of_writes wrote)
      at_approved signs).of_writes wrote

/-- The SHA-256 digest of the transaction of `dvpHouse`. -/
def dvpDigest : List UInt8 :=
  [111, 234, 97, 218, 145, 43, 190, 194, 112, 69, 59, 244, 156, 20, 237, 165, 64, 235, 49,
    171, 85, 224, 235, 83, 46, 91, 241, 101, 39, 142, 11, 19]

/-- The call for the instruction of `dvpHouse` on the registered adapter. -/
def stubCall : ChainCall dvpHouse 5 (registry (fun _ => dvpDigest) 2) where
  instruction := dvpRow
  instrument := dvpInstrument
  chainId := "ethereum-mainnet"
  adapter := adapter (fun _ => dvpDigest) 2
  pending := pendingInstruction_dvpHouse
  onChain := dvpRow_onChain
  chain := dvpRow_chain
  named := ethereum_named
  registered := by simp [registry, Signing.buildChainRegistry, Signing.register, valueAt]

theorem settlement_on_adapter_dvpHouse :
    Polled decimalBackend 2 dvpRow (Signing.hexdigest dvpDigest) dvpHouse
      ((committedStates (settlementCall decimalBackend 5 (registry (fun _ => dvpDigest) 2)
        echoSigner systemTrace) dvpHouse).getLastD dvpHouse) := by
  have fresh : FreshJournals dvpHouse := by simp [FreshJournals, dvpHouse, Database.opening]
  exact (settlement_on_adapter decimalBackend systemTrace fresh (by decide) stubCall).2 _ rfl

end Settlement

end ClearingHouse
