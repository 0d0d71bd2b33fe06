import ClearingHouse.Settlement.Effects

/-!
# Committed states of a settlement

Run on a connection of its own, a call of `settle_instruction` commits the states of its script and
no others: an exception of the signer or the chain is caught and recorded, an exception of a
statement leaves the connection in a transaction, where the handler raises again.
-/

namespace ClearingHouse

namespace Settlement

open Transactions
open Transactions.Session (attempt attempt_of_error bind_of_error bind_of_ok block_of_ok commit
  commit_idleAt commit_inTransaction committedStates execute execute_idleAt_error
  execute_inTransaction idleAt requireIdle)

variable {backend : Backend}

theorem FreshJournals.of_writes {instructionId : Uuid} {steps : List StatusStep}
    {payment : Option Payment} {db after : Database} (fresh : FreshJournals db)
    (writes : Writes instructionId steps payment db after) : FreshJournals after := by
  intro entry member
  have ledger := writes.ledger
  cases payment with
  | none =>
      rw [ledger.2] at member
      exact (fresh entry member).trans_le writes.uuids
  | some payment =>
      obtain ⟨journalId, -, used, -, entries⟩ := ledger
      rw [entries, posted, List.mem_append] at member
      rcases member with old | new
      · exact (fresh entry old).trans_le writes.uuids
      · simp only [List.mem_cons, List.not_mem_nil, or_false] at new
        rcases new with rfl | rfl <;> exact used

theorem accepted_of_writes {instructionId : Uuid} {steps : List StatusStep}
    {payment : Option Payment} {db after : Database} (fresh : FreshJournals db)
    (writes : Writes instructionId steps payment db after)
    (stored : ∀ p ∈ payment, ∃ amount, backend.store amount = some p.amount) :
    (server backend).deferred db after = .ok () := by
  have ledger := writes.ledger
  cases payment with
  | none => exact accepted_of_same ledger.2
  | some payment =>
      obtain ⟨journalId, unused, -, -, entries⟩ := ledger
      obtain ⟨amount, store⟩ := stored payment rfl
      exact accepted_posted fresh unused store entries

/-- On an idle connection a session commits some states and no others, and is idle again unless it
raises. -/
def Performs {α : Type} (session : Session Database Failure α) (db : Database)
    (states : List Database) : Prop :=
  ∀ history, ∃ outcome after, session (idleAt db history) = (outcome, after) ∧
    after.history = history ++ states ∧
    ∀ value, outcome = .ok value → after = idleAt (states.getLastD db) (history ++ states)

/-- Statements that a commit follows perform what their run commits. -/
theorem performs_block {α β : Type} {code : Sql α} {db after : Database} {value : α}
    (ran : code db = .ok (value, after)) (accepted : (server backend).deferred db after = .ok ())
    {next : Unit → Session Database Failure β} {states : List Database}
    (rest : Performs (next ()) after states) :
    Performs (do let _ ← execute (server backend) code; commit (server backend) >>= next) db
      (after :: states) := by
  intro history
  obtain ⟨outcome, last, run, commits, finished⟩ := rest (history ++ [after])
  refine ⟨outcome, last, ?_, ?_, fun value ok => ?_⟩
  · exact (block_of_ok ran accepted next).trans run
  · rw [commits, List.append_assoc, List.singleton_append]
  · rw [finished value ok, List.append_assoc, List.singleton_append, List.getLastD_cons]

theorem performs_pure {α : Type} (value : α) (db : Database) :
    Performs (pure value : Session Database Failure α) db [] := by
  intro history
  exact ⟨.ok value, idleAt db history, rfl, by simp [idleAt], fun _ _ => by simp⟩

/-- The `except` block records the failure on an idle connection. -/
theorem performs_failOnChain (backend : Backend) (instruction : SettlementInstruction)
    (trace : TraceContext) (failure : Failure) (db : Database) :
    Performs (failOnChain backend instruction trace failure) db
      (runActions backend (failed instruction trace failure.message) db) := by
  obtain ⟨after, ran, -, -, -, entries, -⟩ :=
    failInstruction_apply instruction.id .approved failure.message trace db
  have accepted : (server backend).deferred db after = .ok () := accepted_of_same entries
  have states : runActions backend (failed instruction trace failure.message) db = [after] := by
    simp [failed, runActions, ran, accepted]
  rw [states]
  exact performs_block ran accepted (performs_pure _ _)

/-- In a transaction the `except` block raises. -/
theorem failOnChain_of_open (backend : Backend) (instruction : SettlementInstruction)
    (trace : TraceContext) (failure : Failure) (connection : Connection Database)
    (opened : connection.status ≠ .idle) :
    ∃ raised, failOnChain backend instruction trace failure connection =
      (.error raised, connection) := by
  refine ⟨.raised .runtimeError [.literal "can't change 'autocommit' now"], ?_⟩
  apply bind_of_error
  simp [disableAutocommit, requireIdle, opened]

section Attempt

variable {instruction : SettlementInstruction} {trace : TraceContext} {db : Database}

/-- An answer of the signer or the chain inside the `try` block. -/
theorem performs_external {α : Type} {answer : Except Text α}
    {next : α → Session Database Failure SettlementResult} {states : List Database}
    (answered : ∀ value, answer = .ok value →
      Performs (attempt (next value) (failOnChain backend instruction trace)) db states)
    (raised : ∀ message, answer = .error message →
      states = runActions backend (failed instruction trace message) db) :
    Performs (attempt (external answer >>= next) (failOnChain backend instruction trace)) db
      states := by
  intro history
  cases answer with
  | ok value =>
      obtain ⟨outcome, after, run, rest⟩ := answered value rfl history
      exact ⟨outcome, after, run, rest⟩
  | error message =>
      have run : (external (.error message : Except Text α) >>= next) (idleAt db history) =
          (.error (.raised .runtimeError message), idleAt db history) := rfl
      obtain ⟨outcome, after, handled, rest⟩ :=
        performs_failOnChain backend instruction trace
          (.raised .runtimeError message) db history
      rw [raised message rfl]
      exact ⟨outcome, after, (attempt_of_error run).trans handled, rest⟩

/-- Outside a transaction `conn.autocommit = False` changes nothing. -/
theorem performs_disableAutocommit {next : Unit → Session Database Failure SettlementResult}
    {states : List Database}
    (rest : Performs (attempt (next ()) (failOnChain backend instruction trace)) db states) :
    Performs (attempt (disableAutocommit >>= next) (failOnChain backend instruction trace)) db
      states := rest

/-- Statements and their commit inside the `try` block. -/
theorem performs_attempt_block (code : Sql Unit)
    (next : Unit → Session Database Failure SettlementResult) (rest : List Action)
    (accepted : ∀ after, code db = .ok ((), after) → (server backend).deferred db after = .ok ())
    (continued : ∀ after, code db = .ok ((), after) →
      Performs (attempt (next ()) (failOnChain backend instruction trace)) after
        (runActions backend rest after)) :
    Performs
      (attempt (do let _ ← execute (server backend) code; commit (server backend) >>= next)
        (failOnChain backend instruction trace)) db
      (runActions backend (.commit code :: rest) db) := by
  intro history
  cases ran : code db with
  | error failure =>
      obtain ⟨status, opened, executed⟩ :=
        execute_idleAt_error (server backend) history ran
      obtain ⟨raised, handled⟩ := failOnChain_of_open backend instruction trace failure
        { committed := db, working := db, status, history } opened
      refine ⟨.error raised, _, (attempt_of_error (bind_of_error executed)).trans handled, ?_, ?_⟩
      · simp [runActions, ran]
      · simp
  | ok pair =>
      obtain ⟨⟨⟩, after⟩ := pair
      have checked := accepted after ran
      have states : runActions backend (.commit code :: rest) db =
          after :: runActions backend rest after := by
        simp [runActions, ran, checked]
      rw [states]
      obtain ⟨outcome, last, run, commits, finished⟩ := continued after ran (history ++ [after])
      refine ⟨outcome, last, ?_, ?_, fun value ok => ?_⟩
      · simp only [attempt, block_of_ok ran checked]
        exact run
      · rw [commits, List.append_assoc, List.singleton_append]
      · rw [finished value ok, List.append_assoc, List.singleton_append, List.getLastD_cons]

theorem performs_attempt_pure (value : SettlementResult) :
    Performs (attempt (pure value) (failOnChain backend instruction trace)) db
      (runActions backend [] db) :=
  performs_pure value db

end Attempt

section Stages

variable {instruction : SettlementInstruction} {adapter : ChainAdapter} {trace : TraceContext}
  {db : Database}

theorem accepted_finalizeRows (fresh : FreshJournals db) {blockNumber : Option ℕ}
    {confirmations : ℕ} {after : Database}
    (ran : finalizeRows backend instruction blockNumber confirmations trace db =
      .ok ((), after)) : (server backend).deferred db after = .ok () := by
  obtain ⟨amount, writes, stored⟩ := writes_finalizeRows ran
  apply accepted_of_writes fresh writes
  intro payment found
  have isSome : (paymentOf db instruction amount).isSome :=
    Option.isSome_iff_exists.mpr ⟨payment, found⟩
  exact ⟨instruction.amount, amount_of_mem_paymentOf found ▸ (stored isSome).1⟩

theorem performs_concluding (fresh : FreshJournals db) (txHash : String) :
    Performs
      (attempt (concludeOnChain backend instruction adapter txHash trace)
        (failOnChain backend instruction trace)) db
      (runActions backend (concluding backend instruction adapter trace txHash) db) := by
  refine performs_external (fun required answered => ?_) fun message raised => ?_
  · refine performs_external (fun txResult polling => ?_) fun message raised => ?_
    · have answer : polled adapter txHash = .ok txResult := by simp [polled, answered, polling]
      apply performs_disableAutocommit
      rw [concluding, answer]
      by_cases confirmed : txResult.status = .confirmed
      · simp only [if_pos confirmed]
        exact performs_attempt_block _ _ _ (fun after ran => accepted_finalizeRows fresh ran)
          fun after ran => performs_attempt_pure _
      · simp only [if_neg confirmed]
        exact performs_attempt_block _ _ _
          (fun after ran => accepted_of_same (writes_failInstruction ran).ledger.2)
          fun after ran => performs_attempt_pure _
    · simp [concluding, polled, answered, raised]
  · simp [concluding, polled, raised]

theorem performs_submitting (fresh : FreshJournals db) (signedTx : Bytes) :
    Performs
      (attempt (submitOnChain backend instruction adapter signedTx trace)
        (failOnChain backend instruction trace)) db
      (runActions backend (submitting backend instruction adapter trace signedTx) db) := by
  refine performs_external (fun result submitted => ?_) fun message raised => ?_
  · apply performs_disableAutocommit
    simp only [submitting, runActions, submitted]
    have merged : ∀ history,
        (do execute (server backend)
              (updateInstruction instruction.id fun row =>
                { row with txHash := some result.txHash })
            execute (server backend)
              (advanceStatus instruction.id .signed .broadcasted [.literal "Tx submitted"] trace)
            commit (server backend)
            concludeOnChain backend instruction adapter result.txHash trace :
          Session Database Failure SettlementResult) (idleAt db history) =
        (do let _ ← execute (server backend) (broadcastRows instruction result.txHash trace)
            commit (server backend) >>= fun _ =>
              concludeOnChain backend instruction adapter result.txHash trace)
          (idleAt db history) := fun history => rfl
    have block := performs_attempt_block (broadcastRows instruction result.txHash trace)
      (fun _ => concludeOnChain backend instruction adapter result.txHash trace)
      (concluding backend instruction adapter trace result.txHash)
      (fun after ran => accepted_of_same (writes_broadcastRows ran).ledger.2)
      fun after ran => performs_concluding (fresh.of_writes (writes_broadcastRows ran)) _
    intro history
    obtain ⟨outcome, after, run, rest⟩ := block history
    refine ⟨outcome, after, ?_, rest⟩
    rw [attempt, merged, ← attempt]
    exact run
  · simp [submitting, runActions, raised]

theorem performs_transferring (backend : Backend) (instruction : SettlementInstruction)
    (adapter : ChainAdapter) (trace : TraceContext) (fresh : FreshJournals db)
    (contractAddress : Option String)
    (chainId : String) (sign : Bytes → String → Except Text Bytes) :
    Performs
      (attempt (transferOnChain backend instruction contractAddress chainId adapter sign trace)
        (failOnChain backend instruction trace)) db
      (runActions backend
        (transferring backend instruction adapter trace contractAddress chainId sign) db) := by
  refine performs_external (fun unsignedTx built => ?_) fun message raised => ?_
  · refine performs_external (fun signedTx signed => ?_) fun message raised => ?_
    · apply performs_disableAutocommit
      simp only [transferring, signedTransaction, built, signed]
      exact performs_attempt_block _ _ _
        (fun after ran => accepted_of_same (writes_advanceStatus ran).ledger.2)
        fun after ran => performs_submitting (fresh.of_writes (writes_advanceStatus ran)) signedTx
    · simp [transferring, signedTransaction, built, raised]
  · simp [transferring, signedTransaction, raised]

end Stages

/-- A connection that has read in a transaction and written nothing. -/
private def readingAt (db : Database) : Connection Database :=
  { committed := db, working := db, status := .inTransaction, history := [] }

private theorem block_of_reading {α : Type} {code : Sql Unit} {db after : Database}
    (ran : code db = .ok ((), after)) (accepted : (server backend).deferred db after = .ok ())
    (next : Unit → Session Database Failure α) :
    (do let _ ← execute (server backend) code; commit (server backend) >>= next)
        (readingAt db) = next () (idleAt after [after]) := by
  rw [readingAt, bind_of_ok (execute_inTransaction ran), bind_of_ok (commit_inTransaction accepted)]
  rfl

private theorem bind_of_reading {α β : Type} {session session' : Session Database Failure α}
    {connection connection' : Connection Database}
    (same : session connection = session' connection')
    (next : α → Session Database Failure β) :
    (session >>= next) connection = (session' >>= next) connection' := by
  rw [Session.bind_apply, Session.bind_apply, same]

/-- One transaction and the commit of the consumer. -/
private theorem history_single {code : Sql SettlementResult} {db : Database} :
    ((do let result ← execute (server backend) code
         commit (server backend)
         pure result : Session Database Failure SettlementResult) (readingAt db)).2.history =
      runActions backend [.commit (do let _ ← code)] db := by
  cases ran : code db with
  | error failure =>
      have stopped : (do let _ ← code : Sql Unit) db = .error failure :=
        Transaction.bind_of_error ran
      simp [readingAt, execute, ran, Session.bind_apply, runActions, stopped]
  | ok pair =>
      obtain ⟨value, after⟩ := pair
      have done : (do let _ ← code : Sql Unit) db = .ok ((), after) := Transaction.bind_of_ok ran
      cases checked : (server backend).deferred db after with
      | error failure =>
          simp [readingAt, execute, ran, Session.bind_apply, commit, runActions, done, checked]
      | ok accepted =>
          simp [readingAt, execute, ran, Session.bind_apply, commit, runActions, done, checked]

/-- A settlement and the commit of its consumer. -/
private theorem history_performs (backend : Backend) (history : List Database)
    {session : Session Database Failure SettlementResult} {db : Database} {states : List Database}
    (performs : Performs session db states) :
    ∃ extra,
      ((do let result ← session
           commit (server backend)
           pure result : Session Database Failure SettlementResult)
        (idleAt db history)).2.history = history ++ states ++ extra ∧
      ∀ state ∈ extra, state = states.getLastD db := by
  obtain ⟨outcome, after, run, commits, finished⟩ := performs history
  cases outcome with
  | error failure =>
      refine ⟨[], ?_, by simp⟩
      rw [bind_of_error run, commits, List.append_nil]
  | ok value =>
      obtain rfl := finished value rfl
      have accepted : (server backend).deferred (states.getLastD db) (states.getLastD db) =
          .ok () := accepted_of_same rfl
      refine ⟨[states.getLastD db], ?_, by simp⟩
      rw [bind_of_ok run, bind_of_ok (commit_idleAt accepted)]
      rfl

variable (chainRegistry : String → Option ChainAdapter)
  (sign : Bytes → String → Except Text Bytes) (trace : TraceContext)

/-- A DVP settlement in the transaction that has read its row. -/
private theorem history_settleDvp (backend : Backend) {instruction : SettlementInstruction}
    (instrument : Instrument) {db : Database} (fresh : FreshJournals db)
    (kind : instruction.settlementType ≠ .cash) :
    ∃ extra,
      ((do let result ← settleDvp backend instruction instrument.contractAddress chainRegistry sign
             trace
           commit (server backend)
           pure result : Session Database Failure SettlementResult) (readingAt db)).2.history =
        ((script backend chainRegistry sign trace instruction instrument).elim []
          fun actions => runActions backend actions db) ++ extra ∧
      ∀ state ∈ extra,
        state = ((script backend chainRegistry sign trace instruction instrument).elim []
          fun actions => runActions backend actions db).getLastD db := by
  have scripted : script backend chainRegistry sign trace instruction instrument =
      (instruction.chainId.filter fun chainId => chainId ≠ "").elim
        (some [.commit
          (failInstruction instruction.id .pending [.literal "No chain_id for DVP settlement"]
            trace)])
        fun chainId => (chainRegistry chainId).map fun adapter =>
          .commit (advanceStatus instruction.id .pending .approved
              [.literal "DVP validation passed"] trace) ::
            transferring backend instruction adapter trace instrument.contractAddress chainId
              sign := by
    rw [script]
    cases type : instruction.settlementType with
    | cash => exact absurd type kind
    | dvp | physical =>
        cases instruction.chainId.filter fun chainId => chainId ≠ "" with
        | none => rfl
        | some chainId => cases registered : chainRegistry chainId <;> simp [registered]
  rw [scripted, settleDvp]
  cases chain : instruction.chainId.filter fun chainId => chainId ≠ "" with
  | none =>
      obtain ⟨after, ran, -, -, -, entries, -⟩ := failInstruction_apply instruction.id .pending
        [.literal "No chain_id for DVP settlement"] trace db
      have accepted : (server backend).deferred db after = .ok () := accepted_of_same entries
      exact ⟨[],
        by simp [readingAt, execute, ran, Session.bind_apply, commit, runActions, accepted],
        by simp⟩
  | some chainId =>
      cases registered : chainRegistry chainId with
      | none =>
          exact ⟨[], by simp [readingAt, Session.raise, Session.bind_apply, registered], by simp⟩
      | some adapter =>
          have approve := advanceStatus_apply instruction.id .pending .approved (by decide)
            [.literal "DVP validation passed"] trace db
          have approved := writes_advanceStatus approve
          have accepted : (server backend).deferred db _ = .ok () :=
            accepted_of_same approved.ledger.2
          have performs := performs_transferring backend instruction adapter trace
            (fresh.of_writes approved) instrument.contractAddress chainId sign
          obtain ⟨extra, commits, repeats⟩ := history_performs backend
            [advanced instruction.id .pending .approved [.literal "DVP validation passed"] trace db]
            performs
          refine ⟨extra, ?_, ?_⟩
          · simp only [registered]
            rw [bind_of_reading (block_of_reading approve accepted _), commits]
            simp [registered, runActions, approve, accepted]
          · intro state member
            simp only [registered, Option.elim_some, Option.map_some, runActions, approve, accepted,
              List.getLastD_cons]
            exact repeats state member

theorem committedBy_of_pending {backend : Backend} {instructionId : Uuid} {db : Database}
    {instruction : SettlementInstruction} {instrument : Instrument}
    (found : pendingInstruction db instructionId = some (instruction, instrument)) :
    committedBy backend chainRegistry sign trace instructionId db =
      (script backend chainRegistry sign trace instruction instrument).elim []
        fun actions => runActions backend actions db := by
  simp only [committedBy, found]
  cases script backend chainRegistry sign trace instruction instrument <;> rfl

/-- A call of `settle_instruction` commits the states of its script, and then at most the last of
them again. -/
theorem committedStates_settlementCall (backend : Backend) (instructionId : Uuid) {db : Database}
    (fresh : FreshJournals db) :
    ∃ extra,
      committedStates
          (settlementCall backend instructionId chainRegistry sign trace) db =
        committedBy backend chainRegistry sign trace instructionId db ++ extra ∧
      ∀ state ∈ extra,
        state = (committedBy backend chainRegistry sign trace instructionId db).getLastD db := by
  have start : committedStates (settlementCall backend instructionId chainRegistry sign trace) db =
      ((do let result ← settlePending backend chainRegistry sign trace
             (pendingInstruction db instructionId)
           commit (server backend)
           pure result : Session Database Failure SettlementResult) (readingAt db)).2.history := rfl
  rw [start]
  cases found : pendingInstruction db instructionId with
  | none =>
      have accepted : (server backend).deferred db db = .ok () := accepted_of_same rfl
      refine ⟨[db], ?_, by simp [committedBy, found]⟩
      simp [settlePending, committedBy, found, readingAt, commit, accepted, Session.bind_apply]
  | some row =>
      obtain ⟨instruction, instrument⟩ := row
      rw [committedBy_of_pending chainRegistry sign trace found]
      cases type : instruction.settlementType with
      | cash =>
          refine ⟨[], ?_, by simp⟩
          simp only [settlePending, type, script, Option.elim_some, List.append_nil]
          exact history_single
      | dvp | physical =>
          simp only [settlePending, type]
          exact history_settleDvp chainRegistry sign trace backend instrument fresh (by simp [type])

end Settlement

end ClearingHouse
