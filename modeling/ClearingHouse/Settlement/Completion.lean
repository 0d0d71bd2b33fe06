import ClearingHouse.SchemaChecks

/-!
# When a settlement returns

A call of `settle_instruction` catches what the signer and the chain raise, but not what the server
does.  It returns if the server accepts every transaction of its script, also when it is called in a
transaction that has written other rows before.
-/

namespace ClearingHouse

namespace Settlement

open SchemaChecks Transactions
open Transactions.Session (attempt attempt_of_error attempt_of_ok bind_of_ok block_of_ok commit
  execute execute_idleAt idleAt)

variable {backend : Backend} {instruction : SettlementInstruction} {adapter : ChainAdapter}
  {trace : TraceContext} {db after : Database}

/-- On an idle connection a session returns, and the connection is idle again. -/
def Returns {α : Type} (session : Session Database Failure α) (db : Database) : Prop :=
  ∀ history, ∃ value last states, session (idleAt db history) = (.ok value, idleAt last states)

theorem returns_pure {α : Type} (value : α) (db : Database) :
    Returns (pure value : Session Database Failure α) db :=
  fun history => ⟨value, db, history, rfl⟩

theorem returns_block {α β : Type} {code : Sql α} {value : α}
    (ran : code db = .ok (value, after)) (accepted : (server backend).deferred db after = .ok ())
    {next : Unit → Session Database Failure β} (rest : Returns (next ()) after) :
    Returns (do let _ ← execute (server backend) code; commit (server backend) >>= next) db := by
  intro history
  obtain ⟨result, last, states, run⟩ := rest (history ++ [after])
  exact ⟨result, last, states, (block_of_ok ran accepted next).trans run⟩

theorem returns_failOnChain (backend : Backend) (instruction : SettlementInstruction)
    (trace : TraceContext) (failure : Failure) (db : Database) :
    Returns (failOnChain backend instruction trace failure) db := by
  obtain ⟨after, ran, -, -, -, entries, -⟩ :=
    failInstruction_apply instruction.id .approved failure.message trace db
  exact returns_block ran (accepted_of_same entries) (returns_pure _ _)

/-- An answer of the signer or the chain; one that raises is recorded. -/
theorem returns_external {α : Type} {answer : Except Text α}
    {next : α → Session Database Failure SettlementResult}
    (answered : ∀ value, answer = .ok value →
      Returns (attempt (next value) (failOnChain backend instruction trace)) db) :
    Returns (attempt (external answer >>= next) (failOnChain backend instruction trace)) db := by
  intro history
  cases answer with
  | ok value => exact answered value rfl history
  | error message =>
      have run : (external (.error message : Except Text α) >>= next) (idleAt db history) =
          (.error (.raised .runtimeError message), idleAt db history) := rfl
      obtain ⟨result, last, states, handled⟩ := returns_failOnChain backend instruction trace
        (.raised .runtimeError message) db history
      exact ⟨result, last, states, (attempt_of_error run).trans handled⟩

/-- Statements and their commit in the `try` block. -/
theorem returns_attempt_block {code : Sql Unit} (ran : code db = .ok ((), after))
    (accepted : (server backend).deferred db after = .ok ())
    {next : Unit → Session Database Failure SettlementResult}
    (rest : Returns (attempt (next ()) (failOnChain backend instruction trace)) after) :
    Returns
      (attempt (do let _ ← execute (server backend) code; commit (server backend) >>= next)
        (failOnChain backend instruction trace)) db := by
  intro history
  obtain ⟨result, last, states, run⟩ := rest (history ++ [after])
  refine ⟨result, last, states, ?_⟩
  simp only [attempt, block_of_ok ran accepted]
  exact run

theorem returns_concluding {txHash : String}
    (commits : CommitsAll backend (concluding backend instruction adapter trace txHash) db) :
    Returns
      (attempt (concludeOnChain backend instruction adapter txHash trace)
        (failOnChain backend instruction trace)) db := by
  refine returns_external fun required answered => returns_external fun txResult polling => ?_
  have answer : polled adapter txHash = .ok txResult := by simp [polled, answered, polling]
  rw [concluding, answer] at commits
  by_cases confirmed : txResult.status = .confirmed
  · simp only [if_pos confirmed] at commits ⊢
    obtain ⟨after, ran, accepted, -⟩ := commits
    exact returns_attempt_block ran accepted (returns_pure _ _)
  · simp only [if_neg confirmed] at commits ⊢
    obtain ⟨after, ran, accepted, -⟩ := commits
    exact returns_attempt_block ran accepted (returns_pure _ _)

theorem returns_submitting {signedTx : Bytes}
    (commits : CommitsAll backend (submitting backend instruction adapter trace signedTx) db) :
    Returns
      (attempt (submitOnChain backend instruction adapter signedTx trace)
        (failOnChain backend instruction trace)) db := by
  apply returns_external
  intro result submitted
  rw [submitting, CommitsAll, submitted] at commits
  obtain ⟨after, ran, accepted, rest⟩ := commits
  have block : Returns
      (attempt
        (do let _ ← execute (server backend) (broadcastRows instruction result.txHash trace)
            commit (server backend) >>= fun _ =>
              concludeOnChain backend instruction adapter result.txHash trace)
        (failOnChain backend instruction trace)) db :=
    returns_attempt_block ran accepted (returns_concluding rest)
  exact block

theorem returns_transferring {contractAddress : Option String} {chainId : String}
    {sign : Bytes → String → Except Text Bytes}
    (commits : CommitsAll backend
      (transferring backend instruction adapter trace contractAddress chainId sign) db) :
    Returns
      (attempt (transferOnChain backend instruction contractAddress chainId adapter sign trace)
        (failOnChain backend instruction trace)) db := by
  refine returns_external fun unsignedTx built => returns_external fun signedTx signed => ?_
  simp only [transferring, signedTransaction, built, signed] at commits
  obtain ⟨after, ran, accepted, rest⟩ := commits
  exact returns_attempt_block ran accepted (returns_submitting rest)

/-- Statements have run, but none has posted an entry. -/
structure Unposted (connection : Connection Database) : Prop where
  live : connection.status ≠ .inError
  entries : connection.working.journalEntries = connection.committed.journalEntries

variable {connection : Connection Database}

/-- The deferred check asks for the old entries only. -/
theorem deferred_congr {old : Database} (same : old.journalEntries = db.journalEntries) :
    (server backend).deferred old after = (server backend).deferred db after := by
  simp only [server, checkInsertedEntries, same]

theorem Unposted.execute_of_ok {α : Type} {code : Sql α} {value : α}
    (unposted : Unposted connection) (ran : code connection.working = .ok (value, after)) :
    execute (server backend) code connection =
      (.ok value, { connection with working := after, status := .inTransaction }) := by
  rw [execute, if_neg unposted.live, ran]

theorem Unposted.commit_of_accepted (unposted : Unposted connection)
    (accepted : (server backend).deferred connection.working after = .ok ()) :
    commit (server backend) { connection with working := after, status := .inTransaction } =
      (.ok (), idleAt after (connection.history ++ [after])) := by
  rw [deferred_congr unposted.entries] at accepted
  exact Session.commit_inTransaction accepted

theorem settleDvp_returns {contractAddress : Option String}
    {chainRegistry : String → Option ChainAdapter} {sign : Bytes → String → Except Text Bytes}
    {instrument : Instrument} {actions : List Action} (unposted : Unposted connection)
    (onChain : instruction.settlementType ≠ .cash)
    (contract : instrument.contractAddress = contractAddress)
    (scripted : script backend chainRegistry sign trace instruction instrument = some actions)
    (commits : CommitsAll backend actions connection.working) :
    ∃ result middle last,
      settleDvp backend instruction contractAddress chainRegistry sign trace connection =
        (.ok result, middle) ∧ commit (server backend) middle = (.ok (), last) := by
  subst contract
  rcases script_cases onChain scripted with
    ⟨rfl, unchained⟩ | ⟨chainId, adapter, chain, given, registered, rfl⟩
  · have absent : instruction.chainId.filter (fun chainId => chainId ≠ "") = none := by
      apply Option.filter_eq_none_iff.mpr
      intro chainId named
      simpa using unchained chainId named
    obtain ⟨after, ran, accepted, -⟩ := commits
    rw [settleDvp]
    simp only [absent]
    rw [bind_of_ok (unposted.execute_of_ok ran)]
    exact ⟨_, _, _, rfl, unposted.commit_of_accepted accepted⟩
  · have chained : instruction.chainId.filter (fun chainId => chainId ≠ "") = some chainId :=
      Option.filter_eq_some_iff.mpr ⟨chain, by simpa using given⟩
    obtain ⟨approved, ran, accepted, rest⟩ := commits
    obtain ⟨result, last, states, transferred⟩ :=
      returns_transferring rest (connection.history ++ [approved])
    rw [settleDvp]
    simp only [chained, registered]
    rw [bind_of_ok (unposted.execute_of_ok ran), bind_of_ok (unposted.commit_of_accepted accepted)]
    exact ⟨_, _, _, transferred, Session.commit_idleAt (accepted_of_same rfl)⟩

/-- A settlement returns, and can be committed, if the server accepts its script. -/
theorem settleInstruction_returns {instructionId : Uuid}
    {chainRegistry : String → Option ChainAdapter} {sign : Bytes → String → Except Text Bytes}
    (unposted : Unposted connection)
    (commits : ∀ instruction instrument,
      pendingInstruction connection.working instructionId = some (instruction, instrument) →
        ∃ actions, script backend chainRegistry sign trace instruction instrument = some actions ∧
          CommitsAll backend actions connection.working) :
    ∃ result middle last,
      settleInstruction backend instructionId chainRegistry sign trace connection =
        (.ok result, middle) ∧ commit (server backend) middle = (.ok (), last) := by
  have reading : Unposted { connection with status := .inTransaction } :=
    ⟨by simp, unposted.entries⟩
  rw [settleInstruction,
    bind_of_ok (unposted.execute_of_ok (Transaction.read_apply connection.working))]
  cases pending : pendingInstruction connection.working instructionId with
  | none =>
      exact ⟨_, _, _, rfl, reading.commit_of_accepted (accepted_of_same rfl)⟩
  | some found =>
      obtain ⟨instruction, instrument⟩ := found
      obtain ⟨actions, scripted, committed⟩ := commits instruction instrument pending
      rw [settlePending]
      cases type : instruction.settlementType with
      | cash =>
          simp only [script, type, Option.some.injEq] at scripted
          subst scripted
          obtain ⟨after, ran, accepted, -⟩ := committed
          obtain ⟨result, settled, settle, done⟩ := Transaction.bind_eq_ok.mp ran
          cases done
          exact ⟨_, _, _, reading.execute_of_ok settle, reading.commit_of_accepted accepted⟩
      | dvp | physical =>
          exact settleDvp_returns reading (by simp [type]) rfl scripted committed

/-- On an idle connection a session returns only if the server accepts the transactions. -/
def Finishes {α : Type} (backend : Backend) (session : Session Database Failure α)
    (actions : List Action) (db : Database) : Prop :=
  ∀ history value last, session (idleAt db history) = (.ok value, last) →
    CommitsAll backend actions db

theorem finishes_external {α : Type} {answer : Except Text α}
    {next : α → Session Database Failure SettlementResult} {actions : List Action}
    (answered : ∀ value, answer = .ok value →
      Finishes backend (attempt (next value) (failOnChain backend instruction trace)) actions db)
    (raised : ∀ message, answer = .error message → CommitsAll backend actions db) :
    Finishes backend
      (attempt (external answer >>= next) (failOnChain backend instruction trace)) actions db := by
  intro history result last ran
  cases answer with
  | ok value => exact answered value rfl history result last ran
  | error message => exact raised message rfl

/-- Statements that raise leave a transaction open, and the `except` block raises in it. -/
theorem finishes_attempt_block (code : Sql Unit)
    (next : Unit → Session Database Failure SettlementResult) (rest : List Action)
    (accepted : ∀ after, code db = .ok ((), after) → (server backend).deferred db after = .ok ())
    (continued : ∀ after, code db = .ok ((), after) →
      Finishes backend (attempt (next ()) (failOnChain backend instruction trace)) rest after) :
    Finishes backend
      (attempt (do let _ ← execute (server backend) code; commit (server backend) >>= next)
        (failOnChain backend instruction trace)) (.commit code :: rest) db := by
  intro history result last returned
  cases ran : code db with
  | error failure =>
      obtain ⟨status, opened, executed⟩ :=
        Session.execute_idleAt_error (server backend) history ran
      obtain ⟨raised, handled⟩ := failOnChain_of_open backend instruction trace failure
        { committed := db, working := db, status, history } opened
      rw [attempt_of_error (Session.bind_of_error executed), handled] at returned
      cases returned
  | ok pair =>
      obtain ⟨⟨⟩, after⟩ := pair
      have checked := accepted after ran
      simp only [attempt, block_of_ok ran checked] at returned
      exact ⟨after, ran, checked, continued after ran (history ++ [after]) result last returned⟩

theorem finishes_concluding (fresh : FreshJournals db) (txHash : String) :
    Finishes backend
      (attempt (concludeOnChain backend instruction adapter txHash trace)
        (failOnChain backend instruction trace))
      (concluding backend instruction adapter trace txHash) db := by
  have ended : ∀ (value : SettlementResult) (after : Database), Finishes backend
      (attempt (pure value) (failOnChain backend instruction trace)) [] after :=
    fun _ _ _ _ _ _ => trivial
  refine finishes_external (fun required answered => finishes_external
    (fun txResult polling => ?_) fun message raised => ?_) fun message raised => ?_
  · have answer : polled adapter txHash = .ok txResult := by simp [polled, answered, polling]
    rw [concluding, answer]
    by_cases confirmed : txResult.status = .confirmed
    · simp only [if_pos confirmed]
      exact finishes_attempt_block _ _ _ (fun after ran => accepted_finalizeRows fresh ran)
        fun after _ => ended _ after
    · simp only [if_neg confirmed]
      exact finishes_attempt_block _ _ _
        (fun after ran => accepted_of_same (writes_failInstruction ran).ledger.2)
        fun after _ => ended _ after
  · have answer : polled adapter txHash = .error message := by simp [polled, answered, raised]
    rw [concluding, answer]
    exact commitsAll_failInstruction ..
  · have answer : polled adapter txHash = .error message := by simp [polled, raised]
    rw [concluding, answer]
    exact commitsAll_failInstruction ..

theorem finishes_submitting (fresh : FreshJournals db) (signedTx : Bytes) :
    Finishes backend
      (attempt (submitOnChain backend instruction adapter signedTx trace)
        (failOnChain backend instruction trace))
      (submitting backend instruction adapter trace signedTx) db := by
  refine finishes_external (fun result submitted => ?_) fun message raised => ?_
  · have block : Finishes backend
        (attempt
          (do let _ ← execute (server backend) (broadcastRows instruction result.txHash trace)
              commit (server backend) >>= fun _ =>
                concludeOnChain backend instruction adapter result.txHash trace)
          (failOnChain backend instruction trace))
        (.commit (broadcastRows instruction result.txHash trace) ::
          concluding backend instruction adapter trace result.txHash) db :=
      finishes_attempt_block _ _ _
        (fun after ran => accepted_of_same (writes_broadcastRows ran).ledger.2)
        fun after ran => finishes_concluding (fresh.of_writes (writes_broadcastRows ran)) _
    rw [submitting, submitted]
    exact block
  · rw [submitting, raised]
    exact commitsAll_failInstruction ..

theorem finishes_transferring (fresh : FreshJournals db) (contractAddress : Option String)
    (chainId : String) (sign : Bytes → String → Except Text Bytes) :
    Finishes backend
      (attempt (transferOnChain backend instruction contractAddress chainId adapter sign trace)
        (failOnChain backend instruction trace))
      (transferring backend instruction adapter trace contractAddress chainId sign) db := by
  refine finishes_external (fun unsignedTx built => finishes_external (fun signedTx signed => ?_)
    fun message raised => ?_) fun message raised => ?_
  · simp only [transferring, signedTransaction, built, signed]
    exact finishes_attempt_block
      (advanceStatus instruction.id .approved .signed [.literal "MPC signing complete"] trace)
      (fun _ => submitOnChain backend instruction adapter signedTx trace) _
      (fun after ran => accepted_of_same (writes_advanceStatus ran).ledger.2)
      fun after ran => finishes_submitting (fresh.of_writes (writes_advanceStatus ran)) _
  · simp only [transferring, signedTransaction, built, raised]
    exact commitsAll_failInstruction ..
  · simp only [transferring, signedTransaction, raised]
    exact commitsAll_failInstruction ..

/-- What a commit that returns has accepted. -/
theorem Unposted.accepted_of_commit (unposted : Unposted connection) {last : Connection Database}
    (committed : commit (server backend)
      { connection with working := after, status := .inTransaction } = (.ok (), last)) :
    (server backend).deferred connection.working after = .ok () := by
  rw [deferred_congr unposted.entries]
  cases checked : (server backend).deferred connection.committed after with
  | ok value => rfl
  | error failure =>
      rw [Session.commit_rejected checked] at committed
      cases committed

theorem commitsAll_of_settleDvp {contractAddress : Option String}
    {chainRegistry : String → Option ChainAdapter} {sign : Bytes → String → Except Text Bytes}
    {instrument : Instrument} (unposted : Unposted connection)
    (fresh : FreshJournals connection.working) (onChain : instruction.settlementType ≠ .cash)
    (contract : instrument.contractAddress = contractAddress) {result : SettlementResult}
    {middle : Connection Database}
    (returned : settleDvp backend instruction contractAddress chainRegistry sign trace connection =
      (.ok result, middle)) :
    ∃ actions, script backend chainRegistry sign trace instruction instrument = some actions ∧
      CommitsAll backend actions connection.working := by
  subst contract
  rw [script]
  rw [settleDvp] at returned
  cases type : instruction.settlementType with
  | cash => exact absurd type onChain
  | dvp | physical =>
      dsimp only
      cases chain : instruction.chainId.filter fun chainId => chainId ≠ "" with
      | none => exact ⟨_, rfl, commitsAll_failInstruction ..⟩
      | some chainId =>
          rw [chain] at returned
          cases registered : chainRegistry chainId with
          | none =>
              simp only [registered] at returned
              cases returned
          | some adapter =>
              have approve := advanceStatus_apply instruction.id .pending .approved (by decide)
                [.literal "DVP validation passed"] trace connection.working
              have approved := writes_advanceStatus approve
              have accepted : (server backend).deferred connection.working _ = .ok () :=
                accepted_of_same approved.ledger.2
              simp only [registered] at returned ⊢
              rw [bind_of_ok (unposted.execute_of_ok approve),
                bind_of_ok (unposted.commit_of_accepted accepted)] at returned
              exact ⟨_, rfl, _, approve, accepted,
                finishes_transferring (fresh.of_writes approved) _ _ _ _ _ _ returned⟩

/-- And it returns and is committed only then. -/
theorem commitsAll_of_settleInstruction {instructionId : Uuid}
    {chainRegistry : String → Option ChainAdapter} {sign : Bytes → String → Except Text Bytes}
    (unposted : Unposted connection) (fresh : FreshJournals connection.working)
    {result : SettlementResult} {middle last : Connection Database}
    (returned : settleInstruction backend instructionId chainRegistry sign trace connection =
      (.ok result, middle))
    (committed : commit (server backend) middle = (.ok (), last)) {instrument : Instrument}
    (pending : pendingInstruction connection.working instructionId =
      some (instruction, instrument)) :
    ∃ actions, script backend chainRegistry sign trace instruction instrument = some actions ∧
      CommitsAll backend actions connection.working := by
  have reading : Unposted { connection with status := .inTransaction } :=
    ⟨by simp, unposted.entries⟩
  rw [settleInstruction,
    bind_of_ok (unposted.execute_of_ok (Transaction.read_apply connection.working)), pending,
    settlePending] at returned
  cases type : instruction.settlementType with
  | cash =>
      simp only [type] at returned
      obtain ⟨after, settle, rfl⟩ := Session.execute_eq_ok returned
      have accepted := reading.accepted_of_commit committed
      rw [script, type]
      exact ⟨_, rfl, after, Transaction.bind_of_ok settle, accepted, trivial⟩
  | dvp | physical =>
      simp only [type] at returned
      have found := commitsAll_of_settleDvp reading fresh (by simp [type]) rfl returned
      exact found

end Settlement

end ClearingHouse
