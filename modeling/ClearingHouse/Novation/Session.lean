import ClearingHouse.Novation.Effects

/-!
# The session of a trade

Validation only reads, and a rejection cannot fail.  So a call of `process_trade` novates its trade
or rejects it: in the transaction of its caller if one is open, else in a transaction that the
validation opens, or, if the terms are refused before any query, in one that commits at once.
-/

namespace ClearingHouse

namespace Novation

open Transactions Transactions.Session

variable {backend : Backend} {data : TradeData} {trace : TraceContext} {db : Database}

/-- What a call makes of a state. -/
inductive Processed (backend : Backend) (data : TradeData) (trace : TraceContext)
    (db : Database) : Database → Prop
  | novated {ids : Uuid × Uuid} {after : Database}
      (ran : novateTrade backend data.tradeId data trace db = .ok (ids, after)) :
      Processed backend data trace db after
  | rejected {reason : Text} {after : Database}
      (ran : rejectTrade data.tradeId reason trace db = .ok ((), after)) :
      Processed backend data trace db after

/-- Code that only reads and whose exceptions do not come from the server. -/
def Reads (code : Sql Unit) : Prop :=
  ∀ db, code db = .ok ((), db) ∨ ∃ message, code db = .error (.raised .validationError message)

theorem reads_verifyMemberActive (memberId : Uuid) (role : String) :
    Reads (verifyMemberActive memberId role) := by
  intro db
  rw [verifyMemberActive, Transaction.bind_of_ok (Transaction.read_apply db)]
  cases db.members.find? fun member => member.id = memberId with
  | none => exact .inr ⟨_, rfl⟩
  | some member =>
      by_cases active : member.status = .active
      · exact .inl (by simp [active])
      · exact .inr ⟨_, by simp [active, invalid]; rfl⟩

theorem reads_verifyInstrumentActive (instrumentId : Uuid) :
    Reads (verifyInstrumentActive instrumentId) := by
  intro db
  rw [verifyInstrumentActive, Transaction.bind_of_ok (Transaction.read_apply db)]
  cases db.instruments.find? fun instrument => instrument.id = instrumentId with
  | none => exact .inr ⟨_, rfl⟩
  | some instrument =>
      by_cases active : instrument.isActive = true
      · exact .inl (by simp [active])
      · exact .inr ⟨_, by simp [active, invalid]; rfl⟩

/-- A query opens a transaction or finds one open, and leaves it open. -/
theorem execute_of_reads {code : Sql Unit} (reads : Reads code) (backend : Backend)
    {connection : Connection Database} (usable : connection.status ≠ .inError) :
    ∃ outcome, execute (server backend) code connection =
      (outcome, { connection with status := .inTransaction }) := by
  rw [execute, if_neg usable]
  rcases reads connection.working with ran | ⟨message, raised⟩
  · exact ⟨.ok (), by rw [ran]⟩
  · exact ⟨.error _, by rw [raised]; rfl⟩

theorem execute_bind_of_reads {code : Sql Unit} (reads : Reads code) (backend : Backend)
    {next : Unit → Session Database Failure Unit} {connection : Connection Database}
    (usable : connection.status ≠ .inError)
    (rest : ∃ outcome, next () { connection with status := .inTransaction } =
      (outcome, { connection with status := .inTransaction })) :
    ∃ outcome, (execute (server backend) code >>= next) connection =
      (outcome, { connection with status := .inTransaction }) := by
  obtain ⟨outcome, ran⟩ := execute_of_reads reads backend usable
  cases outcome with
  | ok done =>
      obtain ⟨last, finished⟩ := rest
      exact ⟨last, (bind_of_ok ran).trans finished⟩
  | error failure => exact ⟨.error failure, bind_of_error ran⟩

theorem respects_of_reads {code : Sql Unit} (reads : Reads code)
    {relation : Database → Database → Prop} [Std.Refl relation] :
    Transaction.Respects relation code := by
  intro db value after ran
  rcases reads db with same | ⟨message, raised⟩
  · rw [same] at ran
    cases ran
    exact refl db
  · rw [raised] at ran
    cases ran

/-- The rule for a session: what the novation and the rejection respect is kept. -/
theorem keeps_processTrade {invariant : Database → Prop} {relation : Database → Database → Prop}
    [Std.Refl relation] [IsTrans Database relation]
    (survives : ∀ old new, invariant old → relation old new →
      (server backend).deferred old new = .ok () → invariant new)
    (novates : Transaction.Respects relation (novateTrade backend data.tradeId data trace))
    (rejects : ∀ reason, Transaction.Respects relation (rejectTrade data.tradeId reason trace)) :
    Keeps invariant relation (processTrade backend data trace) := by
  have validates : Keeps invariant relation (validateTrade backend data) :=
    keeps_bind (keeps_require _ _) fun _ => keeps_bind (keeps_require _ _) fun _ =>
      keeps_bind (keeps_require _ _) fun _ =>
        keeps_bind (keeps_execute (respects_of_reads (reads_verifyMemberActive _ _))) fun _ =>
          keeps_bind (keeps_execute (respects_of_reads (reads_verifyMemberActive _ _))) fun _ =>
            keeps_execute (respects_of_reads (reads_verifyInstrumentActive _))
  exact keeps_attempt (keeps_bind validates fun _ =>
    keeps_bind (keeps_transaction survives novates) fun _ => keeps_pure ())
    fun failure => keeps_transaction survives (rejects _)

/-- Either the terms are refused before any query, or a transaction is open afterwards; the rows are
the same. -/
theorem validateTrade_cases (backend : Backend) (data : TradeData)
    (connection : Connection Database) (usable : connection.status ≠ .inError) :
    (∃ failure, validateTrade backend data connection = (.error failure, connection)) ∨
      ∃ outcome, validateTrade backend data connection =
        (outcome, { connection with status := .inTransaction }) := by
  have queries : ∃ outcome,
      (do execute (server backend) (verifyMemberActive data.buyerMemberId "buyer")
          execute (server backend) (verifyMemberActive data.sellerMemberId "seller")
          execute (server backend) (verifyInstrumentActive data.instrumentId) :
        Session Database Failure Unit) connection =
        (outcome, { connection with status := .inTransaction }) :=
    execute_bind_of_reads (reads_verifyMemberActive _ _) backend usable
      (execute_bind_of_reads (reads_verifyMemberActive _ _) backend (by simp)
        (execute_of_reads (reads_verifyInstrumentActive _) backend (by simp)))
  rw [validateTrade]
  by_cases apart : data.buyerMemberId ≠ data.sellerMemberId
  · by_cases quantity : 0 < data.quantity
    · by_cases price : 0 < data.price
      · simp only [Session.require, if_pos apart, if_pos quantity, if_pos price]
        exact .inr queries
      · simp only [Session.require, if_pos apart, if_pos quantity, if_neg price]
        exact .inl ⟨_, rfl⟩
    · simp only [Session.require, if_pos apart, if_neg quantity]
      exact .inl ⟨_, rfl⟩
  · simp only [Session.require, if_neg apart]
    exact .inl ⟨_, rfl⟩

theorem rejectTrade_ok (tradeId : Uuid) (reason : Text) (trace : TraceContext) (db : Database) :
    ∃ after, rejectTrade tradeId reason trace db = .ok ((), after) ∧
      after.journalEntries = db.journalEntries := ⟨_, rfl, rfl⟩

/-- The handler rejects inside an open transaction. -/
theorem reject_inTransaction (backend : Backend) (data : TradeData) (trace : TraceContext)
    (failure : Failure) {connection : Connection Database}
    (opened : connection.status = .inTransaction) :
    ∃ after, Processed backend data trace connection.working after ∧
      transaction (server backend) (rejectTrade data.tradeId failure.message trace) connection =
        (.ok (), { connection with working := after }) := by
  obtain ⟨after, ran, -⟩ :=
    rejectTrade_ok data.tradeId failure.message trace connection.working
  exact ⟨after, .rejected ran, by simp [transaction, opened, ran]⟩

/-- Once the validation has left a transaction open, the call leaves it open, its trade novated or
rejected. -/
theorem processTrade_of_validated (backend : Backend) (data : TradeData) (trace : TraceContext)
    {connection after : Connection Database} {outcome : Except Failure Unit}
    (ran : validateTrade backend data connection = (outcome, after))
    (opened : after.status = .inTransaction) :
    ∃ working, Processed backend data trace after.working working ∧
      processTrade backend data trace connection = (.ok (), { after with working }) := by
  cases outcome with
  | error failure =>
      obtain ⟨working, processed, rejected⟩ :=
        reject_inTransaction backend data trace failure opened
      exact ⟨working, processed, (attempt_of_error (bind_of_error ran)).trans rejected⟩
  | ok done =>
      cases novation : novateTrade backend data.tradeId data trace after.working with
      | ok pair =>
          obtain ⟨ids, working⟩ := pair
          have block : transaction (server backend) (novateTrade backend data.tradeId data trace)
              after = (.ok ids, { after with working }) := by
            simp [transaction, opened, novation]
          exact ⟨working, .novated novation,
            attempt_of_ok ((bind_of_ok ran).trans ((bind_of_ok block).trans rfl))⟩
      | error failure =>
          have block : transaction (server backend) (novateTrade backend data.tradeId data trace)
              after = (.error failure, after) := by
            simp [transaction, opened, novation]
          obtain ⟨working, processed, rejected⟩ :=
            reject_inTransaction backend data trace failure opened
          exact ⟨working, processed,
            (attempt_of_error ((bind_of_ok ran).trans (bind_of_error block))).trans rejected⟩

/-- In an open transaction a call leaves it open, its trade novated or rejected. -/
theorem processTrade_inTransaction (backend : Backend) (data : TradeData) (trace : TraceContext)
    {connection : Connection Database} (opened : connection.status = .inTransaction) :
    ∃ working, Processed backend data trace connection.working working ∧
      processTrade backend data trace connection = (.ok (), { connection with working }) := by
  rcases validateTrade_cases backend data connection (by simp [opened]) with
    ⟨failure, refused⟩ | ⟨outcome, ran⟩
  · exact processTrade_of_validated backend data trace refused opened
  · obtain ⟨working, processed, finished⟩ :=
      processTrade_of_validated backend data trace ran rfl
    exact ⟨working, processed, finished.trans (by rw [← opened])⟩

/-- On an idle connection the call either commits a rejection at once or leaves a transaction open
with its trade novated or rejected. -/
theorem processTrade_idleAt (backend : Backend) (data : TradeData) (trace : TraceContext)
    (db : Database) (history : List Database) :
    ∃ after, Processed backend data trace db after ∧
      ((after.journalEntries = db.journalEntries ∧
          processTrade backend data trace (idleAt db history) =
            (.ok (), idleAt after (history ++ [after]))) ∨
        processTrade backend data trace (idleAt db history) =
          (.ok (), { committed := db, working := after, status := .inTransaction, history })) := by
  rcases validateTrade_cases backend data (idleAt db history) (by simp [idleAt]) with
    ⟨failure, refused⟩ | ⟨outcome, ran⟩
  · obtain ⟨after, ran, entries⟩ := rejectTrade_ok data.tradeId failure.message trace db
    have committed : commit (server backend)
        { committed := db, working := after, status := .inTransaction, history } =
        (.ok (), idleAt after (history ++ [after])) :=
      commit_inTransaction (accepted_of_same entries)
    refine ⟨after, .rejected ran, .inl ⟨entries,
      (attempt_of_error (bind_of_error refused)).trans ?_⟩⟩
    simp only [transaction, idleAt, ran] at committed ⊢
    rw [committed]
  · obtain ⟨working, processed, finished⟩ :=
      processTrade_of_validated backend data trace ran rfl
    exact ⟨working, processed, .inr finished⟩

/-- A call on a connection of its own commits its trade novated, with a balanced journal, or
rejected, and nothing else. -/
theorem processed_of_committedStates {after : Database}
    (committed : after ∈ committedStates
      (do processTrade backend data trace; commit (server backend)) db) :
    Processed backend data trace db after ∧ (server backend).deferred db after = .ok () := by
  obtain ⟨working, processed, ⟨entries, finished⟩ | finished⟩ :=
    processTrade_idleAt backend data trace db []
  · have again : (server backend).deferred working working = .ok () := accepted_of_same rfl
    have states : committedStates
        (do processTrade backend data trace; commit (server backend)) db = [working, working] := by
      rw [committedStates, connect_eq_idleAt, bind_of_ok finished, commit_idleAt again]
      rfl
    rw [states] at committed
    obtain rfl : after = working := by simpa using committed
    exact ⟨processed, accepted_of_same entries⟩
  · rw [committedStates, connect_eq_idleAt, bind_of_ok finished] at committed
    cases checked : (server backend).deferred db working with
    | error failure =>
        rw [commit_rejected checked] at committed
        cases committed
    | ok accepted =>
        rw [commit_inTransaction checked] at committed
        obtain rfl : after = working := by simpa [idleAt] using committed
        exact ⟨processed, checked⟩

end Novation

end ClearingHouse
