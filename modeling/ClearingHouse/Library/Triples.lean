import ClearingHouse.Library.Transaction

/-!
# Triples for sessions

A triple says what a session does to a connection when it returns and when it raises.  The
assertions below say what the committed state satisfies, what an open transaction has made of it
and what every state committed so far satisfies.
-/

namespace Transactions

namespace Session

variable {σ ε α β : Type}

/-- From a connection that meets `pre` the session returns with `post` or raises with `escape`. -/
def Triple (pre : Connection σ → Prop) (session : Session σ ε α)
    (post : α → Connection σ → Prop) (escape : Connection σ → Prop) : Prop :=
  ∀ connection, pre connection →
    (∀ value after, session connection = (.ok value, after) → post value after) ∧
      ∀ failure after, session connection = (.error failure, after) → escape after

section Control

variable {pre middle : Connection σ → Prop} {post : α → Connection σ → Prop}
  {escape : Connection σ → Prop}

theorem triple_pure {value : α} (entails : ∀ connection, pre connection → post value connection) :
    Triple pre (pure value : Session σ ε α) post escape := by
  intro connection holds
  refine ⟨fun result after ran => ?_, fun failure after ran => ?_⟩
  · cases ran
    exact entails connection holds
  · cases ran

theorem triple_raise {failure : ε} (entails : ∀ connection, pre connection → escape connection) :
    Triple pre (raise failure : Session σ ε α) post escape := by
  intro connection holds
  refine ⟨fun result after ran => ?_, fun failure' after ran => ?_⟩
  · cases ran
  · cases ran
    exact entails connection holds

theorem triple_bind {between : β → Connection σ → Prop} {first : Session σ ε β}
    {next : β → Session σ ε α} (head : Triple pre first between escape)
    (tail : ∀ value, Triple (between value) (next value) post escape) :
    Triple pre (first >>= next) post escape := by
  intro connection holds
  obtain ⟨returned, raised⟩ := head connection holds
  rw [bind_apply]
  cases run : first connection with
  | mk outcome after =>
      cases outcome with
      | ok value => exact tail value after (returned value after run)
      | error failure =>
          refine ⟨fun result last ran => ?_, fun failure' last ran => ?_⟩
          · cases ran
          · cases ran
            exact raised failure after run

/-- A handler starts where the body has raised. -/
theorem triple_attempt {body : Session σ ε α} {handler : ε → Session σ ε α}
    (tried : Triple pre body post middle)
    (handled : ∀ failure, Triple middle (handler failure) post escape) :
    Triple pre (attempt body handler) post escape := by
  intro connection holds
  obtain ⟨returned, raised⟩ := tried connection holds
  rw [attempt]
  cases run : body connection with
  | mk outcome after =>
      cases outcome with
      | ok value =>
          refine ⟨fun result last ran => ?_, fun failure last ran => ?_⟩
          · cases ran
            exact returned value after run
          · cases ran
      | error failure => exact handled failure after (raised failure after run)

theorem triple_mono {pre' : Connection σ → Prop} {post' : α → Connection σ → Prop}
    {escape' : Connection σ → Prop} {session : Session σ ε α}
    (starts : ∀ connection, pre' connection → pre connection)
    (triple : Triple pre session post escape)
    (returned : ∀ value connection, post value connection → post' value connection)
    (raised : ∀ connection, escape connection → escape' connection) :
    Triple pre' session post' escape' := by
  intro connection holds
  obtain ⟨normal, exceptional⟩ := triple connection (starts connection holds)
  exact ⟨fun value after ran => returned value after (normal value after ran),
    fun failure after ran => raised after (exceptional failure after ran)⟩

theorem triple_requireIdle {failure : ε}
    (idle : ∀ connection, pre connection → connection.status = .idle → middle connection)
    (busy : ∀ connection, pre connection → escape connection) :
    Triple pre (requireIdle failure : Session σ ε Unit) (fun _ => middle) escape := by
  intro connection holds
  rw [requireIdle]
  split
  · next free =>
      refine ⟨fun result after ran => ?_, fun failure' after ran => ?_⟩
      · cases ran
        exact idle connection holds free
      · cases ran
  · refine ⟨fun result after ran => ?_, fun failure' after ran => ?_⟩
    · cases ran
    · cases ran
      exact busy connection holds

end Control

section Assertions

variable {server : Server σ ε} {good here written : σ → Prop}

/-- The connection can go on: the committed state satisfies `here`, and what has been made of it
satisfies `written`. -/
structure Live (good here written : σ → Prop) (connection : Connection σ) : Prop where
  history : ∀ state ∈ connection.history, good state
  usable : connection.status ≠ .inError
  clean : connection.status = .idle → connection.working = connection.committed
  committed : here connection.committed
  working : written connection.working

/-- An exception has been raised; it has left a transaction open or no trace. -/
structure Escaped (good here : σ → Prop) (connection : Connection σ) : Prop where
  history : ∀ state ∈ connection.history, good state
  clean : connection.status = .idle → connection.working = connection.committed
  committed : here connection.committed

theorem Live.escaped {connection : Connection σ} (live : Live good here written connection) :
    Escaped good here connection :=
  ⟨live.history, live.clean, live.committed⟩

/-- An idle connection can go on. -/
theorem Escaped.live {connection : Connection σ} (escaped : Escaped good here connection)
    (idle : connection.status = .idle) : Live good here here connection :=
  ⟨escaped.history, by simp [idle], escaped.clean, escaped.committed,
    (escaped.clean idle).symm ▸ escaped.committed⟩

theorem Live.mono {here' written' : σ → Prop} {connection : Connection σ}
    (live : Live good here written connection) (committed : ∀ state, here state → here' state)
    (working : ∀ state, written state → written' state) : Live good here' written' connection :=
  ⟨live.history, live.usable, live.clean, committed _ live.committed, working _ live.working⟩

theorem Escaped.mono {here' : σ → Prop} {connection : Connection σ}
    (escaped : Escaped good here connection) (committed : ∀ state, here state → here' state) :
    Escaped good here' connection :=
  ⟨escaped.history, escaped.clean, committed _ escaped.committed⟩

theorem live_connect {state : σ} (holds : here state) : Live good here here (connect state) :=
  ⟨by simp [connect], by simp [connect], fun _ => rfl, holds, holds⟩

/-- Statements of a transaction. -/
theorem triple_execute {code : Transaction σ ε α} {next : α → σ → Prop}
    (runs : ∀ state value after, written state → code state = .ok (value, after) →
      next value after) :
    Triple (Live good here written) (execute server code)
      (fun value => Live good here (next value)) (Escaped good here) := by
  intro connection live
  rw [execute, if_neg live.usable]
  cases run : code connection.working with
  | error failure =>
      refine ⟨fun value after ran => ?_, fun failure' after ran => ?_⟩
      · cases ran
      · cases ran
        refine ⟨live.history, fun idle => ?_, live.committed⟩
        dsimp only at idle
        split at idle <;> cases idle
  | ok pair =>
      refine ⟨fun value after ran => ?_, fun failure after ran => ?_⟩
      · cases ran
        exact ⟨live.history, by simp, by simp, live.committed, runs _ _ _ live.working run⟩
      · cases ran

/-- A query. -/
theorem triple_read :
    Triple (Live good here written) (execute server Transaction.read)
      (fun value => Live good here fun state => state = value ∧ written state)
      (Escaped good here) := by
  apply triple_execute
  intro state value after holds ran
  cases ran
  exact ⟨rfl, holds⟩

/-- A commit of what has been written. -/
theorem triple_commit (sound : ∀ state, written state → good state) :
    Triple (Live good here written) (commit server : Session σ ε Unit)
      (fun _ => Live good written written) (Escaped good here) := by
  intro connection live
  rw [commit, if_neg live.usable]
  cases check : server.deferred connection.committed connection.working with
  | error failure =>
      refine ⟨fun value after ran => ?_, fun failure' after ran => ?_⟩
      · cases ran
      · cases ran
        exact ⟨live.history, fun _ => rfl, live.committed⟩
  | ok done =>
      refine ⟨fun value after ran => ?_, fun failure after ran => ?_⟩
      · cases ran
        refine ⟨fun state member => ?_, by simp, fun _ => rfl, live.working, live.working⟩
        rcases List.mem_append.mp member with old | new
        · exact live.history state old
        · rw [List.mem_singleton.mp new]
          exact sound _ live.working
      · cases ran

/-- Every state that a session commits is good. -/
theorem committedStates_of_triple {session : Session σ ε α} {next : α → σ → Prop}
    {left : σ → Prop}
    (triple : Triple (Live good here here) session (fun value => Live good left (next value))
      (Escaped good left))
    {state : σ} (holds : here state) : ∀ after ∈ committedStates session state, good after := by
  obtain ⟨returned, raised⟩ := triple (connect state) (live_connect holds)
  rw [committedStates]
  cases run : session (connect state) with
  | mk outcome last =>
      cases outcome with
      | ok value => exact (returned value last run).history
      | error failure => exact (raised failure last run).history

end Assertions

end Session

end Transactions
