import Mathlib.Tactic

/-!
# Transactions and database sessions

A `Transaction` is straight-line database code: it reads and replaces a state, or raises.  A
`Session` runs transactions over one connection, where an exception can be caught, a savepoint can
be rolled back and a commit runs the deferred constraints.  The rules below carry a preorder on
states through the first and an invariant of committed states through the second.
-/

namespace Transactions

/-- Database code that raises before it is caught only by giving up all its writes. -/
def Transaction (σ ε α : Type) : Type := σ → Except ε (α × σ)

namespace Transaction

variable {σ ε α β : Type}

instance : Monad (Transaction σ ε) where
  pure value := fun state => .ok (value, state)
  bind first next := fun state =>
    match first state with
    | .ok (value, middle) => next value middle
    | .error failure => .error failure

instance : LawfulMonad (Transaction σ ε) := by
  refine LawfulMonad.mk' _ (fun code => ?_) (fun _ _ => rfl) fun first next last => ?_
  · funext state
    have unfolded : (id <$> code) state =
        match code state with
        | .ok (value, middle) => .ok (value, middle)
        | .error failure => .error failure := rfl
    rw [unfolded]
    cases code state <;> rfl
  · funext state
    have unfolded : (first >>= next >>= last) state =
        match (match first state with
          | .ok (value, middle) => next value middle
          | .error failure => .error failure) with
        | .ok (value, middle) => last value middle
        | .error failure => .error failure := rfl
    rw [unfolded]
    have nested : (first >>= fun value => next value >>= last) state =
        match first state with
        | .ok (value, middle) => (next value >>= last) middle
        | .error failure => .error failure := rfl
    rw [nested]
    cases first state <;> rfl

/-- The current state. -/
def read : Transaction σ ε σ := fun state => .ok (state, state)

/-- Replace the current state. -/
def write (change : σ → σ) : Transaction σ ε Unit := fun state => .ok ((), change state)

/-- Raise an exception. -/
def raise (failure : ε) : Transaction σ ε α := fun _ => .error failure

/-- Raise unless a condition holds. -/
def require (condition : Prop) [Decidable condition] (failure : ε) : Transaction σ ε Unit :=
  if condition then pure () else raise failure

@[simp] theorem pure_apply (value : α) (state : σ) :
    (pure value : Transaction σ ε α) state = .ok (value, state) := rfl

@[simp] theorem read_apply (state : σ) :
    (read : Transaction σ ε σ) state = .ok (state, state) := rfl

@[simp] theorem write_apply (change : σ → σ) (state : σ) :
    (write change : Transaction σ ε Unit) state = .ok ((), change state) := rfl

@[simp] theorem raise_apply (failure : ε) (state : σ) :
    (raise failure : Transaction σ ε α) state = .error failure := rfl

@[simp] theorem require_apply (condition : Prop) [Decidable condition] (failure : ε) (state : σ) :
    (require condition failure : Transaction σ ε Unit) state =
      if condition then .ok ((), state) else .error failure := by
  rw [require]
  split <;> rfl

theorem require_eq_ok {condition : Prop} [Decidable condition] {failure : ε} {state final : σ}
    {value : Unit} :
    (require condition failure : Transaction σ ε Unit) state = .ok (value, final) ↔
      condition ∧ state = final := by
  rw [require_apply]
  split <;> simp [*]

theorem require_of_true {condition : Prop} [Decidable condition] (failure : ε) (state : σ)
    (holds : condition) :
    (require condition failure : Transaction σ ε Unit) state = .ok ((), state) :=
  require_eq_ok.mpr ⟨holds, rfl⟩

theorem bind_apply (first : Transaction σ ε α) (next : α → Transaction σ ε β) (state : σ) :
    (first >>= next) state =
      match first state with
      | .ok (value, middle) => next value middle
      | .error failure => .error failure := rfl

theorem bind_of_ok {first : Transaction σ ε α} {next : α → Transaction σ ε β} {state middle : σ}
    {value : α} (ran : first state = .ok (value, middle)) :
    (first >>= next) state = next value middle := by
  rw [bind_apply, ran]

theorem bind_of_error {first : Transaction σ ε α} {next : α → Transaction σ ε β} {state : σ}
    {failure : ε} (raised : first state = .error failure) :
    (first >>= next) state = .error failure := by
  rw [bind_apply, raised]

/-- A sequence succeeds exactly when both parts do. -/
theorem bind_eq_ok {first : Transaction σ ε α} {next : α → Transaction σ ε β} {state final : σ}
    {result : β} :
    (first >>= next) state = .ok (result, final) ↔
      ∃ value middle, first state = .ok (value, middle) ∧
        next value middle = .ok (result, final) := by
  rw [bind_apply]
  constructor
  · intro ran
    cases run : first state with
    | error failure => simp [run] at ran
    | ok pair =>
        obtain ⟨value, middle⟩ := pair
        simp only [run] at ran
        exact ⟨value, middle, rfl, ran⟩
  · rintro ⟨value, middle, run, ran⟩
    simp only [run]
    exact ran

/-- Every successful run relates its first state to its last. -/
def Respects (relation : σ → σ → Prop) (code : Transaction σ ε α) : Prop :=
  ∀ ⦃state value final⦄, code state = .ok (value, final) → relation state final

section Rules

variable {relation : σ → σ → Prop}

theorem respects_pure [Std.Refl relation] (value : α) :
    Respects relation (pure value : Transaction σ ε α) := by
  intro state result final ran
  cases ran
  exact refl state

theorem respects_raise (failure : ε) :
    Respects relation (raise failure : Transaction σ ε α) := by
  intro state result final ran
  cases ran

theorem respects_read [Std.Refl relation] : Respects relation (read : Transaction σ ε σ) := by
  intro state result final ran
  cases ran
  exact refl state

theorem respects_write {change : σ → σ} (related : ∀ state, relation state (change state)) :
    Respects relation (write change : Transaction σ ε Unit) := by
  intro state result final ran
  cases ran
  exact related state

theorem respects_require [Std.Refl relation] (condition : Prop) [Decidable condition]
    (failure : ε) : Respects relation (require condition failure : Transaction σ ε Unit) := by
  rw [require]
  split
  · exact respects_pure ()
  · exact respects_raise failure

theorem respects_bind [IsTrans σ relation] {first : Transaction σ ε α}
    {next : α → Transaction σ ε β} (head : Respects relation first)
    (tail : ∀ value, Respects relation (next value)) : Respects relation (first >>= next) := by
  intro state result final ran
  obtain ⟨value, middle, headRan, tailRan⟩ := bind_eq_ok.mp ran
  exact IsTrans.trans _ _ _ (head headRan) (tail value tailRan)

theorem respects_ite {condition : Prop} [Decidable condition] {yes no : Transaction σ ε α}
    (left : Respects relation yes) (right : Respects relation no) :
    Respects relation (if condition then yes else no) := by
  split
  · exact left
  · exact right

theorem respects_mapM [Std.Refl relation] [IsTrans σ relation] {body : α → Transaction σ ε β}
    (step : ∀ item, Respects relation (body item)) (items : List α) :
    Respects relation (items.mapM body) := by
  induction items with
  | nil => exact respects_pure []
  | cons item items induction =>
      rw [List.mapM_cons]
      exact respects_bind (step item) fun _ => respects_bind induction fun _ => respects_pure _

theorem respects_forM [Std.Refl relation] [IsTrans σ relation] {body : α → Transaction σ ε PUnit}
    (step : ∀ item, Respects relation (body item)) (items : List α) :
    Respects relation (items.forM body) := by
  induction items with
  | nil => exact respects_pure PUnit.unit
  | cons item items induction => exact respects_bind (step item) fun _ => induction

theorem respects_foldlM [Std.Refl relation] [IsTrans σ relation] {body : β → α → Transaction σ ε β}
    (step : ∀ total item, Respects relation (body total item)) (items : List α) (total : β) :
    Respects relation (items.foldlM body total) := by
  induction items generalizing total with
  | nil => exact respects_pure total
  | cons item items induction =>
      rw [List.foldlM_cons]
      exact respects_bind (step total item) induction

end Rules

/-- The same code, except that a statement of it may raise. -/
def MayRaise (code faulty : Transaction σ ε α) : Prop :=
  ∀ state, faulty state = code state ∨ ∃ failure, faulty state = .error failure

theorem mayRaise_refl (code : Transaction σ ε α) : MayRaise code code := fun _ => .inl rfl

theorem mayRaise_raise (code : Transaction σ ε α) (failure : ε) : MayRaise code (raise failure) :=
  fun _ => .inr ⟨failure, rfl⟩

theorem mayRaise_bind {first first' : Transaction σ ε α} {next next' : α → Transaction σ ε β}
    (head : MayRaise first first') (tail : ∀ value, MayRaise (next value) (next' value)) :
    MayRaise (first >>= next) (first' >>= next') := by
  intro state
  rw [bind_apply, bind_apply]
  rcases head state with same | ⟨failure, raised⟩
  · rw [same]
    cases first state with
    | error failure => exact .inl rfl
    | ok pair => exact tail pair.1 pair.2
  · rw [raised]
    exact .inr ⟨failure, rfl⟩

end Transaction

/-! ## Sessions -/

/-- What the database server decides for a connection. -/
structure Server (σ ε : Type) where
  /-- Deferred constraints, run by a commit on the old and the new state. -/
  deferred : σ → σ → Except ε Unit
  /-- Whether an exception was raised by the server, which aborts the open transaction. -/
  aborts : ε → Bool
  /-- What every statement raises in an aborted transaction. -/
  inFailedTransaction : ε

/-- Transaction status of a connection. -/
inductive Status
  | idle
  | inTransaction
  | inError
  deriving DecidableEq, Repr

/-- One connection: the committed state, what its transaction has made of it, and every state it
has committed. -/
structure Connection (σ : Type) where
  committed : σ
  working : σ
  status : Status
  history : List σ

/-- A fresh connection. -/
def connect {σ : Type} (state : σ) : Connection σ :=
  { committed := state, working := state, status := .idle, history := [] }

/-- Code over one connection; the connection outlives an exception. -/
def Session (σ ε α : Type) : Type := Connection σ → Except ε α × Connection σ

namespace Session

variable {σ ε α β : Type}

instance : Monad (Session σ ε) where
  pure value := fun connection => (.ok value, connection)
  bind first next := fun connection =>
    match first connection with
    | (.ok value, middle) => next value middle
    | (.error failure, middle) => (.error failure, middle)

@[simp] theorem pure_apply (value : α) (connection : Connection σ) :
    (pure value : Session σ ε α) connection = (.ok value, connection) := rfl

theorem bind_apply (first : Session σ ε α) (next : α → Session σ ε β)
    (connection : Connection σ) :
    (first >>= next) connection =
      match first connection with
      | (.ok value, middle) => next value middle
      | (.error failure, middle) => (.error failure, middle) := rfl

theorem pure_bind (value : α) (next : α → Session σ ε β) :
    (pure value : Session σ ε α) >>= next = next value := rfl

theorem bind_assoc {γ : Type} (first : Session σ ε α) (next : α → Session σ ε β)
    (last : β → Session σ ε γ) :
    (first >>= next) >>= last = first >>= fun value => next value >>= last := by
  funext connection
  rw [bind_apply, bind_apply, bind_apply]
  cases first connection with
  | mk outcome middle => cases outcome <;> rfl

/-- Raise an exception outside the server. -/
def raise (failure : ε) : Session σ ε α := fun connection => (.error failure, connection)

/-- Raise unless a condition holds. -/
def require (condition : Prop) [Decidable condition] (failure : ε) : Session σ ε Unit :=
  if condition then pure () else raise failure

/-- Catch every exception. -/
def attempt (body : Session σ ε α) (handler : ε → Session σ ε α) : Session σ ε α :=
  fun connection =>
    match body connection with
    | (.ok value, after) => (.ok value, after)
    | (.error failure, after) => handler failure after

/-- Raise unless no transaction is open. -/
def requireIdle (failure : ε) : Session σ ε Unit := fun connection =>
  if connection.status = .idle then (.ok (), connection) else (.error failure, connection)

/-- Leave the open transaction without its writes. -/
def rollback : Session σ ε Unit := fun connection =>
  (.ok (), { connection with working := connection.committed, status := .idle })

/-- Run statements in the open transaction, opening one if needed. -/
def execute (server : Server σ ε) (code : Transaction σ ε α) : Session σ ε α := fun connection =>
  if connection.status = .inError then (.error server.inFailedTransaction, connection)
  else
    match code connection.working with
    | .ok (value, working) =>
        (.ok value, { connection with working, status := .inTransaction })
    | .error failure =>
        (.error failure,
          { connection with
            status := if server.aborts failure then .inError else .inTransaction })

/-- Commit the open transaction; committing an aborted one rolls it back. -/
def commit (server : Server σ ε) : Session σ ε Unit := fun connection =>
  if connection.status = .inError then
    (.ok (), { connection with working := connection.committed, status := .idle })
  else
    match server.deferred connection.committed connection.working with
    | .ok () =>
        (.ok (),
          { committed := connection.working
            working := connection.working
            status := .idle
            history := connection.history ++ [connection.working] })
    | .error failure =>
        (.error failure, { connection with working := connection.committed, status := .idle })

/-- A transaction block: a transaction of its own on an idle connection, else a savepoint. -/
def transaction (server : Server σ ε) (code : Transaction σ ε α) : Session σ ε α :=
  fun connection =>
  match connection.status with
  | .inError => (.error server.inFailedTransaction, connection)
  | .inTransaction =>
      match code connection.working with
      | .ok (value, working) => (.ok value, { connection with working })
      | .error failure => (.error failure, connection)
  | .idle =>
      match code connection.committed with
      | .ok (value, working) =>
          match commit server { connection with working, status := .inTransaction } with
          | (.ok (), after) => (.ok value, after)
          | (.error failure, after) => (.error failure, after)
      | .error failure =>
          (.error failure, { connection with working := connection.committed, status := .idle })

/-- State left behind when a session over a fresh connection ends and the connection closes. -/
def finalState (session : Session σ ε α) (state : σ) : σ := (session (connect state)).2.committed

/-- Every state a session over a fresh connection commits. -/
def committedStates (session : Session σ ε α) (state : σ) : List σ :=
  (session (connect state)).2.history

/-- Run a whole transaction on a fresh connection and commit it. -/
def commitAlone (server : Server σ ε) (code : Transaction σ ε α) (state : σ) : σ :=
  finalState (do let value ← execute server code; commit server; pure value) state

/-- The committed states satisfy `invariant` and the open transaction has respected `relation`. -/
structure Sound (invariant : σ → Prop) (relation : σ → σ → Prop)
    (connection : Connection σ) : Prop where
  committed : invariant connection.committed
  working : relation connection.committed connection.working
  history : ∀ state ∈ connection.history, invariant state

/-- The session never leaves the sound connections. -/
def Keeps (invariant : σ → Prop) (relation : σ → σ → Prop) (session : Session σ ε α) : Prop :=
  ∀ connection, Sound invariant relation connection →
    Sound invariant relation (session connection).2

section Rules

variable {invariant : σ → Prop} {relation : σ → σ → Prop} {server : Server σ ε}

theorem sound_connect [Std.Refl relation] {state : σ} (holds : invariant state) :
    Sound invariant relation (connect state) :=
  ⟨holds, refl state, by simp [connect]⟩

theorem keeps_pure (value : α) : Keeps invariant relation (pure value : Session σ ε α) :=
  fun _ sound => sound

theorem keeps_raise (failure : ε) : Keeps invariant relation (raise failure : Session σ ε α) :=
  fun _ sound => sound

theorem keeps_require (condition : Prop) [Decidable condition] (failure : ε) :
    Keeps invariant relation (require condition failure : Session σ ε Unit) := by
  rw [require]
  split
  · exact keeps_pure ()
  · exact keeps_raise failure

theorem keeps_bind {first : Session σ ε α} {next : α → Session σ ε β}
    (head : Keeps invariant relation first)
    (tail : ∀ value, Keeps invariant relation (next value)) :
    Keeps invariant relation (first >>= next) := by
  intro connection sound
  have middle := head connection sound
  rw [bind_apply]
  cases run : first connection with
  | mk outcome after =>
      rw [run] at middle
      cases outcome with
      | ok value => exact tail value after middle
      | error failure => exact middle

theorem keeps_attempt {body : Session σ ε α} {handler : ε → Session σ ε α}
    (tried : Keeps invariant relation body)
    (handled : ∀ failure, Keeps invariant relation (handler failure)) :
    Keeps invariant relation (attempt body handler) := by
  intro connection sound
  have middle := tried connection sound
  rw [attempt]
  cases run : body connection with
  | mk outcome after =>
      rw [run] at middle
      cases outcome with
      | ok value => exact middle
      | error failure => exact handled failure after middle

theorem keeps_requireIdle (failure : ε) :
    Keeps invariant relation (requireIdle failure : Session σ ε Unit) := by
  intro connection sound
  rw [requireIdle]
  split <;> exact sound

theorem keeps_execute [IsTrans σ relation] {code : Transaction σ ε α}
    (respects : code.Respects relation) : Keeps invariant relation (execute server code) := by
  intro connection sound
  rw [execute]
  split
  · exact sound
  cases run : code connection.working with
  | error failure => exact ⟨sound.committed, sound.working, sound.history⟩
  | ok pair =>
      exact ⟨sound.committed, IsTrans.trans _ _ _ sound.working (respects run), sound.history⟩

/-- What follows a query may rely on what it has read. -/
theorem keeps_bind_read {next : σ → Session σ ε α}
    (tail : ∀ committed state, invariant committed → relation committed state →
      Keeps invariant relation (next state)) :
    Keeps invariant relation (execute server Transaction.read >>= next) := by
  intro connection sound
  rw [bind_apply]
  by_cases failed : connection.status = .inError
  · rw [execute, if_pos failed]
    exact sound
  · rw [execute, if_neg failed]
    exact tail _ _ sound.committed sound.working _
      ⟨sound.committed, sound.working, sound.history⟩

/-- A commit keeps the invariant when the deferred constraints restore it. -/
theorem keeps_commit [Std.Refl relation]
    (restored : ∀ old new, invariant old → relation old new →
      server.deferred old new = .ok () → invariant new) :
    Keeps invariant relation (commit server) := by
  intro connection sound
  rw [commit]
  split
  · exact ⟨sound.committed, refl connection.committed, sound.history⟩
  cases check : server.deferred connection.committed connection.working with
  | error failure => exact ⟨sound.committed, refl connection.committed, sound.history⟩
  | ok done =>
      have holds := restored _ _ sound.committed sound.working check
      refine ⟨holds, refl connection.working, ?_⟩
      intro state member
      rcases List.mem_append.mp member with old | new
      · exact sound.history state old
      · rw [List.mem_singleton.mp new]
        exact holds

theorem keeps_transaction [Std.Refl relation] [IsTrans σ relation] {code : Transaction σ ε α}
    (restored : ∀ old new, invariant old → relation old new →
      server.deferred old new = .ok () → invariant new)
    (respects : code.Respects relation) : Keeps invariant relation (transaction server code) := by
  intro connection sound
  rw [transaction]
  split
  · exact sound
  · cases run : code connection.working with
    | error failure => exact sound
    | ok pair =>
        exact ⟨sound.committed, IsTrans.trans _ _ _ sound.working (respects run), sound.history⟩
  · cases run : code connection.committed with
    | error failure => exact ⟨sound.committed, refl connection.committed, sound.history⟩
    | ok pair =>
        obtain ⟨value, working⟩ := pair
        have opened : Sound invariant relation
            { connection with working, status := .inTransaction } :=
          ⟨sound.committed, respects run, sound.history⟩
        have closed := keeps_commit restored _ opened
        dsimp only
        cases finish : commit server { connection with working, status := .inTransaction } with
        | mk outcome after =>
            rw [finish] at closed
            cases outcome with
            | ok done => exact closed
            | error failure => exact closed

/-- The run rule: a session that keeps an invariant leaves and commits only states satisfying it. -/
theorem finalState_of_keeps [Std.Refl relation] {session : Session σ ε α}
    (keeps : Keeps invariant relation session) {state : σ} (holds : invariant state) :
    invariant (finalState session state) :=
  (keeps _ (sound_connect holds)).committed

theorem committedStates_of_keeps [Std.Refl relation] {session : Session σ ε α}
    (keeps : Keeps invariant relation session) {state : σ} (holds : invariant state) :
    ∀ after ∈ committedStates session state, invariant after :=
  (keeps _ (sound_connect holds)).history

end Rules

/-- Inside an open transaction the session commits nothing, leaves it open and respects a
relation. -/
def Stays (relation : σ → σ → Prop) (session : Session σ ε α) : Prop :=
  ∀ connection, connection.status ≠ .idle →
    (session connection).2.status ≠ .idle ∧
      (session connection).2.committed = connection.committed ∧
      (session connection).2.history = connection.history ∧
      relation connection.working (session connection).2.working

section Staying

variable {relation : σ → σ → Prop} {server : Server σ ε}

theorem stays_pure [Std.Refl relation] (value : α) :
    Stays relation (pure value : Session σ ε α) :=
  fun connection opened => ⟨opened, rfl, rfl, refl connection.working⟩

theorem stays_raise [Std.Refl relation] (failure : ε) :
    Stays relation (raise failure : Session σ ε α) :=
  fun connection opened => ⟨opened, rfl, rfl, refl connection.working⟩

theorem stays_require [Std.Refl relation] (condition : Prop) [Decidable condition] (failure : ε) :
    Stays relation (require condition failure : Session σ ε Unit) := by
  rw [require]
  split
  · exact stays_pure ()
  · exact stays_raise failure

theorem stays_bind [IsTrans σ relation] {first : Session σ ε α} {next : α → Session σ ε β}
    (head : Stays relation first) (tail : ∀ value, Stays relation (next value)) :
    Stays relation (first >>= next) := by
  intro connection opened
  obtain ⟨still, committed, history, related⟩ := head connection opened
  rw [bind_apply]
  cases run : first connection with
  | mk outcome after =>
      rw [run] at still committed history related
      cases outcome with
      | ok value =>
          obtain ⟨still', committed', history', related'⟩ := tail value after still
          exact ⟨still', committed'.trans committed, history'.trans history,
            IsTrans.trans _ _ _ related related'⟩
      | error failure => exact ⟨still, committed, history, related⟩

theorem stays_attempt [IsTrans σ relation] {body : Session σ ε α} {handler : ε → Session σ ε α}
    (tried : Stays relation body) (handled : ∀ failure, Stays relation (handler failure)) :
    Stays relation (attempt body handler) := by
  intro connection opened
  obtain ⟨still, committed, history, related⟩ := tried connection opened
  rw [attempt]
  cases run : body connection with
  | mk outcome after =>
      rw [run] at still committed history related
      cases outcome with
      | ok value => exact ⟨still, committed, history, related⟩
      | error failure =>
          obtain ⟨still', committed', history', related'⟩ := handled failure after still
          exact ⟨still', committed'.trans committed, history'.trans history,
            IsTrans.trans _ _ _ related related'⟩

theorem stays_execute [Std.Refl relation] {code : Transaction σ ε α}
    (respects : code.Respects relation) : Stays relation (execute server code) := by
  intro connection opened
  rw [execute]
  split
  · exact ⟨opened, rfl, rfl, refl connection.working⟩
  cases run : code connection.working with
  | error failure =>
      refine ⟨?_, rfl, rfl, refl connection.working⟩
      dsimp only
      split <;> simp
  | ok pair => exact ⟨by simp, rfl, rfl, respects run⟩

/-- A transaction block inside an open transaction is a savepoint. -/
theorem stays_transaction [Std.Refl relation] {code : Transaction σ ε α}
    (respects : code.Respects relation) : Stays relation (transaction server code) := by
  intro connection opened
  rw [transaction]
  split
  · exact ⟨opened, rfl, rfl, refl connection.working⟩
  · cases run : code connection.working with
    | error failure => exact ⟨opened, rfl, rfl, refl connection.working⟩
    | ok pair => exact ⟨opened, rfl, rfl, respects run⟩
  · next idle => exact absurd idle opened

end Staying

/-- The session commits nothing. -/
def Silent (session : Session σ ε α) : Prop :=
  ∀ connection, (session connection).2.history = connection.history

section Silence

variable {server : Server σ ε}

theorem silent_pure (value : α) : Silent (pure value : Session σ ε α) := fun _ => rfl

theorem silent_raise (failure : ε) : Silent (raise failure : Session σ ε α) := fun _ => rfl

theorem silent_bind {first : Session σ ε α} {next : α → Session σ ε β} (head : Silent first)
    (tail : ∀ value, Silent (next value)) : Silent (first >>= next) := by
  intro connection
  have middle := head connection
  rw [bind_apply]
  cases run : first connection with
  | mk outcome after =>
      rw [run] at middle
      cases outcome with
      | ok value => exact (tail value after).trans middle
      | error failure => exact middle

theorem silent_execute (code : Transaction σ ε α) : Silent (execute server code) := by
  intro connection
  rw [execute]
  split
  · rfl
  · cases code connection.working with
    | ok pair => rfl
    | error failure => rfl

/-- A commit raises and commits nothing, or returns. -/
theorem history_commit (server : Server σ ε) (connection : Connection σ) :
    (∃ failure after, commit server connection = (.error failure, after) ∧
        after.history = connection.history) ∨
      ∃ after, commit server connection = (.ok (), after) ∧
        (after.history = connection.history ∨
          after.history = connection.history ++ [connection.working]) := by
  rw [commit]
  split
  · exact .inr ⟨_, rfl, .inl rfl⟩
  · cases server.deferred connection.committed connection.working with
    | ok done => exact .inr ⟨_, rfl, .inr rfl⟩
    | error failure => exact .inl ⟨_, _, rfl, rfl⟩

end Silence

section Running

variable {server : Server σ ε}

/-- A connection without an open transaction that has committed some states. -/
def idleAt (state : σ) (history : List σ) : Connection σ :=
  { committed := state, working := state, status := .idle, history }

theorem connect_eq_idleAt (state : σ) : connect state = idleAt state [] := rfl

theorem bind_of_ok {first : Session σ ε α} {next : α → Session σ ε β}
    {connection middle : Connection σ} {value : α}
    (ran : first connection = (.ok value, middle)) :
    (first >>= next) connection = next value middle := by
  rw [bind_apply, ran]

theorem bind_of_error {first : Session σ ε α} {next : α → Session σ ε β}
    {connection after : Connection σ} {failure : ε}
    (raised : first connection = (.error failure, after)) :
    (first >>= next) connection = (.error failure, after) := by
  rw [bind_apply, raised]

theorem bind_eq_ok {first : Session σ ε α} {next : α → Session σ ε β}
    {connection after : Connection σ} {value : β}
    (ran : (first >>= next) connection = (.ok value, after)) :
    ∃ between middle, first connection = (.ok between, middle) ∧
      next between middle = (.ok value, after) := by
  rw [bind_apply] at ran
  cases head : first connection with
  | mk outcome middle =>
      rw [head] at ran
      cases outcome with
      | ok between => exact ⟨between, middle, rfl, ran⟩
      | error failure => cases ran

theorem require_eq_ok {condition : Prop} [Decidable condition] {failure : ε}
    {connection after : Connection σ} {value : Unit}
    (ran : (require condition failure : Session σ ε Unit) connection = (.ok value, after)) :
    condition ∧ connection = after := by
  by_cases holds : condition
  · rw [require, if_pos holds] at ran
    cases ran
    exact ⟨holds, rfl⟩
  · rw [require, if_neg holds] at ran
    cases ran

theorem execute_eq_ok {code : Transaction σ ε α} {connection after : Connection σ} {value : α}
    (ran : execute server code connection = (.ok value, after)) :
    ∃ working, code connection.working = .ok (value, working) ∧
      after = { connection with working, status := .inTransaction } := by
  rw [execute] at ran
  split at ran
  · cases ran
  cases result : code connection.working with
  | error failure =>
      rw [result] at ran
      cases ran
  | ok pair =>
      rw [result] at ran
      cases ran
      exact ⟨_, rfl, rfl⟩

theorem attempt_of_ok {body : Session σ ε α} {handler : ε → Session σ ε α}
    {connection after : Connection σ} {value : α} (ran : body connection = (.ok value, after)) :
    attempt body handler connection = (.ok value, after) := by
  rw [attempt, ran]

theorem attempt_of_error {body : Session σ ε α} {handler : ε → Session σ ε α}
    {connection after : Connection σ} {failure : ε}
    (raised : body connection = (.error failure, after)) :
    attempt body handler connection = handler failure after := by
  rw [attempt, raised]

theorem execute_idleAt {code : Transaction σ ε α} {state after : σ} {value : α} {history : List σ}
    (ran : code state = .ok (value, after)) :
    execute server code (idleAt state history) =
      (.ok value, { committed := state, working := after, status := .inTransaction, history }) := by
  simp [execute, idleAt, ran]

theorem execute_inTransaction {code : Transaction σ ε α} {committed state after : σ} {value : α}
    {history : List σ} (ran : code state = .ok (value, after)) :
    execute server code { committed, working := state, status := .inTransaction, history } =
      (.ok value, { committed, working := after, status := .inTransaction, history }) := by
  simp [execute, ran]

/-- A statement that raises leaves a transaction open. -/
theorem execute_idleAt_error (server : Server σ ε) (history : List σ)
    {code : Transaction σ ε α} {state : σ} {failure : ε} (raised : code state = .error failure) :
    ∃ status, status ≠ .idle ∧
      execute server code (idleAt state history) =
        (.error failure, { committed := state, working := state, status, history }) := by
  refine ⟨if server.aborts failure then .inError else .inTransaction, ?_, ?_⟩
  · split <;> simp
  · simp [execute, idleAt, raised]

theorem commit_inTransaction {committed working : σ} {history : List σ}
    (accepted : server.deferred committed working = .ok ()) :
    commit server { committed, working, status := .inTransaction, history } =
      (.ok (), idleAt working (history ++ [working])) := by
  simp [commit, accepted, idleAt]

theorem commit_rejected {committed working : σ} {history : List σ} {failure : ε}
    (rejected : server.deferred committed working = .error failure) :
    commit server { committed, working, status := .inTransaction, history } =
      (.error failure, idleAt committed history) := by
  simp [commit, rejected, idleAt]

theorem commit_idleAt {state : σ} {history : List σ}
    (accepted : server.deferred state state = .ok ()) :
    commit server (idleAt state history) = (.ok (), idleAt state (history ++ [state])) := by
  simp [commit, accepted, idleAt]

/-- Statements and their commit, from an idle connection. -/
theorem block_of_ok {code : Transaction σ ε α} {state after : σ} {value : α} {history : List σ}
    (ran : code state = .ok (value, after)) (accepted : server.deferred state after = .ok ())
    (next : Unit → Session σ ε β) :
    (execute server code >>= fun _ => commit server >>= next) (idleAt state history) =
      next () (idleAt after (history ++ [after])) := by
  rw [bind_of_ok (execute_idleAt ran), bind_of_ok (commit_inTransaction accepted)]

end Running

/-- A lone transaction either commits exactly what it computed or leaves no trace. -/
theorem commitAlone_eq (server : Server σ ε) (code : Transaction σ ε α) (state : σ) :
    commitAlone server code state =
      match code state with
      | .error _ => state
      | .ok (_, after) =>
          match server.deferred state after with
          | .ok () => after
          | .error _ => state := by
  rw [commitAlone, finalState]
  cases run : code state with
  | error failure => simp [bind_apply, execute, connect, run]
  | ok pair =>
      obtain ⟨value, after⟩ := pair
      cases check : server.deferred state after with
      | error failure => simp [bind_apply, execute, connect, run, commit, check]
      | ok done => simp [bind_apply, execute, connect, run, commit, check]

/-- A lone transaction relates the states before and after it. -/
theorem related_commitAlone (server : Server σ ε) {relation : σ → σ → Prop} [Std.Refl relation]
    {code : Transaction σ ε α} (respects : code.Respects relation) (state : σ) :
    relation state (commitAlone server code state) := by
  rw [commitAlone_eq]
  cases run : code state with
  | error failure => exact refl state
  | ok pair =>
      obtain ⟨value, after⟩ := pair
      cases check : server.deferred state after with
      | error failure =>
          simp only [check]
          exact refl state
      | ok done =>
          simp only [check]
          exact respects run

end Session

end Transactions
