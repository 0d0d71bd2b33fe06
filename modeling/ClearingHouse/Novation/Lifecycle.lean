import ClearingHouse.Novation.LockedMargin

/-!
# Lifecycle of a trade

Calls of `process_trade` for the same trades run side by side at READ COMMITTED.  The guard of a
novation reads the status, its update writes it some statements later, and the update of a
rejection looks at no status at all.  Here is what the rows of a trade tell after any commits, as
long as every call that commits finds its trade unprocessed.
-/

namespace ClearingHouse

namespace Novation

open StepSystem Transactions
open Transaction (bind_eq_ok)
open Transactions.Session (commit committedStates)

/-- What the rows of a trade tell: its status, its legs, its records and the events of its
processing. -/
structure TradeHistory where
  status : Option TradeStatus
  sides : List Side
  records : List EntityStatus
  events : List String
  deriving DecidableEq, Repr

/-- The history of a trade in a database. -/
def historyOf (tradeId : Uuid) (db : Database) : TradeHistory where
  status := (db.trades.find? fun trade => trade.id = tradeId).map Trade.status
  sides := (db.novatedTrades.filter fun leg => leg.originalTradeId = tradeId).map
    NovatedTrade.side
  records := ((db.stateTransitions.map recorded).filter fun record =>
    record.1 = .trade ∧ record.2.1 = tradeId).map fun record => record.2.2
  events := ((db.outboxEvents.map announced).filter fun event =>
    event.1 = tradeId ∧ (event.2 = "trade.novated" ∨ event.2 = "trade.rejected")).map Prod.snd

namespace TradeHistory

/-- The trade has been novated or rejected. -/
def Processed (history : TradeHistory) : Prop :=
  history.status = some .novated ∨ history.status = some .rejected

instance (history : TradeHistory) : Decidable history.Processed :=
  inferInstanceAs (Decidable (_ ∨ _))

/-- The history after a novation. -/
def novate (history : TradeHistory) : TradeHistory where
  status := history.status.map fun _ => .novated
  sides := history.sides ++ [.buy, .sell]
  records := history.records ++ [.trade .novated]
  events := history.events ++ ["trade.novated"]

/-- The history after a rejection. -/
def reject (history : TradeHistory) : TradeHistory where
  status := history.status.map fun _ => .rejected
  sides := history.sides
  records := history.records ++ [.trade .rejected]
  events := history.events ++ ["trade.rejected"]

/-- A trade has a buy leg and a sell leg or none, and none unless it is novated. -/
structure Orderly (history : TradeHistory) : Prop where
  legs : history.sides = [] ∨ history.sides = [.buy, .sell]
  rejected : history.status = some .rejected → history.sides = []
  unprocessed : ¬history.Processed → history.sides = []

theorem Orderly.novate {history : TradeHistory} (orderly : history.Orderly)
    (known : history.status ≠ none) (unprocessed : ¬history.Processed) :
    history.novate.Orderly := by
  obtain ⟨status, present⟩ := Option.ne_none_iff_exists'.mp known
  have novated : history.novate.status = some .novated := by simp [TradeHistory.novate, present]
  refine ⟨.inr ?_, fun rejected => ?_, fun neither => absurd (.inl novated) neither⟩
  · simp [TradeHistory.novate, orderly.unprocessed unprocessed]
  · rw [novated] at rejected
    cases rejected

theorem Orderly.reject {history : TradeHistory} (orderly : history.Orderly)
    (unprocessed : ¬history.Processed) : history.reject.Orderly :=
  have none : history.reject.sides = [] := orderly.unprocessed unprocessed
  ⟨.inl none, fun _ => none, fun _ => none⟩

theorem novate_ne (history : TradeHistory) : history.novate ≠ history := fun same => by
  have records := congrArg TradeHistory.records same
  simp [TradeHistory.novate] at records

theorem reject_ne (history : TradeHistory) : history.reject ≠ history := fun same => by
  have records := congrArg TradeHistory.records same
  simp [TradeHistory.reject] at records

end TradeHistory

variable {backend : Backend} {db after : Database} {tradeId : Uuid} {data : TradeData}
  {trace : TraceContext}

theorem find_withStatus (trades : List Trade) (tradeId other : Uuid) (status : TradeStatus) :
    ((trades.map (withStatus tradeId status)).find? fun trade => trade.id = other).map
        Trade.status =
      if other = tradeId then
        ((trades.find? fun trade => trade.id = other).map Trade.status).map fun _ => status
      else (trades.find? fun trade => trade.id = other).map Trade.status := by
  have ids : ∀ trade, (withStatus tradeId status trade).id = trade.id := fun trade => by
    rw [withStatus]
    split <;> rfl
  have same : ((fun trade : Trade => decide (trade.id = other)) ∘ withStatus tradeId status) =
      fun trade => decide (trade.id = other) := by
    funext trade
    simp [ids]
  rw [List.find?_map, same, Option.map_map]
  cases found : trades.find? fun trade => trade.id = other with
  | none => simp
  | some trade =>
      have here : trade.id = other := by simpa using List.find?_some found
      by_cases mine : other = tradeId <;> simp [withStatus, here, mine]

/-- A novation goes into the history of its trade and of no other. -/
theorem historyOf_of_novates {ids : Uuid × Uuid}
    (novates : Novates backend tradeId data ids db after) (other : Uuid) :
    historyOf other after =
      if other = tradeId then (historyOf other db).novate else historyOf other db := by
  obtain ⟨_, _, -, -, legs⟩ := novates.legs
  obtain ⟨records, transitions, recorded⟩ := novates.transitions
  obtain ⟨event, events, announced⟩ := novates.events
  unfold historyOf
  rw [novates.trades, find_withStatus, legs, transitions, events, List.map_append,
    List.map_append, recorded, List.map_singleton, announced]
  by_cases mine : other = tradeId
  · simp [mine, TradeHistory.novate, legOf]
  · simp [mine, Ne.symm mine, legOf]

/-- A rejection goes into the history of its trade and of no other. -/
theorem historyOf_of_rejects (rejects : Rejects tradeId db after) (other : Uuid) :
    historyOf other after =
      if other = tradeId then (historyOf other db).reject else historyOf other db := by
  obtain ⟨record, transitions, recorded⟩ := rejects.transitions
  obtain ⟨event, events, announced⟩ := rejects.events
  unfold historyOf
  rw [rejects.trades, find_withStatus, rejects.legs, transitions, events, List.map_append,
    List.map_append, List.map_singleton, recorded, List.map_singleton, announced]
  by_cases mine : other = tradeId
  · simp [mine, TradeHistory.reject]
  · simp [mine, Ne.symm mine]

/-- How far a call has come: it has begun, or the guard has let it pass. -/
inductive CallStage
  | started
  | guarded
  deriving DecidableEq, Repr

/-- A call of `process_trade` whose transaction has not been committed. -/
structure TradeCall where
  data : TradeData
  trace : TraceContext
  stage : CallStage

/-- The committed database and the calls in flight. -/
structure TradeBook where
  committed : Database
  calls : List TradeCall

/-- What happens next.  A call is numbered by its position. -/
inductive TradeLabel
  | begin (data : TradeData) (trace : TraceContext)
  | guard (position : ℕ)
  | novate (position : ℕ) (tradeId : Uuid)
  | reject (position : ℕ) (tradeId : Uuid)
  | stop (position : ℕ)
  | elsewhere

/-- Others submit trades under new identifiers, and write nothing else into a history. -/
def Submits (db after : Database) : Prop :=
  ∀ tradeId, historyOf tradeId after = historyOf tradeId db ∨
    ((historyOf tradeId db).status = none ∧
      historyOf tradeId after = { historyOf tradeId db with status := some .submitted })

/-- A step of a call, or the commit of another transaction.  The update of a trade waits for the
transaction that has updated it before and then writes whatever the status has become, and a call
writes no other row that others write: so it counts with its commit.  Any exception leads to the
rejection. -/
inductive TradeStep (backend : Backend) : TradeBook → TradeLabel → TradeBook → Prop
  | begin {state : TradeBook} {data : TradeData} {trace : TraceContext} :
      TradeStep backend state (.begin data trace)
        { state with calls := state.calls ++ [⟨data, trace, .started⟩] }
  /-- The statement that reads the status. -/
  | guard {state : TradeBook} (front back : List TradeCall) {data : TradeData}
      {trace : TraceContext} {seen : Database}
      (calls : state.calls = front ++ ⟨data, trace, .started⟩ :: back)
      (passed : requireSubmitted data.tradeId state.committed = .ok ((), seen)) :
      TradeStep backend state (.guard front.length)
        { state with calls := front ++ ⟨data, trace, .guarded⟩ :: back }
  | novate {state : TradeBook} (front back : List TradeCall) {data : TradeData}
      {trace : TraceContext} {started : Timestamp} {ids : Uuid × Uuid} {after : Database}
      (calls : state.calls = front ++ ⟨data, trace, .guarded⟩ :: back)
      (ran : novateSubmitted backend data.tradeId data trace
        { state.committed with now := started } = .ok (ids, after))
      (accepted : (server backend).deferred state.committed after = .ok ()) :
      TradeStep backend state (.novate front.length data.tradeId) ⟨after, front ++ back⟩
  | reject {state : TradeBook} (front back : List TradeCall) {call : TradeCall}
      {reason : Text} {started : Timestamp} {after : Database}
      (calls : state.calls = front ++ call :: back)
      (ran : rejectTrade call.data.tradeId reason call.trace
        { state.committed with now := started } = .ok ((), after)) :
      TradeStep backend state (.reject front.length call.data.tradeId) ⟨after, front ++ back⟩
  | stop {state : TradeBook} (front back : List TradeCall) {call : TradeCall}
      (calls : state.calls = front ++ call :: back) :
      TradeStep backend state (.stop front.length) { state with calls := front ++ back }
  | elsewhere {state : TradeBook} {after : Database} (submits : Submits state.committed after) :
      TradeStep backend state .elsewhere { state with committed := after }

/-- A call commits while its trade is unprocessed. -/
def WhileUnprocessed (state : TradeBook) : TradeLabel → Prop
  | .novate _ tradeId | .reject _ tradeId => ¬(historyOf tradeId state.committed).Processed
  | _ => True

/-- What a call on a connection of its own commits is what its steps lead to. -/
theorem run_of_committedStates {allowed : TradeBook → TradeLabel → Prop}
    (permitted : ∀ calls label, allowed ⟨db, calls⟩ label)
    (committed : after ∈ committedStates
      (do processTrade backend data trace; commit (server backend)) db) :
    Run (TradeStep backend) allowed ⟨db, []⟩ ⟨after, []⟩ := by
  obtain ⟨processed, accepted⟩ := processed_of_committedStates committed
  have begun : Run (TradeStep backend) allowed ⟨db, []⟩ ⟨db, [⟨data, trace, .started⟩]⟩ :=
    .snoc (.refl _) (permitted _ _) .begin
  cases processed with
  | novated ran =>
      obtain ⟨⟨⟩, seen, guard, ran⟩ := bind_eq_ok.mp ran
      obtain ⟨-, rfl⟩ := requireSubmitted_eq_ok guard
      have guarded : Run (TradeStep backend) allowed ⟨db, []⟩ ⟨db, [⟨data, trace, .guarded⟩]⟩ :=
        .snoc begun (permitted _ _) (.guard [] [] rfl guard)
      exact .snoc guarded (permitted _ _) (.novate [] [] rfl ran accepted)
  | rejected ran => exact .snoc begun (permitted _ _) (.reject [] [] rfl ran)

theorem known_of_novateSubmitted {ids : Uuid × Uuid}
    (ran : novateSubmitted backend tradeId data trace db = .ok (ids, after)) :
    (historyOf tradeId db).status ≠ none := by
  obtain ⟨⟨⟩, updated, update, ran⟩ := bind_eq_ok.mp ran
  cases update
  obtain ⟨buyerNovId, bought, buy, -⟩ := bind_eq_ok.mp ran
  obtain ⟨_, _, cast, buy⟩ := bind_eq_ok.mp buy
  obtain ⟨-, rfl⟩ := castNumeric_eq_ok.mp cast
  obtain ⟨_, _, cast, buy⟩ := bind_eq_ok.mp buy
  obtain ⟨-, rfl⟩ := castNumeric_eq_ok.mp cast
  obtain ⟨_, _, reading, buy⟩ := bind_eq_ok.mp buy
  cases reading
  obtain ⟨⟨⟩, _, referenced, -⟩ := bind_eq_ok.mp buy
  obtain ⟨known, -⟩ := Transaction.require_eq_ok.mp referenced
  obtain ⟨updated, member, same⟩ := List.mem_map.mp known
  obtain ⟨trade, there, rfl⟩ := List.mem_map.mp member
  have id : trade.id = tradeId := by
    rw [← same]
    split <;> rfl
  simp only [historyOf, ne_eq, Option.map_eq_none_iff, List.find?_eq_none, decide_eq_true_eq]
  exact fun absent => absent trade there id

variable {state before next : TradeBook} {label : TradeLabel}

/-- What a step does to the histories, if a commit finds its trade unprocessed. -/
theorem historyOf_step (step : TradeStep backend before label next) (tradeId : Uuid) :
    historyOf tradeId next.committed = historyOf tradeId before.committed ∨
      ((historyOf tradeId before.committed).status = none ∧
        historyOf tradeId next.committed =
          { historyOf tradeId before.committed with status := some .submitted }) ∨
      (∃ position, label = .novate position tradeId) ∧
        (historyOf tradeId before.committed).status ≠ none ∧
        historyOf tradeId next.committed = (historyOf tradeId before.committed).novate ∨
      (∃ position, label = .reject position tradeId) ∧
        historyOf tradeId next.committed = (historyOf tradeId before.committed).reject := by
  cases step with
  | begin | guard | stop => exact .inl rfl
  | elsewhere submits => exact (submits tradeId).imp_right .inl
  | novate front back calls ran accepted =>
      next data trace started ids after =>
      have history := historyOf_of_novates (novates_novateSubmitted ran) tradeId
      by_cases mine : tradeId = data.tradeId
      · rw [if_pos mine] at history
        subst mine
        have known : (historyOf data.tradeId before.committed).status ≠ none :=
          fun absent => known_of_novateSubmitted ran absent
        exact .inr (.inr (.inl ⟨⟨_, rfl⟩, known, history⟩))
      · rw [if_neg mine] at history
        exact .inl history
  | reject front back calls ran =>
      next call reason started after =>
      have history := historyOf_of_rejects (rejects_rejectTrade ran) tradeId
      by_cases mine : tradeId = call.data.tradeId
      · rw [if_pos mine] at history
        subst mine
        exact .inr (.inr (.inr ⟨⟨_, rfl⟩, history⟩))
      · rw [if_neg mine] at history
        exact .inl history

/-- Every trade is orderly. -/
def AllOrderly (state : TradeBook) : Prop :=
  ∀ tradeId, (historyOf tradeId state.committed).Orderly

theorem allOrderly_step (orderly : AllOrderly before) (unprocessed : WhileUnprocessed before label)
    (step : TradeStep backend before label next) : AllOrderly next := by
  intro tradeId
  rcases historyOf_step step tradeId with same | ⟨absent, submitted⟩ |
    ⟨⟨position, rfl⟩, known, novated⟩ | ⟨⟨position, rfl⟩, rejected⟩
  · exact same ▸ orderly tradeId
  · have none : (historyOf tradeId before.committed).sides = [] :=
      (orderly tradeId).unprocessed (by simp [TradeHistory.Processed, absent])
    rw [submitted]
    exact ⟨.inl none, fun _ => none, fun _ => none⟩
  · exact novated ▸ (orderly tradeId).novate known unprocessed
  · exact rejected ▸ (orderly tradeId).reject unprocessed

/-- The histories of processed trades are kept. -/
def KeepsProcessed (before after : TradeBook) : Prop :=
  ∀ tradeId, (historyOf tradeId before.committed).Processed →
    historyOf tradeId after.committed = historyOf tradeId before.committed

instance : Std.Refl KeepsProcessed := ⟨fun _ _ _ => rfl⟩

instance : IsTrans TradeBook KeepsProcessed where
  trans _ _ _ first second tradeId processed := by
    have same := first tradeId processed
    exact (second tradeId (same ▸ processed)).trans same

/-- A step keeps the histories of processed trades exactly if it meets the condition. -/
theorem keepsProcessed_step_iff (step : TradeStep backend before label next) :
    WhileUnprocessed before label ↔ KeepsProcessed before next := by
  constructor
  · intro unprocessed tradeId processed
    rcases historyOf_step step tradeId with same | ⟨absent, -⟩ | ⟨⟨position, rfl⟩, -⟩ |
      ⟨⟨position, rfl⟩, -⟩
    · exact same
    · simp [TradeHistory.Processed, absent] at processed
    · exact absurd processed unprocessed
    · exact absurd processed unprocessed
  · intro kept
    cases step with
    | begin | guard | stop | elsewhere => trivial
    | novate front back calls ran accepted =>
        next data trace started ids after =>
        intro processed
        have history := historyOf_of_novates (novates_novateSubmitted ran) data.tradeId
        rw [if_pos rfl] at history
        exact TradeHistory.novate_ne _ (history.symm.trans (kept _ processed))
    | reject front back calls ran =>
        next call reason started after =>
        intro processed
        have history := historyOf_of_rejects (rejects_rejectTrade ran) call.data.tradeId
        rw [if_pos rfl] at history
        exact TradeHistory.reject_ne _ (history.symm.trans (kept _ processed))

/-- **Lifecycle of a trade**: as long as calls commit only while their trades are unprocessed, a
trade has a buy leg and a sell leg or none, a rejected trade has none, and the rows of a processed
trade stay as they are; and the first commit that does not meet the condition changes the rows of a
processed trade. -/
theorem orderly_of_run {start middle last : TradeBook}
    (unnovated : ∀ tradeId, (historyOf tradeId start.committed).sides = [])
    (head : Run (TradeStep backend) WhileUnprocessed start middle)
    (tail : Run (TradeStep backend) WhileUnprocessed middle last) :
    (∀ tradeId,
      ((historyOf tradeId last.committed).sides = [] ∨
        (historyOf tradeId last.committed).sides = [.buy, .sell]) ∧
      ((historyOf tradeId last.committed).status = some .rejected →
        (historyOf tradeId last.committed).sides = []) ∧
      ((historyOf tradeId middle.committed).Processed →
        historyOf tradeId last.committed = historyOf tradeId middle.committed)) ∧
    ∀ label next, TradeStep backend last label next →
      (WhileUnprocessed last label ↔ KeepsProcessed last next) := by
  have opening : AllOrderly start := fun tradeId =>
    ⟨.inl (unnovated tradeId), fun _ => unnovated tradeId, fun _ => unnovated tradeId⟩
  have preserved : ∀ before label next, AllOrderly before → WhileUnprocessed before label →
      TradeStep backend before label next → AllOrderly next := fun _ _ _ => allOrderly_step
  have orderly := (head.trans tail).invariant preserved opening
  have kept : KeepsProcessed middle last :=
    tail.related preserved (fun _ _ _ _ unprocessed step =>
      (keepsProcessed_step_iff step).mp unprocessed) (head.invariant preserved opening)
  exact ⟨fun tradeId => ⟨(orderly tradeId).legs, (orderly tradeId).rejected, kept tradeId⟩,
    fun _ _ => keepsProcessed_step_iff⟩

/-- The calls for a trade that is delivered again and again. -/
def deliveries : Session Database Failure Unit := do
  processTrade decimalBackend tenAtNine ⟨6, "alice", none⟩
  commit (server decimalBackend)

private theorem unnovated_tradeHouse (tradeId : Uuid) :
    (historyOf tradeId Consumers.tradeHouse).sides = [] := by
  simp [historyOf, Consumers.tradeHouse, Database.opening]

private theorem unprocessed_tradeHouse (tradeId : Uuid) :
    ¬(historyOf tradeId Consumers.tradeHouse).Processed := by
  simp only [historyOf, Consumers.tradeHouse, List.find?_cons, List.find?_nil]
  split <;> simp [TradeHistory.Processed]

private theorem novatedOnce :
    ∃ after ∈ committedStates deliveries Consumers.tradeHouse,
      (historyOf 4 after).sides = [.buy, .sell] ∧
      ∃ again ∈ committedStates deliveries after, historyOf 4 again =
        ⟨some .rejected, [.buy, .sell], [.trade .novated, .trade .rejected],
          ["trade.novated", "trade.rejected"]⟩ := by
  decide +kernel

/-- The first delivery novates the trade into two legs. -/
theorem orderly_of_run_tradeHouse :
    ∃ last, Run (TradeStep decimalBackend) WhileUnprocessed ⟨Consumers.tradeHouse, []⟩ last ∧
      (historyOf 4 last.committed).sides = [.buy, .sell] ∧
      (historyOf 4 last.committed).status ≠ some .rejected := by
  obtain ⟨after, committed, legs, -⟩ := novatedOnce
  have run : Run (TradeStep decimalBackend) WhileUnprocessed ⟨Consumers.tradeHouse, []⟩
      ⟨after, []⟩ := by
    refine run_of_committedStates (fun calls label => ?_) committed
    cases label with
    | begin | guard | stop | elsewhere => trivial
    | novate position tradeId | reject position tradeId => exact unprocessed_tradeHouse tradeId
  obtain ⟨orderly, -⟩ := orderly_of_run unnovated_tradeHouse (.refl _) run
  refine ⟨_, run, legs, fun rejected => ?_⟩
  have none := (orderly 4).2.1 rejected
  rw [legs] at none
  cases none

/-- The second delivery rejects a trade with two legs. -/
theorem not_orderly_tradeHouse :
    ¬ ∀ start middle last : TradeBook,
      (∀ tradeId, (historyOf tradeId start.committed).sides = []) →
      Run (TradeStep decimalBackend) unrestricted start middle →
      Run (TradeStep decimalBackend) unrestricted middle last →
      ∀ tradeId,
        ((historyOf tradeId last.committed).sides = [] ∨
          (historyOf tradeId last.committed).sides = [.buy, .sell]) ∧
        ((historyOf tradeId last.committed).status = some .rejected →
          (historyOf tradeId last.committed).sides = []) ∧
        ((historyOf tradeId middle.committed).Processed →
          historyOf tradeId last.committed = historyOf tradeId middle.committed) := by
  intro claim
  obtain ⟨after, committed, -, again, redelivered, history⟩ := novatedOnce
  have rejected := (claim _ _ _ unnovated_tradeHouse
    (run_of_committedStates (fun _ _ => trivial) committed)
    (run_of_committedStates (fun _ _ => trivial) redelivered) 4).2.1
  rw [history] at rejected
  cases rejected rfl

end Novation

end ClearingHouse
