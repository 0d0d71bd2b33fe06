import ClearingHouse.Events.Dispatch
import ClearingHouse.Ledger.Chart
import ClearingHouse.Oracle.Runs

/-!
# The house on its own

What happens while the services handle nothing but the events that they announce themselves, and the
functions that only events call are called by no one else.  No event tells a consumer its type, so
nobody deposits collateral, answers a margin call or defaults: the members, the fund and the equity
of the house stay as they are.
-/

namespace ClearingHouse

namespace Deployment

open Consumers Dispatch Fibers Oracle Outbox StepSystem Transactions Transactions.Session

variable {backend : Backend} {market : Market} {db after : Database}

/-- The event is received from the message of a row of the outbox. -/
def Published (db : Database) (event : Payload) : Prop :=
  ∃ row ∈ db.outboxEvents, ∃ message, messageOf row = .ok message ∧ received message = event

theorem published_of_isOk {row : OutboxEvent} (listed : row ∈ db.outboxEvents)
    (made : (messageOf row).isOk = true) : Published db row.payload := by
  cases message : messageOf row with
  | error => simp [message, Except.isOk, Except.toBool] at made
  | ok => exact ⟨row, listed, _, message, received_of_messageOf message⟩

/-- What is called in the house. -/
def CalledInside (db : Database) : HouseOperation → Prop
  | .handle _ event _ => Published db event
  | .executeWaterfall .. => False
  | .depositCollateral .. => False
  | .withdrawCollateral .. => False
  | .transferToMargin .. => False
  | .seedDefaultFund .. => False
  | _ => True

/-- What happens in the house. -/
def Inside (db : Database) : MarketLabel → Prop
  | .house (.operation operation _) => CalledInside db operation
  | .house .elsewhere => False
  | .update _ => True
  | .tick => True

/-- No event of the outbox tells its type. -/
def Untyped (db : Database) : Prop :=
  ∀ row ∈ db.outboxEvents, row.payload.get? "event_type" = none

/-- Journals of trades. -/
def ofTrades : List JournalType := [.marginCall, .settlement, .variationMargin]

/-- What trades bring about. -/
def trading : Allowance :=
  { Allowance.everything with
    journal := fun journalType => journalType ∈ ofTrades
    margin := fun _ => False
    defaults := False }

theorem allowsTrading_trading (first : Database) : AllowsTrading backend trading first where
  payable := fun _ _ _ _ _ _ _ => trivial
  variation := .inl (by simp [trading, ofTrades])
  settlement := .inl (by simp [trading, ofTrades])

/-- An operation that is called in the house only writes what trades bring about. -/
theorem written_of_inside (untyped : Untyped db) {operation : HouseOperation}
    {mark : Option (String × Text)} (inside : CalledInside db operation)
    (committed : after ∈ committedStates (called backend mark (operation.body backend)) db) :
    Written backend trading db after := by
  have restored : ∀ old new, Written backend trading db old → Written backend trading old new →
      (server backend).deferred old new = .ok () → Written backend trading db new :=
    fun _ _ reached written _ => reached.trans written
  have admits : AdmitsTrading backend (Written backend trading db) (Onward backend trading db) :=
    admitsTrading_onward (fun _ => id) restored (allowsTrading_trading db)
  have novates : ∀ data trace, Keeps (Written backend trading db) (Onward backend trading db)
      (Novation.processTrade backend data trace) :=
    fun data trace => keeps_processTrade_onward (fun _ => id) restored
      (by simp [trading, ofTrades]) (fun _ _ _ _ _ => trivial) trace
  refine kept_of_committed admits ?_ .refl committed
  cases operation with
  | submitTrade =>
      exact keeps_dropped (onward_of_writable
        (Gateway.writable_submitTrade _ _ (fun _ _ => trivial) _))
  | handle service event surroundings =>
      obtain ⟨row, listed, message, made, rfl⟩ := inside
      have silent : ∀ consumer : Consumer, consumer.selected (received message) = none :=
        fun consumer => by
          rw [received_of_messageOf made]
          exact selected_of_untyped (untyped row listed) consumer
      refine Consumers.kept_service admits service (fun _ _ _ _ _ _ => novates _ _) ?_
        fun trace => ?_
      · rw [handleCollateralEvent_of_unselected (silent _)]
        exact keeps_pure ()
      · rw [handleDefaultEvent_of_unselected trace (silent _)]
        exact keeps_pure ()
  | settleInstruction =>
      exact keeps_bind (Settlement.kept_settleInstruction admits.survives admits.settle _ _ _)
        fun _ => keeps_pure ()
  | processTrade => exact novates _ _
  | runNettingCycle => exact keeps_dropped (admits.net ..)
  | recalculateMargins => exact keeps_dropped (admits.recalculate ..)
  | executeWaterfall => exact inside.elim
  | depositCollateral => exact inside.elim
  | withdrawCollateral => exact inside.elim
  | transferToMargin => exact inside.elim
  | seedDefaultFund => exact inside.elim

/-- Accounts of collateral, of the default fund and of the equity of the house. -/
def Reserve (account : Account) : Prop :=
  account.accountType ∈ ([.collateral, .defaultFund, .ccpEquity] : List AccountType)

/-- Nobody defaults, no reserve moves, and journals are those of trades. -/
structure Undisturbed (db after : Database) : Prop where
  accounts : after.accounts = db.accounts
  members : after.members = db.members
  defaultEvents : after.defaultEvents = db.defaultEvents
  waterfallSteps : after.waterfallSteps = db.waterfallSteps
  untyped : Untyped db → Untyped after
  journals : ∃ added, after.journals = db.journals ++ added ∧
    ∀ journal ∈ added, journal.journalType ∈ ofTrades
  reserves : ∀ account ∈ db.accounts, Reserve account →
    accountBalance after account.id = accountBalance db account.id

namespace Undisturbed

theorem same (db : Database) : Undisturbed db db where
  accounts := rfl
  members := rfl
  defaultEvents := rfl
  waterfallSteps := rfl
  untyped := id
  journals := ⟨[], by simp⟩
  reserves := fun _ _ _ => rfl

theorem trans {middle : Database} (head : Undisturbed db middle) (tail : Undisturbed middle after) :
    Undisturbed db after where
  accounts := tail.accounts.trans head.accounts
  members := tail.members.trans head.members
  defaultEvents := tail.defaultEvents.trans head.defaultEvents
  waterfallSteps := tail.waterfallSteps.trans head.waterfallSteps
  untyped := tail.untyped ∘ head.untyped
  journals := by
    obtain ⟨first, first_eq, first_types⟩ := head.journals
    obtain ⟨second, second_eq, second_types⟩ := tail.journals
    exact ⟨first ++ second, by rw [second_eq, first_eq, List.append_assoc],
      List.forall_mem_append.mpr ⟨first_types, second_types⟩⟩
  reserves := fun account known reserve =>
    (tail.reserves account (head.accounts ▸ known) reserve).trans
      (head.reserves account known reserve)

end Undisturbed

instance : Std.Refl Undisturbed := ⟨Undisturbed.same⟩

instance : IsTrans Database Undisturbed := ⟨fun _ _ _ => Undisturbed.trans⟩

/-- Journals of trades are not posted on reserves. -/
theorem unposted_reserve {journalType : JournalType} {account : Account}
    (ofTrade : journalType ∈ ofTrades) (reserve : Reserve account) :
    ¬Debits (fun _ => False) journalType account.accountType account.pool ∧
      ¬Credits journalType account.accountType account.pool := by
  simp only [ofTrades, Reserve, List.mem_cons, List.not_mem_nil, or_false] at ofTrade reserve
  rcases ofTrade with rfl | rfl | rfl
  all_goals rcases reserve with type | type | type <;> simp [Debits, Credits, type]

/-- An entry of a journal of trades is on another account. -/
theorem accountBalance_of_entry {entry : JournalEntry} {journalType : JournalType}
    {account other : Account} (known : account ∈ db.accounts) (reserve : Reserve account)
    (there : other ∈ db.accounts) (same : other.id = entry.accountId)
    (ofTrade : journalType ∈ ofTrades)
    (charted : Charted (fun _ => False) journalType other entry.debit entry.credit) :
    fiberSum JournalEntry.accountId (fun entry => entry.debit - entry.credit)
        (db.journalEntries ++ [entry]) account.id =
      accountBalance db account.id := by
  have nothing : entry.accountId = account.id → entry.debit - entry.credit = 0 := fun own => by
    obtain rfl : other = account :=
      List.inj_on_of_nodup_map db.accountIds_nodup there known (same.trans own)
    obtain ⟨undebited, uncredited⟩ := unposted_reserve ofTrade reserve
    rw [by_contra fun some => undebited (charted.debited some),
      by_contra fun some => uncredited (charted.credited some), sub_zero]
  rw [fiberSum_append, fiberSum_cons, fiberSum_nil, add_zero, ← accountBalance]
  by_cases own : entry.accountId = account.id
  · rw [if_pos own, nothing own, add_zero]
  · rw [if_neg own, add_zero]

theorem undisturbed_of_writes (writes : RowWrites backend trading db after) :
    Undisturbed db after := by
  cases writes with
  | journal journalType _ _ allowed =>
      exact { Undisturbed.same db with journals := ⟨_, rfl, List.forall_mem_singleton.mpr allowed⟩ }
  | journalEntry entry journal account valid posted own allowed known same charted =>
      exact { Undisturbed.same db with
        reserves := fun _ listed reserve =>
          accountBalance_of_entry listed reserve known same allowed charted }
  | outboxEvent event filed =>
      refine { Undisturbed.same db with untyped := fun before => ?_ }
      exact List.forall_mem_append.mpr ⟨before, by simpa using filed.untyped⟩
  | waterfallStep _ allowed => exact allowed.elim
  | defaultEvent _ allowed => exact allowed.elim
  | defaulted _ allowed => exact allowed.elim
  | resolved _ _ allowed => exact allowed.elim
  | _ => exact { Undisturbed.same db with }

/-- A round of the oracle announces prices only. -/
theorem undisturbed_of_update {factor : Uuid → ℚ}
    (committed : after ∈ committedStates (updatePrices backend market factor) db) :
    Undisturbed db after := by
  rcases published_of_committed committed with rfl | published
  · exact .same after
  · obtain ⟨event, filed, rest⟩ := published.rest
    rw [rest]
    refine { Undisturbed.same db with untyped := fun before => ?_ }
    exact List.forall_mem_append.mpr ⟨before, by simpa using filed.untyped⟩

/-- On its own the house trades, nets, calls margin and settles, but nobody ever deposits or
defaults: no call is answered and no reserve moves. -/
theorem undisturbed_of_run {first last : Database} (untyped : Untyped first)
    (run : Run (Markets backend market) Inside first last) : Undisturbed first last := by
  refine run.invariant (fun before label after disturbed inside step => ?_) (.same first)
  cases step with
  | house operates =>
      cases operates with
      | operation committed =>
          have written := written_of_inside (disturbed.untyped untyped) inside committed
          exact disturbed.trans (related_of_written (fun _ _ => undisturbed_of_writes) written)
      | elsewhere => exact inside.elim
  | update committed => exact disturbed.trans (undisturbed_of_update committed)
  | tick => exact disturbed.trans { Undisturbed.same before with }

/-- A service handles the event of a row. -/
def handled (service : Service) (row : OutboxEvent) : HouseOperation :=
  .handle service row.payload ⟨0, 0, 90⟩

/-- The mark of the event. -/
def markOf (service : Service) (row : OutboxEvent) : Option (String × Text) :=
  some (service.name, eventId row.payload)

private theorem unanswered_tradelessHouse :
    ∃ submitted ∈ committedStates (called decimalBackend none (tenUnits.body decimalBackend))
        tradelessHouse,
    ∃ trade ∈ submitted.outboxEvents, (messageOf trade).isOk = true ∧
    ∃ novated ∈ committedStates (called decimalBackend (markOf .tradeIngestion trade)
        ((handled .tradeIngestion trade).body decimalBackend)) submitted,
    ∃ novation ∈ novated.outboxEvents, (messageOf novation).isOk = true ∧
    ∃ margined ∈ committedStates (called decimalBackend (markOf .marginEngine novation)
        ((handled .marginEngine novation).body decimalBackend)) novated,
    ∃ call ∈ margined.outboxEvents, (messageOf call).isOk = true ∧
      call.eventType = "margin.call.issued" ∧
    ∃ last ∈ committedStates (called decimalBackend (markOf .collateralManager call)
        ((handled .collateralManager call).body decimalBackend)) margined,
      last.processedEvents.length = 3 ∧ last.marginCalls.length = 2 := by
  decide +kernel

/-- A trade is novated, margin is called, and the collateral manager handles the call. -/
theorem undisturbed_of_run_tradelessHouse :
    ∃ last, Run (Markets decimalBackend (bitcoinMarket true)) Inside tradelessHouse last ∧
      last.processedEvents.length = 3 ∧ last.marginCalls.length = 2 ∧
        Undisturbed tradelessHouse last := by
  obtain ⟨submitted, submit, trade, first, sent, novated, novate, novation, second, announced,
    margined, margin, call, third, issued, -, last, answer, marks, calls⟩ :=
    unanswered_tradelessHouse
  have run : Run (Markets decimalBackend (bitcoinMarket true)) Inside tradelessHouse last := by
    refine .snoc (.snoc (.snoc (.snoc (.refl _) ?_ (.house (.operation submit))) ?_
      (.house (.operation novate))) ?_ (.house (.operation margin))) ?_
      (.house (.operation answer))
    · trivial
    · exact published_of_isOk first sent
    · exact published_of_isOk second announced
    · exact published_of_isOk third issued
  exact ⟨last, run, marks, calls, undisturbed_of_run nofun run⟩

end Deployment

end ClearingHouse
