import ClearingHouse.Events.ConsumeLoops
import ClearingHouse.Events.Dispatch
import ClearingHouse.Events.Traces
import ClearingHouse.SchemaChecks

/-!
# Chains of events

A chain starts from a request or an event with a trace and goes on with the messages of the events
that it has emitted.  Two inserts leave the trace out, that of a deposit and that of a journal of
the waterfall.  The migrated schema refuses a row in front of either of them, and with it the whole
transaction, so every row that a chain writes carries the trace it started from.
-/

namespace ClearingHouse

namespace Chains

open Consumers StepSystem Transactions
open ConsumeLoops (Delivery Loop isNew)
open Transaction (bind_eq_ok)
open Transactions.Session (Keeps Sound commit committedStates execute)

/-- The services that are called back by `KafkaConsumer.poll_loop`. -/
inductive Callback
  | tradeIngestion
  | nettingEngine
  deriving DecidableEq, Repr

def Callback.service : Callback → Service
  | .tradeIngestion => .tradeIngestion
  | .nettingEngine => .nettingEngine

/-- `handle_message` and `_handle_netting_trigger`: the mark, the body and their commit. -/
def handleMessage (backend : Backend) (callback : Callback) (event : Payload)
    (surroundings : Surroundings) : Session Database Failure Unit := do
  let new ← isNew backend callback.service.name event
  if new then do
    callback.service.body backend event surroundings
    commit (server backend)
  else commit (server backend)

/-- A message that is handled, by a loop or by a callback. -/
inductive Visit
  | loop (delivery : Delivery)
  | callback (callback : Callback) (event : Payload) (surroundings : Surroundings)

/-- The decoded message. -/
def Visit.event : Visit → Except Failure Payload
  | .loop delivery => delivery.message
  | .callback _ event _ => .ok event

/-- The states that its handler commits, in their order. -/
def Visit.commits (backend : Backend) (visit : Visit) (db : Database) : List Database :=
  match visit with
  | .loop delivery => (delivery.pass backend db).commits
  | .callback called event surroundings =>
      committedStates (handleMessage backend called event surroundings) db

/-- The checks of `deposit_collateral` and of its statements. -/
structure Deposits (backend : Backend) (memberId : Uuid) (amount : ℚ) (currency : String)
    (db : Database) : Prop where
  positive : 0 < amount
  memberAcct : (Collateral.getAccount db memberId .collateral .available currency).isSome
  ccpAcct : (Collateral.getCcpAccount db .settlement .available currency).isSome
  admitted : JournalType.collateralDeposit ∈ backend.journalTypes
  stored : 0 < (backend.store amount).getD 0

/-- The member and the exposure of the default that an event calls for. -/
def defaultOf (event : Payload) : Except Failure (Option (Uuid × ℚ)) :=
  if eventType event = [.literal "margin.call.breached"] then do
    let memberId ← field event "member_id" (ofText uuid?)
    let exposure ← fieldOr event "call_amount" asDecimal 0
    pure (some (memberId, exposure))
  else if eventType event = [.literal "settlement.failed"] then do
    let exposure ← fieldOr event "amount" asDecimal 0
    match failedMember event with
    | none => pure none
    | some value => do
        let memberId ← parsed "from_member_id" (ofText uuid?) value
        pure (some (memberId, exposure))
  else pure none

/-- The message reaches an insert that leaves the trace out: it asks for a deposit that passes its
checks, or for a waterfall that runs and finds something to draw.  Both need types of rows that the
schema may refuse. -/
def DropsTrace (backend : Backend) (loop : Loop) (event : Payload) (db : Database) : Prop :=
  match loop with
  | .collateralManager =>
      eventType event = [.literal "collateral.deposit.requested"] ∧ ∃ memberId amount currency,
        field event "member_id" (ofText uuid?) = .ok memberId ∧
          field event "amount" asDecimal = .ok amount ∧
          fieldOr event "currency" (ofText name?) "USD" = .ok currency ∧
          Deposits backend memberId amount currency db
  | .liquidationEngine => .defaulterMargin ∈ backend.stepTypes ∧
      ∃ memberId exposure, defaultOf event = .ok (some (memberId, exposure)) ∧
        Waterfall.Runnable backend memberId exposure db ∧
        ¬Waterfall.DrawsNothing backend memberId exposure db
  | _ => False

/-- A message that was processed before, or reaches no insert that leaves the trace out. -/
def Visit.Traceable (backend : Backend) (db : Database) : Visit → Prop
  | .loop delivery => ∀ event, delivery.message = .ok event →
      (eventId event ≠ [] ∧ delivery.mark event ∈ db.processedEvents) ∨
        ¬DropsTrace backend delivery.loop event db
  | .callback .. => True

/-- The committed database and the rows that the chain has written. -/
structure Chain where
  committed : Database
  events : List OutboxEvent
  transitions : List StateTransition

/-- The rows behind those of the committed database are written by the chain. -/
def Chain.advance (chain : Chain) (after : Database) : Chain where
  committed := after
  events := chain.events ++ after.outboxEvents.drop chain.committed.outboxEvents.length
  transitions :=
    chain.transitions ++ after.stateTransitions.drop chain.committed.stateTransitions.length

/-- What happens next. -/
inductive ChainLabel
  | submit
  | visit (visit : Visit)
  | elsewhere

/-- A chain starts with requests and events that have the trace, and goes on with the messages of
its own events, each handled by any service, up to any of its commits; in between anything else may
be committed. -/
inductive ChainStep (backend : Backend) (traceId : Uuid) : Chain → ChainLabel → Chain → Prop
  | submit {chain : Chain} (taken : List String) (key : Text) (request : Gateway.TradeSubmitRequest)
      {trace : TraceContext} (own : trace.traceId = traceId) :
      ChainStep backend traceId chain .submit
        (chain.advance (Session.commitAlone (server backend)
          (Gateway.submitTrade backend taken key request trace) chain.committed))
  | receive {chain : Chain} {visit : Visit} {event : Payload} {after : Database}
      (decoded : visit.event = .ok event) (own : event.get? "trace_id" = some (.uuid traceId))
      (reached : after ∈ visit.commits backend chain.committed) :
      ChainStep backend traceId chain (.visit visit) (chain.advance after)
  | consume {chain : Chain} {visit : Visit} {row : OutboxEvent} {message : Outbox.KafkaMessage}
      {after : Database} (emitted : row ∈ chain.events)
      (published : Outbox.messageOf row = .ok message)
      (decoded : visit.event = .ok (Dispatch.received message))
      (reached : after ∈ visit.commits backend chain.committed) :
      ChainStep backend traceId chain (.visit visit) (chain.advance after)
  | elsewhere {chain : Chain} (after : Database) :
      ChainStep backend traceId chain .elsewhere { chain with committed := after }

/-- Every row of the chain carries the trace. -/
structure Chain.Carries (traceId : Uuid) (chain : Chain) : Prop where
  events : ∀ event ∈ chain.events, event.Carries traceId
  transitions : ∀ transition ∈ chain.transitions, transition.Carries traceId

/-- The messages of the chain reach no insert that leaves the trace out. -/
def Traceable (backend : Backend) (chain : Chain) : ChainLabel → Prop
  | .visit visit => visit.Traceable backend chain.committed
  | _ => True

variable {backend : Backend} {traceId : Uuid} {db after : Database}

/-- Under a condition on the first state, the trace is carried and the condition kept. -/
def Tracks (traceId : Uuid) (condition : Database → Prop) (db after : Database) : Prop :=
  condition db → Traced traceId db after ∧ condition after

variable {condition : Database → Prop}

instance : Std.Refl (Tracks traceId condition) := ⟨fun db holds => ⟨Std.Refl.refl db, holds⟩⟩

instance : IsTrans Database (Tracks traceId condition) where
  trans _ _ _ first second holds := by
    obtain ⟨sooner, kept⟩ := first holds
    obtain ⟨later, kept⟩ := second kept
    exact ⟨IsTrans.trans _ _ _ sooner later, kept⟩

/-- Sessions that commit only states in which the trace has been carried. -/
abbrev Tracking {α : Type} (traceId : Uuid) (condition : Database → Prop) (db : Database)
    (session : Session Database Failure α) : Prop :=
  Keeps (fun state => Traced traceId db state ∧ condition state) (Tracks traceId condition) session

theorem tracks_survive (old new : Database) (before : Traced traceId db old ∧ condition old)
    (step : Tracks traceId condition old new)
    (_ : (server backend).deferred old new = .ok ()) : Traced traceId db new ∧ condition new := by
  obtain ⟨traced, holds⟩ := step before.2
  exact ⟨IsTrans.trans _ _ _ before.1 traced, holds⟩

theorem tracking_commit : Tracking traceId condition db (commit (server backend)) :=
  Session.keeps_commit tracks_survive

/-- A parsed value is used as it was parsed. -/
theorem tracking_bind_orRaise {α β : Type} {value : Except Failure α}
    {next : α → Session Database Failure β}
    (tail : ∀ parsed, value = .ok parsed → Tracking traceId condition db (next parsed)) :
    Tracking traceId condition db (orRaise value >>= next) := by
  cases value with
  | ok parsed => exact tail parsed rfl
  | error failure => exact Session.keeps_raise failure

theorem tracking_execute {α : Type} {code : Sql α}
    (tracks : Transaction.Respects (Tracks traceId condition) code) :
    Tracking traceId condition db (do let _ ← execute (server backend) code) :=
  Session.keeps_bind (Session.keeps_execute tracks) fun _ => Session.keeps_pure ()

/-- Code that carries the trace whatever the state is. -/
theorem tracks_of_tracing (always : ∀ db, condition db) {α : Type} {code : Sql α}
    (tracing : Tracing traceId code) :
    Transaction.Respects (Tracks traceId condition) code :=
  fun _ _ after ran _ => ⟨tracing ran, always after⟩

variable {trace : TraceContext} {event : Payload}

theorem tracking_processTradeEvent (always : ∀ db, condition db) (event : Payload) :
    Tracking trace.traceId condition db (processTradeEvent backend event trace) :=
  keeps_processTradeEvent tracks_survive
    (fun _ _ => tracks_of_tracing always (Novation.tracing_novateTrade _ _))
    fun _ _ => tracks_of_tracing always (Novation.tracing_rejectTrade _ _)

theorem tracking_handleNettingTrigger (always : ∀ db, condition db) (event : Payload)
    (surroundings : Surroundings) :
    Tracking (fromKafkaPayload event surroundings.generated).traceId condition db
      (handleNettingTrigger backend event surroundings) :=
  keeps_handleNettingTrigger tracks_survive
    fun _ _ => tracks_of_tracing always (Netting.tracing_runNettingCycle _ _)

theorem tracking_settleEvent (always : ∀ db, condition db) (delivery : Delivery)
    (event : Payload) :
    Tracking (fromKafkaPayload event delivery.surroundings.generated).traceId condition db
      (ConsumeLoops.settleEvent backend delivery event) := by
  have respected : Settlement.RespectedFor backend (Tracks
      (fromKafkaPayload event delivery.surroundings.generated).traceId condition)
        (fromKafkaPayload event delivery.surroundings.generated) :=
    (Settlement.respectedFor_traced _).mono fun traced _ => ⟨traced, always _⟩
  exact Session.keeps_bind (keeps_orRaise _) fun _ => Session.keeps_bind (keeps_asUuid _)
    fun _ => Session.keeps_bind
      (Settlement.keeps_settleInstruction_trace respected tracks_survive _ _ _) fun _ =>
        Session.keeps_pure ()

/-- A deposit that returns has passed its checks. -/
theorem deposits_of_ok {memberId : Uuid} {amount : ℚ} {currency : String}
    {receipt : Collateral.Receipt}
    (ran : Collateral.depositCollateral backend memberId amount currency db =
      .ok (receipt, after)) : Deposits backend memberId amount currency db := by
  obtain ⟨_, _, checked, ran⟩ := bind_eq_ok.mp ran
  obtain ⟨positive, rfl⟩ := Transaction.require_eq_ok.mp checked
  obtain ⟨_, _, ⟨⟩, ran⟩ := bind_eq_ok.mp ran
  obtain ⟨memberAcct, _, member, ran⟩ := bind_eq_ok.mp ran
  obtain ⟨memberAcct_found, rfl⟩ := Collateral.orInvalid_eq_ok.mp member
  obtain ⟨ccpAcct, _, ccp, ran⟩ := bind_eq_ok.mp ran
  obtain ⟨ccpAcct_found, rfl⟩ := Collateral.orInvalid_eq_ok.mp ccp
  obtain ⟨journalId, posted, post, -⟩ := bind_eq_ok.mp ran
  obtain ⟨_, _, ⟨⟩, post⟩ := bind_eq_ok.mp post
  obtain ⟨⟨⟩, opened, journal, post⟩ := bind_eq_ok.mp post
  obtain ⟨admitted, rfl⟩ := insertJournal_eq_ok.mp journal
  obtain ⟨⟨⟩, debited, debit, -⟩ := bind_eq_ok.mp post
  obtain ⟨stored, zero, stored_eq, zero_eq, sided, -⟩ := insertJournalEntry_eq_ok.mp debit
  rw [backend.store_zero, Option.some.injEq] at zero_eq
  subst zero_eq
  have stored_pos : 0 < stored := by
    rcases sided with ⟨stored_pos, -⟩ | ⟨-, absurd_positive⟩
    · exact stored_pos
    · exact absurd absurd_positive (lt_irrefl 0)
  exact ⟨positive, by rw [memberAcct_found]; rfl, by rw [ccpAcct_found]; rfl, admitted,
    by rw [stored_eq]; exact stored_pos⟩

theorem deposits_congr {memberId : Uuid} {amount : ℚ} {currency : String}
    (members : after.members = db.members) (accounts : after.accounts = db.accounts) :
    Deposits backend memberId amount currency after ↔
      Deposits backend memberId amount currency db := by
  have account : Collateral.getAccount after memberId .collateral .available currency =
      Collateral.getAccount db memberId .collateral .available currency := by
    rw [Collateral.getAccount, Collateral.getAccount, accounts]
  have ccp : Collateral.getCcpAccount after .settlement .available currency =
      Collateral.getCcpAccount db .settlement .available currency := by
    rw [Collateral.getCcpAccount, Collateral.getCcpAccount, accounts, members]
  constructor
  · rintro ⟨positive, memberAcct, ccpAcct, admitted, stored⟩
    exact ⟨positive, account ▸ memberAcct, ccp ▸ ccpAcct, admitted, stored⟩
  · rintro ⟨positive, memberAcct, ccpAcct, admitted, stored⟩
    exact ⟨positive, account.symm ▸ memberAcct, ccp.symm ▸ ccpAcct, admitted, stored⟩

/-- What decides is in the members, the accounts and the entries. -/
theorem dropsTrace_congr (loop : Loop) (event : Payload) (members : after.members = db.members)
    (accounts : after.accounts = db.accounts)
    (entries : after.journalEntries = db.journalEntries) :
    DropsTrace backend loop event after ↔ DropsTrace backend loop event db := by
  cases loop with
  | collateralManager => simp only [DropsTrace, deposits_congr members accounts]
  | liquidationEngine =>
      have nothing : ∀ memberId exposure,
          Waterfall.DrawsNothing backend memberId exposure after ↔
            Waterfall.DrawsNothing backend memberId exposure db := fun _ _ =>
        Waterfall.drawsNothing_congr (Waterfall.poolsOf_congr members accounts entries)
      simp only [DropsTrace, Waterfall.runnable_congr members accounts entries, nothing]
  | _ => exact Iff.rfl

/-- A message that reaches none of the two inserts. -/
abbrev Clean (backend : Backend) (loop : Loop) (event : Payload) (db : Database) : Prop :=
  ¬DropsTrace backend loop event db

theorem tracks_depositCollateral {memberId : Uuid} {amount : ℚ} {currency : String}
    (asked : eventType event = [.literal "collateral.deposit.requested"])
    (member : field event "member_id" (ofText uuid?) = .ok memberId)
    (sum : field event "amount" asDecimal = .ok amount)
    (unit : fieldOr event "currency" (ofText name?) "USD" = .ok currency) :
    Transaction.Respects (Tracks traceId (Clean backend .collateralManager event))
      (Collateral.depositCollateral backend memberId amount currency) :=
  fun _ _ _ ran clean =>
    absurd ⟨asked, memberId, amount, currency, member, sum, unit, deposits_of_ok ran⟩ clean

theorem tracking_handleCollateralEvent (event : Payload) :
    Tracking traceId (Clean backend .collateralManager event) db
      (handleCollateralEvent backend event) := by
  rw [handleCollateralEvent]
  split
  · next asked =>
      exact tracking_bind_orRaise fun memberId member => tracking_bind_orRaise fun amount sum =>
        tracking_bind_orRaise fun currency unit =>
          tracking_execute (tracks_depositCollateral asked member sum unit)
  · next other =>
      have always : ∀ db, Clean backend .collateralManager event db :=
        fun _ drops => other drops.1
      split
      · exact tracking_bind_orRaise fun _ _ => tracking_bind_orRaise fun _ _ =>
          tracking_execute (tracks_of_tracing always
            (Collateral.respects_transferToMargin admitsPostings_traced ..))
      · exact Session.keeps_pure ()

theorem tracks_executeWaterfall {memberId : Uuid} {triggerReason : Text} {exposure : ℚ}
    (asked : defaultOf event = .ok (some (memberId, exposure))) :
    Transaction.Respects (Tracks trace.traceId (Clean backend .liquidationEngine event))
      (Waterfall.executeWaterfall backend memberId triggerReason exposure (some trace)) := by
  intro db outcome after ran clean
  have nothing : Waterfall.DrawsNothing backend memberId exposure db := by
    by_contra draws
    exact clean ⟨SchemaChecks.admitted_of_executeWaterfall ran, memberId, exposure, asked,
      (Waterfall.executeWaterfall_ran ran).2, draws⟩
  have undrawn := Waterfall.undrawn_executeWaterfall nothing ran
  refine ⟨undrawn.toTraced, ?_⟩
  rintro ⟨-, member, amount, asked', -, draws⟩
  rw [asked, Except.ok.injEq, Option.some.injEq, Prod.mk.injEq] at asked'
  obtain ⟨rfl, rfl⟩ := asked'
  exact draws ((Waterfall.drawsNothing_congr undrawn.pools).mpr nothing)

theorem tracking_handleDefaultEvent (event : Payload) :
    Tracking trace.traceId (Clean backend .liquidationEngine event) db
      (handleDefaultEvent backend event trace) := by
  rw [handleDefaultEvent]
  split
  · next breached =>
      refine tracking_bind_orRaise fun memberId member => tracking_bind_orRaise fun exposure sum =>
        tracking_execute (tracks_executeWaterfall ?_)
      rw [defaultOf, if_pos breached, member, sum]
      rfl
  · next sound =>
      split
      · next failed =>
          apply tracking_bind_orRaise
          intro exposure sum
          split
          · exact Session.keeps_pure ()
          · next value payer =>
              refine tracking_bind_orRaise fun memberId member =>
                tracking_execute (tracks_executeWaterfall ?_)
              rw [defaultOf, if_neg sound, if_pos failed, sum, payer]
              change (do
                let memberId ← parsed "from_member_id" (ofText uuid?) value
                pure (some (memberId, exposure)) : Except Failure (Option (Uuid × ℚ))) = _
              rw [member]
              rfl
      · exact Session.keeps_pure ()

/-- The mark leaves everything else as it is. -/
theorem tracks_processIfNew (kept : ∀ db after : Database, after.members = db.members →
      after.accounts = db.accounts → after.journalEntries = db.journalEntries →
        condition db → condition after) (name : String) (eventId : Text) :
    Transaction.Respects (Tracks traceId condition) (processIfNew name eventId) := by
  intro db new after ran holds
  refine ⟨tracing_processIfNew name eventId ran, ?_⟩
  obtain ⟨-, ⟨-, -, rfl⟩ | ⟨-, -, rfl⟩⟩ := processIfNew_cases ran
  · exact holds
  · exact kept db _ rfl rfl rfl holds

theorem tracking_isNew (kept : ∀ db after : Database, after.members = db.members →
      after.accounts = db.accounts → after.journalEntries = db.journalEntries →
        condition db → condition after) (name : String) (event : Payload) :
    Tracking traceId condition db (isNew backend name event) := by
  rw [isNew]
  split
  · exact Session.keeps_pure true
  · exact Session.keeps_execute (tracks_processIfNew kept _ _)

theorem traceId_fromKafkaPayload (own : event.get? "trace_id" = some (.uuid traceId))
    (generated : Uuid) : (fromKafkaPayload event generated).traceId = traceId := by
  rw [fromKafkaPayload, own]
  rfl

theorem tracking_handler (own : event.get? "trace_id" = some (.uuid traceId))
    (delivery : Delivery) :
    Tracking traceId (Clean backend delivery.loop event) db (delivery.handler backend event) := by
  have own := traceId_fromKafkaPayload own delivery.surroundings.generated
  rw [ConsumeLoops.Delivery.handler]
  cases delivery.loop with
  | settlementEngine => exact own ▸ tracking_settleEvent (fun _ drops => drops) delivery event
  | liquidationEngine => exact own ▸ tracking_handleDefaultEvent event
  | collateralManager => exact tracking_handleCollateralEvent event
  | marginEngine =>
      exact own ▸ tracking_execute
        (tracks_of_tracing (fun _ drops => drops) (Margin.tracing_recalculateMargins _))
  | complianceMonitor => exact Session.keeps_pure ()

theorem tracking_work (own : event.get? "trace_id" = some (.uuid traceId)) (delivery : Delivery) :
    Tracking traceId (Clean backend delivery.loop event) db (delivery.work backend event) := by
  have new : Tracking traceId (Clean backend delivery.loop event) db
      (isNew backend delivery.loop.name event) :=
    tracking_isNew (fun _ _ members accounts entries clean drops =>
      clean ((dropsTrace_congr _ _ members accounts entries).mp drops)) _ _
  apply Session.keeps_bind new
  intro isNew
  cases isNew with
  | true => exact Session.keeps_bind (tracking_handler own delivery) fun _ =>
      Session.keeps_bind tracking_commit fun _ => Session.keeps_pure true
  | false => exact Session.keeps_bind tracking_commit fun _ => Session.keeps_pure false

theorem tracking_claimEvent (event : Payload) :
    Tracking traceId (fun _ => True) db (ConsumeLoops.claimEvent backend event) := by
  rw [ConsumeLoops.claimEvent]
  split
  · exact Session.keeps_pure true
  · exact Session.keeps_bind
      (Session.keeps_execute (tracks_processIfNew (fun _ _ _ _ _ _ => trivial) _ _)) fun new =>
        Session.keeps_bind tracking_commit fun _ => Session.keeps_pure new

theorem tracking_handleMessage (own : event.get? "trace_id" = some (.uuid traceId))
    (callback : Callback) (surroundings : Surroundings) :
    Tracking traceId (fun _ => True) db (handleMessage backend callback event surroundings) := by
  have own := traceId_fromKafkaPayload own surroundings.generated
  have body : Tracking traceId (fun _ => True) db
      (callback.service.body backend event surroundings) := by
    cases callback with
    | tradeIngestion => exact own ▸ tracking_processTradeEvent (fun _ => trivial) event
    | nettingEngine =>
        exact own ▸ tracking_handleNettingTrigger (fun _ => trivial) event surroundings
  refine Session.keeps_bind (tracking_isNew (fun _ _ _ _ _ _ => trivial) _ _) fun new => ?_
  cases new with
  | true => exact Session.keeps_bind body fun _ => tracking_commit
  | false => exact tracking_commit

/-- Nothing is written for an event that was processed before. -/
theorem traced_of_processed {delivery : Delivery} (identified : eventId event ≠ [])
    (processed : delivery.mark event ∈ db.processedEvents) :
    ∀ state ∈ committedStates (delivery.work backend event) db, Traced traceId db state := by
  have sound : ∀ after : Connection Database, after.committed = db → after.working = db →
      after.history = [] → Sound (fun state => Traced traceId db state ∧ True)
        (Tracks traceId fun _ => True) after := by
    rintro after committed working history
    refine ⟨committed.symm ▸ ⟨Std.Refl.refl db, trivial⟩, ?_, by simp [history]⟩
    rw [committed, working]
    exact Std.Refl.refl db
  have finish : Tracking traceId (fun _ => True) db
      (do commit (server backend)
          pure false) :=
    Session.keeps_bind tracking_commit fun _ => Session.keeps_pure false
  intro state member
  rw [committedStates, ConsumeLoops.Delivery.work, ConsumeLoops.isNew, if_neg identified] at member
  cases known : uuid? (eventId event) with
  | none =>
      obtain ⟨status, -, raised⟩ := Session.execute_idleAt_error (server backend) []
        (processIfNew_of_unidentified known delivery.loop.name db)
      rw [Session.connect_eq_idleAt, Session.bind_of_error raised] at member
      cases member
  | some id =>
      have old := processIfNew_of_mem (by simp [known]) processed
      rw [Session.connect_eq_idleAt, Session.bind_of_ok (Session.execute_idleAt old)] at member
      exact ((finish _ (sound _ rfl rfl rfl)).history state member).1

/-- A traceable message with the trace carries it to every commit. -/
theorem traced_of_traceable {visit : Visit} (decoded : visit.event = .ok event)
    (own : event.get? "trace_id" = some (.uuid traceId)) (traceable : visit.Traceable backend db) :
    ∀ state ∈ visit.commits backend db, Traced traceId db state := by
  have committed : ∀ {α : Type} {condition : Database → Prop}
      {session : Session Database Failure α}, Tracking traceId condition db session →
      condition db → ∀ state ∈ committedStates session db, Traced traceId db state :=
    fun tracking holds state member => (Session.committedStates_of_keeps tracking
      ⟨Std.Refl.refl db, holds⟩ state member).1
  cases visit with
  | callback callback event surroundings =>
      cases decoded
      exact committed (tracking_handleMessage own callback surroundings) trivial
  | loop delivery =>
      have message : delivery.message = .ok event := decoded
      simp only [Visit.commits, ConsumeLoops.Delivery.pass, message]
      split
      · simp
      · split
        · exact committed (tracking_claimEvent event) trivial
        · rcases traceable event message with ⟨identified, processed⟩ | clean
          · exact traced_of_processed identified processed
          · exact committed (tracking_work own delivery) clean

theorem Chain.Carries.advance {chain : Chain} (carries : chain.Carries traceId)
    (traced : Traced traceId chain.committed after) : (chain.advance after).Carries traceId := by
  constructor
  · intro event member
    rcases List.mem_append.mp member with old | new
    · exact carries.events event old
    · exact traced.events.drop event new
  · intro transition member
    rcases List.mem_append.mp member with old | new
    · exact carries.transitions transition old
    · exact traced.transitions.drop transition new

theorem carries_step {chain next : Chain} {label : ChainLabel} (carries : chain.Carries traceId)
    (traceable : Traceable backend chain label)
    (step : ChainStep backend traceId chain label next) : next.Carries traceId := by
  cases step with
  | submit taken key request own =>
      subst own
      exact carries.advance
        (Session.related_commitAlone _ (Gateway.tracing_submitTrade taken key request) _)
  | receive decoded own reached =>
      exact carries.advance (traced_of_traceable decoded own traceable _ reached)
  | consume emitted published decoded reached =>
      have own := (carries.events _ emitted).2
      rw [← Dispatch.received_of_messageOf published] at own
      exact carries.advance (traced_of_traceable decoded own traceable _ reached)
  | elsewhere after => exact ⟨carries.events, carries.transitions⟩

/-- Where no message of a chain reaches an insert that leaves the trace out, every event and every
transition that the chain writes carries the trace of its start. -/
theorem carries_of_traceable {start last : Chain} (events : start.events = [])
    (transitions : start.transitions = [])
    (run : Run (ChainStep backend traceId) (Traceable backend) start last) :
    last.Carries traceId := by
  have initially : start.Carries traceId := ⟨by simp [events], by simp [transitions]⟩
  have preserved : ∀ before label after, before.Carries traceId → Traceable backend before label →
      ChainStep backend traceId before label after → after.Carries traceId :=
    fun _ _ _ => carries_step
  exact run.invariant preserved initially

/-- The migrated schema refuses the rows that come before either insert. -/
theorem not_dropsTrace_migrated (loop : Loop) (event : Payload) (db : Database) :
    ¬DropsTrace migratedBackend loop event db := by
  cases loop with
  | collateralManager =>
      rintro ⟨-, memberId, amount, currency, -, -, -, deposits⟩
      exact absurd deposits.admitted (by decide)
  | liquidationEngine =>
      rintro ⟨admitted, -⟩
      exact absurd admitted (by decide)
  | settlementEngine | marginEngine | complianceMonitor => exact not_false

theorem traceable_migrated (chain : Chain) (label : ChainLabel) :
    Traceable migratedBackend chain label := by
  cases label with
  | visit visit =>
      cases visit with
      | loop delivery => exact fun event _ => .inr (not_dropsTrace_migrated _ event _)
      | callback called event surroundings => exact trivial
  | submit | elsewhere => exact trivial

/-- **Trace propagation**: under the migrated schema every event and every transition that a chain
writes carries the trace of its start. -/
theorem carries_of_run {start last : Chain} (events : start.events = [])
    (transitions : start.transitions = [])
    (run : Run (ChainStep migratedBackend traceId) unrestricted start last) :
    last.Carries traceId :=
  carries_of_traceable events transitions
    (run.mono fun chain label _ => traceable_migrated chain label)

/-- The chain of a request, before it is submitted. -/
def beforeRequest : Chain := ⟨tradeHouse, [], []⟩

/-- The chain after a trade has been submitted. -/
def afterRequest : Chain :=
  beforeRequest.advance (Session.commitAlone (server migratedBackend)
    (Gateway.submitTrade migratedBackend [] [] ⟨"T-2", 3, 2, 1, 10, 9⟩ ⟨6, "alice", none⟩)
      tradeHouse)

/-- The event of the submission. -/
def submittedEvent : OutboxEvent :=
  ⟨22, "trade", 20, "trade.submitted", "trades.submitted",
    [("trade_id", .uuid 20), ("external_trade_id", .literal "T-2"), ("instrument_id", .uuid 3),
      ("buyer_member_id", .uuid 2), ("seller_member_id", .uuid 1), ("quantity", .decimal 10),
      ("price", .decimal 9), ("actor", .literal "alice"), ("event_id", .uuid 21),
      ("trace_id", .uuid 6)], 0, none, some 6⟩

/-- Its message is handled. -/
def novationVisit : Visit := .callback .tradeIngestion submittedEvent.payload ⟨0, 0, 0⟩

/-- A submission and the novation of its trade write two events and three transitions. -/
theorem carries_of_run_beforeRequest :
    ∃ last, Run (ChainStep migratedBackend 6) unrestricted beforeRequest last ∧
      last.events.length = 2 ∧ last.transitions.length = 3 ∧ last.Carries 6 := by
  have emitted : afterRequest.events = [submittedEvent] := by decide +kernel
  have written : (novationVisit.commits migratedBackend afterRequest.committed).map
      (fun after => ((afterRequest.advance after).events.length,
        (afterRequest.advance after).transitions.length)) = [(2, 3)] := by decide +kernel
  obtain ⟨after, reached, counts⟩ : ∃ after ∈
      novationVisit.commits migratedBackend afterRequest.committed,
      ((afterRequest.advance after).events.length,
        (afterRequest.advance after).transitions.length) = (2, 3) := by
    apply List.mem_map.mp
    rw [written]
    exact List.mem_singleton_self _
  have message : Outbox.messageOf submittedEvent =
      .ok ⟨"trades.submitted", [.uuid 20], submittedEvent.payload, [("event_id", [.uuid 21])]⟩ :=
    rfl
  have run : Run (ChainStep migratedBackend 6) unrestricted beforeRequest
      (afterRequest.advance after) := by
    have submit : ChainStep migratedBackend 6 beforeRequest .submit afterRequest :=
      .submit [] [] ⟨"T-2", 3, 2, 1, 10, 9⟩ rfl
    have consume : ChainStep migratedBackend 6 afterRequest (.visit novationVisit)
        (afterRequest.advance after) :=
      .consume (by rw [emitted]; exact List.mem_singleton_self _) message rfl reached
    exact .snoc (.snoc (.refl _) trivial submit) trivial consume
  exact ⟨_, run, congrArg Prod.fst counts, congrArg Prod.snd counts, carries_of_run rfl rfl run⟩

end Chains

end ClearingHouse
