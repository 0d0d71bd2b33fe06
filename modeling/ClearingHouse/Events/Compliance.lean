import ClearingHouse.Events.Consumers

/-!
# Compliance alerts

The checks of the compliance monitor and the handling of one message.  An alert is written to the
outbox over the connection that the checks read from; that connection belongs to the read-only role
and is closed without a commit.
-/

namespace ClearingHouse

namespace Compliance

open Transactions Consumers
open Transactions.Session (commit_inTransaction connect_eq_idleAt execute
  execute_idleAt)

/-- An alert, and the aggregate it is filed under. -/
structure Alert where
  aggregateId : Text
  body : Payload
  deriving DecidableEq, Repr

/-- Roles of a connection. -/
inductive Role
  | ledgerUser
  | readonlyUser
  deriving DecidableEq, Repr

/-- `event_type` and `topic` of an alert. -/
def alertRaised : String := "compliance.alert.raised"

/-- `agg_uuid`: a new identifier where the text holds none. -/
def aggregateUuid (aggregateId : Text) : Sql Uuid :=
  match uuid? aggregateId with
  | some id => pure id
  | none => uuid4

/-- `_emit_alert`; only `ledger_user` has been granted `INSERT` on the outbox. -/
def emitAlert (role : Role) (alert : Alert) : Sql Unit := do
  let aggregateId ← aggregateUuid alert.aggregateId
  require (role = .ledgerUser) (.server (.insufficientPrivilege "outbox_events"))
  let _ ← insertOutboxEvent "compliance" aggregateId alertRaised alertRaised alert.body none

/-- Alerts are emitted one after the other, and returned. -/
def emitAll (role : Role) : List Alert → Sql (List Alert)
  | [] => pure []
  | alert :: alerts => do
      emitAlert role alert
      let rest ← emitAll role alerts
      pure (alert :: rest)

/-- `CONCENTRATION_THRESHOLD_PCT`. -/
def concentrationThresholdPct : ℚ := 30

/-- `MARGIN_COVERAGE_MIN_RATIO`. -/
def marginCoverageMinRatio : ℚ := 1

/-- `LARGE_TRADE_THRESHOLD_USD`. -/
def largeTradeThresholdUsd : ℚ := 10000000

variable (backend : Backend) (db : Database)

/-- Members with their open interest, `SUM(ABS(net_quantity))` over `member_positions`. -/
def openInterests : List (Uuid × ℚ) :=
  let keys := ((db.novatedTrades.filter fun leg => leg.status = .open).map fun leg =>
    (leg.memberId, leg.instrumentId)).dedup
  (keys.map Prod.fst).dedup.map fun memberId =>
    (memberId, ((keys.filter fun key => key.1 = memberId).map fun key =>
      |Margin.netQuantity (Margin.openLegs db key.1 key.2)|).sum)

/-- `total_oi`. -/
def totalOpenInterest : ℚ :=
  backend.sum (((openInterests db).filter fun row => row.2 ≠ 0).map fun row => backend.abs row.2)

/-- `pct` of a member. -/
def concentrationPct (openInterest : ℚ) : ℚ :=
  backend.mul (backend.div (backend.abs openInterest) (totalOpenInterest backend db)) 100

/-- What `check_member_concentration` finds. -/
def memberConcentration : List Alert :=
  if totalOpenInterest backend db = 0 then []
  else
    ((openInterests db).filter fun row =>
        concentrationThresholdPct < concentrationPct backend db row.2).map fun row =>
      ⟨[.uuid row.1],
        [("alert_type", .literal "member_concentration"), ("member_id", .uuid row.1),
          ("concentration_pct", .decimal (concentrationPct backend db row.2)),
          ("threshold_pct", .decimal concentrationThresholdPct),
          ("member_oi", .decimal (backend.abs row.2)),
          ("total_oi", .decimal (totalOpenInterest backend db))]⟩

/-- Rows of `margin_requirements` for initial margin. -/
def initialRequirements : List MarginRequirement :=
  db.marginRequirements.filter fun row => row.marginType = .initial

/-- `total_posted`. -/
def totalPosted : ℚ := ((initialRequirements db).map MarginRequirement.postedAmount).sum

/-- `total_required`. -/
def totalRequired : ℚ := ((initialRequirements db).map MarginRequirement.requiredAmount).sum

/-- `ratio`. -/
def coverageRatio : ℚ := backend.div (totalPosted db) (totalRequired db)

/-- What `check_margin_coverage` finds. -/
def marginCoverage : List Alert :=
  if totalRequired db = 0 then []
  else if coverageRatio backend db < marginCoverageMinRatio then
    [⟨[.literal "system"],
      [("alert_type", .literal "margin_coverage_low"),
        ("coverage_ratio", .decimal (coverageRatio backend db)),
        ("min_ratio", .decimal marginCoverageMinRatio),
        ("total_posted", .decimal (totalPosted db)),
        ("total_required", .decimal (totalRequired db))]⟩]
  else []

/-- `SUM(required_amount)` of every active member with requirements. -/
def memberExposures : List ℚ :=
  let active := (db.members.filter fun member => member.status = .active).map Member.id
  let rows := db.marginRequirements.filter fun row => row.memberId ∈ active
  (rows.map MarginRequirement.memberId).dedup.map fun memberId =>
    ((rows.filter fun row => row.memberId = memberId).map MarginRequirement.requiredAmount).sum

/-- `cover2_requirement`: the two largest exposures. -/
def coverTwoRequirement : ℚ :=
  backend.sum ((((memberExposures db).insertionSort (· ≥ ·)).take 2).filter (· ≠ 0))

/-- `total_fund`. -/
def totalFund : ℚ :=
  (((accountBalances db).filter fun row =>
    row.1.accountType = .defaultFund ∧ row.1.pool = .available ∧ 0 < row.2).map Prod.snd).sum

/-- What `check_default_fund_adequacy` finds. -/
def defaultFundAdequacy : List Alert :=
  if 0 < coverTwoRequirement backend db ∧ totalFund db < coverTwoRequirement backend db then
    [⟨[.literal "system"],
      [("alert_type", .literal "default_fund_inadequate"),
        ("total_fund", .decimal (totalFund db)),
        ("cover2_requirement", .decimal (coverTwoRequirement backend db)),
        ("shortfall", .decimal (backend.sub (coverTwoRequirement backend db) (totalFund db)))]⟩]
  else []

/-- `trade.get(key, default)`. -/
def fieldOf (trade : List (String × Text)) (key : String) (default : Text) : Text :=
  ((trade.find? fun field => field.1 = key).map Prod.snd).getD default

/-- `Decimal(str(trade_data.get(key, "0")))`. -/
def decimalOf (trade : List (String × Text)) (key : String) : Option ℚ :=
  decimal? (fieldOf trade key [.decimal 0])

/-- `notional`, if both numbers can be read. -/
def notional? (trade : List (String × Text)) : Option ℚ :=
  match decimalOf trade "quantity", decimalOf trade "price" with
  | some quantity, some price => some (backend.mul quantity price)
  | _, _ => none

/-- What `check_large_trade` finds. -/
def largeTrade (trade : List (String × Text)) (notional : ℚ) : List Alert :=
  if largeTradeThresholdUsd < notional then
    [⟨fieldOf trade "original_trade_id" [.literal "system"],
      [("alert_type", .literal "large_trade"),
        ("trade_id", .string (fieldOf trade "original_trade_id" [.literal "unknown"])),
        ("notional", .decimal notional), ("threshold", .decimal largeTradeThresholdUsd),
        ("buyer", .string (fieldOf trade "buyer_member_id" [])),
        ("seller", .string (fieldOf trade "seller_member_id" []))]⟩]
  else []

/-- The monitor of a check, over the connection of a role. -/
def runCheck (role : Role) : ComplianceCheck → Sql (List Alert)
  | .largeTrade trade =>
      match notional? backend trade with
      | none => raise (.raised .valueError [.literal "invalid decimal"])
      | some notional => emitAll role (largeTrade trade notional)
  | .memberConcentration => do
      let db ← read
      emitAll role (memberConcentration backend db)
  | .marginCoverage => do
      let db ← read
      emitAll role (marginCoverage backend db)
  | .allMonitors => do
      let db ← read
      let concentration ← emitAll role (memberConcentration backend db)
      let db ← read
      let coverage ← emitAll role (marginCoverage backend db)
      let db ← read
      let adequacy ← emitAll role (defaultFundAdequacy backend db)
      pure (concentration ++ coverage ++ adequacy)

/-- Checks one after the other. -/
def runChecks (role : Role) : List ComplianceCheck → Sql (List Alert)
  | [] => pure []
  | check :: checks => do
      let alerts ← runCheck backend role check
      let rest ← runChecks role checks
      pure (alerts ++ rest)

/-- `_handle_event`, with the alerts that the checks return. -/
def handleEvent (role : Role) (event : Payload) : Sql (List Alert) :=
  match complianceChecks event with
  | .ok checks => runChecks backend role checks
  | .error failure => raise failure

/-- A check that does not raise for what it reads from the event. -/
def readable : ComplianceCheck → Bool
  | .largeTrade trade => (notional? backend trade).isSome
  | _ => true

/-- The alerts that a check finds. -/
def alertsOf : ComplianceCheck → List Alert
  | .largeTrade trade =>
      match notional? backend trade with
      | some notional => largeTrade trade notional
      | none => []
  | .memberConcentration => memberConcentration backend db
  | .marginCoverage => marginCoverage backend db
  | .allMonitors =>
      memberConcentration backend db ++ marginCoverage backend db ++ defaultFundAdequacy backend db

/-- The checks of an event before one that raises. -/
def checksOf (event : Payload) : List ComplianceCheck :=
  match complianceChecks event with
  | .ok checks => checks.takeWhile (readable backend)
  | .error _ => []

/-- Whether the two connections of a message can be opened. -/
structure Connections where
  readonly : Except Failure Unit
  ledger : Except Failure Unit

/-- `process_if_new` on a connection of its own, committed before the event is handled. -/
def claim (ledger : Except Failure Unit) (event : Payload) : Except Failure Bool × Database :=
  if eventId event = [] then (.ok true, db)
  else
    match ledger with
    | .error failure => (.error failure, db)
    | .ok () =>
        let session : Session Database Failure Bool := do
          let isNew ← execute (server backend) (processIfNew "compliance-monitor" (eventId event))
          Session.commit (server backend)
          pure isNew
        ((session (connect db)).1, (session (connect db)).2.committed)

/-- What a message has led to by the time its offset is committed: the committed state, and the
checks that it called for, with the state they saw. -/
structure Reaction where
  committed : Database
  seen : Database
  checks : List ComplianceCheck

/-- The body of `consume_loop` for one message, which is decoded or not. -/
def consume (role : Role) (connections : Connections) (message : Except Failure Payload) :
    Reaction :=
  match message, connections.readonly with
  | .ok event, .ok () =>
      match claim backend db connections.ledger event with
      | (.ok true, marked) =>
          { committed :=
              Session.finalState (execute (server backend) (handleEvent backend role event)) marked
            seen := marked
            checks := checksOf backend event }
      | (_, marked) => ⟨marked, marked, []⟩
  | _, _ => ⟨db, db, []⟩

/-- The outbox has a row with an alert as its payload. -/
def Raised (alert : Alert) : Prop :=
  ∃ row ∈ db.outboxEvents, row.eventType = alertRaised ∧
    ∃ id : Uuid, row.payload = alert.body.set "event_id" (.uuid id)

/-- Every alert that the checks have found is committed. -/
def Reaction.Durable (reaction : Reaction) : Prop :=
  ∀ check ∈ reaction.checks, ∀ alert ∈ alertsOf backend reaction.seen check,
    Raised reaction.committed alert

/-- Nobody has more than the threshold of the open interest. -/
def Unconcentrated : Prop :=
  totalOpenInterest backend db = 0 ∨
    ∀ row ∈ openInterests db, concentrationPct backend db row.2 ≤ concentrationThresholdPct

/-- The posted initial margin covers the required one. -/
def Covered : Prop := totalRequired db = 0 ∨ marginCoverageMinRatio ≤ coverageRatio backend db

/-- The default fund covers the two largest exposures. -/
def Adequate : Prop :=
  coverTwoRequirement backend db ≤ 0 ∨ coverTwoRequirement backend db ≤ totalFund db

/-- A check finds its threshold kept. -/
def Quiet : ComplianceCheck → Prop
  | .largeTrade trade => ∀ notional, notional? backend trade = some notional →
      notional ≤ largeTradeThresholdUsd
  | .memberConcentration => Unconcentrated backend db
  | .marginCoverage => Covered backend db
  | .allMonitors => Unconcentrated backend db ∧ Covered backend db ∧ Adequate backend db

variable {backend} {db}

theorem memberConcentration_eq_nil :
    memberConcentration backend db = [] ↔ Unconcentrated backend db := by
  unfold memberConcentration Unconcentrated
  split
  case isTrue none => simp [none]
  case isFalse some => simp [some, List.filter_eq_nil_iff]

theorem marginCoverage_eq_nil : marginCoverage backend db = [] ↔ Covered backend db := by
  unfold marginCoverage Covered
  split
  case isTrue none => simp [none]
  case isFalse some =>
    split
    case isTrue low => simpa [some] using low
    case isFalse high => simpa [some] using high

theorem defaultFundAdequacy_eq_nil :
    defaultFundAdequacy backend db = [] ↔ Adequate backend db := by
  unfold defaultFundAdequacy Adequate
  split
  case isTrue low => simpa using ⟨low.1, low.2⟩
  case isFalse high =>
    rw [not_and_or, not_lt, not_lt] at high
    simpa using high

/-- A check finds nothing exactly if its threshold is kept. -/
theorem alertsOf_eq_nil (check : ComplianceCheck) :
    alertsOf backend db check = [] ↔ Quiet backend db check := by
  cases check with
  | largeTrade trade =>
      rw [alertsOf, Quiet]
      cases notional? backend trade with
      | none => simp
      | some notional =>
          by_cases large : largeTradeThresholdUsd < notional
          · simp [largeTrade, large]
          · simp [largeTrade, large, le_of_not_gt large]
  | memberConcentration => exact memberConcentration_eq_nil
  | marginCoverage => exact marginCoverage_eq_nil
  | allMonitors =>
      rw [alertsOf, Quiet, List.append_eq_nil_iff, List.append_eq_nil_iff,
        memberConcentration_eq_nil, marginCoverage_eq_nil, defaultFundAdequacy_eq_nil, and_assoc]

variable (backend) in
/-- The monitors find the same. -/
structure SameSight (db after : Database) : Prop where
  concentration : memberConcentration backend after = memberConcentration backend db
  coverage : marginCoverage backend after = marginCoverage backend db
  adequacy : defaultFundAdequacy backend after = defaultFundAdequacy backend db

theorem SameSight.refl (db : Database) : SameSight backend db db := ⟨rfl, rfl, rfl⟩

theorem SameSight.trans {middle after : Database} (first : SameSight backend db middle)
    (second : SameSight backend middle after) : SameSight backend db after :=
  ⟨second.concentration.trans first.concentration, second.coverage.trans first.coverage,
    second.adequacy.trans first.adequacy⟩

theorem SameSight.alertsOf {after : Database} (same : SameSight backend db after)
    (check : ComplianceCheck) : alertsOf backend after check = alertsOf backend db check := by
  cases check with
  | largeTrade trade => rfl
  | memberConcentration => exact same.concentration
  | marginCoverage => exact same.coverage
  | allMonitors =>
      rw [Compliance.alertsOf, same.concentration, same.coverage, same.adequacy]
      rfl

theorem aggregateUuid_apply (aggregateId : Text) (db : Database) :
    ∃ id nextUuid, aggregateUuid aggregateId db = .ok (id, { db with nextUuid }) := by
  rw [aggregateUuid]
  cases uuid? aggregateId with
  | some id => exact ⟨id, db.nextUuid, rfl⟩
  | none => exact ⟨_, _, rfl⟩

/-- An alert is emitted over the connection of a role that may insert. -/
theorem emitAlert_ledgerUser (backend : Backend) (alert : Alert) (db : Database) :
    ∃ after, emitAlert .ledgerUser alert db = .ok ((), after) ∧ SameSight backend db after := by
  obtain ⟨id, nextUuid, chosen⟩ := aggregateUuid_apply alert.aggregateId db
  rw [emitAlert, Transaction.bind_of_ok chosen]
  exact ⟨_, rfl, rfl, rfl, rfl⟩

theorem emitAlert_readonlyUser (alert : Alert) :
    emitAlert .readonlyUser alert db =
      .error (.server (.insufficientPrivilege "outbox_events")) := by
  obtain ⟨id, nextUuid, chosen⟩ := aggregateUuid_apply alert.aggregateId db
  rw [emitAlert, Transaction.bind_of_ok chosen]
  rfl

theorem emitAll_ledgerUser (backend : Backend) (alerts : List Alert) (db : Database) :
    ∃ after, emitAll .ledgerUser alerts db = .ok (alerts, after) ∧ SameSight backend db after := by
  induction alerts generalizing db with
  | nil => exact ⟨db, rfl, SameSight.refl db⟩
  | cons alert alerts induction =>
      obtain ⟨middle, emitted, sight⟩ := emitAlert_ledgerUser backend alert db
      obtain ⟨after, rest, sight'⟩ := induction middle
      refine ⟨after, ?_, sight.trans sight'⟩
      rw [emitAll, Transaction.bind_of_ok emitted, Transaction.bind_of_ok rest]
      rfl

/-- The read-only role raises at the first alert. -/
theorem emitAll_readonlyUser (alert : Alert) (alerts : List Alert) :
    emitAll .readonlyUser (alert :: alerts) db =
      .error (.server (.insufficientPrivilege "outbox_events")) :=
  Transaction.bind_of_error (emitAlert_readonlyUser alert)

/-- Over the connection of a role that may insert, a check returns the alerts that it finds. -/
theorem runCheck_ledgerUser {check : ComplianceCheck} (can : readable backend check = true)
    (db : Database) :
    ∃ after, runCheck backend .ledgerUser check db = .ok (alertsOf backend db check, after) ∧
      SameSight backend db after := by
  cases check with
  | largeTrade trade =>
      obtain ⟨notional, read⟩ := Option.isSome_iff_exists.mp can
      rw [runCheck, alertsOf, read]
      exact emitAll_ledgerUser backend _ db
  | memberConcentration => exact emitAll_ledgerUser backend _ db
  | marginCoverage => exact emitAll_ledgerUser backend _ db
  | allMonitors =>
      obtain ⟨first, concentration, sight⟩ :=
        emitAll_ledgerUser backend (memberConcentration backend db) db
      obtain ⟨second, coverage, sight'⟩ :=
        emitAll_ledgerUser backend (marginCoverage backend first) first
      obtain ⟨third, adequacy, sight''⟩ :=
        emitAll_ledgerUser backend (defaultFundAdequacy backend second) second
      have same := sight.trans sight'
      refine ⟨third, ?_, same.trans sight''⟩
      rw [runCheck, Transaction.bind_of_ok (Transaction.read_apply db),
        Transaction.bind_of_ok concentration, Transaction.bind_of_ok (Transaction.read_apply _),
        Transaction.bind_of_ok coverage, Transaction.bind_of_ok (Transaction.read_apply _),
        Transaction.bind_of_ok adequacy, sight.coverage, same.adequacy]
      rfl

/-- Over such a connection the checks of an event return what they find until one raises. -/
theorem runChecks_ledgerUser (checks : List ComplianceCheck)
    (can : ∀ check ∈ checks, readable backend check = true) (db : Database) :
    ∃ after, runChecks backend .ledgerUser checks db =
      .ok (checks.flatMap (alertsOf backend db), after) := by
  induction checks generalizing db with
  | nil => exact ⟨db, rfl⟩
  | cons check checks induction =>
      obtain ⟨middle, ran, sight⟩ := runCheck_ledgerUser (can check (by simp)) db
      obtain ⟨after, rest⟩ := induction (fun other member => can other (by simp [member])) middle
      have same : checks.flatMap (alertsOf backend middle) = checks.flatMap (alertsOf backend db) :=
        List.flatMap_congr fun other _ => sight.alertsOf other
      refine ⟨after, ?_⟩
      rw [runChecks, Transaction.bind_of_ok ran, Transaction.bind_of_ok rest, same]
      rfl

/-- A transaction that is not committed leaves the committed state. -/
theorem finalState_execute {α : Type} (code : Sql α) (db : Database) :
    Session.finalState (execute (server backend) code) db = db := by
  rw [Session.finalState, execute, if_neg (by simp [connect])]
  cases code (connect db).working with
  | ok pair => rfl
  | error failure => rfl

theorem ne_nil_of_uuid {text : Text} (identified : (uuid? text).isSome = true) : text ≠ [] := by
  rintro rfl
  cases identified

theorem claim_apply {event : Payload} (identified : (uuid? (eventId event)).isSome = true) :
    claim backend db (.ok ()) event =
      if ⟨"compliance-monitor", eventId event⟩ ∈ db.processedEvents then (.ok false, db)
      else (.ok true, db.marked ⟨"compliance-monitor", eventId event⟩) := by
  rw [claim, if_neg (ne_nil_of_uuid identified)]
  dsimp only
  rw [connect_eq_idleAt]
  split
  case isTrue processed =>
    rw [Session.bind_of_ok (execute_idleAt (processIfNew_of_mem identified processed)),
      Session.bind_of_ok (commit_inTransaction (accepted_of_same rfl))]
    rfl
  case isFalse new =>
    have accepted : (server backend).deferred db
        (db.marked ⟨"compliance-monitor", eventId event⟩) = .ok () := accepted_of_same rfl
    rw [Session.bind_of_ok (execute_idleAt (processIfNew_of_not_mem identified new)),
      Session.bind_of_ok (commit_inTransaction accepted)]
    rfl

/-- An identifier that is no uuid raises, and nothing is committed. -/
theorem claim_of_unidentified {event : Payload} (present : eventId event ≠ [])
    (unidentified : uuid? (eventId event) = none) :
    claim backend db (.ok ()) event =
      (.error (.server (.invalidTextRepresentation (eventId event))), db) := by
  obtain ⟨status, -, raised⟩ := Session.execute_idleAt_error (server backend) []
    (processIfNew_of_unidentified unidentified "compliance-monitor" db)
  rw [claim, if_neg present]
  dsimp only
  rw [connect_eq_idleAt, Session.bind_of_error raised]

/-- The mark of a message changes neither the outbox nor what the checks find. -/
theorem claim_kept (backend : Backend) (db : Database) (ledger : Except Failure Unit)
    (event : Payload) :
    (claim backend db ledger event).2.outboxEvents = db.outboxEvents ∧
      SameSight backend db (claim backend db ledger event).2 := by
  by_cases identified : eventId event = []
  · have skipped : claim backend db ledger event = (.ok true, db) := if_pos identified
    rw [skipped]
    exact ⟨rfl, SameSight.refl db⟩
  · cases ledger with
    | error failure =>
        have raised : claim backend db (.error failure) event = (.error failure, db) :=
          if_neg identified
        rw [raised]
        exact ⟨rfl, SameSight.refl db⟩
    | ok opened =>
        cases read : uuid? (eventId event) with
        | none =>
            rw [claim_of_unidentified identified read]
            exact ⟨rfl, SameSight.refl db⟩
        | some id =>
            rw [claim_apply (by simp [read])]
            split
            · exact ⟨rfl, SameSight.refl db⟩
            · exact ⟨rfl, rfl, rfl, rfl⟩

/-- Whatever a message leads to, the outbox is as before, and the checks saw what they would have
seen before. -/
theorem consume_kept (backend : Backend) (db : Database) (role : Role)
    (connections : Connections) (message : Except Failure Payload) :
    (consume backend db role connections message).committed.outboxEvents = db.outboxEvents ∧
      SameSight backend db (consume backend db role connections message).seen := by
  unfold consume
  cases message with
  | error failure => exact ⟨rfl, SameSight.refl db⟩
  | ok event =>
      cases opened : connections.readonly with
      | error failure => exact ⟨rfl, SameSight.refl db⟩
      | ok done =>
          have kept := claim_kept backend db connections.ledger event
          cases claimed : claim backend db connections.ledger event with
          | mk outcome marked =>
              rw [claimed] at kept
              simp only [claimed]
              cases outcome with
              | error failure => exact kept
              | ok isNew =>
                  cases isNew with
                  | false => exact kept
                  | true =>
                      refine ⟨?_, kept.2⟩
                      dsimp only
                      rw [finalState_execute]
                      exact kept.1

/-- The alerts of a message are durable exactly if each was in the outbox before, which, unless the
outbox had alerts before, is that every check of the message finds its threshold kept. -/
theorem durable_iff (backend : Backend) (db : Database) (role : Role) (connections : Connections)
    (message : Except Failure Payload) :
    ((consume backend db role connections message).Durable backend ↔
        ∀ check ∈ (consume backend db role connections message).checks,
          ∀ alert ∈ alertsOf backend db check, Raised db alert) ∧
      ((∀ row ∈ db.outboxEvents, row.eventType ≠ alertRaised) →
        ((consume backend db role connections message).Durable backend ↔
          ∀ check ∈ (consume backend db role connections message).checks,
            Quiet backend db check)) := by
  obtain ⟨outbox, sight⟩ := consume_kept backend db role connections message
  have before : (consume backend db role connections message).Durable backend ↔
      ∀ check ∈ (consume backend db role connections message).checks,
        ∀ alert ∈ alertsOf backend db check, Raised db alert := by
    simp only [Reaction.Durable, sight.alertsOf, Raised, outbox]
  refine ⟨before, fun fresh => before.trans (forall₂_congr fun check _ => ?_)⟩
  rw [← alertsOf_eq_nil, List.eq_nil_iff_forall_not_mem]
  refine forall_congr' fun alert => imp_congr_right fun _ => iff_false_intro ?_
  rintro ⟨row, member, raised, -⟩
  exact fresh row member raised

/-- The payload of a novated trade over 200 million. -/
def largeTradeEvent : Payload :=
  [("event_type", .literal "trade.novated"), ("event_id", .uuid 3),
    ("novated_trades", .objects [[("original_trade_id", [.uuid 2]),
      ("quantity", [.decimal 2000000]), ("price", [.decimal 100])]])]

/-- A house without any position. -/
def quietHouse : Database :=
  Database.opening [⟨0, ccpLei, .active, 0⟩] [] [] 10 Database.nodup_ccp
    Database.nodup_noAccountIds Database.nodup_noAccountKeys

/-- The alert of a large trade is lost with the connection that it was written over. -/
theorem not_durable_largeTrade :
    ¬(consume decimalBackend quietHouse .readonlyUser ⟨.ok (), .ok ()⟩
      (.ok largeTradeEvent)).Durable decimalBackend := by
  have checks : (consume decimalBackend quietHouse .readonlyUser ⟨.ok (), .ok ()⟩
      (.ok largeTradeEvent)).checks = checksOf decimalBackend largeTradeEvent := by
    decide +kernel
  have large : ∃ check ∈ checksOf decimalBackend largeTradeEvent,
      alertsOf decimalBackend quietHouse check ≠ [] := by decide +kernel
  obtain ⟨outbox, sight⟩ := consume_kept decimalBackend quietHouse
    .readonlyUser ⟨.ok (), .ok ()⟩ (.ok largeTradeEvent)
  obtain ⟨check, called, found⟩ := large
  obtain ⟨alert, member⟩ := List.exists_mem_of_ne_nil _ found
  intro durable
  rw [← sight.alertsOf] at member
  obtain ⟨row, inside, -⟩ := durable check (checks ▸ called) alert member
  rw [outbox] at inside
  cases inside

end Compliance

end ClearingHouse
