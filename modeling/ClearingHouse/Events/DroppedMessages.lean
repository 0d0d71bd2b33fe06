import ClearingHouse.Events.LostMessages

/-!
# Exactly the messages that are not lost

A block that has handled its message shows that the message and the rows were as the condition asks.
So of the messages that a loop takes on connections that hold, it drops those that miss the
condition and no others.
-/

namespace ClearingHouse

namespace ConsumeLoops

open Consumers SchemaChecks Transactions
open Transactions.Session (bind_eq_ok commit execute_eq_ok)

variable {backend : Backend} {delivery : Delivery} {event : Payload} {db after : Database}
  {progress : Progress}

theorem exitOf_eq_handled {outcome : Except Failure Bool} :
    exitOf outcome = .handled ↔ outcome = .ok true := by
  rcases outcome with failure | _ | _ <;> simp [exitOf]

/-- An event counts as new only if its identifier can be compared with the column. -/
theorem opened_of_isNew {name : String} {connection : Connection Database}
    (new : isNew backend name event (connect db) = (.ok true, connection)) :
    Identified event ∧ Opened db connection := by
  unfold isNew at new
  split at new
  · next absent =>
      cases new
      exact ⟨.inl absent, by simp [connect], rfl, db.processedEvents, rfl⟩
  · obtain ⟨working, ran, rfl⟩ := execute_eq_ok new
    obtain ⟨known, ⟨-, processed, -⟩ | ⟨-, -, rfl⟩⟩ := processIfNew_cases ran
    · cases processed
    · exact ⟨.inr known, by simp, rfl, _, rfl⟩

/-- A session that has returned. -/
theorem eq_of_fst_eq_ok {α : Type} {session : Session Database Failure α}
    {connection : Connection Database} {value : α} (returned : (session connection).1 = .ok value) :
    session connection = (.ok value, (session connection).2) :=
  Prod.ext returned rfl

/-- A block that has handled its message has returned from the handler and from the commit. -/
theorem returns_of_handled (decoded : delivery.message = .ok event)
    (works : delivery.loop ≠ .complianceMonitor)
    (handled : (delivery.pass backend db).exit = .handled) :
    ∃ connection middle last, isNew backend delivery.loop.name event (connect db) =
        (.ok true, connection) ∧ delivery.handler backend event connection = (.ok (), middle) ∧
      commit (server backend) middle = (.ok (), last) := by
  by_cases addressed : delivery.loop = .settlementEngine ∧ lacksInstruction event = true
  · simp only [Delivery.pass, decoded, addressed, and_self, if_true] at handled
    cases handled
  · rw [pass_of_work decoded addressed works] at handled
    have worked := eq_of_fst_eq_ok (exitOf_eq_handled.mp handled)
    obtain ⟨new, connection, asked, rest⟩ := bind_eq_ok worked
    cases new with
    | false =>
        obtain ⟨-, closed, -, ended⟩ := bind_eq_ok rest
        cases ended
    | true =>
        obtain ⟨⟨⟩, middle, ran, rest⟩ := bind_eq_ok rest
        obtain ⟨⟨⟩, last, committed, -⟩ := bind_eq_ok rest
        exact ⟨connection, middle, last, asked, ran, committed⟩

/-- A chain that has a script is registered. -/
theorem registered_of_script {chainRegistry : String → Option Settlement.ChainAdapter}
    {sign : Settlement.Bytes → String → Except Text Settlement.Bytes} {trace : TraceContext}
    {instruction : SettlementInstruction} {instrument : Instrument}
    {actions : List Settlement.Action}
    (scripted : Settlement.script backend chainRegistry sign trace instruction instrument =
      some actions) : Registered chainRegistry instruction := by
  intro onChain chainId named given
  rcases Settlement.script_cases onChain scripted with
    ⟨-, unchained⟩ | ⟨other, adapter, chain, -, registered, -⟩
  · exact absurd (unchained chainId named) given
  · obtain rfl : chainId = other := Option.some.inj (named.symm.trans chain)
    exact Option.isSome_iff_exists.mpr ⟨adapter, registered⟩

theorem settles_of_handled (settles : delivery.loop = .settlementEngine)
    (decoded : delivery.message = .ok event) (traceable : Traceable delivery.loop event)
    (fresh : Settlement.FreshJournals db)
    (handled : (delivery.pass migratedBackend db).exit = .handled) :
    Identified event ∧ delivery.Settles event db := by
  obtain ⟨connection, middle, last, new, ran, committed⟩ :=
    returns_of_handled decoded (by simp [settles]) handled
  obtain ⟨identified, opened⟩ := opened_of_isNew new
  obtain ⟨marks, working⟩ := opened.working
  rw [Delivery.handler, settles] at ran
  obtain ⟨value, _, read, ran⟩ := bind_eq_ok ran
  obtain ⟨held, rfl⟩ := orRaise_eq_ok read
  obtain ⟨instructionId, between, compared, ran⟩ := bind_eq_ok ran
  have reads := asUuid_eq_ok compared
  unfold asUuid at compared
  rw [reads] at compared
  cases compared
  obtain ⟨result, settled, returned, ran⟩ := bind_eq_ok ran
  cases ran
  have named : event.get? "instruction_id" = some (.uuid instructionId) := by
    rw [ofText_uuid_eq_ok.mp reads] at held
    unfold valueOf at held
    cases found : event.get? "instruction_id" with
    | none =>
        rw [found] at held
        cases held
    | some value =>
        rw [found] at held
        cases held
        rfl
  have numbered : Settlement.FreshJournals connection.working := by
    rw [working]
    exact fresh
  have scripted : ∀ instruction instrument,
      Settlement.pendingInstruction db instructionId = some (instruction, instrument) →
        Registered delivery.chainRegistry instruction ∧
          (Call.Posts delivery.chainRegistry delivery.sign instruction instrument →
            Settlement.Payable migratedBackend db instruction) := by
    intro instruction instrument pending
    have waiting : Settlement.pendingInstruction connection.working instructionId =
        some (instruction, instrument) := by
      rw [working]
      exact pending
    obtain ⟨actions, script, commits⟩ := Settlement.commitsAll_of_settleInstruction
      opened.unposted numbered returned committed waiting
    refine ⟨registered_of_script script, ?_⟩
    rw [working] at numbered commits
    exact (commitsAll_script (by decide) numbered script).mp commits
  refine ⟨identified, instructionId, named, fun instruction instrument pending =>
    ⟨traceable, (scripted instruction instrument pending).1⟩, ?_⟩
  intro instruction instrument pending posts
  exact payable_iff.mp ((scripted instruction instrument pending).2 posts)

theorem recalculates_of_handled (recalculates : delivery.loop = .marginEngine)
    (decoded : delivery.message = .ok event) (traceable : Traceable delivery.loop event)
    (handled : (delivery.pass migratedBackend db).exit = .handled) :
    Identified event ∧ delivery.Recalculates event db := by
  obtain ⟨connection, middle, last, new, ran, -⟩ :=
    returns_of_handled decoded (by simp [recalculates]) handled
  obtain ⟨identified, opened⟩ := opened_of_isNew new
  obtain ⟨marks, working⟩ := opened.working
  rw [Delivery.handler, recalculates] at ran
  obtain ⟨calls, between, ran, -⟩ := bind_eq_ok ran
  obtain ⟨after, recalculated, -⟩ := execute_eq_ok ran
  rw [working] at recalculated
  have recalculable := Margin.recalculable_of_recalculateMargins (by decide) recalculated
  exact ⟨identified, fun position member =>
    ⟨(recalculable position member).of_posted rfl fun _ _ _ => rfl, fun _ => traceable⟩⟩

/-- Over the connection of the read-only role there is nothing to emit. -/
theorem nothing_of_emitAll {alerts emitted : List Compliance.Alert}
    (ran : Compliance.emitAll .readonlyUser alerts db = .ok (emitted, after)) :
    alerts = [] ∧ after = db := by
  cases alerts with
  | nil =>
      cases ran
      exact ⟨rfl, rfl⟩
  | cons alert alerts =>
      rw [Compliance.emitAll_readonlyUser] at ran
      cases ran

theorem quiet_of_runCheck {check : ComplianceCheck} {alerts : List Compliance.Alert}
    (ran : Compliance.runCheck backend .readonlyUser check db = .ok (alerts, after)) :
    (Compliance.readable backend check = true ∧ Compliance.Quiet backend db check) ∧
      after = db := by
  rw [← Compliance.alertsOf_eq_nil]
  cases check with
  | largeTrade trade =>
      rw [Compliance.runCheck] at ran
      rw [Compliance.readable, Compliance.alertsOf]
      cases read : Compliance.notional? backend trade with
      | none =>
          rw [read] at ran
          cases ran
      | some notional =>
          rw [read] at ran
          obtain ⟨nothing, same⟩ := nothing_of_emitAll ran
          exact ⟨⟨rfl, nothing⟩, same⟩
  | memberConcentration =>
      obtain ⟨nothing, same⟩ := nothing_of_emitAll ran
      exact ⟨⟨rfl, nothing⟩, same⟩
  | marginCoverage =>
      obtain ⟨nothing, same⟩ := nothing_of_emitAll ran
      exact ⟨⟨rfl, nothing⟩, same⟩
  | allMonitors =>
      rw [Compliance.runCheck, Transaction.bind_of_ok (Transaction.read_apply db)] at ran
      obtain ⟨_, _, concentration, second⟩ := Transaction.bind_eq_ok.mp ran
      obtain ⟨unconcentrated, rfl⟩ := nothing_of_emitAll concentration
      rw [Transaction.bind_of_ok (Transaction.read_apply _)] at second
      obtain ⟨_, _, coverage, third⟩ := Transaction.bind_eq_ok.mp second
      obtain ⟨covered, rfl⟩ := nothing_of_emitAll coverage
      rw [Transaction.bind_of_ok (Transaction.read_apply _)] at third
      obtain ⟨_, _, adequacy, ended⟩ := Transaction.bind_eq_ok.mp third
      obtain ⟨adequate, rfl⟩ := nothing_of_emitAll adequacy
      cases ended
      refine ⟨⟨rfl, ?_⟩, rfl⟩
      rw [Compliance.alertsOf, unconcentrated, covered, adequate]
      rfl

/-- The run, by induction over the checks that are left. -/
theorem quiet_of_runChecks {checks : List ComplianceCheck} {alerts : List Compliance.Alert}
    (ran : Compliance.runChecks backend .readonlyUser checks db = .ok (alerts, after)) :
    ∀ check ∈ checks, Compliance.readable backend check = true ∧
      Compliance.Quiet backend db check := by
  induction checks generalizing alerts with
  | nil => exact List.forall_mem_nil _
  | cons check checks induction =>
      obtain ⟨_, _, first, ran⟩ := Transaction.bind_eq_ok.mp ran
      obtain ⟨_, _, rest, ran⟩ := Transaction.bind_eq_ok.mp ran
      cases ran
      obtain ⟨quiet, rfl⟩ := quiet_of_runCheck first
      exact List.forall_mem_cons.mpr ⟨quiet, induction rest⟩

/-- What the compliance monitor sees once it has claimed an event. -/
theorem marked_of_claimEvent {connection : Connection Database}
    (claimed : claimEvent backend event (connect db) = (.ok true, connection)) :
    Identified event ∧ ∃ marks, connection.committed = { db with processedEvents := marks } := by
  unfold claimEvent at claimed
  split at claimed
  · next absent =>
      cases claimed
      exact ⟨.inl absent, db.processedEvents, rfl⟩
  · next present =>
      obtain ⟨new, between, asked, rest⟩ := bind_eq_ok claimed
      obtain ⟨⟨⟩, last, closed, ended⟩ := bind_eq_ok rest
      cases ended
      have isNew_eq : isNew backend Loop.complianceMonitor.name event (connect db) =
          (.ok true, between) := by
        rw [isNew, if_neg present]
        exact asked
      obtain ⟨identified, opened⟩ := opened_of_isNew isNew_eq
      obtain ⟨marks, working⟩ := opened.working
      have accepted : (server backend).deferred between.committed between.working = .ok () := by
        rw [opened.committed, working]
        exact accepted_of_same rfl
      obtain ⟨state, ran, rfl⟩ := execute_eq_ok asked
      rw [Session.commit_inTransaction accepted] at closed
      cases closed
      exact ⟨identified, marks, working⟩

theorem unalarming_of_handled (monitors : delivery.loop = .complianceMonitor)
    (decoded : delivery.message = .ok event)
    (handled : (delivery.pass migratedBackend db).exit = .handled) :
    Identified event ∧ Unalarming event db := by
  rw [pass_of_claim decoded monitors] at handled
  cases outcome : (claimEvent migratedBackend event (connect db)).1 with
  | error failure =>
      rw [outcome] at handled
      cases handled
  | ok new =>
      rw [outcome] at handled
      cases new with
      | false => cases handled
      | true =>
          obtain ⟨identified, marks, committed⟩ := marked_of_claimEvent (eq_of_fst_eq_ok outcome)
          refine ⟨identified, ?_⟩
          dsimp only at handled
          rw [monitored, committed] at handled
          split at handled
          · next none =>
              obtain ⟨after, ran, -⟩ := execute_eq_ok (eq_of_fst_eq_ok none)
              rw [Compliance.handleEvent] at ran
              cases called : complianceChecks event with
              | error failure =>
                  rw [called] at ran
                  cases ran
              | ok checks =>
                  rw [called] at ran
                  refine ⟨checks, called, fun check member => ?_⟩
                  obtain ⟨can, quiet⟩ := quiet_of_runChecks ran check member
                  have seen : Compliance.Quiet migratedBackend
                      { { db with processedEvents := marks } with
                        processedEvents := db.processedEvents } check := quiet_of_marks quiet
                  exact ⟨can, seen⟩
          · cases handled
          · cases handled

/-- What the liquidation engine would write is refused, so that it handles only what calls for
nothing. -/
theorem idle_of_defaultEvent {trace : TraceContext} {connection last : Connection Database}
    (ran : handleDefaultEvent migratedBackend event trace connection = (.ok (), last)) :
    Loop.liquidationEngine.idle event = true := by
  have refused : ∀ {memberId : Uuid} {triggerReason : Text} {exposure : ℚ}
      {outcome : Waterfall.Outcome} {db after : Database},
      Waterfall.executeWaterfall migratedBackend memberId triggerReason exposure (some trace) db =
        .ok (outcome, after) → False := fun steps =>
    absurd (admitted_of_executeWaterfall steps) (by decide)
  rw [Loop.idle, decide_eq_true_iff]
  unfold handleDefaultEvent at ran
  split at ran
  · obtain ⟨_, _, -, ran⟩ := bind_eq_ok ran
    obtain ⟨_, _, -, ran⟩ := bind_eq_ok ran
    obtain ⟨_, _, steps, -⟩ := bind_eq_ok ran
    obtain ⟨_, written, -⟩ := execute_eq_ok steps
    exact (refused written).elim
  · next other =>
      refine ⟨other, fun failed => ?_⟩
      rw [if_pos failed] at ran
      obtain ⟨_, _, -, ran⟩ := bind_eq_ok ran
      cases named : failedMember event with
      | none => rfl
      | some value =>
          rw [named] at ran
          obtain ⟨_, _, -, ran⟩ := bind_eq_ok ran
          obtain ⟨_, _, steps, -⟩ := bind_eq_ok ran
          obtain ⟨_, written, -⟩ := execute_eq_ok steps
          exact (refused written).elim

/-- So does the collateral manager. -/
theorem idle_of_collateralEvent {connection last : Connection Database}
    (ran : handleCollateralEvent migratedBackend event connection = (.ok (), last)) :
    Loop.collateralManager.idle event = true := by
  have refused : JournalType.collateralDeposit ∉ migratedBackend.journalTypes := by decide
  rw [Loop.idle, decide_eq_true_iff]
  unfold handleCollateralEvent at ran
  split at ran
  · obtain ⟨_, _, -, ran⟩ := bind_eq_ok ran
    obtain ⟨_, _, -, ran⟩ := bind_eq_ok ran
    obtain ⟨_, _, -, ran⟩ := bind_eq_ok ran
    obtain ⟨_, _, deposit, -⟩ := bind_eq_ok ran
    obtain ⟨_, written, -⟩ := execute_eq_ok deposit
    exact absurd (admitted_of_depositCollateral written) refused
  · next noDeposit =>
      refine ⟨noDeposit, fun issued => ?_⟩
      rw [if_pos issued] at ran
      obtain ⟨_, _, -, ran⟩ := bind_eq_ok ran
      obtain ⟨_, _, -, ran⟩ := bind_eq_ok ran
      obtain ⟨_, _, transfer, -⟩ := bind_eq_ok ran
      obtain ⟨_, written, -⟩ := execute_eq_ok transfer
      exact refused (admitted_of_transferToMargin written)

/-- A loop that has handled a message finds the condition met. -/
theorem handles_of_handled (decoded : delivery.message = .ok event)
    (traceable : Traceable delivery.loop event) (fresh : Settlement.FreshJournals db)
    (handled : (delivery.pass migratedBackend db).exit = .handled) :
    delivery.loop.idle event = true ∨ delivery.Handles event db := by
  rw [Delivery.Handles]
  cases loop : delivery.loop with
  | settlementEngine => exact .inr (settles_of_handled loop decoded traceable fresh handled)
  | marginEngine => exact .inr (recalculates_of_handled loop decoded traceable handled)
  | complianceMonitor => exact .inr (unalarming_of_handled loop decoded handled)
  | liquidationEngine =>
      obtain ⟨_, _, _, -, ran, -⟩ := returns_of_handled decoded (by simp [loop]) handled
      rw [Delivery.handler, loop] at ran
      exact .inl (idle_of_defaultEvent ran)
  | collateralManager =>
      obtain ⟨_, _, _, -, ran, -⟩ := returns_of_handled decoded (by simp [loop]) handled
      rw [Delivery.handler, loop] at ran
      exact .inl (idle_of_collateralEvent ran)

/-- A message that is delivered on connections that hold is dropped exactly if it misses the
condition. -/
theorem dropped_iff (sound : Sound progress)
    (traceable : ∀ event, delivery.message = .ok event → Traceable delivery.loop event) :
    (progress.deliver migratedBackend delivery none).dropped = [] ↔
      Smooth progress (.deliver delivery none) := by
  constructor
  · intro kept
    rw [Progress.deliver] at kept
    dsimp only at kept
    cases decoded : delivery.message with
    | error failure => simp [decoded] at kept
    | ok event =>
        have offset : ¬(commitsOffset delivery.loop
              (progress.leaves migratedBackend delivery none).exit = true ∧
            delivery.finishes event (progress.leaves migratedBackend delivery none) = false ∧
            progress.knows delivery event = false) := by
          intro lost
          simp [decoded, lost] at kept
        refine ⟨event, decoded, ?_⟩
        by_cases known : progress.knows delivery event = true
        · exact .inr (.inl ((knows_iff sound delivery event).mp known))
        by_cases finished : delivery.finishes event
            (progress.leaves migratedBackend delivery none) = true
        · rw [Delivery.finishes, decide_eq_true_iff] at finished
          rcases finished with idle | handled
          · exact .inl idle
          · exact (handles_of_handled decoded (traceable event decoded)
              (freshJournals_of_confirmed sound.journals) handled).imp_right fun handles =>
                .inr ⟨rfl, handles⟩
        · have stays : commitsOffset delivery.loop
              (progress.leaves migratedBackend delivery none).exit ≠ true := fun commits =>
            offset ⟨commits, Bool.eq_false_iff.mpr finished, Bool.eq_false_iff.mpr known⟩
          rw [commitsOffset, Ne, decide_eq_true_iff, not_not] at stays
          exact .inr (.inl (processed_of_duplicate decoded stays.2))
  · intro smooth
    exact (sound_step sound smooth (.deliver delivery none)).dropped

end ConsumeLoops

end ClearingHouse
