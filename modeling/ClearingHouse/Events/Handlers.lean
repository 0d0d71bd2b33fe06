import ClearingHouse.Events.Consumers
import ClearingHouse.Novation.Session

/-!
# Rules of the handlers

What the transactions of a handler respect is kept by the handler.  The validation of a trade's
payload only reads, and returns exactly the trade that the payload holds, so a payload with a field
that cannot be read is never novated.
-/

namespace ClearingHouse

namespace Consumers

open Transactions Transactions.Session

/-- The fields of a trade, where all of them can be read. -/
def tradeData (tradeId : Uuid) (event : Payload) : Except Failure Novation.TradeData := do
  let buyerMemberId ← field event "buyer_member_id" (ofText uuid?)
  let sellerMemberId ← field event "seller_member_id" (ofText uuid?)
  let quantity ← field event "quantity" asShown
  let price ← field event "price" asShown
  let instrumentId ← field event "instrument_id" (ofText uuid?)
  pure { tradeId, buyerMemberId, sellerMemberId, instrumentId, quantity, price }

variable {backend : Backend} {tradeId : Uuid} {event : Payload} {trace : TraceContext}
  {connection after : Connection Database}

theorem orRaise_eq_ok {α : Type} {result : Except Failure α} {value : α}
    (ran : orRaise result connection = (.ok value, after)) :
    result = .ok value ∧ connection = after := by
  cases result with
  | error failure => cases ran
  | ok read =>
      cases ran
      exact ⟨rfl, rfl⟩

/-- A query compares its column with a value exactly if the value is a uuid. -/
theorem asUuid_eq_ok {value : Json} {id : Uuid}
    (ran : asUuid backend value connection = (.ok id, after)) : ofText uuid? value = .ok id := by
  unfold asUuid at ran
  cases read : ofText uuid? value with
  | ok other =>
      rw [read] at ran
      cases ran
      rfl
  | error exception =>
      rw [read] at ran
      obtain ⟨working, raised, -⟩ := execute_eq_ok ran
      cases raised

theorem field_of_valueOf {α : Type} {key : String} {reader : Reader α} {value : Json} {read : α}
    (found : valueOf event key = .ok value) (reads : reader value = .ok read) :
    field event key reader = .ok read := by
  unfold valueOf at found
  rw [field]
  cases held : event.get? key with
  | none =>
      rw [held] at found
      cases found
  | some other =>
      rw [held] at found
      cases found
      simp [parsed, reads, Except.mapError]

theorem valueOf_of_field {α : Type} {key : String} {reader : Reader α} {read : α}
    (reads : field event key reader = .ok read) :
    ∃ value, valueOf event key = .ok value ∧ reader value = .ok read := by
  unfold field at reads
  cases held : event.get? key with
  | none =>
      rw [held] at reads
      cases reads
  | some value =>
      refine ⟨value, by simp [valueOf, held], ?_⟩
      rw [held] at reads
      simp only [parsed] at reads
      cases outcome : reader value with
      | error exception =>
          rw [outcome] at reads
          cases reads
      | ok other =>
          rw [outcome] at reads
          cases reads
          rfl

/-- A validation that returns has read every field. -/
theorem tradeData_of_validated {data : Novation.TradeData}
    (ran : validateTradeEvent backend tradeId event connection = (.ok data, after)) :
    tradeData tradeId event = .ok data := by
  obtain ⟨buyer, _, bought, ran⟩ := bind_eq_ok ran
  obtain ⟨seller, _, sold, ran⟩ := bind_eq_ok ran
  obtain ⟨_, _, _, ran⟩ := bind_eq_ok ran
  obtain ⟨quantity, _, quantified, ran⟩ := bind_eq_ok ran
  obtain ⟨price, _, priced, ran⟩ := bind_eq_ok ran
  obtain ⟨_, _, _, ran⟩ := bind_eq_ok ran
  obtain ⟨_, _, _, ran⟩ := bind_eq_ok ran
  obtain ⟨buyerMemberId, _, buyerRead, ran⟩ := bind_eq_ok ran
  obtain ⟨_, _, _, ran⟩ := bind_eq_ok ran
  obtain ⟨sellerMemberId, _, sellerRead, ran⟩ := bind_eq_ok ran
  obtain ⟨_, _, _, ran⟩ := bind_eq_ok ran
  obtain ⟨instrument, _, traded, ran⟩ := bind_eq_ok ran
  obtain ⟨instrumentId, _, instrumentRead, ran⟩ := bind_eq_ok ran
  obtain ⟨_, _, _, ran⟩ := bind_eq_ok ran
  cases ran
  have buyerField := field_of_valueOf (orRaise_eq_ok bought).1 (asUuid_eq_ok buyerRead)
  have sellerField := field_of_valueOf (orRaise_eq_ok sold).1 (asUuid_eq_ok sellerRead)
  have instrumentField := field_of_valueOf (orRaise_eq_ok traded).1 (asUuid_eq_ok instrumentRead)
  rw [tradeData, buyerField, sellerField, (orRaise_eq_ok quantified).1, (orRaise_eq_ok priced).1,
    instrumentField]
  rfl

theorem ofText_uuid_eq_ok {value : Json} {id : Uuid} :
    ofText uuid? value = .ok id ↔ value = .uuid id := by
  constructor
  · intro reads
    cases value with
    | string text =>
        change (uuid? text).elim (Except.error ExceptionClass.valueError) Except.ok = .ok id
          at reads
        unfold uuid? at reads
        split at reads
        · cases reads
          rfl
        · cases reads
    | _ => cases reads
  · rintro rfl
    rfl

theorem except_bind_eq_ok {α β : Type} {first : Except Failure α} {next : α → Except Failure β}
    {value : β} (ran : (first >>= next) = .ok value) :
    ∃ read, first = .ok read ∧ next read = .ok value := by
  cases first with
  | error failure => cases ran
  | ok read => exact ⟨read, rfl, ran⟩

/-- The fields of a payload that holds a trade. -/
theorem fields_of_tradeData {data : Novation.TradeData}
    (reads : tradeData tradeId event = .ok data) :
    data.tradeId = tradeId ∧ valueOf event "buyer_member_id" = .ok (.uuid data.buyerMemberId) ∧
      valueOf event "seller_member_id" = .ok (.uuid data.sellerMemberId) ∧
      field event "quantity" asShown = .ok data.quantity ∧
      field event "price" asShown = .ok data.price ∧
      valueOf event "instrument_id" = .ok (.uuid data.instrumentId) := by
  obtain ⟨buyerMemberId, bought, reads⟩ := except_bind_eq_ok reads
  obtain ⟨sellerMemberId, sold, reads⟩ := except_bind_eq_ok reads
  obtain ⟨quantity, quantified, reads⟩ := except_bind_eq_ok reads
  obtain ⟨price, priced, reads⟩ := except_bind_eq_ok reads
  obtain ⟨instrumentId, traded, reads⟩ := except_bind_eq_ok reads
  cases reads
  have held : ∀ {key : String} {id : Uuid}, field event key (ofText uuid?) = .ok id →
      valueOf event key = .ok (.uuid id) := by
    intro key id read
    obtain ⟨value, found, reads⟩ := valueOf_of_field read
    rw [found, ofText_uuid_eq_ok.mp reads]
  exact ⟨rfl, held bought, held sold, quantified, priced, held traded⟩

/-- Validation of a payload whose fields can be read is that of its trade. -/
theorem validateTradeEvent_of_parsed {data : Novation.TradeData}
    (reads : tradeData tradeId event = .ok data) :
    validateTradeEvent backend tradeId event =
      (do
        Novation.validateTrade backend data
        pure data) := by
  obtain ⟨rfl, bought, sold, quantified, priced, traded⟩ := fields_of_tradeData reads
  have identified : ∀ id, asUuid backend (.uuid id) = pure id := fun _ => rfl
  have apart : ∀ failure : Failure,
      (Session.require (Json.uuid data.buyerMemberId ≠ .uuid data.sellerMemberId) failure :
        Session Database Failure Unit) =
      Session.require (data.buyerMemberId ≠ data.sellerMemberId) failure :=
    fun failure => if_congr (by simp [Json.uuid]) rfl rfl
  unfold validateTradeEvent Novation.validateTrade
  simp only [bought, sold, quantified, priced, traded, orRaise, identified, apart,
    Session.pure_bind, Session.bind_assoc]

/-- A payload with a trade is processed as the trade. -/
theorem processTradeEvent_of_parsed {data : Novation.TradeData}
    (identified : field event "trade_id" (ofText uuid?) = .ok tradeId)
    (reads : tradeData tradeId event = .ok data) (trace : TraceContext) :
    processTradeEvent backend event trace = Novation.processTrade backend data trace := by
  obtain ⟨rfl, -⟩ := fields_of_tradeData reads
  unfold processTradeEvent Novation.processTrade
  simp only [identified, orRaise, Session.pure_bind, validateTradeEvent_of_parsed reads,
    Session.bind_assoc]

/-- A payload without one is never novated: its validation raises, and what follows it does not
matter. -/
theorem processTradeEvent_of_unparsed {failure : Failure}
    (identified : field event "trade_id" (ofText uuid?) = .ok tradeId)
    (unread : tradeData tradeId event = .error failure) (trace : TraceContext) :
    processTradeEvent backend event trace =
      attempt
        (do let _ ← validateTradeEvent backend tradeId event)
        fun raised =>
          transaction (server backend) (Novation.rejectTrade tradeId raised.message trace) := by
  have raises : ∀ next next' : Novation.TradeData → Session Database Failure Unit,
      (validateTradeEvent backend tradeId event >>= next) =
        validateTradeEvent backend tradeId event >>= next' := by
    intro next next'
    funext connection
    rw [Session.bind_apply, Session.bind_apply]
    cases ran : validateTradeEvent backend tradeId event connection with
    | mk outcome after =>
        cases outcome with
        | ok data => cases (tradeData_of_validated ran).symm.trans unread
        | error raised => rfl
  rw [processTradeEvent]
  simp only [identified, orRaise, Session.pure_bind]
  rw [raises _ fun _ => pure ()]

theorem keeps_orRaise {α : Type} {invariant : Database → Prop}
    {relation : Database → Database → Prop} (result : Except Failure α) :
    Keeps invariant relation (orRaise result) := by
  cases result with
  | ok value => exact keeps_pure value
  | error failure => exact keeps_raise failure

theorem stays_orRaise {α : Type} {relation : Database → Database → Prop} [Std.Refl relation]
    (result : Except Failure α) : Stays relation (orRaise result) := by
  cases result with
  | ok value => exact stays_pure value
  | error failure => exact stays_raise failure

variable {invariant : Database → Prop} {relation : Database → Database → Prop}
  [Std.Refl relation] [IsTrans Database relation]

omit [Std.Refl relation] in
theorem keeps_asUuid (value : Json) : Keeps invariant relation (asUuid backend value) := by
  rw [asUuid]
  split
  · exact keeps_pure _
  · exact keeps_execute (Transaction.respects_raise _)

omit [IsTrans Database relation] in
theorem stays_asUuid (value : Json) : Stays relation (asUuid backend value) := by
  rw [asUuid]
  split
  · exact stays_pure _
  · exact stays_execute (Transaction.respects_raise _)

theorem keeps_validateTradeEvent :
    Keeps invariant relation (validateTradeEvent backend tradeId event) := by
  have reads : ∀ {code : Sql Unit}, Novation.Reads code →
      Keeps invariant relation (execute (server backend) code) := fun reads =>
    keeps_execute (Novation.respects_of_reads reads)
  exact keeps_bind (keeps_orRaise _) fun _ => keeps_bind (keeps_orRaise _) fun _ =>
    keeps_bind (keeps_require _ _) fun _ => keeps_bind (keeps_orRaise _) fun _ =>
      keeps_bind (keeps_orRaise _) fun _ => keeps_bind (keeps_require _ _) fun _ =>
        keeps_bind (keeps_require _ _) fun _ => keeps_bind (keeps_asUuid _) fun _ =>
          keeps_bind (reads (Novation.reads_verifyMemberActive _ _)) fun _ =>
            keeps_bind (keeps_asUuid _) fun _ =>
              keeps_bind (reads (Novation.reads_verifyMemberActive _ _)) fun _ =>
                keeps_bind (keeps_orRaise _) fun _ => keeps_bind (keeps_asUuid _) fun _ =>
                  keeps_bind (reads (Novation.reads_verifyInstrumentActive _)) fun _ =>
                    keeps_pure _

theorem stays_validateTradeEvent :
    Stays relation (validateTradeEvent backend tradeId event) := by
  have reads : ∀ {code : Sql Unit}, Novation.Reads code →
      Stays relation (execute (server backend) code) := fun reads =>
    stays_execute (Novation.respects_of_reads reads)
  exact stays_bind (stays_orRaise _) fun _ => stays_bind (stays_orRaise _) fun _ =>
    stays_bind (stays_require _ _) fun _ => stays_bind (stays_orRaise _) fun _ =>
      stays_bind (stays_orRaise _) fun _ => stays_bind (stays_require _ _) fun _ =>
        stays_bind (stays_require _ _) fun _ => stays_bind (stays_asUuid _) fun _ =>
          stays_bind (reads (Novation.reads_verifyMemberActive _ _)) fun _ =>
            stays_bind (stays_asUuid _) fun _ =>
              stays_bind (reads (Novation.reads_verifyMemberActive _ _)) fun _ =>
                stays_bind (stays_orRaise _) fun _ => stays_bind (stays_asUuid _) fun _ =>
                  stays_bind (reads (Novation.reads_verifyInstrumentActive _)) fun _ =>
                    stays_pure _

/-- The rule for a payload: what the novation and the rejection respect is kept. -/
theorem keeps_processTradeEvent
    (survives : ∀ old new, invariant old → relation old new →
      (server backend).deferred old new = .ok () → invariant new)
    (novates : ∀ tradeId data,
      Transaction.Respects relation (Novation.novateTrade backend tradeId data trace))
    (rejects : ∀ tradeId reason,
      Transaction.Respects relation (Novation.rejectTrade tradeId reason trace)) :
    Keeps invariant relation (processTradeEvent backend event trace) :=
  keeps_bind (keeps_orRaise _) fun _ => keeps_attempt
    (keeps_bind keeps_validateTradeEvent fun _ =>
      keeps_bind (keeps_transaction survives (novates _ _)) fun _ => keeps_pure ())
    fun _ => keeps_transaction survives (rejects _ _)

theorem keeps_handleNettingTrigger {surroundings : Surroundings}
    (survives : ∀ old new, invariant old → relation old new →
      (server backend).deferred old new = .ok () → invariant new)
    (net : ∀ cycleType cutOffTime, Transaction.Respects relation
      (Netting.runNettingCycle backend cycleType cutOffTime
        (fromKafkaPayload event surroundings.generated))) :
    Keeps invariant relation (handleNettingTrigger backend event surroundings) :=
  keeps_bind (keeps_orRaise _) fun _ => keeps_bind (keeps_orRaise _) fun _ =>
    keeps_bind (keeps_transaction survives (net _ _)) fun _ => keeps_pure _

omit [Std.Refl relation] in
/-- A transaction whose value the handler drops. -/
theorem keeps_dropped {α : Type} {code : Sql α} (respects : Transaction.Respects relation code) :
    Keeps invariant relation (do let _ ← execute (server backend) code) :=
  keeps_bind (keeps_execute respects) fun _ => keeps_pure ()

omit [Std.Refl relation] in
theorem keeps_handleCollateralEvent
    (deposit : ∀ memberId amount currency, Transaction.Respects relation
      (Collateral.depositCollateral backend memberId amount currency))
    (transfer : ∀ memberId amount, Transaction.Respects relation
      (Collateral.transferToMargin backend memberId amount .marginIm)) :
    Keeps invariant relation (handleCollateralEvent backend event) := by
  rw [handleCollateralEvent]
  split
  · exact keeps_bind (keeps_orRaise _) fun _ => keeps_bind (keeps_orRaise _) fun _ =>
      keeps_bind (keeps_orRaise _) fun _ => keeps_dropped (deposit _ _ _)
  · split
    · exact keeps_bind (keeps_orRaise _) fun _ => keeps_bind (keeps_orRaise _) fun _ =>
        keeps_dropped (transfer _ _)
    · exact keeps_pure ()

omit [Std.Refl relation] in
theorem keeps_handleDefaultEvent
    (waterfall : ∀ memberId triggerReason totalExposure, Transaction.Respects relation
      (Waterfall.executeWaterfall backend memberId triggerReason totalExposure (some trace))) :
    Keeps invariant relation (handleDefaultEvent backend event trace) := by
  rw [handleDefaultEvent]
  split
  · exact keeps_bind (keeps_orRaise _) fun _ => keeps_bind (keeps_orRaise _) fun _ =>
      keeps_dropped (waterfall _ _ _)
  · split
    · apply keeps_bind (keeps_orRaise _)
      intro _
      split
      · exact keeps_pure ()
      · exact keeps_bind (keeps_orRaise _) fun _ => keeps_dropped (waterfall _ _ _)
    · exact keeps_pure ()

/-- The rule inside an open transaction. -/
theorem stays_processTradeEvent
    (novates : ∀ tradeId data,
      Transaction.Respects relation (Novation.novateTrade backend tradeId data trace))
    (rejects : ∀ tradeId reason,
      Transaction.Respects relation (Novation.rejectTrade tradeId reason trace)) :
    Stays relation (processTradeEvent backend event trace) :=
  stays_bind (stays_orRaise _) fun _ => stays_attempt
    (stays_bind stays_validateTradeEvent fun _ =>
      stays_bind (stays_transaction (novates _ _)) fun _ => stays_pure ())
    fun _ => stays_transaction (rejects _ _)

end Consumers

end ClearingHouse
