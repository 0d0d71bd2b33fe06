import ClearingHouse.Ledger.Writes
import ClearingHouse.Library.Tables

/-!
# Grants

What `init-db.sh` and the migrations let `ledger_user` do, and what the triggers of the immutable
tables let anyone do: rows are inserted and never deleted, and of the rows that are there only some
columns may be updated.  Every operation of the services stays within that.
-/

namespace ClearingHouse

open StepSystem Tables Transactions Transactions.Session

/-- Columns of a member that no service updates. -/
def Member.fixed (member : Member) : Uuid × String × ℚ :=
  (member.id, member.lei, member.creditLimit)

def Trade.fixed (trade : Trade) : Uuid × Uuid × Uuid × Uuid × ℚ × ℚ :=
  (trade.id, trade.instrumentId, trade.buyerMemberId, trade.sellerMemberId, trade.quantity,
    trade.price)

def NovatedTrade.fixed (leg : NovatedTrade) :
    Uuid × Uuid × Uuid × Uuid × Side × ℚ × ℚ × Timestamp :=
  (leg.id, leg.originalTradeId, leg.memberId, leg.instrumentId, leg.side, leg.quantity, leg.price,
    leg.novatedAt)

def MarginRequirement.fixed (row : MarginRequirement) : Uuid × Uuid × Uuid × MarginType :=
  (row.id, row.memberId, row.instrumentId, row.marginType)

def MarginCall.fixed (call : MarginCall) : Uuid × Uuid × Option Uuid × ℚ × Timestamp :=
  (call.id, call.memberId, call.marginRequirementId, call.callAmount, call.deadline)

def NettingCycle.fixed (cycle : NettingCycle) : Uuid × NettingCycleType × Timestamp :=
  (cycle.id, cycle.cycleType, cycle.cutOffTime)

def DefaultEvent.fixed (event : DefaultEvent) : Uuid × Uuid × Text × ℚ :=
  (event.id, event.memberId, event.triggerReason, event.totalExposure)

/-- A member keeps its columns, and its status unless it defaults. -/
structure Member.Updated (old new : Member) : Prop where
  fixed : new.fixed = old.fixed
  status : new.status = old.status ∨ new.status = .defaulted

instance : Std.Refl Member.Updated := ⟨fun _ => ⟨rfl, .inl rfl⟩⟩

instance : IsTrans Member Member.Updated where
  trans _ _ _ first second := by
    refine ⟨second.fixed.trans first.fixed, ?_⟩
    rcases second.status with same | defaulted
    · exact first.status.imp same.trans same.trans
    · exact .inr defaulted

/-- What may become of the tables. -/
structure Granted (db after : Database) : Prop where
  members : Retains Member.Updated db.members after.members
  memberCount : after.members.length = db.members.length
  instruments : after.instruments = db.instruments
  accounts : after.accounts = db.accounts
  journals : db.journals <+: after.journals
  journalEntries : db.journalEntries <+: after.journalEntries
  trades : Retains (Same Trade.fixed) db.trades after.trades
  novatedTrades : Retains (Same NovatedTrade.fixed) db.novatedTrades after.novatedTrades
  marginRequirements :
    Retains (Same MarginRequirement.fixed) db.marginRequirements after.marginRequirements
  marginCalls : Retains (Same MarginCall.fixed) db.marginCalls after.marginCalls
  nettingCycles : Retains (Same NettingCycle.fixed) db.nettingCycles after.nettingCycles
  netObligations : db.netObligations <+: after.netObligations
  settlementInstructions :
    Retains (Same Settlement.terms) db.settlementInstructions after.settlementInstructions
  outboxEvents : db.outboxEvents <+: after.outboxEvents
  stateTransitions : db.stateTransitions <+: after.stateTransitions
  priceFeeds : after.priceFeeds = db.priceFeeds
  latestPrices : after.latestPrices = db.latestPrices
  defaultEvents : Retains (Same DefaultEvent.fixed) db.defaultEvents after.defaultEvents
  waterfallSteps : db.waterfallSteps <+: after.waterfallSteps
  processedEvents : db.processedEvents <+: after.processedEvents

namespace Granted

/-- Nothing changes. -/
theorem same (db : Database) : Granted db db where
  members := .of_same _
  memberCount := rfl
  instruments := rfl
  accounts := rfl
  journals := List.prefix_rfl
  journalEntries := List.prefix_rfl
  trades := .of_same _
  novatedTrades := .of_same _
  marginRequirements := .of_same _
  marginCalls := .of_same _
  nettingCycles := .of_same _
  netObligations := List.prefix_rfl
  settlementInstructions := .of_same _
  outboxEvents := List.prefix_rfl
  stateTransitions := List.prefix_rfl
  priceFeeds := rfl
  latestPrices := rfl
  defaultEvents := .of_same _
  waterfallSteps := List.prefix_rfl
  processedEvents := List.prefix_rfl

theorem trans {db middle after : Database} (first : Granted db middle)
    (second : Granted middle after) : Granted db after where
  members := first.members.trans second.members
  memberCount := second.memberCount.trans first.memberCount
  instruments := second.instruments.trans first.instruments
  accounts := second.accounts.trans first.accounts
  journals := first.journals.trans second.journals
  journalEntries := first.journalEntries.trans second.journalEntries
  trades := first.trades.trans second.trades
  novatedTrades := first.novatedTrades.trans second.novatedTrades
  marginRequirements := first.marginRequirements.trans second.marginRequirements
  marginCalls := first.marginCalls.trans second.marginCalls
  nettingCycles := first.nettingCycles.trans second.nettingCycles
  netObligations := first.netObligations.trans second.netObligations
  settlementInstructions := first.settlementInstructions.trans second.settlementInstructions
  outboxEvents := first.outboxEvents.trans second.outboxEvents
  stateTransitions := first.stateTransitions.trans second.stateTransitions
  priceFeeds := second.priceFeeds.trans first.priceFeeds
  latestPrices := second.latestPrices.trans first.latestPrices
  defaultEvents := first.defaultEvents.trans second.defaultEvents
  waterfallSteps := first.waterfallSteps.trans second.waterfallSteps
  processedEvents := first.processedEvents.trans second.processedEvents

end Granted

instance : Std.Refl Granted := ⟨Granted.same⟩

instance : IsTrans Database Granted := ⟨fun _ _ _ => Granted.trans⟩

variable {backend : Backend} {may : Allowance}

theorem granted_of_writes {db after : Database} (writes : RowWrites backend may db after) :
    Granted db after := by
  cases writes with
  | uuid => exact { Granted.same db with }
  | journal => exact { Granted.same db with journals := List.prefix_append .. }
  | journalEntry => exact { Granted.same db with journalEntries := List.prefix_append .. }
  | stateTransition => exact { Granted.same db with stateTransitions := List.prefix_append .. }
  | outboxEvent => exact { Granted.same db with outboxEvents := List.prefix_append .. }
  | processedEvent => exact { Granted.same db with processedEvents := List.prefix_append .. }
  | trade => exact { Granted.same db with trades := .of_append _ _ }
  | tradeStatus =>
      refine { Granted.same db with trades := .of_map fun trade _ => ?_ }
      split <;> rfl
  | leg => exact { Granted.same db with novatedTrades := .of_append _ _ }
  | netted =>
      refine { Granted.same db with novatedTrades := .of_map fun leg _ => ?_ }
      rw [NovatedTrade.nettedIf]
      split <;> rfl
  | nettingCycle => exact { Granted.same db with nettingCycles := .of_append _ _ }
  | cycleStatus =>
      refine { Granted.same db with nettingCycles := .of_map fun cycle _ => ?_ }
      split <;> rfl
  | netObligation => exact { Granted.same db with netObligations := List.prefix_append .. }
  | instruction => exact { Granted.same db with settlementInstructions := .of_append _ _ }
  | progress instructionId change keeps =>
      refine { Granted.same db with settlementInstructions := .of_map fun row _ => ?_ }
      split
      · exact keeps row
      · rfl
  | requirement => exact { Granted.same db with marginRequirements := .of_append _ _ }
  | required =>
      refine { Granted.same db with marginRequirements := .of_map fun row _ => ?_ }
      split <;> rfl
  | marginCall => exact { Granted.same db with marginCalls := .of_append _ _ }
  | waterfallStep => exact { Granted.same db with waterfallSteps := List.prefix_append .. }
  | defaultEvent => exact { Granted.same db with defaultEvents := .of_append _ _ }
  | defaulted =>
      refine { Granted.same db with
        members := .of_map fun member _ => ?_
        memberCount := List.length_map _ }
      split
      · exact ⟨rfl, .inr rfl⟩
      · exact ⟨rfl, .inl rfl⟩
  | resolved =>
      refine { Granted.same db with defaultEvents := .of_map fun event _ => ?_ }
      split <;> rfl

theorem granted_of_written {db after : Database} (written : Written backend may db after) :
    Granted db after :=
  related_of_written (fun _ _ => granted_of_writes) written

theorem allows_everything (first : Database) : Allows backend .everything first where
  marginCall := trivial
  trade := fun _ => trivial
  leg := fun _ _ _ _ _ _ => trivial
  payable := fun _ _ _ _ _ _ _ => trivial
  variation := .inl trivial
  settlement := .inl trivial
  deposit := trivial
  withdrawal := trivial
  margin := trivial
  waterfall := trivial
  defaults := trivial
  contribution := trivial

/-- Every run of the operations stays within the grants. -/
theorem granted_of_run {first last : Database}
    (run : Run (Operates backend) Operating first last) : Granted first last :=
  granted_of_written (written_of_run (allows_everything first) run)

/-- Member 2 defaults with a loss of a hundred. -/
def memberDefaults : HouseOperation := .executeWaterfall 2 [] 100 none

private theorem defaulted_tradelessHouse :
    ∃ middle ∈ committedStates (called decimalBackend none (tenUnits.body decimalBackend))
        tradelessHouse,
      ∃ last ∈ committedStates
        (called decimalBackend none (memberDefaults.body decimalBackend)) middle,
        last.trades.length = 1 ∧
          last.members.map Member.status = [.active, .active, .defaulted] := by
  decide +kernel

/-- A trade is submitted and a member defaults. -/
theorem granted_of_run_tradelessHouse :
    ∃ last, Run (Operates decimalBackend) Operating tradelessHouse last ∧
      last.members.map Member.status = [.active, .active, .defaulted] ∧
        Granted tradelessHouse last := by
  obtain ⟨middle, submitted, last, defaulted, -, statuses⟩ := defaulted_tradelessHouse
  have run : Run (Operates decimalBackend) Operating tradelessHouse last :=
    operate (operate (.refl _) submitted) defaulted
  exact ⟨last, run, statuses, granted_of_run run⟩

end ClearingHouse
