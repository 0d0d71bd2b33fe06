import ClearingHouse.Margin.MarkToMarket
import ClearingHouse.Netting.Specification

/-!
# What netted legs settle for

An instruction carries the net quantity at the latest feed price, which is the price the legs were
traded at only if they have made nothing by that price.
-/

namespace ClearingHouse

namespace Netting

open Fibers Transactions

/-- The legs that a cycle nets for a member in an instrument. -/
def legsOf (db : Database) (cutOffTime : Timestamp) (k : Uuid × Uuid) : List NovatedTrade :=
  (openLegs db cutOffTime).filter fun leg => legKey leg = k

variable {db after : Database} {cutOffTime : Timestamp} {k : Uuid × Uuid}
  {cycleType : NettingCycleType} {trace : TraceContext} {result : CycleResult} {ccp : Member}

theorem nettedQuantity_eq (db : Database) (cutOffTime : Timestamp) (k : Uuid × Uuid) :
    nettedQuantity db cutOffTime k = Margin.netQuantity (legsOf db cutOffTime k) := rfl

/-- The amount of a pair is what its legs have cost and what they have made. -/
theorem nettedAmount_eq (db : Database) (cutOffTime : Timestamp) (k : Uuid × Uuid) :
    nettedAmount db cutOffTime k = Margin.netValue (legsOf db cutOffTime k) +
      Margin.markToMarket (legsOf db cutOffTime k) (nettingPrice db k.2) := by
  rw [Margin.markToMarket_eq, nettedAmount, nettedQuantity_eq]
  ring

/-- A cycle over rows that exist does what is specified. -/
theorem specified_of_ran (house : findCcp db = some ccp) (references : LegReferences db)
    (ran : runNettingCycle exactBackend cycleType cutOffTime trace db = .ok (result, after)) :
    Specified ccp.id cycleType cutOffTime trace db result after := by
  obtain ⟨result', after', ran', -, specified⟩ :=
    runNettingCycle_specified house references cycleType cutOffTime trace
  rw [ran, Except.ok.injEq, Prod.mk.injEq] at ran'
  obtain ⟨rfl, rfl⟩ := ran'
  exact specified

/-- The instructions that a cycle has added. -/
def addedInstructions (db after : Database) : List SettlementInstruction :=
  after.settlementInstructions.drop db.settlementInstructions.length

/-- What a member pays by an instruction, or gets if it is negative. -/
def cashBy (memberId : Uuid) (row : SettlementInstruction) : ℚ :=
  (if row.fromMemberId = memberId then row.amount else 0) -
    if row.toMemberId = memberId then row.amount else 0

/-- What a member pays for an instrument by some instructions. -/
def cashPaid (rows : List SettlementInstruction) (k : Uuid × Uuid) : ℚ :=
  fiberSum SettlementInstruction.instrumentId (cashBy k.1) rows k.2

/-- For every cash-settled instrument, what a member pays by the instructions of a cycle is what its
netted legs have cost. -/
def PreservesClaims (ccpMemberId : Uuid) (cutOffTime : Timestamp) (db after : Database) : Prop :=
  ∀ memberId, memberId ≠ ccpMemberId → ∀ instrument ∈ db.instruments,
    instrument.settlementType = .cash →
      cashPaid (addedInstructions db after) (memberId, instrument.id) =
        Margin.netValue (legsOf db cutOffTime (memberId, instrument.id))

theorem cashBy_of_instruction {ccpMemberId memberId cycleId : Uuid} {row : SettlementInstruction}
    (other : memberId ≠ ccpMemberId)
    (instruct : InstructionFor db cutOffTime cycleId ccpMemberId k row) :
    cashBy memberId row = if k.1 = memberId then nettedAmount db cutOffTime k else 0 := by
  have parties := instruct.parties
  by_cases positive : 0 < nettedAmount db cutOffTime k
  · rw [if_pos positive, Prod.mk.injEq] at parties
    rw [cashBy, parties.1, parties.2, if_neg other.symm, sub_zero, instruct.amount,
      abs_of_pos positive]
  · rw [if_neg positive, Prod.mk.injEq] at parties
    rw [cashBy, parties.1, parties.2, if_neg other.symm, zero_sub, instruct.amount,
      abs_of_nonpos (not_lt.mp positive)]
    split
    · exact neg_neg _
    · exact neg_zero

theorem cashPaid_of_instructions {ccpMemberId cycleId : Uuid} {keys : List (Uuid × Uuid)}
    {rows : List SettlementInstruction} (other : k.1 ≠ ccpMemberId)
    (instructs : List.Forall₂ (InstructionFor db cutOffTime cycleId ccpMemberId) keys rows) :
    cashPaid rows k =
      (keys.map fun k' => if k = k' then nettedAmount db cutOffTime k else 0).sum := by
  induction instructs with
  | nil => rfl
  | @cons k' row keys rows instruct _ induction =>
      rw [cashPaid, fiberSum_cons, ← cashPaid, induction, List.map_cons, List.sum_cons,
        cashBy_of_instruction other instruct, instruct.instrument]
      congr 1
      by_cases same : k = k'
      · subst same
        simp
      · have apart : ¬(k'.2 = k.2 ∧ k'.1 = k.1) := fun both =>
          same (Prod.ext both.2.symm both.1.symm)
        rw [if_neg same, ← ite_and, if_neg apart]

/-- A member pays the netted amount for an instrument. -/
theorem cashPaid_eq {ccpMemberId : Uuid} {keys : List (Uuid × Uuid)} (other : k.1 ≠ ccpMemberId)
    (netted : NettedPairs ccpMemberId cutOffTime db result after keys) :
    cashPaid (addedInstructions db after) k = nettedAmount db cutOffTime k := by
  obtain ⟨rows, added, instructs, -⟩ := netted.instructions
  rw [addedInstructions, added, List.drop_left, cashPaid_of_instructions other instructs]
  by_cases listed : k ∈ keys
  · exact sum_map_single netted.distinct listed _
  · have flat : nettedQuantity db cutOffTime k = 0 :=
      not_not.mp fun nonzero => listed ((netted.complete k).mpr nonzero)
    rw [nettedAmount, flat, zero_mul]
    exact List.sum_eq_zero fun amount member => by
      obtain ⟨k', -, rfl⟩ := List.mem_map.mp member
      exact ite_self 0

/-- A cycle preserves the cash claims of its legs exactly when, at the price it nets at, the legs of
no member have made or lost anything. -/
theorem preservesClaims_iff (house : findCcp db = some ccp) (references : LegReferences db)
    (ran : runNettingCycle exactBackend cycleType cutOffTime trace db = .ok (result, after)) :
    PreservesClaims ccp.id cutOffTime db after ↔
      ∀ memberId, memberId ≠ ccp.id → ∀ instrument ∈ db.instruments,
        instrument.settlementType = .cash →
          Margin.markToMarket (legsOf db cutOffTime (memberId, instrument.id))
            (nettingPrice db instrument.id) = 0 := by
  obtain ⟨keys, netted⟩ := (specified_of_ran house references ran).pairs
  refine forall₂_congr fun memberId other => forall₂_congr fun instrument _ =>
    imp_congr_right fun _ => ?_
  rw [cashPaid_eq other netted, nettedAmount_eq, add_eq_left]

/-- The trade of `oneTradeNovated`, at an unchanged price. -/
def oneTradeAtPar : Database := { oneTradeNovated with priceFeeds := [⟨3, 9, 2⟩] }

theorem preservesClaims_oneTradeAtPar :
    ∃ result after, runNettingCycle exactBackend .manual 5 oneTradeTrace oneTradeAtPar =
      .ok (result, after) ∧ PreservesClaims 0 5 oneTradeAtPar after := by
  have house : findCcp oneTradeAtPar = some ⟨0, ccpLei, .active, 0⟩ := by decide +kernel
  have references : LegReferences oneTradeAtPar := by
    rw [LegReferences]
    decide +kernel
  have returned : (runNettingCycle exactBackend .manual 5 oneTradeTrace
      oneTradeAtPar).toOption.isSome = true := by decide +kernel
  obtain ⟨result, ran⟩ := ok_of_isSome oneTradeAtPar returned
  refine ⟨result, _, ran, (preservesClaims_iff house references ran).mpr ?_⟩
  intro memberId _ instrument inside _
  have terms : ∀ leg ∈ openLegs oneTradeAtPar 5, leg.price = 9 := by decide +kernel
  have price : ∀ instrument ∈ oneTradeAtPar.instruments,
      nettingPrice oneTradeAtPar instrument.id = 9 := by decide +kernel
  rw [price instrument inside]
  apply List.sum_eq_zero
  intro made member
  obtain ⟨leg, held, rfl⟩ := List.mem_map.mp member
  rw [terms leg (List.mem_of_mem_filter held), sub_self, mul_zero]

/-- The first member has bought ten at a hundred and sold them at ninety, to and from the second. -/
def roundTripBook : Database :=
  { Database.opening [⟨0, ccpLei, .active, 0⟩, ⟨1, "LEI1", .active, 0⟩, ⟨2, "LEI2", .active, 0⟩]
      [⟨3, .cash, 1 / 10, 1 / 20, none, none, true⟩] [] 20
      Database.nodup_ccpAndTwo Database.nodup_noAccountIds Database.nodup_noAccountKeys with
    trades := [⟨4, 3, 1, 2, 10, 100, .novated⟩, ⟨5, 3, 2, 1, 10, 90, .novated⟩]
    novatedTrades :=
      [⟨6, 4, 1, 3, .buy, 10, 100, .open, 1⟩, ⟨7, 4, 2, 3, .sell, 10, 100, .open, 1⟩,
        ⟨8, 5, 2, 3, .buy, 10, 90, .open, 1⟩, ⟨9, 5, 1, 3, .sell, 10, 90, .open, 1⟩]
    priceFeeds := [⟨3, 95, 2⟩] }

/-- Nobody pays the hundred that the first member of `roundTripBook` owes. -/
theorem not_preservesClaims_roundTripBook :
    ∃ result after, runNettingCycle exactBackend .manual 5 oneTradeTrace roundTripBook =
      .ok (result, after) ∧ ¬PreservesClaims 0 5 roundTripBook after := by
  have returned : (runNettingCycle exactBackend .manual 5 oneTradeTrace
      roundTripBook).toOption.isSome = true := by decide +kernel
  obtain ⟨result, ran⟩ := ok_of_isSome roundTripBook returned
  refine ⟨result, _, ran, fun preserved => ?_⟩
  have paid := preserved 1 (by decide) ⟨3, .cash, 1 / 10, 1 / 20, none, none, true⟩
    (by decide +kernel) rfl
  have owed : Margin.netValue (legsOf roundTripBook 5 (1, 3)) = 100 := by decide +kernel
  have none : addedInstructions roundTripBook ((runNettingCycle exactBackend .manual 5
      oneTradeTrace roundTripBook).toOption.elim roundTripBook Prod.snd) = [] := by decide +kernel
  rw [none, owed] at paid
  norm_num [cashPaid] at paid

end Netting

end ClearingHouse
