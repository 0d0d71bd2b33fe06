import ClearingHouse.Ledger.Grants

/-!
# Eligibility over runs

Statuses of members only ever go to `defaulted` and instruments are never written, so a leg that any
run of the operations adds is of a member and an instrument that were active when the run began.
-/

namespace ClearingHouse

namespace Novation

open StepSystem Tables Transactions Transactions.Session

variable {backend : Backend} {first : Database}

/-- Who is eligible later was eligible before. -/
theorem Eligible.of_granted {db : Database} {memberId instrumentId : Uuid}
    (eligible : Eligible db memberId instrumentId) (granted : Granted first db) :
    Eligible first memberId instrumentId := by
  obtain ⟨⟨member, listed, named, active⟩, instrument⟩ := eligible
  refine ⟨?_, granted.instruments ▸ instrument⟩
  obtain ⟨old, there, updated⟩ := granted.members.mem_of_length granted.memberCount listed
  have same_id : member.id = old.id := congrArg Prod.fst updated.fixed
  refine ⟨old, there, same_id.symm.trans named, ?_⟩
  rcases updated.status with same | defaulted
  · exact same.symm.trans active
  · rw [active] at defaulted
    cases defaulted

/-- Legs of those who are eligible in a state. -/
def eligibleLegs (first : Database) : Allowance :=
  { Allowance.everything with leg := fun leg => Eligible first leg.memberId leg.instrumentId }

theorem allows_eligibleLegs (first : Database) : Allows backend (eligibleLegs first) first where
  marginCall := trivial
  trade := fun _ => trivial
  leg := fun db data leg written valid of_data => by
    have granted := granted_of_written written
    change Eligible first leg.memberId leg.instrumentId
    rw [of_data.party, of_data.instrumentId]
    cases leg.side with
    | buy => exact valid.buyer.of_granted granted
    | sell => exact valid.seller.of_granted granted
  payable := fun _ _ _ _ _ _ _ => trivial
  variation := .inl trivial
  settlement := .inl trivial
  deposit := trivial
  withdrawal := trivial
  margin := trivial
  waterfall := trivial
  defaults := trivial
  contribution := trivial

/-- The legs stay, and new ones are of those who are eligible in the first state. -/
structure LegsOpened (first db after : Database) : Prop where
  kept : Retains (Same NovatedTrade.fixed) db.novatedTrades after.novatedTrades
  eligible : ∀ leg ∈ after.novatedTrades.drop db.novatedTrades.length,
    Eligible first leg.memberId leg.instrumentId

/-- No leg is new. -/
theorem LegsOpened.of_length {db after : Database}
    (kept : Retains (Same NovatedTrade.fixed) db.novatedTrades after.novatedTrades)
    (count : after.novatedTrades.length = db.novatedTrades.length) : LegsOpened first db after := by
  refine ⟨kept, fun leg member => ?_⟩
  rw [← count, List.drop_length] at member
  cases member

instance : Std.Refl (LegsOpened first) := ⟨fun _ => .of_length (.of_same _) rfl⟩

instance : IsTrans Database (LegsOpened first) where
  trans db middle after head tail := by
    refine ⟨head.kept.trans tail.kept, fun leg member => ?_⟩
    rcases (tail.kept.drop db.novatedTrades.length).mem_or_new member with
      ⟨old, there, same⟩ | new
    · have eligible := head.eligible old there
      have member_same : leg.memberId = old.memberId := congrArg (fun row => row.2.2.1) same
      have instrument_same : leg.instrumentId = old.instrumentId :=
        congrArg (fun row => row.2.2.2.1) same
      rwa [member_same, instrument_same]
    · have count := head.kept.length_le
      rw [List.length_drop, List.drop_drop, Nat.add_sub_cancel' count] at new
      exact tail.eligible leg new

theorem opened_of_writes {db after : Database}
    (writes : RowWrites backend (eligibleLegs first) db after) :
    LegsOpened first db after := by
  have kept := (granted_of_writes writes).novatedTrades
  cases writes with
  | leg leg allowed =>
      refine ⟨kept, fun added member => ?_⟩
      rw [List.drop_left, List.mem_singleton] at member
      exact member ▸ allowed
  | netted => exact .of_length kept (List.length_map _)
  | _ => exact .of_length kept rfl

/-- No run adds a leg of a member or an instrument that was not active at its start. -/
theorem eligible_of_run {last : Database} (run : Run (Operates backend) Operating first last) :
    ∀ leg ∈ last.novatedTrades.drop first.novatedTrades.length,
      Eligible first leg.memberId leg.instrumentId := by
  have written : Written backend (eligibleLegs first) first last :=
    written_of_run (allows_eligibleLegs first) run
  have opened : LegsOpened first first last :=
    related_of_written (fun _ _ => opened_of_writes) written
  exact opened.eligible

private theorem novated_twoMembers :
    ∃ middle ∈ committedStates (called decimalBackend none (tenUnits.body decimalBackend))
        tradelessHouse,
      ∃ last ∈ committedStates
        (called decimalBackend none (submittedUnits.body decimalBackend)) middle,
        last.novatedTrades.map NovatedTrade.memberId = [2, 1] := by
  decide +kernel

/-- Both members of a trade were active. -/
theorem eligible_of_run_tradelessHouse :
    ∃ last, Run (Operates decimalBackend) Operating tradelessHouse last ∧
      last.novatedTrades.map NovatedTrade.memberId = [2, 1] ∧
        ∀ leg ∈ last.novatedTrades, Eligible tradelessHouse leg.memberId leg.instrumentId := by
  obtain ⟨middle, submitted, last, novated, members⟩ := novated_twoMembers
  have run : Run (Operates decimalBackend) Operating tradelessHouse last :=
    operate (operate (.refl _) submitted) novated
  exact ⟨last, run, members, eligible_of_run run⟩

end Novation

end ClearingHouse
