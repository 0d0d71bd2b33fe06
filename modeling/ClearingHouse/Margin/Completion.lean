import ClearingHouse.Margin.Runs
import ClearingHouse.SchemaChecks

/-!
# When a recalculation returns

A recalculation raises at a position without a price, at an amount that its column cannot hold, and
at a variation that it may not post.  Nothing that it writes for one position makes it raise at
another.
-/

namespace ClearingHouse

namespace Margin

open Transactions Transactions.Transaction

/-- A position that has its prices, whose requirement and shortfall fit their columns, and whose
variation is not posted. -/
structure Recalculable (backend : Backend) (db : Database) (position : Position) : Prop where
  mark : (markPrice position).isSome = true
  average : position.avgPrice.isSome = true
  required : (backend.store (imRequired backend position)).isSome = true
  shortfall : (backend.store (shortfallOf backend db position)).isSome = true
  unposted : vmAmount backend position = 0 ∨ variationAccounts db position.memberId = none

variable {backend : Backend} {db after : Database} {memberId instrumentId : Uuid}
  {position : Position}

theorem Recalculable.of_posted (recalculable : Recalculable backend db position)
    (accounts : after.accounts = db.accounts)
    (posted : ∀ memberId instrumentId marginType,
      postedAt after memberId instrumentId marginType =
        postedAt db memberId instrumentId marginType) :
    Recalculable backend after position where
  mark := recalculable.mark
  average := recalculable.average
  required := recalculable.required
  shortfall := by
    rw [shortfallOf, posted]
    exact recalculable.shortfall
  unposted := by
    rw [variationAccounts_of_accounts accounts]
    exact recalculable.unposted

/-- An upsert returns if the requirement and what is missing of it can be stored. -/
theorem updateMarginRequirement_runs {marginType : MarginType} {required stored : ℚ}
    (store : backend.store required = some stored)
    (missing : (backend.store
      (max (stored - postedAt db memberId instrumentId marginType) 0)).isSome = true) :
    updateMarginRequirement backend memberId instrumentId marginType required db =
      .ok ((), upserted memberId instrumentId marginType stored db) := by
  obtain ⟨short, cast⟩ := Option.isSome_iff_exists.mp missing
  rw [updateMarginRequirement, bind_of_ok (castNumeric_eq_ok.mpr ⟨store, rfl⟩),
    bind_of_ok (read_apply db)]
  rw [upserted]
  unfold postedAt at cast
  cases found : findRequirement db memberId instrumentId marginType with
  | some row =>
      rw [found, Option.map_some, Option.getD_some] at cast
      dsimp only
      rw [bind_of_ok (castNumeric_eq_ok.mpr ⟨cast, rfl⟩)]
      rfl
  | none =>
      rw [found, Option.map_none, Option.getD_none, sub_zero] at cast
      dsimp only
      rw [bind_of_ok (castNumeric_eq_ok.mpr ⟨cast, rfl⟩)]
      rfl

theorem issueMarginCall_runs (deadline : Timestamp) (trace : TraceContext) {shortfall : ℚ}
    (stored : (backend.store shortfall).isSome = true) :
    ∃ payload after, issueMarginCall backend deadline memberId instrumentId shortfall trace db =
      .ok (payload, after) ∧ after.journalEntries = db.journalEntries := by
  obtain ⟨callAmount, cast⟩ := Option.isSome_iff_exists.mp stored
  have numbered : uuid4 db = .ok (db.nextUuid, { db with nextUuid := db.nextUuid + 1 }) := rfl
  rw [issueMarginCall, bind_of_ok numbered, bind_of_ok (read_apply _),
    bind_of_ok (castNumeric_eq_ok.mpr ⟨cast, rfl⟩)]
  exact ⟨_, _, rfl, rfl⟩

/-- Without the accounts a variation is not posted. -/
theorem processVariation_of_missing (missing : variationAccounts db memberId = none) (vm : ℚ) :
    runWhen (vm ≠ 0) (processVariationMargin backend memberId instrumentId vm) db =
      .ok ((), db) := by
  rw [runWhen]
  split
  · rw [processVariationMargin, bind_of_ok (read_apply db)]
    unfold variationAccounts at missing
    cases first : findAccount db memberId .marginVm .available with
    | none => rfl
    | some available =>
        cases second : findAccount db memberId .marginVm .locked with
        | none => rfl
        | some locked =>
            rw [first, second] at missing
            cases missing
  · rfl

/-- The step: one position, without a new journal entry. -/
theorem recalculatePosition_runs (deadline : Timestamp) (trace : TraceContext)
    (recalculable : Recalculable backend db position) (calls : List Payload) :
    ∃ calls' after, recalculatePosition backend deadline trace calls position db =
      .ok (calls', after) ∧ after.journalEntries = db.journalEntries := by
  obtain ⟨price, priced⟩ := Option.isSome_iff_exists.mp recalculable.mark
  obtain ⟨mark, averaged⟩ := Option.isSome_iff_exists.mp recalculable.average
  obtain ⟨required, store⟩ := Option.isSome_iff_exists.mp recalculable.required
  have short := recalculable.shortfall
  rw [shortfallOf, store, Option.getD_some] at short
  have im_eq : imRequired backend position =
      calculateInitialMargin backend position.netQuantity price position.rateIm := by
    simp [imRequired, priced]
  have vm_eq : vmAmount backend position =
      calculateVariationMargin backend position.netQuantity price mark := by
    simp [vmAmount, priced, averaged]
  rw [im_eq] at store
  set middle := upserted position.memberId position.instrumentId .initial required db with upsert
  have varied : runWhen (vmAmount backend position ≠ 0)
      (processVariationMargin backend position.memberId position.instrumentId
        (vmAmount backend position)) middle = .ok ((), middle) := by
    rcases recalculable.unposted with zero | missing
    · rw [runWhen, if_neg (not_not.mpr zero)]
      rfl
    · have missing' : variationAccounts middle position.memberId = none := by
        rw [variationAccounts_of_accounts (upserted_accounts ..), missing]
      exact processVariation_of_missing missing' _
  have requires := requires_upserted db position.memberId position.instrumentId .initial required
  have kept := (findRequirement_upserted db position.memberId position.instrumentId .initial
    required position.memberId position.instrumentId .initial).1
  have shortfall_eq : checkShortfall middle position.memberId position.instrumentId .initial =
      max (required - postedAt db position.memberId position.instrumentId .initial) 0 := by
    rw [upsert, checkShortfall_eq requires, kept]
  rw [vm_eq] at varied
  rw [recalculatePosition, priced, averaged]
  have marked : ∀ (x : ℚ) (state : Database), orTypeError (some x) state = .ok (x, state) :=
    fun _ _ => rfl
  rw [bind_of_ok (marked price db), bind_of_ok (updateMarginRequirement_runs store short),
    bind_of_ok (marked mark _), bind_of_ok varied, bind_of_ok (read_apply _),
    shortfall_eq]
  split
  · obtain ⟨payload, after, issued, entries⟩ := issueMarginCall_runs deadline trace short
    rw [bind_of_ok issued]
    exact ⟨_, _, rfl, entries.trans (upserted_journalEntries ..)⟩
  · exact ⟨_, _, rfl, upserted_journalEntries ..⟩

/-- The run, by induction over the positions that are left. -/
theorem foldlM_recalculatePosition_runs (deadline : Timestamp) (trace : TraceContext)
    {positions : List Position}
    (recalculable : ∀ position ∈ positions, Recalculable backend db position)
    (calls : List Payload) :
    ∃ calls' after, positions.foldlM (recalculatePosition backend deadline trace) calls db =
      .ok (calls', after) ∧ after.journalEntries = db.journalEntries := by
  induction positions generalizing calls db with
  | nil => exact ⟨calls, db, rfl, rfl⟩
  | cons position positions induction =>
      obtain ⟨middleCalls, middle, first, entries⟩ :=
        recalculatePosition_runs deadline trace (recalculable position List.mem_cons_self) calls
      obtain ⟨-, -, adjusted, -⟩ := recalculatePosition_ran first
      obtain ⟨calls', after, rest, entries'⟩ := induction
        (fun other member => (recalculable other (List.mem_cons_of_mem _ member)).of_posted
          adjusted.accounts adjusted.posted) middleCalls
      rw [List.foldlM_cons]
      exact ⟨calls', after, bind_eq_ok.mpr ⟨_, _, first, rest⟩, entries'.trans entries⟩

/-- A recalculation returns, without a new journal entry, if every position is recalculable. -/
theorem recalculateMargins_runs (deadline : Timestamp) (trace : TraceContext)
    (recalculable : ∀ position ∈ positions backend db, Recalculable backend db position) :
    ∃ calls after, recalculateMargins backend deadline trace db = .ok (calls, after) ∧
      after.journalEntries = db.journalEntries := by
  rw [recalculateMargins, bind_of_ok (read_apply db)]
  exact foldlM_recalculatePosition_runs deadline trace recalculable []

/-- An upsert that returns has stored what is missing of the requirement. -/
theorem missing_of_updateMarginRequirement {marginType : MarginType} {required stored : ℚ}
    (store : backend.store required = some stored)
    (ran : updateMarginRequirement backend memberId instrumentId marginType required db =
      .ok ((), after)) :
    (backend.store
      (max (stored - postedAt db memberId instrumentId marginType) 0)).isSome = true := by
  rw [updateMarginRequirement, bind_of_ok (castNumeric_eq_ok.mpr ⟨store, rfl⟩),
    bind_of_ok (read_apply db)] at ran
  rw [postedAt]
  cases found : findRequirement db memberId instrumentId marginType with
  | some row =>
      rw [found] at ran
      obtain ⟨short, _, cast, -⟩ := bind_eq_ok.mp ran
      rw [Option.map_some, Option.getD_some, (castNumeric_eq_ok.mp cast).1]
      rfl
  | none =>
      rw [found] at ran
      obtain ⟨short, _, cast, -⟩ := bind_eq_ok.mp ran
      rw [Option.map_none, Option.getD_none, sub_zero, (castNumeric_eq_ok.mp cast).1]
      rfl

/-- Where no variation may be posted, a position that is recalculated is recalculable. -/
theorem recalculable_of_ran (refused : .variationMargin ∉ backend.journalTypes)
    {deadline : Timestamp} {trace : TraceContext} {calls calls' : List Payload}
    (ran : recalculatePosition backend deadline trace calls position db = .ok (calls', after)) :
    Recalculable backend db position := by
  obtain ⟨price, priced, marking, upserting⟩ := bind_eq_ok.mp ran
  obtain ⟨mark_eq, rfl⟩ := orTypeError_eq_ok marking
  obtain ⟨⟨⟩, upserted', upsert, averaging⟩ := bind_eq_ok.mp upserting
  obtain ⟨amount, store, rfl⟩ := updateMarginRequirement_eq_ok upsert
  obtain ⟨mark, averaged, average, posting⟩ := bind_eq_ok.mp averaging
  obtain ⟨average_eq, rfl⟩ := orTypeError_eq_ok average
  obtain ⟨⟨⟩, middle, varying, -⟩ := bind_eq_ok.mp posting
  have im_eq : imRequired backend position =
      calculateInitialMargin backend position.netQuantity price position.rateIm := by
    simp [imRequired, mark_eq]
  have vm_eq : vmAmount backend position =
      calculateVariationMargin backend position.netQuantity price mark := by
    simp [vmAmount, mark_eq, average_eq]
  have missing := missing_of_updateMarginRequirement store upsert
  rw [← im_eq] at store
  rw [← vm_eq] at varying
  have accounts := variationAccounts_of_accounts
    (upserted_accounts db position.memberId position.instrumentId .initial amount)
    position.memberId
  refine ⟨by simp [mark_eq], by simp [average_eq], by simp [store], ?_, ?_⟩
  · rw [shortfallOf, store, Option.getD_some]
    exact missing
  · by_contra both
    obtain ⟨nonzero, known⟩ := not_or.mp both
    rw [runWhen, if_pos nonzero] at varying
    rw [← accounts, variationAccounts] at known
    split at known
    · next available locked free held =>
        have exists_free := Option.isSome_iff_exists.mpr ⟨available, free⟩
        have exists_held := Option.isSome_iff_exists.mpr ⟨locked, held⟩
        exact refused
          (SchemaChecks.admitted_of_processVariationMargin exists_free exists_held varying)
    · exact known rfl

/-- The run, by induction over the positions that are left. -/
theorem recalculable_of_foldlM (refused : .variationMargin ∉ backend.journalTypes)
    {deadline : Timestamp} {trace : TraceContext} {positions : List Position}
    {calls calls' : List Payload}
    (ran : positions.foldlM (recalculatePosition backend deadline trace) calls db =
      .ok (calls', after)) : ∀ position ∈ positions, Recalculable backend db position := by
  induction positions generalizing calls db with
  | nil => exact List.forall_mem_nil _
  | cons position positions induction =>
      rw [List.foldlM_cons] at ran
      obtain ⟨middleCalls, middle, first, rest⟩ := bind_eq_ok.mp ran
      obtain ⟨-, -, adjusted, -⟩ := recalculatePosition_ran first
      refine List.forall_mem_cons.mpr ⟨recalculable_of_ran refused first, fun other member => ?_⟩
      exact (induction rest other member).of_posted adjusted.accounts.symm
        fun memberId instrumentId marginType =>
          (adjusted.posted memberId instrumentId marginType).symm

/-- And it returns only if every position is recalculable, where no variation may be posted. -/
theorem recalculable_of_recalculateMargins (refused : .variationMargin ∉ backend.journalTypes)
    {deadline : Timestamp} {trace : TraceContext} {calls : List Payload}
    (ran : recalculateMargins backend deadline trace db = .ok (calls, after)) :
    ∀ position ∈ positions backend db, Recalculable backend db position := by
  rw [recalculateMargins, bind_of_ok (read_apply db)] at ran
  exact recalculable_of_foldlM refused ran

end Margin

end ClearingHouse
