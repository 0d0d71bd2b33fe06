import ClearingHouse.Collateral
import ClearingHouse.Margin.Runs

/-!
# Convergence of margin

A second run of the margin engine posts every variation again and calls again for what is short, and
a transfer in answer to a call does not reach the requirement it was called for.
-/

namespace ClearingHouse

namespace Margin

open Fibers Transactions Transactions.Transaction

variable {backend : Backend}

/-- Calls for a requirement that are still open. -/
def outstanding (db : Database) (requirementId : Uuid) : ℕ :=
  db.marginCalls.countP fun call =>
    call.marginRequirementId = some requirementId ∧ call.status = .issued

/-- A run leaves balances and required amounts alone and calls for no requirement that has an open
call. -/
structure Idempotent (start after : Database) : Prop where
  balances : ∀ accountId, accountBalance after accountId = accountBalance start accountId
  required : after.marginRequirements.map (fun row => (row.id, row.requiredAmount)) =
    start.marginRequirements.map fun row => (row.id, row.requiredAmount)
  calls : ∀ requirementId, 0 < outstanding start requirementId →
    outstanding after requirementId = outstanding start requirementId

/-- The variations of a member, as a run posts them. -/
def variationTotal (backend : Backend) (db : Database) (memberId : Uuid) : ℚ :=
  fiberSum Position.memberId (variation backend) (positions backend db) memberId

/-- No margin is due: the variations of every member with both accounts cancel, and every initial
margin is posted. -/
structure Settled (backend : Backend) (db : Database) : Prop where
  variations : ∀ memberId, (variationAccounts db memberId).isSome →
    variationTotal backend db memberId = 0
  initials : ∀ position ∈ positions backend db, ¬0 < shortfallOf backend db position

/-- On the accounts of a member a run posts the variations of that member. -/
private theorem sum_change_of_accounts {db : Database} {memberId : Uuid}
    {available locked : Account}
    (found : variationAccounts db memberId = some (available, locked)) (ps : List Position) :
    (ps.map (change backend db available.id)).sum =
        fiberSum Position.memberId (variation backend) ps memberId ∧
      (ps.map (change backend db locked.id)).sum =
        -fiberSum Position.memberId (variation backend) ps memberId := by
  obtain ⟨inside, owner, inside', owner', apart⟩ := variationAccounts_ne found
  have single : ∀ position, change backend db available.id position =
        (if position.memberId = memberId then variation backend position else 0) ∧
      change backend db locked.id position =
        -(if position.memberId = memberId then variation backend position else 0) := by
    intro position
    by_cases same : position.memberId = memberId
    · simp [change, same, found, apart]
    · have other : ∀ {account account' : Account}, account ∈ db.accounts →
          account' ∈ db.accounts → account.memberId = position.memberId →
          account'.memberId = memberId → account.id ≠ account'.id := by
        intro account account' listed listed' first second equal
        have one := List.inj_on_of_nodup_map db.accountIds_nodup listed listed' equal
        exact same (first.symm.trans ((congrArg Account.memberId one).trans second))
      simp only [if_neg same, neg_zero]
      unfold change
      cases accounts : variationAccounts db position.memberId with
      | none => exact ⟨rfl, rfl⟩
      | some pair =>
          obtain ⟨available', locked'⟩ := pair
          obtain ⟨listed, first, listed', second, -⟩ := variationAccounts_ne accounts
          simp [other listed inside first owner, other listed' inside second owner,
            other listed inside' first owner', other listed' inside' second owner']
  induction ps with
  | nil => simp
  | cons position ps induction =>
      rw [List.map_cons, List.sum_cons, List.map_cons, List.sum_cons, fiberSum_cons,
        (single position).1, (single position).2, induction.1, induction.2]
      exact ⟨rfl, by ring⟩

/-- A run moves no balance exactly if the variations of every member cancel. -/
theorem sum_change_eq_zero_iff (db : Database) (ps : List Position) :
    (∀ accountId, (ps.map (change backend db accountId)).sum = 0) ↔
      ∀ memberId, (variationAccounts db memberId).isSome →
        fiberSum Position.memberId (variation backend) ps memberId = 0 := by
  constructor
  · intro balanced memberId both
    obtain ⟨⟨available, locked⟩, found⟩ := Option.isSome_iff_exists.mp both
    rw [← (sum_change_of_accounts found ps).1]
    exact balanced available.id
  · intro cancelled accountId
    by_cases used : ∃ memberId available locked,
        variationAccounts db memberId = some (available, locked) ∧
          (available.id = accountId ∨ locked.id = accountId)
    · obtain ⟨memberId, available, locked, found, rfl | rfl⟩ := used
      · rw [(sum_change_of_accounts found ps).1]
        exact cancelled memberId (by simp [found])
      · rw [(sum_change_of_accounts found ps).2, cancelled memberId (by simp [found]), neg_zero]
    · have unused : ∀ position, change backend db accountId position = 0 := by
        intro position
        rw [change]
        cases accounts : variationAccounts db position.memberId with
        | none => rfl
        | some pair =>
            obtain ⟨available, locked⟩ := pair
            have apart := fun equal => used ⟨_, available, locked, accounts, equal⟩
            have first : available.id ≠ accountId := fun same => apart (.inl same)
            have second : locked.id ≠ accountId := fun same => apart (.inr same)
            simp [first, second]
      apply List.sum_eq_zero
      intro x member
      obtain ⟨position, -, rfl⟩ := List.mem_map.mp member
      exact unused position

section Twice

variable {deadline deadline' : Timestamp} {trace trace' : TraceContext}
  {calls calls' : List Payload} {db mid start after : Database}

theorem shortfallOf_of_same (backend : Backend) (same : SameMargins mid start)
    (posted : ∀ memberId instrumentId marginType,
      postedAt mid memberId instrumentId marginType = postedAt db memberId instrumentId marginType)
    (position : Position) :
    shortfallOf backend start position = shortfallOf backend db position := by
  have found : postedAt start position.memberId position.instrumentId .initial =
      postedAt mid position.memberId position.instrumentId .initial := by
    rw [postedAt, postedAt, findRequirement, findRequirement, same.rows]
  rw [shortfallOf, shortfallOf, found, posted]

/-- With nothing changed in between, a second run is idempotent exactly if no margin was due before
the first. -/
theorem idempotent_iff_settled
    (first : recalculateMargins backend deadline trace db = .ok (calls, mid))
    (between : SameMargins mid start)
    (second : recalculateMargins backend deadline' trace' start = .ok (calls', after)) :
    Idempotent start after ↔ Settled backend db := by
  obtain ⟨adjusted, called⟩ := recalculateMargins_ran first
  obtain ⟨adjusted', called'⟩ := recalculateMargins_ran second
  have same_positions : positions backend start = positions backend db :=
    positions_of_same backend (between.legs.trans adjusted.legs)
      (between.instruments.trans adjusted.instruments) (between.prices.trans adjusted.prices)
  rw [same_positions] at adjusted' called'
  have accounts := between.accounts.trans adjusted.accounts
  have same_change : ∀ accountId, change backend start accountId = change backend db accountId :=
    fun accountId => funext (change_of_accounts accounts accountId)
  have same_shortfall := shortfallOf_of_same backend between adjusted.posted
  have balances := adjusted'.balances
  simp only [same_change] at balances
  obtain ⟨added, extended, issued, made, -⟩ := called.rows
  obtain ⟨added', extended', issued', made', silent'⟩ := called'.rows
  simp only [same_shortfall] at made' silent'
  have counts : ∀ requirementId, outstanding after requirementId =
      outstanding start requirementId + added'.countP fun call =>
        call.marginRequirementId = some requirementId ∧ call.status = .issued := by
    intro requirementId
    rw [outstanding, extended', List.countP_append, outstanding]
  constructor
  · intro idempotent
    refine ⟨(sum_change_eq_zero_iff db _).mp fun accountId => ?_, fun position inside short => ?_⟩
    · have unmoved := idempotent.balances accountId
      rw [balances] at unmoved
      linarith
    · -- The first run has called for the requirement, and the second calls for it again.
      obtain ⟨call, listed, id, names, known⟩ := made position inside short
      obtain ⟨call', listed', id', names', known'⟩ := made' position inside short
      have known_start : idAt start position.memberId position.instrumentId .initial = some id := by
        rw [idAt, findRequirement, between.rows]
        exact known
      have same_id := adjusted'.ids _ _ _ _ known_start
      rw [known', Option.some.injEq] at same_id
      have outstanding_start : 0 < outstanding start id := by
        rw [outstanding, between.calls, extended, List.countP_pos_iff]
        exact ⟨call, List.mem_append_right _ listed, by simp [names, issued call listed]⟩
      have again : 0 < added'.countP fun call =>
          call.marginRequirementId = some id ∧ call.status = .issued := by
        rw [List.countP_pos_iff]
        exact ⟨call', listed', by simp [names', same_id, issued' call' listed']⟩
      have repeated := idempotent.calls id outstanding_start
      rw [counts] at repeated
      omega
  · intro settled
    refine ⟨fun accountId => ?_, ?_, fun requirementId _ => ?_⟩
    · rw [balances, (sum_change_eq_zero_iff db _).mpr settled.variations, add_zero]
    · rw [adjusted'.unmoved fun position inside =>
        (adjusted.marked position inside).of_rows between.accounts between.rows]
    · rw [counts, silent' settled.initials, List.countP_nil, Nat.add_zero]

instance : Std.Refl SameMargins := ⟨fun _ => ⟨rfl, rfl, rfl, rfl, rfl, rfl⟩⟩

instance : IsTrans Database SameMargins where
  trans _ _ _ first second :=
    ⟨second.accounts.trans first.accounts, second.legs.trans first.legs,
      second.instruments.trans first.instruments, second.prices.trans first.prices,
      second.rows.trans first.rows, second.calls.trans first.calls⟩

private theorem sameMargins_insertJournalEntry (journalId accountId : Uuid) (debit credit : ℚ) :
    Respects SameMargins (insertJournalEntry backend journalId accountId debit credit) := by
  intro db value after ran
  obtain ⟨_, _, -, -, -, -, -, rfl⟩ := insertJournalEntry_eq_ok.mp ran
  exact ⟨rfl, rfl, rfl, rfl, rfl, rfl⟩

private theorem sameMargins_creditThenDebit (journalType : JournalType) (referenceType : String)
    (referenceId credited debited : Uuid) (amount : ℚ) :
    Respects SameMargins
      (Collateral.creditThenDebit backend journalType referenceType referenceId credited debited
        amount) := by
  refine respects_bind ?_ fun journalId => respects_bind ?_ fun _ =>
    respects_bind (sameMargins_insertJournalEntry ..) fun _ =>
    respects_bind (sameMargins_insertJournalEntry ..) fun _ => respects_pure _
  · intro db value after ran
    cases ran
    exact ⟨rfl, rfl, rfl, rfl, rfl, rfl⟩
  · intro db value after ran
    obtain ⟨-, rfl⟩ := insertJournal_eq_ok.mp ran
    exact ⟨rfl, rfl, rfl, rfl, rfl, rfl⟩

theorem sameMargins_orInvalid (row : Option Account) (message : Text) :
    Respects SameMargins (Collateral.orInvalid row message) := by
  cases row with
  | some account => exact respects_pure account
  | none => exact respects_raise _

/-- A transfer to initial margin changes no requirement. -/
theorem sameMargins_transferToMargin (memberId : Uuid) (amount : ℚ) :
    Respects SameMargins (Collateral.transferToMargin backend memberId amount .marginIm) := by
  refine respects_bind (respects_require _ _) fun _ => respects_bind respects_read fun _ =>
    respects_bind (sameMargins_orInvalid ..) fun _ =>
    respects_bind (sameMargins_orInvalid ..) fun _ => respects_bind (respects_require _ _) fun _ =>
    respects_bind (sameMargins_creditThenDebit ..) fun _ => respects_bind ?_ fun _ =>
    respects_pure _
  intro db value after ran
  rw [Collateral.updatePostedMargin_apply] at ran
  cases ran
  exact refl db

/-- The answer to a call of an amount covers the requirement of a member in an instrument and no
other, and no further run calls for it. -/
structure Answered (backend : Backend) (memberId instrumentId : Uuid) (amount : ℚ)
    (start after : Database) : Prop where
  posted : ∀ row ∈ start.marginRequirements, Concerns memberId instrumentId .initial row →
    ∃ row' ∈ after.marginRequirements, row'.id = row.id ∧
      row'.postedAmount = row.postedAmount + amount
  others : ∀ row ∈ start.marginRequirements, row.memberId = memberId →
    ¬Concerns memberId instrumentId .initial row → row ∈ after.marginRequirements
  covered : checkShortfall after memberId instrumentId .initial = 0
  quiet : ∀ ⦃deadline trace calls last⦄,
    recalculateMargins backend deadline trace after = .ok (calls, last) →
      ∀ callId shortfall, marginCallPayload callId memberId instrumentId shortfall deadline ∉ calls

private theorem eq_of_marginCallPayload {callId callId' memberId memberId' : Uuid}
    {instrumentId instrumentId' : Uuid} {shortfall shortfall' : ℚ}
    (same : marginCallPayload callId memberId instrumentId shortfall deadline =
      marginCallPayload callId' memberId' instrumentId' shortfall' deadline) :
    memberId = memberId' ∧ instrumentId = instrumentId' ∧ shortfall = shortfall' := by
  simp only [marginCallPayload, Json.uuid, Json.decimal, List.cons.injEq, Prod.mk.injEq,
    Json.string.injEq, Piece.uuid.injEq, Piece.decimal.injEq] at same
  obtain ⟨-, ⟨-, member, -⟩, ⟨-, instrument, -⟩, ⟨-, amount, -⟩, -⟩ := same
  exact ⟨member, instrument, amount⟩

/-- No answer to a call covers the requirement it was called for, and every further run calls for
the same amount again. -/
theorem not_answered {memberId instrumentId callId : Uuid} {amount : ℚ}
    {receipt : Collateral.Receipt}
    (ran : recalculateMargins backend deadline trace db = .ok (calls, mid))
    (called : marginCallPayload callId memberId instrumentId amount deadline ∈ calls)
    (between : SameMargins mid start)
    (transferred : Collateral.transferToMargin backend memberId amount .marginIm start =
      .ok (receipt, after)) :
    ¬Answered backend memberId instrumentId amount start after ∧
      ∀ ⦃deadline trace calls last⦄,
        recalculateMargins backend deadline trace after = .ok (calls, last) →
          ∃ callId, marginCallPayload callId memberId instrumentId amount deadline ∈ calls := by
  obtain ⟨adjusted, calling⟩ := recalculateMargins_ran ran
  obtain ⟨position, inside, short, callId', same⟩ := calling.only _ called
  obtain ⟨rfl, rfl, rfl⟩ := eq_of_marginCallPayload same
  have unanswered : SameMargins mid after :=
    IsTrans.trans _ _ _ between (sameMargins_transferToMargin _ _ transferred)
  constructor
  · intro answered
    obtain ⟨stored, store, requires⟩ := (adjusted.marked position inside).initial
    have covered := answered.covered
    rw [checkShortfall_eq (requires.of_rows unanswered.rows)] at covered
    have posted := shortfallOf_of_same backend unanswered adjusted.posted position
    rw [shortfallOf, store, Option.getD_some, covered] at posted
    exact absurd short (posted ▸ lt_irrefl 0)
  · intro deadline trace calls last again
    obtain ⟨-, calling'⟩ := recalculateMargins_ran again
    have same_positions : positions backend after = positions backend db :=
      positions_of_same backend (unanswered.legs.trans adjusted.legs)
        (unanswered.instruments.trans adjusted.instruments)
        (unanswered.prices.trans adjusted.prices)
    rw [same_positions] at calling'
    have posted := shortfallOf_of_same backend unanswered adjusted.posted position
    rw [← posted] at short ⊢
    exact calling'.made position inside short

end Twice

/-- A member that has bought ten at nine, with a hundred of collateral, at the price of the
market. -/
def marketBook (price : ℚ) : Database :=
  { Database.opening [⟨0, ccpLei, .active, 0⟩, ⟨1, "LEI1", .active, 0⟩]
      [⟨2, .cash, 1 / 10, 1 / 20, none, none, true⟩]
      [⟨3, 1, .marginVm, "USD", .available⟩, ⟨4, 1, .marginVm, "USD", .locked⟩,
        ⟨5, 1, .marginIm, "USD", .available⟩, ⟨6, 1, .collateral, "USD", .available⟩] 20
      Database.nodup_ccpAndMember (by decide) (by decide) with
    journals := [⟨10, .collateralDeposit, "member", some 1, .confirmed⟩]
    journalEntries := [⟨10, 6, 100, 0⟩]
    novatedTrades := [⟨7, 8, 1, 2, .buy, 10, 9, .open, 1⟩]
    latestPrices := [⟨2, price⟩] }

/-- The trace of the runs below. -/
def marginTrace : TraceContext := ⟨9, "system", none⟩

private theorem run_of_toOption {α β : Type} {run : Except Failure (α × Database)}
    {seen : α × Database → β} {value : β} (found : run.toOption.map seen = some value) :
    ∃ result after, run = .ok (result, after) ∧ seen (result, after) = value := by
  cases run with
  | error failure => simp [Except.toOption] at found
  | ok pair => exact ⟨pair.1, pair.2, rfl, by simpa [Except.toOption] using found⟩

private theorem runs_marketBook : ∃ calls mid calls' after,
    recalculateMargins decimalBackend 5 marginTrace (marketBook 10) = .ok (calls, mid) ∧
      recalculateMargins decimalBackend 5 marginTrace mid = .ok (calls', after) ∧
      accountBalance mid 3 = 10 ∧ accountBalance after 3 = 20 := by
  have facts : (recalculateMargins decimalBackend 5 marginTrace (marketBook 10)).toOption.map
      (fun first => (recalculateMargins decimalBackend 5 marginTrace first.2).toOption.map
        fun second => (accountBalance first.2 3, accountBalance second.2 3)) =
          some (some (10, 20)) := by decide +kernel
  obtain ⟨calls, mid, ran, rest⟩ := run_of_toOption facts
  obtain ⟨calls', after, ran', balances⟩ := run_of_toOption rest
  rw [Prod.mk.injEq] at balances
  exact ⟨calls, mid, calls', after, ran, ran', balances⟩

theorem idempotent_iff_settled_marketBook :
    ∃ calls mid calls' after,
      recalculateMargins decimalBackend 5 marginTrace (marketBook 10) = .ok (calls, mid) ∧
        recalculateMargins decimalBackend 5 marginTrace mid = .ok (calls', after) ∧
        (Idempotent mid after ↔ Settled decimalBackend (marketBook 10)) := by
  obtain ⟨calls, mid, calls', after, ran, ran', -⟩ := runs_marketBook
  exact ⟨calls, mid, calls', after, ran, ran', idempotent_iff_settled ran (refl mid) ran'⟩

/-- The second run of `marketBook` posts its variation of ten again. -/
theorem not_idempotent_marketBook :
    ∃ calls mid calls' after,
      recalculateMargins decimalBackend 5 marginTrace (marketBook 10) = .ok (calls, mid) ∧
        recalculateMargins decimalBackend 5 marginTrace mid = .ok (calls', after) ∧
        ¬Idempotent mid after := by
  obtain ⟨calls, mid, calls', after, ran, ran', once, twice⟩ := runs_marketBook
  refine ⟨calls, mid, calls', after, ran, ran', fun idempotent => ?_⟩
  have same := idempotent.balances 3
  rw [once, twice] at same
  norm_num at same

private theorem called_marketBook : ∃ calls mid receipt after,
    recalculateMargins decimalBackend 5 marginTrace (marketBook 10) = .ok (calls, mid) ∧
      Collateral.transferToMargin decimalBackend 1 10 .marginIm mid = .ok (receipt, after) ∧
      marginCallPayload 23 1 2 10 5 ∈ calls := by
  have facts : (recalculateMargins decimalBackend 5 marginTrace (marketBook 10)).toOption.map
      (fun first =>
        ((Collateral.transferToMargin decimalBackend 1 10 .marginIm first.2).toOption.map
          fun second => second.1.amount, first.1)) =
          some (some 10, [marginCallPayload 23 1 2 10 5]) := by decide +kernel
  obtain ⟨calls, mid, ran, rest⟩ := run_of_toOption facts
  rw [Prod.mk.injEq] at rest
  obtain ⟨receipt, after, transferred, -⟩ := run_of_toOption rest.1
  have called : calls = [marginCallPayload 23 1 2 10 5] := rest.2
  exact ⟨calls, mid, receipt, after, ran, transferred, called ▸ List.mem_singleton_self _⟩

theorem not_answered_marketBook :
    ∃ calls mid receipt after,
      recalculateMargins decimalBackend 5 marginTrace (marketBook 10) = .ok (calls, mid) ∧
        marginCallPayload 23 1 2 10 5 ∈ calls ∧
        Collateral.transferToMargin decimalBackend 1 10 .marginIm mid = .ok (receipt, after) ∧
        ¬Answered decimalBackend 1 2 10 mid after ∧
        ∀ ⦃deadline trace calls last⦄,
          recalculateMargins decimalBackend deadline trace after = .ok (calls, last) →
            ∃ callId, marginCallPayload callId 1 2 10 deadline ∈ calls := by
  obtain ⟨calls, mid, receipt, after, ran, transferred, called⟩ := called_marketBook
  exact ⟨calls, mid, receipt, after, ran, called, transferred,
    not_answered ran called (refl mid) transferred⟩

/-- In `marketBook` the transfer of the ten that were called for leaves the requirement short. -/
theorem unanswered_marketBook :
    ∃ calls mid receipt after,
      recalculateMargins decimalBackend 5 marginTrace (marketBook 10) = .ok (calls, mid) ∧
        marginCallPayload 23 1 2 10 5 ∈ calls ∧
        Collateral.transferToMargin decimalBackend 1 10 .marginIm mid = .ok (receipt, after) ∧
        ¬Answered decimalBackend 1 2 10 mid after := by
  have facts : (recalculateMargins decimalBackend 5 marginTrace (marketBook 10)).toOption.map
      (fun first =>
        (Collateral.transferToMargin decimalBackend 1 10 .marginIm first.2).toOption.map
          fun second => checkShortfall second.2 1 2 .initial) = some (some 10) := by decide +kernel
  obtain ⟨calls, mid, receipt, after, ran, transferred, called⟩ := called_marketBook
  refine ⟨calls, mid, receipt, after, ran, called, transferred, fun answered => ?_⟩
  have short : checkShortfall after 1 2 .initial = 10 := by
    simpa [ran, transferred, Except.toOption] using facts
  rw [answered.covered] at short
  norm_num at short

end Margin

end ClearingHouse
