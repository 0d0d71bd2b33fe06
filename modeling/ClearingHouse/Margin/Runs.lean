import ClearingHouse.Margin.Recalculation

/-!
# Runs of the margin engine

Position by position, a run adjusts requirements and balances and calls for what is short.  What it
calls for depends on the posted amounts it starts from.
-/

namespace ClearingHouse

namespace Margin

open Transactions Transactions.Transaction

variable {backend : Backend} {deadline : Timestamp} {trace : TraceContext}

/-- The journal of a variation, seen from its accounts. -/
def variationPosted (instrumentId available locked : Uuid) (vm stored : ℚ) (db : Database) :
    Database :=
  if 0 < vm then transferred instrumentId available locked stored db
  else transferred instrumentId locked available stored db

/-- Nothing but journals, entries and the next identifier differs. -/
structure SameMargins (db after : Database) : Prop where
  accounts : after.accounts = db.accounts
  legs : after.novatedTrades = db.novatedTrades
  instruments : after.instruments = db.instruments
  prices : after.latestPrices = db.latestPrices
  rows : after.marginRequirements = db.marginRequirements
  calls : after.marginCalls = db.marginCalls

theorem sameMargins_variationPosted (instrumentId available locked : Uuid) (vm stored : ℚ)
    (db : Database) :
    SameMargins db (variationPosted instrumentId available locked vm stored db) := by
  rw [variationPosted]
  split <;> exact ⟨rfl, rfl, rfl, rfl, rfl, rfl⟩

theorem accountBalance_variationPosted (position : Position) {available locked : Account}
    {stored : ℚ} {db : Database}
    (found : variationAccounts db position.memberId = some (available, locked))
    (store : backend.store (backend.abs (vmAmount backend position)) = some stored)
    (accountId : Uuid) :
    accountBalance (variationPosted position.instrumentId available.id locked.id
        (vmAmount backend position) stored db) accountId =
      accountBalance db accountId + change backend db accountId position := by
  have apart := (variationAccounts_ne found).2.2.2.2
  simp only [change, found, variation, store, Option.getD_some]
  rw [variationPosted]
  split
  · rw [accountBalance_transferred]
    by_cases at_available : available.id = accountId
    · have not_locked : locked.id ≠ accountId := fun same => apart (at_available.trans same.symm)
      simp [at_available, not_locked]
    · by_cases at_locked : locked.id = accountId
      · simp [at_available, at_locked]
      · simp [at_available, at_locked]
  · rw [accountBalance_transferred]
    by_cases at_available : available.id = accountId
    · have not_locked : locked.id ≠ accountId := fun same => apart (at_available.trans same.symm)
      simp [at_available, not_locked]
    · by_cases at_locked : locked.id = accountId
      · simp [at_available, at_locked]
      · simp [at_available, at_locked]

/-- A position without variation or without margin accounts changes no balance. -/
theorem change_eq_zero {position : Position} {db : Database}
    (none : vmAmount backend position = 0 ∨ variationAccounts db position.memberId = none)
    (accountId : Uuid) : change backend db accountId position = 0 := by
  rcases none with zero | missing
  · have nothing : variation backend position = 0 := by
      simp [variation, zero, Backend.abs, backend.round_zero, backend.store_zero]
    rw [change]
    split
    · simp [nothing]
    · rfl
  · simp [change, missing]

section Step

variable {position : Position} {db middle : Database} {amount : ℚ}

private theorem other_key {memberId instrumentId : Uuid} (marginType marginType' : MarginType)
    (away : (memberId, instrumentId) ∉ [position].map Position.key) :
    ¬(memberId = position.memberId ∧ instrumentId = position.instrumentId ∧
      marginType = marginType') := by
  rintro ⟨rfl, rfl, -⟩
  exact away (List.mem_singleton_self _)

/-- A position whose variation is not posted: only its initial requirement moves. -/
theorem adjusted_unposted (store : backend.store (imRequired backend position) = some amount)
    (none : vmAmount backend position = 0 ∨ variationAccounts db position.memberId = none) :
    Adjusted backend [position] db
      (upserted position.memberId position.instrumentId .initial amount db) where
  accounts := upserted_accounts ..
  legs := upserted_novatedTrades ..
  instruments := upserted_instruments ..
  prices := upserted_latestPrices ..
  balances := by
    intro accountId
    simp [accountBalance, change_eq_zero none accountId]
  posted := fun _ _ _ => (findRequirement_upserted ..).1
  ids := fun _ _ _ => (findRequirement_upserted ..).2
  marked := by
    intro other member
    rw [List.mem_singleton.mp member]
    refine ⟨⟨amount, store, requires_upserted ..⟩, fun both nonzero => ?_⟩
    rcases none with zero | missing
    · exact absurd zero nonzero
    · rw [variationAccounts_of_accounts (upserted_accounts ..), missing] at both
      cases both
  others := fun _ _ _ _ away requires => requires.upserted_other (other_key _ _ away)
  unmoved := by
    intro marked
    obtain ⟨amount', store', requires⟩ := (marked position (List.mem_singleton_self _)).initial
    rw [store, Option.some.injEq] at store'
    subst store'
    rw [requires.upserted_eq]

/-- A position whose variation is posted: both its requirements and the accounts move. -/
theorem adjusted_posted {available locked : Account} {stored : ℚ}
    (store : backend.store (imRequired backend position) = some amount)
    (nonzero : vmAmount backend position ≠ 0)
    (found : variationAccounts db position.memberId = some (available, locked))
    (stored_eq : backend.store (backend.abs (vmAmount backend position)) = some stored) :
    Adjusted backend [position] db
      (upserted position.memberId position.instrumentId .variation stored
        (variationPosted position.instrumentId available.id locked.id (vmAmount backend position)
          stored (upserted position.memberId position.instrumentId .initial amount db))) := by
  have found' : variationAccounts
      (upserted position.memberId position.instrumentId .initial amount db) position.memberId =
        some (available, locked) :=
    (variationAccounts_of_accounts (upserted_accounts ..) _).trans found
  have balances := accountBalance_variationPosted position found' stored_eq
  have initial := requires_upserted db position.memberId position.instrumentId .initial amount
  have rows := findRequirement_upserted db position.memberId position.instrumentId .initial amount
  have same := sameMargins_variationPosted position.instrumentId available.id locked.id
    (vmAmount backend position) stored
    (upserted position.memberId position.instrumentId .initial amount db)
  generalize variationPosted position.instrumentId available.id locked.id
    (vmAmount backend position) stored
    (upserted position.memberId position.instrumentId .initial amount db) = posting at *
  have rows' := findRequirement_upserted posting position.memberId position.instrumentId .variation
    stored
  have find_same : ∀ memberId instrumentId marginType,
      findRequirement posting memberId instrumentId marginType =
        findRequirement (upserted position.memberId position.instrumentId .initial amount db)
          memberId instrumentId marginType := by
    intro memberId instrumentId marginType
    rw [findRequirement, findRequirement, same.rows]
  refine ⟨by simp [same.accounts], by simp [same.legs], by simp [same.instruments],
    by simp [same.prices], fun accountId => ?_, fun memberId instrumentId marginType => ?_,
    fun memberId instrumentId marginType id known => ?_, fun other member => ?_,
    fun _ _ _ _ away requires => ?_, fun marked => ?_⟩
  · have unposted : accountBalance (upserted position.memberId position.instrumentId .initial amount
        db) accountId = accountBalance db accountId := by simp [accountBalance]
    have moved := balances accountId
    rw [unposted, change_of_accounts (upserted_accounts ..)] at moved
    simpa [accountBalance] using moved
  · rw [(rows' memberId instrumentId marginType).1, ← (rows memberId instrumentId marginType).1,
      postedAt, postedAt, find_same]
  · apply (rows' memberId instrumentId marginType).2
    rw [idAt, find_same]
    exact (rows memberId instrumentId marginType).2 id known
  · rw [List.mem_singleton.mp member]
    refine ⟨⟨amount, store, ?_⟩, fun _ _ => ⟨stored, stored_eq, requires_upserted ..⟩⟩
    exact (initial.of_rows same.rows).upserted_other (by simp)
  · exact ((requires.upserted_other (other_key _ _ away)).of_rows same.rows).upserted_other
      (other_key _ _ away)
  · obtain ⟨initial', variation'⟩ := marked position (List.mem_singleton_self _)
    obtain ⟨amount', store', requires⟩ := initial'
    rw [store, Option.some.injEq] at store'
    subst store'
    obtain ⟨stored', stored_eq', requires'⟩ := variation' (by simp [found]) nonzero
    rw [stored_eq, Option.some.injEq] at stored_eq'
    subst stored_eq'
    rw [requires.upserted_eq] at same
    rw [(requires'.of_rows same.rows).upserted_eq, same.rows]

end Step

/-- The calls of a run over some positions, as rows and as payloads. -/
structure Called (backend : Backend) (deadline : Timestamp) (positions : List Position)
    (calls : List Payload) (db after : Database) : Prop where
  rows : ∃ added, after.marginCalls = db.marginCalls ++ added ∧
    (∀ call ∈ added, call.status = .issued) ∧
    (∀ position ∈ positions, 0 < shortfallOf backend db position →
      ∃ call ∈ added, ∃ id, call.marginRequirementId = some id ∧
        idAt after position.memberId position.instrumentId .initial = some id) ∧
    ((∀ position ∈ positions, ¬0 < shortfallOf backend db position) → added = [])
  made : ∀ position ∈ positions, 0 < shortfallOf backend db position →
    ∃ callId, marginCallPayload callId position.memberId position.instrumentId
      (shortfallOf backend db position) deadline ∈ calls
  only : ∀ payload ∈ calls, ∃ position ∈ positions, 0 < shortfallOf backend db position ∧
    ∃ callId, payload = marginCallPayload callId position.memberId position.instrumentId
      (shortfallOf backend db position) deadline

theorem Called.nil (db : Database) : Called backend deadline [] [] db db :=
  ⟨⟨[], by simp⟩, by simp, by simp⟩

theorem Called.cons {position : Position} {positions : List Position} {calls calls' : List Payload}
    {db middle after : Database} (head : Called backend deadline [position] calls db middle)
    (tail : Called backend deadline positions calls' middle after)
    (posted : ∀ memberId instrumentId marginType,
      postedAt middle memberId instrumentId marginType =
        postedAt db memberId instrumentId marginType)
    (ids : ∀ memberId instrumentId marginType id,
      idAt middle memberId instrumentId marginType = some id →
        idAt after memberId instrumentId marginType = some id) :
    Called backend deadline (position :: positions) (calls ++ calls') db after := by
  have same : ∀ position, shortfallOf backend middle position = shortfallOf backend db position :=
    fun position => by rw [shortfallOf, shortfallOf, posted]
  obtain ⟨added, extended, issued, called, silent⟩ := head.rows
  obtain ⟨added', extended', issued', called', silent'⟩ := tail.rows
  simp only [same] at called' silent'
  refine ⟨⟨added ++ added', by rw [extended', extended, List.append_assoc], ?_, ?_, ?_⟩, ?_, ?_⟩
  · intro call member
    exact (List.mem_append.mp member).elim (issued call) (issued' call)
  · intro other member short
    rcases List.mem_cons.mp member with rfl | inside
    · obtain ⟨call, made, id, names, known⟩ := called other (List.mem_singleton_self _) short
      exact ⟨call, List.mem_append_left _ made, id, names, ids _ _ _ _ known⟩
    · obtain ⟨call, made, rest⟩ := called' other inside short
      exact ⟨call, List.mem_append_right _ made, rest⟩
  · intro covered
    rw [silent (by simpa using covered position List.mem_cons_self),
      silent' fun other inside => covered other (List.mem_cons_of_mem _ inside), List.append_nil]
  · intro other member short
    rcases List.mem_cons.mp member with rfl | inside
    · obtain ⟨callId, made⟩ := head.made other (List.mem_singleton_self _) short
      exact ⟨callId, List.mem_append_left _ made⟩
    · obtain ⟨callId, made⟩ := tail.made other inside (by rwa [same])
      exact ⟨callId, List.mem_append_right _ (same other ▸ made)⟩
  · intro payload member
    rcases List.mem_append.mp member with old | new
    · obtain ⟨other, inside, short, callId, rfl⟩ := head.only payload old
      rw [List.mem_singleton.mp inside] at short ⊢
      exact ⟨position, List.mem_cons_self, short, callId, rfl⟩
    · obtain ⟨other, inside, short, callId, rfl⟩ := tail.only payload new
      rw [same] at short ⊢
      exact ⟨other, List.mem_cons_of_mem _ inside, short, callId, rfl⟩

/-- The tables that a run reads stay, whatever else is written. -/
theorem Adjusted.of_same {positions : List Position} {db middle after : Database}
    (adjusted : Adjusted backend positions db middle) (same : SameMargins middle after)
    (entries : after.journalEntries = middle.journalEntries) :
    Adjusted backend positions db after := by
  have find_same : ∀ memberId instrumentId marginType,
      findRequirement after memberId instrumentId marginType =
        findRequirement middle memberId instrumentId marginType := by
    intro memberId instrumentId marginType
    rw [findRequirement, findRequirement, same.rows]
  exact
    { accounts := same.accounts.trans adjusted.accounts
      legs := same.legs.trans adjusted.legs
      instruments := same.instruments.trans adjusted.instruments
      prices := same.prices.trans adjusted.prices
      balances := fun accountId => by
        rw [← adjusted.balances, accountBalance, accountBalance, entries]
      posted := fun _ _ _ => by rw [← adjusted.posted, postedAt, postedAt, find_same]
      ids := fun _ _ _ id known => by
        rw [idAt, find_same]
        exact adjusted.ids _ _ _ id known
      marked := fun position inside => (adjusted.marked position inside).of_rows same.accounts
        same.rows
      others := fun _ _ _ _ away requires =>
        (adjusted.others _ _ _ _ away requires).of_rows same.rows
      unmoved := fun marked => same.rows.trans (adjusted.unmoved marked) }

theorem orTypeError_eq_ok {value : Option ℚ} {x : ℚ} {db after : Database}
    (ran : orTypeError value db = .ok (x, after)) : value = some x ∧ db = after := by
  cases value with
  | none => cases ran
  | some found =>
      cases ran
      exact ⟨rfl, rfl⟩

/-- The rows of a margin call. -/
theorem issueMarginCall_eq_ok {memberId instrumentId : Uuid} {shortfall : ℚ} {payload : Payload}
    {db after : Database}
    (ran : issueMarginCall backend deadline memberId instrumentId shortfall trace db =
      .ok (payload, after)) :
    ∃ call, call.status = .issued ∧
      call.marginRequirementId = idAt db memberId instrumentId .initial ∧
      after.marginCalls = db.marginCalls ++ [call] ∧
      SameMargins { db with marginCalls := after.marginCalls } after ∧
      after.journalEntries = db.journalEntries ∧
      ∃ callId, payload = marginCallPayload callId memberId instrumentId shortfall deadline := by
  obtain ⟨callId, numbered, number, ran⟩ := bind_eq_ok.mp ran
  cases number
  simp only [bind_eq_ok, Transaction.read_apply, Except.ok.injEq, Prod.mk.injEq] at ran
  obtain ⟨_, _, ⟨rfl, rfl⟩, callAmount, _, cast, ran⟩ := ran
  obtain ⟨stored, rfl⟩ := castNumeric_eq_ok.mp cast
  obtain ⟨⟨⟩, called, write, ⟨⟩, recorded, record, eventId, announced, event, done⟩ := ran
  cases write
  cases record
  cases event
  cases done
  exact ⟨_, rfl, rfl, rfl, ⟨rfl, rfl, rfl, rfl, rfl, rfl⟩, rfl, db.nextUuid, rfl⟩

theorem recalculatePosition_ran {position : Position} {calls calls' : List Payload}
    {db after : Database}
    (ran : recalculatePosition backend deadline trace calls position db = .ok (calls', after)) :
    ∃ new, calls' = calls ++ new ∧ Adjusted backend [position] db after ∧
      Called backend deadline [position] new db after := by
  obtain ⟨price, priced, marking, upserting⟩ := bind_eq_ok.mp ran
  obtain ⟨mark_eq, rfl⟩ := orTypeError_eq_ok marking
  obtain ⟨⟨⟩, upserted', upsert, averaging⟩ := bind_eq_ok.mp upserting
  obtain ⟨amount, store, rfl⟩ := updateMarginRequirement_eq_ok upsert
  obtain ⟨mark, averaged, average, posting⟩ := bind_eq_ok.mp averaging
  obtain ⟨average_eq, rfl⟩ := orTypeError_eq_ok average
  obtain ⟨⟨⟩, middle, varying, calling⟩ := bind_eq_ok.mp posting
  simp only [bind_eq_ok, Transaction.read_apply, Except.ok.injEq, Prod.mk.injEq] at calling
  obtain ⟨_, _, ⟨rfl, rfl⟩, calling⟩ := calling
  have im_eq : imRequired backend position =
      calculateInitialMargin backend position.netQuantity price position.rateIm := by
    simp [imRequired, mark_eq]
  have vm_eq : vmAmount backend position =
      calculateVariationMargin backend position.netQuantity price mark := by
    simp [vmAmount, mark_eq, average_eq]
  rw [← im_eq] at store
  rw [← vm_eq] at varying
  obtain ⟨adjusted, same_calls⟩ : Adjusted backend [position] db middle ∧
      middle.marginCalls = db.marginCalls := by
    have accounts := variationAccounts_of_accounts
      (upserted_accounts db position.memberId position.instrumentId .initial amount)
      position.memberId
    rcases processVariation_ran varying with ⟨none, rfl⟩ | ⟨available, locked, stored, nonzero,
      found, stored_eq, rfl⟩
    · rw [accounts] at none
      exact ⟨adjusted_unposted store none, upserted_marginCalls ..⟩
    · rw [accounts] at found
      refine ⟨adjusted_posted store nonzero found stored_eq, ?_⟩
      rw [upserted_marginCalls]
      exact (sameMargins_variationPosted ..).calls.trans (upserted_marginCalls ..)
  have marked := (adjusted.marked position (List.mem_singleton_self _)).initial
  obtain ⟨amount', store', requires⟩ := marked
  rw [store, Option.some.injEq] at store'
  subst store'
  have short_eq : checkShortfall middle position.memberId position.instrumentId .initial =
      shortfallOf backend db position := by
    rw [checkShortfall_eq requires, shortfallOf, store, Option.getD_some, adjusted.posted]
  rw [short_eq] at calling
  split at calling
  · next short =>
      obtain ⟨payload, called, issue, done⟩ := bind_eq_ok.mp calling
      cases done
      obtain ⟨call, issued, names, calls_eq, same, entries, callId, rfl⟩ :=
        issueMarginCall_eq_ok issue
      have frame : SameMargins middle { after with marginCalls := middle.marginCalls } :=
        ⟨same.accounts, same.legs, same.instruments, same.prices, same.rows, rfl⟩
      have done := adjusted.of_same frame entries
      refine ⟨[_], rfl, ⟨done.accounts, done.legs, done.instruments, done.prices, done.balances,
        done.posted, done.ids, fun other inside => ?_, fun _ _ _ _ away requires => ?_,
        done.unmoved⟩, ?_⟩
      · exact (done.marked other inside).of_rows rfl rfl
      · exact (done.others _ _ _ _ away requires).of_rows rfl
      · refine ⟨⟨[call], by rw [calls_eq, same_calls], by simpa using issued, ?_, ?_⟩, ?_, ?_⟩
        · intro other member _
          rw [List.mem_singleton.mp member]
          obtain ⟨id, known⟩ := requires.idAt_isSome
          have known' : idAt after position.memberId position.instrumentId .initial = some id := by
            rw [idAt, findRequirement, same.rows]
            exact known
          exact ⟨call, List.mem_singleton_self _, id, names.trans known, known'⟩
        · intro covered
          exact absurd short (covered position (List.mem_singleton_self _))
        · intro other member _
          rw [List.mem_singleton.mp member]
          exact ⟨callId, List.mem_singleton_self _⟩
        · intro payload member
          rw [List.mem_singleton.mp member]
          exact ⟨position, List.mem_singleton_self _, short, callId, rfl⟩
  · next covered =>
      cases calling
      refine ⟨[], by simp, adjusted, ⟨[], by simp [same_calls], by simp, ?_, by simp⟩, ?_, by simp⟩
      · intro other member short
        rw [List.mem_singleton.mp member] at short
        exact absurd short covered
      · intro other member short
        rw [List.mem_singleton.mp member] at short
        exact absurd short covered

theorem foldlM_recalculatePosition {positions : List Position} {calls calls' : List Payload}
    {db after : Database} (distinct : (positions.map Position.key).Nodup)
    (ran : positions.foldlM (recalculatePosition backend deadline trace) calls db =
      .ok (calls', after)) :
    ∃ new, calls' = calls ++ new ∧ Adjusted backend positions db after ∧
      Called backend deadline positions new db after := by
  induction positions generalizing calls db with
  | nil =>
      cases ran
      exact ⟨[], by simp, .nil after, .nil after⟩
  | cons position positions induction =>
      rw [List.foldlM_cons] at ran
      obtain ⟨fresh, distinct⟩ := List.nodup_cons.mp distinct
      obtain ⟨middleCalls, middle, first, rest⟩ := bind_eq_ok.mp ran
      obtain ⟨new, rfl, adjusted, called⟩ := recalculatePosition_ran first
      obtain ⟨new', rfl, adjusted', called'⟩ := induction distinct rest
      exact ⟨new ++ new', List.append_assoc .., adjusted.cons adjusted' fresh,
        called.cons called' adjusted.posted adjusted'.ids⟩

/-- A member has one position in an instrument. -/
theorem nodup_positions (backend : Backend) (db : Database) :
    ((positions backend db).map Position.key).Nodup := by
  rw [positions]
  rw [List.map_filterMap]
  apply (List.nodup_dedup _).filterMap
  intro key key' found first second
  obtain ⟨position, made, rfl⟩ := Option.map_eq_some_iff.mp first
  obtain ⟨position', made', same⟩ := Option.map_eq_some_iff.mp second
  have named : position.key = key := by
    dsimp only at made
    split at made
    · cases made
    · split at made <;> cases made
      rfl
  have named' : position'.key = key' := by
    dsimp only at made'
    split at made'
    · cases made'
    · split at made' <;> cases made'
      rfl
  rw [← named, ← named', same]

/-- The effect of a whole run. -/
theorem recalculateMargins_ran {calls : List Payload} {db after : Database}
    (ran : recalculateMargins backend deadline trace db = .ok (calls, after)) :
    Adjusted backend (positions backend db) db after ∧
      Called backend deadline (positions backend db) calls db after := by
  obtain ⟨_, _, reading, ran⟩ := bind_eq_ok.mp ran
  cases reading
  obtain ⟨new, rfl, adjusted, called⟩ := foldlM_recalculatePosition (nodup_positions ..) ran
  exact ⟨adjusted, called⟩

/-- Positions are read from the legs, the instruments and the prices. -/
theorem positions_of_same (backend : Backend) {db after : Database}
    (legs : after.novatedTrades = db.novatedTrades)
    (instruments : after.instruments = db.instruments)
    (prices : after.latestPrices = db.latestPrices) :
    positions backend after = positions backend db := by
  unfold positions openLegs
  rw [legs, instruments, prices]

end Margin

end ClearingHouse
