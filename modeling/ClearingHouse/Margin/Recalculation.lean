import ClearingHouse.Margin

/-!
# Effect of a margin recalculation

A run fixes one initial requirement for each position and, where the margin accounts exist, one
variation requirement; it posts the variation of each position again whatever was posted before, and
calls for every initial requirement that is short.
-/

namespace ClearingHouse

namespace Margin

open Fibers Transactions Transactions.Transaction

/-- The row of a requirement. -/
abbrev Concerns (memberId instrumentId : Uuid) (marginType : MarginType)
    (row : MarginRequirement) : Prop :=
  row.memberId = memberId ∧ row.instrumentId = instrumentId ∧ row.marginType = marginType

/-- There is a requirement, and it asks for an amount. -/
structure Requires (db : Database) (memberId instrumentId : Uuid) (marginType : MarginType)
    (amount : ℚ) : Prop where
  present : ∃ row ∈ db.marginRequirements, Concerns memberId instrumentId marginType row
  amounts : ∀ row ∈ db.marginRequirements, Concerns memberId instrumentId marginType row →
    row.requiredAmount = amount

/-- The amount posted for a requirement; zero without a row. -/
def postedAt (db : Database) (memberId instrumentId : Uuid) (marginType : MarginType) : ℚ :=
  ((findRequirement db memberId instrumentId marginType).map
    MarginRequirement.postedAmount).getD 0

/-- The identifier of a requirement. -/
def idAt (db : Database) (memberId instrumentId : Uuid) (marginType : MarginType) : Option Uuid :=
  (findRequirement db memberId instrumentId marginType).map MarginRequirement.id

/-- The rows after the upsert of a requirement. -/
def upserted (memberId instrumentId : Uuid) (marginType : MarginType) (amount : ℚ)
    (db : Database) : Database :=
  match findRequirement db memberId instrumentId marginType with
  | some _ =>
      { db with
        marginRequirements := db.marginRequirements.map fun row =>
          if row.memberId = memberId ∧ row.instrumentId = instrumentId ∧
              row.marginType = marginType then
            { row with requiredAmount := amount }
          else row }
  | none =>
      { db with
        marginRequirements := db.marginRequirements ++
          [{ id := db.nextUuid, memberId, instrumentId, marginType, requiredAmount := amount
             postedAmount := 0 }]
        nextUuid := db.nextUuid + 1 }

variable {backend : Backend} {db after : Database} {memberId instrumentId : Uuid}
  {marginType : MarginType} {amount : ℚ}

theorem updateMarginRequirement_eq_ok {required : ℚ}
    (ran : updateMarginRequirement backend memberId instrumentId marginType required db =
      .ok ((), after)) :
    ∃ stored, backend.store required = some stored ∧
      after = upserted memberId instrumentId marginType stored db := by
  simp only [updateMarginRequirement, bind_eq_ok, castNumeric_eq_ok, Transaction.read_apply,
    Except.ok.injEq, Prod.mk.injEq] at ran
  obtain ⟨stored, _, ⟨store, rfl⟩, _, _, ⟨rfl, rfl⟩, ran⟩ := ran
  refine ⟨stored, store, ?_⟩
  rw [upserted]
  cases found : findRequirement db memberId instrumentId marginType with
  | some row =>
      simp only [found, bind_eq_ok, castNumeric_eq_ok] at ran
      obtain ⟨_, _, ⟨-, rfl⟩, done⟩ := ran
      cases done
      rfl
  | none =>
      simp only [found, bind_eq_ok, castNumeric_eq_ok] at ran
      obtain ⟨_, _, ⟨-, rfl⟩, id, numbered, number, done⟩ := ran
      cases number
      cases done
      rfl

theorem findRequirement_eq_none_iff :
    findRequirement db memberId instrumentId marginType = none ↔
      ∀ row ∈ db.marginRequirements, ¬Concerns memberId instrumentId marginType row := by
  simp [findRequirement, Concerns]

theorem concerns_of_findRequirement {row : MarginRequirement}
    (found : findRequirement db memberId instrumentId marginType = some row) :
    row ∈ db.marginRequirements ∧ Concerns memberId instrumentId marginType row :=
  ⟨List.mem_of_find?_eq_some found, by simpa [findRequirement] using List.find?_some found⟩

theorem requires_upserted (db : Database) (memberId instrumentId : Uuid) (marginType : MarginType)
    (amount : ℚ) :
    Requires (upserted memberId instrumentId marginType amount db) memberId instrumentId marginType
      amount := by
  rw [upserted]
  cases found : findRequirement db memberId instrumentId marginType with
  | some row =>
      obtain ⟨inside, concerned⟩ := concerns_of_findRequirement found
      constructor
      · refine ⟨_, List.mem_map_of_mem inside, ?_⟩
        rw [if_pos concerned]
        exact concerned
      · intro other member concerned'
        obtain ⟨old, -, rfl⟩ := List.mem_map.mp member
        split at concerned'
        · rw [if_pos ‹_›]
        · exact absurd concerned' ‹_›
  | none =>
      have absent := findRequirement_eq_none_iff.mp found
      constructor
      · exact ⟨_, List.mem_append_right _ (List.mem_singleton_self _), rfl, rfl, rfl⟩
      · intro row member concerned
        rcases List.mem_append.mp member with old | new
        · exact absurd concerned (absent row old)
        · rw [List.mem_singleton.mp new]

/-- The upsert of an amount that is required already changes nothing. -/
theorem Requires.upserted_eq (requires : Requires db memberId instrumentId marginType amount) :
    upserted memberId instrumentId marginType amount db = db := by
  rw [upserted]
  cases found : findRequirement db memberId instrumentId marginType with
  | none =>
      obtain ⟨row, inside, concerned⟩ := requires.present
      exact absurd concerned (findRequirement_eq_none_iff.mp found row inside)
  | some row =>
      have same : db.marginRequirements.map (fun row =>
          if row.memberId = memberId ∧ row.instrumentId = instrumentId ∧
              row.marginType = marginType then
            { row with requiredAmount := amount }
          else row) = db.marginRequirements := by
        refine (List.map_congr_left fun row inside => ?_).trans (List.map_id _)
        split
        · next concerned =>
            have equal := requires.amounts row inside concerned
            rw [← equal]
            rfl
        · rfl
      simp only [same]

/-- The upsert of another requirement leaves an amount alone. -/
theorem Requires.upserted_other {memberId' instrumentId' : Uuid} {marginType' : MarginType}
    {amount' : ℚ} (requires : Requires db memberId' instrumentId' marginType' amount')
    (other : ¬(memberId' = memberId ∧ instrumentId' = instrumentId ∧ marginType' = marginType)) :
    Requires (upserted memberId instrumentId marginType amount db) memberId' instrumentId'
      marginType' amount' := by
  obtain ⟨row, inside, concerned⟩ := requires.present
  have apart : ∀ row, Concerns memberId' instrumentId' marginType' row →
      ¬Concerns memberId instrumentId marginType row := by
    rintro row ⟨rfl, rfl, rfl⟩
    exact other
  rw [upserted]
  cases found : findRequirement db memberId instrumentId marginType with
  | some _ =>
      constructor
      · refine ⟨_, List.mem_map_of_mem inside, ?_⟩
        rw [if_neg (apart row concerned)]
        exact concerned
      · intro changed member concerned'
        obtain ⟨old, old_inside, rfl⟩ := List.mem_map.mp member
        split at concerned'
        · exact absurd ‹_› (apart old concerned')
        · rw [if_neg ‹_›]
          exact requires.amounts old old_inside concerned'
  | none =>
      refine ⟨⟨row, List.mem_append_left _ inside, concerned⟩, fun row member concerned' => ?_⟩
      rcases List.mem_append.mp member with old | new
      · exact requires.amounts row old concerned'
      · rw [List.mem_singleton.mp new] at concerned'
        exact absurd ⟨rfl, rfl, rfl⟩ (apart _ concerned')

/-- The first row of a requirement keeps its identifier and its posted amount. -/
theorem findRequirement_upserted (db : Database) (memberId instrumentId : Uuid)
    (marginType : MarginType) (amount : ℚ) (memberId' instrumentId' : Uuid)
    (marginType' : MarginType) :
    postedAt (upserted memberId instrumentId marginType amount db) memberId' instrumentId'
        marginType' = postedAt db memberId' instrumentId' marginType' ∧
      ∀ id, idAt db memberId' instrumentId' marginType' = some id →
        idAt (upserted memberId instrumentId marginType amount db) memberId' instrumentId'
          marginType' = some id := by
  rw [upserted]
  cases found : findRequirement db memberId instrumentId marginType with
  | some _ =>
      have mapped : ∀ rows : List MarginRequirement,
          (rows.map fun row =>
            if row.memberId = memberId ∧ row.instrumentId = instrumentId ∧
                row.marginType = marginType then
              { row with requiredAmount := amount }
            else row).find? (fun row => row.memberId = memberId' ∧
              row.instrumentId = instrumentId' ∧ row.marginType = marginType') =
          (rows.find? fun row => row.memberId = memberId' ∧
              row.instrumentId = instrumentId' ∧ row.marginType = marginType').map fun row =>
            if row.memberId = memberId ∧ row.instrumentId = instrumentId ∧
                row.marginType = marginType then
              { row with requiredAmount := amount }
            else row := by
        intro rows
        rw [List.find?_map]
        congr 2
        funext row
        simp only [Function.comp_apply]
        split <;> rfl
      simp only [postedAt, idAt, findRequirement, mapped, Option.map_map]
      constructor
      · congr 2
        funext row
        simp only [Function.comp_apply]
        split <;> rfl
      · intro id same
        rw [← same]
        congr 1
        funext row
        simp only [Function.comp_apply]
        split <;> rfl
  | none =>
      simp only [postedAt, idAt, findRequirement, List.find?_append]
      cases first : db.marginRequirements.find? fun row => row.memberId = memberId' ∧
          row.instrumentId = instrumentId' ∧ row.marginType = marginType' with
      | some row => simp
      | none =>
          simp only [Option.map_none, Option.getD_none, Option.none_or, reduceCtorEq,
            false_implies, implies_true, and_true]
          rw [List.find?_singleton]
          split <;> rfl

/-- Without the upsert the rows decide what is short. -/
theorem checkShortfall_eq (requires : Requires db memberId instrumentId marginType amount) :
    checkShortfall db memberId instrumentId marginType =
      max (amount - postedAt db memberId instrumentId marginType) 0 := by
  unfold checkShortfall postedAt
  cases found : findRequirement db memberId instrumentId marginType with
  | none =>
      obtain ⟨row, inside, concerned⟩ := requires.present
      exact absurd concerned (findRequirement_eq_none_iff.mp found row inside)
  | some row =>
      obtain ⟨inside, concerned⟩ := concerns_of_findRequirement found
      simp only [MarginRequirement.shortfall, requires.amounts row inside concerned,
        Option.map_some, Option.getD_some]

theorem Requires.idAt_isSome
    (requires : Requires db memberId instrumentId marginType amount) :
    ∃ id, idAt db memberId instrumentId marginType = some id := by
  rw [idAt]
  cases found : findRequirement db memberId instrumentId marginType with
  | none =>
      obtain ⟨row, inside, concerned⟩ := requires.present
      exact absurd concerned (findRequirement_eq_none_iff.mp found row inside)
  | some row => exact ⟨row.id, rfl⟩

/-- Initial margin of a position, at its mark. -/
def imRequired (backend : Backend) (position : Position) : ℚ :=
  ((markPrice position).map fun price =>
    calculateInitialMargin backend position.netQuantity price position.rateIm).getD 0

/-- Variation of a position, from its average price to its mark. -/
def vmAmount (backend : Backend) (position : Position) : ℚ :=
  match markPrice position, position.avgPrice with
  | some price, some mark => calculateVariationMargin backend position.netQuantity price mark
  | _, _ => 0

/-- What a run debits to the available variation margin of a member for a position. -/
def variation (backend : Backend) (position : Position) : ℚ :=
  let stored := (backend.store (backend.abs (vmAmount backend position))).getD 0
  if 0 < vmAmount backend position then stored else -stored

/-- The two variation margin accounts of a member. -/
def variationAccounts (db : Database) (memberId : Uuid) : Option (Account × Account) :=
  match findAccount db memberId .marginVm .available, findAccount db memberId .marginVm .locked with
  | some available, some locked => some (available, locked)
  | _, _ => none

/-- What a run adds to the balance of an account for a position. -/
def change (backend : Backend) (db : Database) (accountId : Uuid) (position : Position) : ℚ :=
  match variationAccounts db position.memberId with
  | some (available, locked) =>
      if available.id = accountId then variation backend position
      else if locked.id = accountId then -variation backend position
      else 0
  | none => 0

/-- How much of the initial margin of a position is not posted. -/
def shortfallOf (backend : Backend) (db : Database) (position : Position) : ℚ :=
  max ((backend.store (imRequired backend position)).getD 0 -
    postedAt db position.memberId position.instrumentId .initial) 0

/-- Member and instrument of a position. -/
def Position.key (position : Position) : Uuid × Uuid := (position.memberId, position.instrumentId)

/-- The requirements of a position ask for its margins. -/
structure Marked (backend : Backend) (db : Database) (position : Position) : Prop where
  initial : ∃ amount, backend.store (imRequired backend position) = some amount ∧
    Requires db position.memberId position.instrumentId .initial amount
  variation : (variationAccounts db position.memberId).isSome → vmAmount backend position ≠ 0 →
    ∃ amount, backend.store (backend.abs (vmAmount backend position)) = some amount ∧
      Requires db position.memberId position.instrumentId .variation amount

theorem variationAccounts_of_accounts (same : after.accounts = db.accounts) (memberId : Uuid) :
    variationAccounts after memberId = variationAccounts db memberId := by
  simp only [variationAccounts, findAccount, same]

theorem change_of_accounts (same : after.accounts = db.accounts) (accountId : Uuid)
    (position : Position) :
    change backend after accountId position = change backend db accountId position := by
  simp only [change, variationAccounts_of_accounts same]

/-- The two accounts are not one. -/
theorem variationAccounts_ne {available locked : Account}
    (found : variationAccounts db memberId = some (available, locked)) :
    available ∈ db.accounts ∧ available.memberId = memberId ∧ locked ∈ db.accounts ∧
      locked.memberId = memberId ∧ available.id ≠ locked.id := by
  unfold variationAccounts at found
  cases first : findAccount db memberId .marginVm .available with
  | none => simp [first] at found
  | some account =>
      cases second : findAccount db memberId .marginVm .locked with
      | none => simp [first, second] at found
      | some account' =>
          simp only [first, second, Option.some.injEq, Prod.mk.injEq] at found
          obtain ⟨rfl, rfl⟩ := found
          have at_available := List.find?_some first
          have at_locked := List.find?_some second
          simp only [decide_eq_true_eq] at at_available at_locked
          have inside := List.mem_of_find?_eq_some first
          have inside' := List.mem_of_find?_eq_some second
          refine ⟨inside, at_available.1, inside', at_locked.1, fun same => ?_⟩
          have one := List.inj_on_of_nodup_map db.accountIds_nodup inside inside' same
          have pools := at_available.2.2
          rw [one, at_locked.2.2] at pools
          cases pools

/-- The rows of the journal of a variation margin. -/
def transferred (instrumentId debitAcct creditAcct : Uuid) (amount : ℚ) (db : Database) :
    Database :=
  { db with
    journals := db.journals ++
      [⟨db.nextUuid, .variationMargin, "margin_requirement", some instrumentId, .confirmed⟩]
    journalEntries := db.journalEntries ++
      [⟨db.nextUuid, debitAcct, amount, 0⟩, ⟨db.nextUuid, creditAcct, 0, amount⟩]
    nextUuid := db.nextUuid + 1 }

private theorem entries_eq_ok {journalId debitAcct creditAcct : Uuid}
    (ran : (do insertJournalEntry backend journalId debitAcct amount 0
               insertJournalEntry backend journalId creditAcct 0 amount : Sql Unit) db =
      .ok ((), after)) :
    ∃ stored, backend.store amount = some stored ∧
      after = { db with
        journalEntries := db.journalEntries ++
          [⟨journalId, debitAcct, stored, 0⟩, ⟨journalId, creditAcct, 0, stored⟩] } := by
  obtain ⟨⟨⟩, debited, debit, credit⟩ := bind_eq_ok.mp ran
  obtain ⟨stored, zero, stored_eq, zero_eq, -, -, -, rfl⟩ := insertJournalEntry_eq_ok.mp debit
  obtain ⟨zero', stored', zero_eq', stored_eq', -, -, -, rfl⟩ :=
    insertJournalEntry_eq_ok.mp credit
  rw [backend.store_zero, Option.some.injEq] at zero_eq zero_eq'
  rw [stored_eq, Option.some.injEq] at stored_eq'
  subst zero_eq zero_eq' stored_eq'
  exact ⟨stored, stored_eq, by simp⟩

theorem transferVariation_eq_ok {available locked : Uuid} {vm : ℚ}
    (ran : transferVariation backend instrumentId available locked vm db = .ok ((), after)) :
    ∃ stored, backend.store (backend.abs vm) = some stored ∧
      after = if 0 < vm then transferred instrumentId available locked stored db
        else transferred instrumentId locked available stored db := by
  obtain ⟨journalId, numbered, number, ran⟩ := bind_eq_ok.mp ran
  cases number
  obtain ⟨⟨⟩, opened, journal, ran⟩ := bind_eq_ok.mp ran
  obtain ⟨-, rfl⟩ := insertJournal_eq_ok.mp journal
  by_cases positive : 0 < vm
  · simp only [if_pos positive] at ran ⊢
    obtain ⟨stored, store, rfl⟩ := entries_eq_ok ran
    exact ⟨stored, store, rfl⟩
  · simp only [if_neg positive] at ran ⊢
    obtain ⟨stored, store, rfl⟩ := entries_eq_ok ran
    exact ⟨stored, store, rfl⟩

/-- The variation of a position is posted and becomes its requirement, if there is one and both
accounts exist. -/
theorem processVariation_ran {vm : ℚ}
    (ran : runWhen (vm ≠ 0) (processVariationMargin backend memberId instrumentId vm) db =
      .ok ((), after)) :
    ((vm = 0 ∨ variationAccounts db memberId = none) ∧ after = db) ∨
      ∃ available locked stored, vm ≠ 0 ∧
        variationAccounts db memberId = some (available, locked) ∧
        backend.store (backend.abs vm) = some stored ∧
        after = upserted memberId instrumentId .variation stored
          (if 0 < vm then transferred instrumentId available.id locked.id stored db
            else transferred instrumentId locked.id available.id stored db) := by
  unfold runWhen at ran
  split at ran
  · next nonzero =>
      simp only [processVariationMargin, bind_eq_ok, Transaction.read_apply, Except.ok.injEq,
        Prod.mk.injEq] at ran
      obtain ⟨_, _, ⟨rfl, rfl⟩, ran⟩ := ran
      rw [variationAccounts]
      cases first : findAccount db memberId .marginVm .available with
      | none =>
          simp only [first] at ran
          cases ran
          exact .inl ⟨.inr rfl, rfl⟩
      | some available =>
          cases second : findAccount db memberId .marginVm .locked with
          | none =>
              simp only [first, second] at ran
              cases ran
              exact .inl ⟨.inr rfl, rfl⟩
          | some locked =>
              simp only [first, second] at ran
              obtain ⟨⟨⟩, posted, transfer, update⟩ := bind_eq_ok.mp ran
              obtain ⟨stored, store, rfl⟩ := transferVariation_eq_ok transfer
              obtain ⟨stored', store', rfl⟩ := updateMarginRequirement_eq_ok update
              rw [store, Option.some.injEq] at store'
              subst store'
              exact .inr ⟨available, locked, stored, nonzero, rfl, store, rfl⟩
  · next zero =>
      cases ran
      exact .inl ⟨.inl (not_not.mp zero), rfl⟩

section Frames

variable (db : Database) (memberId instrumentId : Uuid) (marginType : MarginType) (amount : ℚ)

@[simp] theorem upserted_accounts :
    (upserted memberId instrumentId marginType amount db).accounts = db.accounts := by
  rw [upserted]
  split <;> rfl

@[simp] theorem upserted_journalEntries :
    (upserted memberId instrumentId marginType amount db).journalEntries = db.journalEntries := by
  rw [upserted]
  split <;> rfl

@[simp] theorem upserted_novatedTrades :
    (upserted memberId instrumentId marginType amount db).novatedTrades = db.novatedTrades := by
  rw [upserted]
  split <;> rfl

@[simp] theorem upserted_instruments :
    (upserted memberId instrumentId marginType amount db).instruments = db.instruments := by
  rw [upserted]
  split <;> rfl

@[simp] theorem upserted_latestPrices :
    (upserted memberId instrumentId marginType amount db).latestPrices = db.latestPrices := by
  rw [upserted]
  split <;> rfl

@[simp] theorem upserted_marginCalls :
    (upserted memberId instrumentId marginType amount db).marginCalls = db.marginCalls := by
  rw [upserted]
  split <;> rfl

end Frames

theorem accountBalance_transferred (db : Database) (instrumentId debitAcct creditAcct : Uuid)
    (amount : ℚ) (accountId : Uuid) :
    accountBalance (transferred instrumentId debitAcct creditAcct amount db) accountId =
      accountBalance db accountId +
        ((if debitAcct = accountId then amount else 0) -
          if creditAcct = accountId then amount else 0) := by
  simp only [accountBalance, transferred, fiberSum_append, fiberSum_cons, fiberSum_nil, sub_zero,
    zero_sub, add_zero]
  split <;> split <;> ring

/-- The requirements and balances after a run over some positions. -/
structure Adjusted (backend : Backend) (positions : List Position) (db after : Database) :
    Prop where
  accounts : after.accounts = db.accounts
  legs : after.novatedTrades = db.novatedTrades
  instruments : after.instruments = db.instruments
  prices : after.latestPrices = db.latestPrices
  balances : ∀ accountId, accountBalance after accountId =
    accountBalance db accountId + (positions.map (change backend db accountId)).sum
  posted : ∀ memberId instrumentId marginType,
    postedAt after memberId instrumentId marginType = postedAt db memberId instrumentId marginType
  ids : ∀ memberId instrumentId marginType id, idAt db memberId instrumentId marginType = some id →
    idAt after memberId instrumentId marginType = some id
  marked : ∀ position ∈ positions, Marked backend after position
  others : ∀ memberId instrumentId marginType amount,
    (memberId, instrumentId) ∉ positions.map Position.key →
      Requires db memberId instrumentId marginType amount →
      Requires after memberId instrumentId marginType amount
  unmoved : (∀ position ∈ positions, Marked backend db position) →
    after.marginRequirements = db.marginRequirements

theorem Requires.of_rows {db after : Database} {memberId instrumentId : Uuid}
    {marginType : MarginType} {amount : ℚ}
    (requires : Requires db memberId instrumentId marginType amount)
    (same : after.marginRequirements = db.marginRequirements) :
    Requires after memberId instrumentId marginType amount :=
  ⟨same ▸ requires.present, same ▸ requires.amounts⟩

theorem Marked.of_rows {db after : Database} {position : Position}
    (marked : Marked backend db position) (accounts : after.accounts = db.accounts)
    (same : after.marginRequirements = db.marginRequirements) :
    Marked backend after position := by
  obtain ⟨amount, store, requires⟩ := marked.initial
  refine ⟨⟨amount, store, requires.of_rows same⟩, fun both nonzero => ?_⟩
  rw [variationAccounts_of_accounts accounts] at both
  obtain ⟨amount', store', requires'⟩ := marked.variation both nonzero
  exact ⟨amount', store', requires'.of_rows same⟩

theorem Adjusted.nil (db : Database) : Adjusted backend [] db db where
  accounts := rfl
  legs := rfl
  instruments := rfl
  prices := rfl
  balances := by simp
  posted := fun _ _ _ => rfl
  ids := fun _ _ _ _ same => same
  marked := by simp
  others := fun _ _ _ _ _ requires => requires
  unmoved := fun _ => rfl

/-- Positions of other keys come after. -/
theorem Adjusted.cons {position : Position} {positions : List Position} {db middle after : Database}
    (head : Adjusted backend [position] db middle) (tail : Adjusted backend positions middle after)
    (fresh : position.key ∉ positions.map Position.key) :
    Adjusted backend (position :: positions) db after where
  accounts := tail.accounts.trans head.accounts
  legs := tail.legs.trans head.legs
  instruments := tail.instruments.trans head.instruments
  prices := tail.prices.trans head.prices
  balances := by
    intro accountId
    have same : change backend middle accountId = change backend db accountId :=
      funext (change_of_accounts head.accounts accountId)
    rw [tail.balances, head.balances, same, List.map_cons, List.map_nil, List.sum_singleton,
      List.map_cons, List.sum_cons, add_assoc]
  posted := fun _ _ _ => (tail.posted _ _ _).trans (head.posted _ _ _)
  ids := fun _ _ _ _ same => tail.ids _ _ _ _ (head.ids _ _ _ _ same)
  marked := by
    intro other member
    rcases List.mem_cons.mp member with rfl | inside
    · have marked := head.marked other (List.mem_singleton_self _)
      obtain ⟨amount, store, requires⟩ := marked.initial
      refine ⟨⟨amount, store, tail.others _ _ _ _ fresh requires⟩, fun both nonzero => ?_⟩
      rw [variationAccounts_of_accounts tail.accounts] at both
      obtain ⟨amount', store', requires'⟩ := marked.variation both nonzero
      exact ⟨amount', store', tail.others _ _ _ _ fresh requires'⟩
    · exact tail.marked other inside
  others := by
    intro memberId instrumentId marginType amount away requires
    rw [List.map_cons, List.mem_cons, not_or] at away
    exact tail.others _ _ _ _ away.2 (head.others _ _ _ _ (by simpa using away.1) requires)
  unmoved := by
    intro marked
    have first := head.unmoved (by simpa using marked position List.mem_cons_self)
    exact (tail.unmoved fun other inside =>
      (marked other (List.mem_cons_of_mem _ inside)).of_rows head.accounts first).trans first

end Margin

end ClearingHouse
