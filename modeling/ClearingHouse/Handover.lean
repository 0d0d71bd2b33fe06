import ClearingHouse.Netting.Instructions
import ClearingHouse.Settlement.Failure

/-!
# From netting to settlement

The netting engine writes a settlement instruction from the payer to the payee of the cash; the
settlement engine reads its two members as seller and buyer of the asset, and its chain from a
column that the netting engine leaves out.
-/

namespace ClearingHouse

namespace Netting

open Settlement Transactions
open Transactions.Session (committedStates)

/-- The member whose account `_finalize_dvp` credits. -/
def PaysInLedger (backend : Backend) (instruction : SettlementInstruction) (payer : Uuid) : Prop :=
  ∀ ⦃db after⦄, finalizeEntries backend instruction db = .ok ((), after) →
    ∀ entry ∈ after.journalEntries.drop db.journalEntries.length, 0 < entry.credit →
      ∃ account ∈ db.accounts, account.id = entry.accountId ∧ account.memberId = payer

/-- The transfer of an obligation delivers the asset to the net buyer and takes it from the net
seller, and the buyer on the chain is the payer in the ledger. -/
structure Directed (backend : Backend) (obligation : Obligation)
    (instruction : SettlementInstruction) (dvp : DvpInstruction) : Prop where
  buyer : 0 < obligation.netQuantity → dvp.buyerAddress = obligation.memberId
  seller : obligation.netQuantity < 0 → dvp.sellerAddress = obligation.memberId
  payer : PaysInLedger backend instruction dvp.buyerAddress

/-- A settlement instruction that names a chain. -/
def onChain (row : SettlementInstruction) (chainId : String) : SettlementInstruction :=
  { row with chainId := some chainId }

theorem paysInLedger_fromMember (backend : Backend) (instruction : SettlementInstruction) :
    PaysInLedger backend instruction instruction.fromMemberId := by
  intro db after ran entry added credited
  obtain ⟨amount, writes, -⟩ := writes_finalizeEntries ran
  have ledger := writes.ledger
  unfold paymentOf at ledger
  cases payer : findAccount db instruction.fromMemberId .settlement .available with
  | none =>
      simp only [payer] at ledger
      rw [ledger.2, List.drop_length] at added
      cases added
  | some fromAcct =>
      cases payee : findAccount db instruction.toMemberId .settlement .available with
      | none =>
          simp only [payer, payee] at ledger
          rw [ledger.2, List.drop_length] at added
          cases added
      | some toAcct =>
          simp only [payer, payee] at ledger
          obtain ⟨journalId, -, -, -, entries⟩ := ledger
          rw [entries, posted, List.drop_left, List.mem_cons, List.mem_singleton] at added
          have selected := List.find?_some payer
          simp only [decide_eq_true_eq] at selected
          rcases added with rfl | rfl
          · exact ⟨fromAcct, List.mem_of_find?_eq_some payer, rfl, selected.1⟩
          · exact absurd credited (lt_irrefl 0)

/-- The amount has the sign of the quantity. -/
theorem netAmount_pos_iff {quote : Uuid → ℚ × SettlementType} {legs : List NovatedTrade}
    {k : Uuid × Uuid} (priced : 0 < (quote k.2).1)
    (nonzero : netQuantityAt decimalBackend legs k ≠ 0) :
    0 < (obligationAt decimalBackend quote legs k).netAmount ↔
      0 < netQuantityAt decimalBackend legs k := by
  constructor
  · intro positive
    by_contra sold
    have negative : netQuantityAt decimalBackend legs k * (quote k.2).1 < 0 :=
      mul_neg_of_neg_of_pos (lt_of_le_of_ne (not_lt.mp sold) nonzero) priced
    have flipped := decimalBackend.round_pos (neg_pos.mpr negative)
    have odd : decimalBackend.round (-(netQuantityAt decimalBackend legs k * (quote k.2).1)) =
        -(obligationAt decimalBackend quote legs k).netAmount := DecimalRounding.toDigits_neg ..
    rw [odd] at flipped
    exact absurd positive (neg_pos.mp flipped).not_gt
  · intro bought
    exact decimalBackend.round_pos (mul_pos bought priced)

/-- The net buyer of an instruction pays, so the settlement engine takes it for the seller. -/
theorem directed_iff_of_instructs {ccpMemberId cycleId : Uuid} {quote : Uuid → ℚ × SettlementType}
    {legs : List NovatedTrade} {k : Uuid × Uuid} {row : SettlementInstruction}
    (priced : 0 < (quote k.2).1) (nonzero : netQuantityAt decimalBackend legs k ≠ 0)
    (instructs : Instructs decimalBackend ccpMemberId cycleId
      (obligationAt decimalBackend quote legs k) row)
    (chainId : String) (contractAddress : Option String) :
    Directed decimalBackend (obligationAt decimalBackend quote legs k) (onChain row chainId)
        (dvpInstruction (onChain row chainId) contractAddress chainId) ↔ k.1 = ccpMemberId := by
  have parties := netAmount_pos_iff priced nonzero
  have payer := instructs.fromMember
  have payee := instructs.toMember
  rw [settlementParties] at payer payee
  constructor
  · intro directed
    rcases lt_or_gt_of_ne nonzero with sold | bought
    · rw [if_neg (parties.not.mpr sold.not_gt)] at payer
      exact (directed.seller sold).symm.trans payer
    · rw [if_pos (parties.mpr bought)] at payee
      exact (directed.buyer bought).symm.trans payee
  · intro house
    have both : row.fromMemberId = k.1 ∧ row.toMemberId = k.1 := by
      split at payer
      · rw [if_pos ‹_›] at payee
        exact ⟨payer, payee.trans house.symm⟩
      · rw [if_neg ‹_›] at payee
        exact ⟨payer.trans house.symm, payee⟩
    refine ⟨fun _ => both.2, fun _ => both.1, ?_⟩
    have same : (dvpInstruction (onChain row chainId) contractAddress chainId).buyerAddress =
        (onChain row chainId).fromMemberId := both.2.trans both.1.symm
    rw [same]
    exact paysInLedger_fromMember decimalBackend (onChain row chainId)

/-- The instructions of a cycle and their obligations, in one order. -/
def HandsOver (backend : Backend) (cutOffTime : Timestamp) (db after : Database)
    (related : Obligation → SettlementInstruction → Prop) : Prop :=
  ∃ rows, after.settlementInstructions = db.settlementInstructions ++ rows ∧
    List.Forall₂ related (cycleObligations backend cutOffTime db) rows

/-- Whatever chain the instructions of a cycle name, an obligation at a positive price is settled in
one direction by buyer, seller, chain and ledger exactly if it is the house's own. -/
theorem directed_iff_house {cycleType : NettingCycleType} {cutOffTime : Timestamp}
    {trace : TraceContext} {result : CycleResult} {db after : Database}
    (ran : runNettingCycle decimalBackend cycleType cutOffTime trace db = .ok (result, after)) :
    ∃ ccp, findCcp db = some ccp ∧
      HandsOver decimalBackend cutOffTime db after fun obligation row =>
        obligation.settlementType ≠ .cash → 0 < (quote db obligation.instrumentId).1 →
          ∀ chainId contractAddress,
            Directed decimalBackend obligation (onChain row chainId)
                (dvpInstruction (onChain row chainId) contractAddress chainId) ↔
              obligation.memberId = ccp.id := by
  obtain ⟨ccp, house, instructed⟩ := instructed_runNettingCycle ran
  obtain ⟨rows, instructs, -, extended⟩ := instructed.rows
  refine ⟨ccp, house, rows, extended, ?_⟩
  have listed := (List.forall₂_and_left (p := (· ∈ cycleObligations decimalBackend cutOffTime db))
    _ _).mpr ⟨fun _ member => member, instructs⟩
  refine listed.imp fun obligation row ⟨member, written⟩ _ priced chainId contractAddress => ?_
  obtain ⟨k, -, nonzero, rfl⟩ := obligation_of_mem member
  exact directed_iff_of_instructs priced nonzero written chainId contractAddress

/-- An instruction carries the chain of its instrument, and its settlement starts on the adapter of
that chain. -/
structure HandedOver (backend : Backend) (chainRegistry : String → Option ChainAdapter)
    (instrument : Instrument) (row : SettlementInstruction) : Prop where
  carried : row.chainId = instrument.chainId
  started : ∀ sign trace, ∃ chainId adapter, chainRegistry chainId = some adapter ∧
    script backend chainRegistry sign trace row instrument =
      some
        (.commit (advanceStatus row.id .pending .approved [.literal "DVP validation passed"]
            trace) ::
          transferring backend row adapter trace instrument.contractAddress chainId sign)

/-- Whenever its settlement is called, an instruction is failed for want of a chain, and nothing
else is committed. -/
def FailsForChain (backend : Backend) (chainRegistry : String → Option ChainAdapter)
    (row : SettlementInstruction) : Prop :=
  ∀ ⦃later instrument⦄, FreshJournals later →
    (later.settlementInstructions.map SettlementInstruction.id).Nodup →
    pendingInstruction later row.id = some (row, instrument) → ∀ sign trace,
      ∃ ended, (∀ state, state ∈ committedStates
            (settlementCall backend row.id chainRegistry sign trace) later ↔ state = ended) ∧
        FailedIn ended row.id ∧
        ∃ record ∈ ended.stateTransitions, record.entityId = row.id ∧
          record.toStatus = .settlementInstruction .failed ∧
          record.reason = some [.literal "No chain_id for DVP settlement"]

theorem failsForChain (backend : Backend) (chainRegistry : String → Option ChainAdapter)
    {row : SettlementInstruction} (onChain : row.settlementType ≠ .cash)
    (chainless : row.chainId = none) : FailsForChain backend chainRegistry row := by
  intro later instrument fresh unique pending sign trace
  obtain ⟨-, at_pending⟩ := statusAt_of_pending unique pending
  obtain ⟨ended, ran, -, transitions, -, entries, -⟩ := failInstruction_apply row.id .pending
    [.literal "No chain_id for DVP settlement"] trace later
  have accepted : (server backend).deferred later ended = .ok () := accepted_of_same entries
  have scripted : script backend chainRegistry sign trace row instrument =
      some [.commit (failInstruction row.id .pending [.literal "No chain_id for DVP settlement"]
        trace)] := by
    rw [script]
    cases type : row.settlementType with
    | cash => exact absurd type onChain
    | physical => simp [chainless]
    | dvp => simp [chainless]
  have commits : committedBy backend chainRegistry sign trace row.id later = [ended] := by
    simp [committedBy, pending, scripted, runActions, ran, accepted]
  obtain ⟨extra, states, repeats⟩ :=
    committedStates_settlementCall chainRegistry sign trace backend row.id fresh
  refine ⟨ended, fun state => ?_, (at_pending.of_writes (writes_failInstruction ran)).failedIn, ?_⟩
  · rw [states, commits]
    rw [commits] at repeats
    constructor
    · intro member
      rcases List.mem_append.mp member with first | again
      · exact List.mem_singleton.mp first
      · exact repeats state again
    · rintro rfl
      exact List.mem_append_left _ (List.mem_singleton_self _)
  · rw [transitions, advanced]
    exact ⟨_, List.mem_append_right _ (List.mem_singleton_self _), rfl, rfl, rfl⟩

private theorem quote_of_find {db : Database} {instrumentId : Uuid} {instrument : Instrument}
    (found : db.instruments.find? (fun instrument => instrument.id = instrumentId) =
      some instrument) : (quote db instrumentId).2 = instrument.settlementType := by
  rw [quote]
  split
  · next instrument' found' =>
      rw [found] at found'
      cases found'
      rfl
  · next missing =>
      rw [found] at missing
      cases missing

/-- No instruction of a cycle is handed over to the chain of its instrument: it carries none, and
its settlement fails for that reason. -/
theorem not_handedOver (backend : Backend) (chainRegistry : String → Option ChainAdapter)
    {cycleType : NettingCycleType} {cutOffTime : Timestamp} {trace : TraceContext}
    {result : CycleResult} {db after : Database}
    (ran : runNettingCycle backend cycleType cutOffTime trace db = .ok (result, after)) :
    HandsOver backend cutOffTime db after fun obligation row =>
      ∀ instrument chainId adapter,
        db.instruments.find? (fun instrument => instrument.id = obligation.instrumentId) =
            some instrument →
          instrument.settlementType ≠ .cash → instrument.chainId = some chainId →
          chainRegistry chainId = some adapter →
            ¬HandedOver backend chainRegistry instrument row ∧
              FailsForChain backend chainRegistry row := by
  obtain ⟨ccp, house, instructed⟩ := instructed_runNettingCycle ran
  obtain ⟨rows, instructs, -, extended⟩ := instructed.rows
  have listed := (List.forall₂_and_left (p := (· ∈ cycleObligations backend cutOffTime db))
    _ _).mpr ⟨fun _ member => member, instructs⟩
  refine ⟨rows, extended, listed.imp fun obligation row ⟨member, written⟩ => ?_⟩
  intro instrument chainId adapter found onChain chain registered
  obtain ⟨k, -, nonzero, rfl⟩ := obligation_of_mem member
  have kind : row.settlementType = instrument.settlementType :=
    written.settlementType.trans (quote_of_find found)
  refine ⟨fun handed => ?_, failsForChain backend chainRegistry (kind ▸ onChain) written.chain⟩
  have carried := handed.carried
  rw [written.chain, chain] at carried
  cases carried

/-- One of the two legs of a member in the trade of `dvpBook`. -/
def bookLeg (id memberId : Uuid) (side : Side) : NovatedTrade where
  id := id
  originalTradeId := 3
  memberId := memberId
  instrumentId := 2
  side := side
  quantity := 10
  price := 9
  status := .open
  novatedAt := 1

/-- A house that has novated one trade of ten tokens between its two members. -/
def dvpBook : Database :=
  { Database.opening
      [⟨0, ccpLei, .active, 0⟩, ⟨1, "LEI1", .active, 0⟩, ⟨9, "LEI9", .active, 0⟩] [dvpInstrument]
      [⟨3, 0, .settlement, "USD", .available⟩, ⟨4, 1, .settlement, "USD", .available⟩,
        ⟨5, 9, .settlement, "USD", .available⟩] 20 (by decide) (by decide) (by decide) with
    novatedTrades :=
      [bookLeg 6 1 .buy, bookLeg 7 0 .sell, bookLeg 8 9 .sell, bookLeg 10 0 .buy]
    priceFeeds := [⟨2, 10, 1⟩] }

/-- A chain registry with one chain. -/
def ethereumOnly (adapter : ChainAdapter) : String → Option ChainAdapter := fun chainId =>
  if chainId = "ethereum-mainnet" then some adapter else none

/-- The cycle of `dvpBook` makes its net buyer, member 1, pay the house. -/
private theorem runs_dvpBook : ∃ result after first second,
    runNettingCycle decimalBackend .manual 1 systemTrace dvpBook = .ok (result, after) ∧
      after.settlementInstructions = [first, second] ∧ first.toMemberId = 0 ∧
      first.chainId = none := by
  have facts : ((runNettingCycle decimalBackend .manual 1 systemTrace dvpBook).toOption.map
      fun pair => pair.2.settlementInstructions.map fun row => (row.toMemberId, row.chainId)) =
        some [(0, none), (9, none)] := by decide +kernel
  obtain ⟨⟨result, after⟩, ran, rows⟩ := Option.map_eq_some_iff.mp facts
  rw [List.map_eq_cons_iff] at rows
  obtain ⟨first, rest, split, head, tail⟩ := rows
  obtain ⟨second, last, rest_eq, -, none_left⟩ := List.map_eq_cons_iff.mp tail
  rw [List.map_eq_nil_iff.mp none_left] at rest_eq
  rw [Prod.mk.injEq] at head
  refine ⟨result, after, first, second, ?_, rest_eq ▸ split, head⟩
  cases run : runNettingCycle decimalBackend .manual 1 systemTrace dvpBook with
  | error failure => simp [run, Except.toOption] at ran
  | ok pair =>
      rw [run, Except.toOption, Option.some.injEq] at ran
      rw [ran]

private theorem cycleObligations_dvpBook : cycleObligations decimalBackend 1 dvpBook =
    [⟨1, 2, 10, 100, 100, .dvp⟩, ⟨9, 2, -10, -100, 100, .dvp⟩] := by decide +kernel

theorem directed_iff_house_dvpBook :
    ∃ result after, runNettingCycle decimalBackend .manual 1 systemTrace dvpBook =
        .ok (result, after) ∧
      ∃ ccp, findCcp dvpBook = some ccp ∧
        HandsOver decimalBackend 1 dvpBook after fun obligation row =>
          obligation.settlementType ≠ .cash → 0 < (quote dvpBook obligation.instrumentId).1 →
            ∀ chainId contractAddress,
              Directed decimalBackend obligation (onChain row chainId)
                  (dvpInstruction (onChain row chainId) contractAddress chainId) ↔
                obligation.memberId = ccp.id := by
  obtain ⟨result, after, first, second, ran, -⟩ := runs_dvpBook
  exact ⟨result, after, ran, directed_iff_house ran⟩

/-- The net buyer of `dvpBook` is the seller of the transfer. -/
theorem not_directed_dvpBook :
    ∃ result after, runNettingCycle decimalBackend .manual 1 systemTrace dvpBook =
        .ok (result, after) ∧
      ¬HandsOver decimalBackend 1 dvpBook after fun obligation row =>
        obligation.settlementType ≠ .cash → 0 < (quote dvpBook obligation.instrumentId).1 →
          ∀ chainId contractAddress,
            Directed decimalBackend obligation (onChain row chainId)
              (dvpInstruction (onChain row chainId) contractAddress chainId) := by
  obtain ⟨result, after, first, second, ran, rows_eq, payee, -⟩ := runs_dvpBook
  refine ⟨result, after, ran, ?_⟩
  rintro ⟨rows, extended, related⟩
  have same : rows = [first, second] := extended.symm.trans rows_eq
  rw [same, cycleObligations_dvpBook, List.forall₂_cons] at related
  have directed := related.1 (by decide) (by decide +kernel) "ethereum-mainnet" none
  have buyer : first.toMemberId = 1 := directed.buyer (by decide)
  rw [payee] at buyer
  cases buyer

theorem not_handedOver_dvpBook :
    ∃ result after, runNettingCycle decimalBackend .manual 1 systemTrace dvpBook =
        .ok (result, after) ∧
      HandsOver decimalBackend 1 dvpBook after fun obligation row =>
        ∀ instrument chainId adapter,
          dvpBook.instruments.find? (fun instrument => instrument.id = obligation.instrumentId) =
              some instrument →
            instrument.settlementType ≠ .cash → instrument.chainId = some chainId →
            ethereumOnly (chainReporting .confirmed 2) chainId = some adapter →
              ¬HandedOver decimalBackend (ethereumOnly (chainReporting .confirmed 2)) instrument
                  row ∧
                FailsForChain decimalBackend (ethereumOnly (chainReporting .confirmed 2)) row := by
  obtain ⟨result, after, first, second, ran, -⟩ := runs_dvpBook
  exact ⟨result, after, ran, not_handedOver _ _ ran⟩

/-- The instructions of `dvpBook` do not name the chain of their instrument. -/
theorem chainless_dvpBook :
    ∃ result after, runNettingCycle decimalBackend .manual 1 systemTrace dvpBook =
        .ok (result, after) ∧
      ¬HandsOver decimalBackend 1 dvpBook after fun obligation row =>
        ∀ instrument chainId adapter,
          dvpBook.instruments.find? (fun instrument => instrument.id = obligation.instrumentId) =
              some instrument →
            instrument.settlementType ≠ .cash → instrument.chainId = some chainId →
            ethereumOnly (chainReporting .confirmed 2) chainId = some adapter →
              HandedOver decimalBackend (ethereumOnly (chainReporting .confirmed 2)) instrument
                row := by
  obtain ⟨result, after, first, second, ran, rows_eq, -, chainless⟩ := runs_dvpBook
  refine ⟨result, after, ran, ?_⟩
  rintro ⟨rows, extended, related⟩
  have same : rows = [first, second] := extended.symm.trans rows_eq
  rw [same, cycleObligations_dvpBook, List.forall₂_cons] at related
  have handed := related.1 dvpInstrument "ethereum-mainnet" (chainReporting .confirmed 2) rfl
    (by decide) rfl rfl
  have carried := handed.carried
  rw [chainless] at carried
  cases carried

end Netting

end ClearingHouse
