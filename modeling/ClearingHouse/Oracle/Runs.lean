import ClearingHouse.Ledger.Grants
import ClearingHouse.Oracle

/-!
# Runs of the market

The operations of the house, the updates of the oracle and the clock.  While the oracle may refresh
its view, margin and netting price every instrument alike; while it may not, nothing is priced and
no price ever moves money.
-/

namespace ClearingHouse

namespace Oracle

open DecimalRounding StepSystem Transactions Transactions.Session
open Transaction (bind_eq_ok)

variable {backend : Backend} {market : Market} {factor : Uuid → ℚ} {db after : Database}

/-- The feed that an update inserts for an instrument. -/
structure Fed (backend : Backend) (lastPrices : Uuid → Option ℚ) (factor : Uuid → ℚ)
    (now : Timestamp) (instrument : Uuid × String) (feed : PriceFeed) : Prop where
  instrumentId : feed.instrumentId = instrument.1
  receivedAt : feed.receivedAt = now
  price : ∃ newPrice,
    randomWalk backend ((lastPrices instrument.1).getD (basePrice instrument.2))
      (factor instrument.1) = some newPrice ∧ backend.store newPrice = some feed.price

variable {lastPrices : Uuid → Option ℚ}

theorem fed_updatePrice {instrument : Uuid × String} {entry : UpdatedPrice}
    (ran : updatePrice backend lastPrices factor instrument db = .ok (entry, after)) :
    ∃ feed, Fed backend lastPrices factor db.now instrument feed ∧
      after = { db with priceFeeds := db.priceFeeds ++ [feed] } := by
  unfold updatePrice at ran
  cases walked : randomWalk backend ((lastPrices instrument.1).getD (basePrice instrument.2))
      (factor instrument.1) with
  | none =>
      simp only [walked] at ran
      cases ran
  | some newPrice =>
      simp only [walked] at ran
      obtain ⟨⟨⟩, inserted, insert, done⟩ := bind_eq_ok.mp ran
      cases done
      obtain ⟨stored, _, cast, insert⟩ := bind_eq_ok.mp insert
      obtain ⟨fits, rfl⟩ := castNumeric_eq_ok.mp cast
      obtain ⟨_, _, reading, insert⟩ := bind_eq_ok.mp insert
      cases reading
      obtain ⟨⟨⟩, _, known, writing⟩ := bind_eq_ok.mp insert
      obtain ⟨-, rfl⟩ := Transaction.require_eq_ok.mp known
      cases writing
      exact ⟨⟨instrument.1, stored, db.now⟩, ⟨rfl, rfl, newPrice, walked, fits⟩, rfl⟩

theorem fed_updatePrices {instruments : List (Uuid × String)} {updated : List UpdatedPrice}
    (ran : instruments.mapM (updatePrice backend lastPrices factor) db = .ok (updated, after)) :
    ∃ feeds, List.Forall₂ (Fed backend lastPrices factor db.now) instruments feeds ∧
      after = { db with priceFeeds := db.priceFeeds ++ feeds } := by
  induction instruments generalizing db updated with
  | nil =>
      cases ran
      exact ⟨[], .nil, by simp⟩
  | cons instrument rest induction =>
      rw [List.mapM_cons] at ran
      obtain ⟨entry, middle, first, ran⟩ := bind_eq_ok.mp ran
      obtain ⟨entries, last, others, done⟩ := bind_eq_ok.mp ran
      cases done
      obtain ⟨feed, fed, rfl⟩ := fed_updatePrice first
      obtain ⟨feeds, feds, rfl⟩ := induction others
      exact ⟨feed :: feeds, .cons fed feds, by simp⟩

/-- What an update does to the prices. -/
structure PricesPublished (backend : Backend) (market : Market) (factor : Uuid → ℚ)
    (db after : Database) : Prop where
  owned : market.mayRefresh = true
  feeds : ∃ feeds, after.priceFeeds = db.priceFeeds ++ feeds ∧
    List.Forall₂ (Fed backend (Margin.latestPriceOf db) factor db.now)
      (fetchActiveInstruments market db) feeds
  refreshed : after.latestPrices = market.view after.priceFeeds
  instruments : after.instruments = db.instruments
  rest : ∃ event : OutboxEvent, event.Filed db ∧
    after = { db with
      nextUuid := db.nextUuid + 2
      priceFeeds := after.priceFeeds
      latestPrices := after.latestPrices
      outboxEvents := db.outboxEvents ++ [event] }

theorem published_publishPrices {first : Uuid × String} {rest : List (Uuid × String)}
    {updated : List UpdatedPrice} (fetched : fetchActiveInstruments market db = first :: rest)
    (ran : publishPrices backend market (Margin.latestPriceOf db) factor first rest db =
      .ok (updated, after)) : PricesPublished backend market factor db after := by
  obtain ⟨entries, fed, feeding, ran⟩ := bind_eq_ok.mp ran
  obtain ⟨⟨⟩, refreshed, refresh, ran⟩ := bind_eq_ok.mp ran
  obtain ⟨eventId, announced, announce, done⟩ := bind_eq_ok.mp ran
  cases done
  obtain ⟨⟨⟩, _, owning, writing⟩ := bind_eq_ok.mp refresh
  obtain ⟨owned, rfl⟩ := Transaction.require_eq_ok.mp owning
  cases writing
  obtain ⟨feeds, feds, rfl⟩ := fed_updatePrices feeding
  obtain ⟨event, filed, rfl⟩ :=
    filed_insertOutboxEvent rfl (fun same => absurd same (by decide)) announce
  have filed_before : event.Filed db :=
    ⟨filed.numbered, filed.identified, filed.untyped, filed.unpublished, filed.created,
      filed.announces⟩
  exact ⟨owned, ⟨feeds, rfl, fetched ▸ feds⟩, rfl, rfl, event, filed_before, rfl⟩

/-- A round of the oracle commits an update or nothing new. -/
theorem published_of_committed
    (committed : after ∈ committedStates (updatePrices backend market factor) db) :
    after = db ∨ PricesPublished backend market factor db after := by
  have queried : execute (server backend) Transaction.read (idleAt db []) =
      (.ok db, { committed := db, working := db, status := .inTransaction, history := [] }) :=
    execute_idleAt rfl
  have again : execute (server backend) Transaction.read
      { committed := db, working := db, status := .inTransaction, history := [] } =
      (.ok db, { committed := db, working := db, status := .inTransaction, history := [] }) :=
    execute_inTransaction rfl
  rw [committedStates, connect_eq_idleAt, updatePrices] at committed
  cases fetched : fetchActiveInstruments market db with
  | nil =>
      have generated : generatePrices backend market factor (idleAt db []) =
          (.ok [], { committed := db, working := db, status := .inTransaction, history := [] }) :=
        by rw [generatePrices, bind_of_ok queried, fetched]; rfl
      rw [bind_of_ok generated, commit_inTransaction (accepted_of_same rfl)] at committed
      exact .inl (List.mem_singleton.mp committed)
  | cons first rest =>
      cases ran : publishPrices backend market (Margin.latestPriceOf db) factor first rest db with
      | error failure =>
          have generated : generatePrices backend market factor (idleAt db []) =
              (.error failure,
                { committed := db, working := db, status := .inTransaction, history := [] }) := by
            rw [generatePrices, bind_of_ok queried, fetched]
            dsimp only
            rw [bind_of_ok again]
            simp [transaction, ran]
          rw [bind_of_error generated] at committed
          cases committed
      | ok pair =>
          obtain ⟨updated, working⟩ := pair
          have generated : generatePrices backend market factor (idleAt db []) =
              (.ok updated,
                { committed := db, working, status := .inTransaction, history := [] }) := by
            rw [generatePrices, bind_of_ok queried, fetched]
            dsimp only
            rw [bind_of_ok again]
            simp [transaction, ran]
          rw [bind_of_ok generated] at committed
          cases checked : (server backend).deferred db working with
          | error failure =>
              rw [commit_rejected checked] at committed
              cases committed
          | ok accepted =>
              rw [commit_inTransaction checked] at committed
              obtain rfl : after = working := List.mem_singleton.mp committed
              exact .inr (published_publishPrices fetched ran)

/-- What `DISTINCT ON (instrument_id) … ORDER BY instrument_id, received_at DESC` yields: a row for
every instrument with feeds, from one of its latest. -/
structure LatestView (view : List PriceFeed → List LatestPrice) : Prop where
  listed : ∀ feeds, ∀ feed ∈ feeds, ∃ row ∈ view feeds, row.instrumentId = feed.instrumentId
  latest : ∀ feeds, ∀ row ∈ view feeds, ∃ feed ∈ feeds, feed.instrumentId = row.instrumentId ∧
    feed.price = row.price ∧
      ∀ other ∈ feeds, other.instrumentId = row.instrumentId → other.receivedAt ≤ feed.receivedAt

/-- Feeds of different instruments or times. -/
def Apart (feed other : PriceFeed) : Prop :=
  feed.instrumentId = other.instrumentId → feed.receivedAt ≠ other.receivedAt

instance : Std.Symm Apart := ⟨fun _ _ apart same late => apart same.symm late.symm⟩

/-- The view is up to date, no feeds are equally late, and no price is below the floor. -/
structure Current (market : Market) (db : Database) : Prop where
  view : db.latestPrices = market.view db.priceFeeds ∨
    db.latestPrices = [] ∧ db.priceFeeds = []
  floor : ∀ feed ∈ db.priceFeeds, leastPrice ≤ feed.price
  apart : db.priceFeeds.Pairwise Apart
  identified : (db.instruments.map Instrument.id).Nodup

/-- The row of the view is the feed that netting picks. -/
theorem Current.latestPriceOf_eq (current : Current market db) (latest : LatestView market.view)
    (instrumentId : Uuid) :
    Margin.latestPriceOf db instrumentId =
      (Netting.latestFeed db instrumentId).map PriceFeed.price := by
  have listed : ∀ feed ∈ db.priceFeeds, ∃ row ∈ db.latestPrices,
      row.instrumentId = feed.instrumentId := by
    rcases current.view with same | ⟨-, unfed⟩
    · exact same ▸ latest.listed _
    · simp [unfed]
  have fed : ∀ row ∈ db.latestPrices, ∃ feed ∈ db.priceFeeds,
      feed.instrumentId = row.instrumentId ∧ feed.price = row.price ∧
        ∀ other ∈ db.priceFeeds, other.instrumentId = row.instrumentId →
          other.receivedAt ≤ feed.receivedAt := by
    rcases current.view with same | ⟨unlisted, -⟩
    · exact same ▸ latest.latest _
    · simp [unlisted]
  unfold Margin.latestPriceOf Netting.latestFeed
  cases found : db.latestPrices.find? fun row => row.instrumentId = instrumentId with
  | none =>
      have unfed : (db.priceFeeds.filter fun feed => feed.instrumentId = instrumentId) = [] := by
        apply List.filter_eq_nil_iff.mpr
        intro feed inside same
        obtain ⟨row, there, row_same⟩ := listed feed inside
        have other := List.find?_eq_none.mp found row there
        exact other (by simpa [row_same] using same)
      simp [unfed]
  | some row =>
      obtain rfl : row.instrumentId = instrumentId := by simpa using List.find?_some found
      obtain ⟨feed, inside, same, priced, last⟩ := fed row (List.mem_of_find?_eq_some found)
      have kept : feed ∈ db.priceFeeds.filter fun feed => feed.instrumentId = row.instrumentId :=
        List.mem_filter.mpr ⟨inside, by simpa using same⟩
      cases picked : (db.priceFeeds.filter fun feed =>
          feed.instrumentId = row.instrumentId).argmax PriceFeed.receivedAt with
      | none => simp [List.argmax_eq_none.mp picked] at kept
      | some best =>
          obtain ⟨best_inside, best_same⟩ := List.mem_filter.mp (List.argmax_mem picked)
          rw [decide_eq_true_eq] at best_same
          have late : best.receivedAt = feed.receivedAt :=
            le_antisymm (last best best_inside best_same) (List.le_of_mem_argmax kept picked)
          by_cases equal : best = feed
          · simp [equal, priced]
          · exact absurd late (current.apart.forall best_inside inside equal
              (best_same.trans same.symm))

theorem leastPrice_mem : leastPrice ∈ fixedGrid 8 :=
  mem_fixedGrid.mpr ⟨10 ^ 6, by norm_num [leastPrice]⟩

/-- A price of the walk is stored as it is, and not below the floor. -/
theorem floor_of_fed {now : Timestamp} {instrument : Uuid × String} {feed : PriceFeed}
    (fed : Fed decimalBackend lastPrices factor now instrument feed) :
    leastPrice ≤ feed.price := by
  obtain ⟨newPrice, walked, stored⟩ := fed.price
  obtain ⟨quantized, quantizes, rfl⟩ := Option.map_eq_some_iff.mp walked
  have quantized_mem : quantized ∈ fixedGrid 8 := by
    unfold quantize at quantizes
    dsimp only at quantizes
    split at quantizes
    · cases quantizes
      exact toUnit_mem_fixedGrid 8 halfEven _
    · cases quantizes
  have member : max quantized leastPrice ∈ fixedGrid 8 := by
    rcases max_choice quantized leastPrice with same | same
    · rw [same]
      exact quantized_mem
    · rw [same]
      exact leastPrice_mem
  rw [decimalBackend.store_of_mem member stored]
  exact le_max_right _ _

theorem nodup_fetchActiveInstruments (identified : (db.instruments.map Instrument.id).Nodup) :
    ((fetchActiveInstruments market db).map Prod.fst).Nodup := by
  have sorted := (List.mergeSort_perm ((db.instruments.filter Instrument.isActive).map
    fun instrument => (instrument.id, market.symbol instrument.id))
    fun first second => market.collates first.2 second.2).map Prod.fst
  rw [List.map_map] at sorted
  exact sorted.nodup_iff.mpr
    (identified.sublist (List.filter_sublist.map Instrument.id))

/-- The feeds of an update, one for each instrument. -/
theorem fed_rows {now : Timestamp} {instruments : List (Uuid × String)} {feeds : List PriceFeed}
    (fed : List.Forall₂ (Fed backend lastPrices factor now) instruments feeds) :
    feeds.map PriceFeed.instrumentId = instruments.map Prod.fst ∧
      ∀ feed ∈ feeds, ∃ instrument, Fed backend lastPrices factor now instrument feed := by
  induction fed with
  | nil => exact ⟨rfl, nofun⟩
  | cons head _ induction =>
      obtain ⟨same, others⟩ := induction
      refine ⟨by rw [List.map_cons, List.map_cons, head.instrumentId, same], fun feed member => ?_⟩
      rcases List.mem_cons.mp member with rfl | inside
      · exact ⟨_, head⟩
      · exact others feed inside

theorem Current.of_published (current : Current market db)
    (timely : ∀ feed ∈ db.priceFeeds, feed.receivedAt < db.now)
    (published : PricesPublished decimalBackend market factor db after) : Current market after := by
  obtain ⟨feeds, appended, fed⟩ := published.feeds
  obtain ⟨same_ids, each⟩ := fed_rows fed
  have distinct : (feeds.map PriceFeed.instrumentId).Nodup := by
    rw [same_ids]
    exact nodup_fetchActiveInstruments current.identified
  refine ⟨.inl published.refreshed, fun feed member => ?_, ?_, ?_⟩
  · rw [appended] at member
    rcases List.mem_append.mp member with old | new
    · exact current.floor feed old
    · obtain ⟨instrument, of_instrument⟩ := each feed new
      exact floor_of_fed of_instrument
  · rw [appended, List.pairwise_append]
    refine ⟨current.apart, ?_, fun old there new inside _ => ?_⟩
    · exact (List.pairwise_map.mp distinct).imp fun different same => absurd same different
    · obtain ⟨instrument, of_instrument⟩ := each new inside
      rw [of_instrument.receivedAt]
      exact (timely old there).ne
  · rw [published.instruments]
    exact current.identified

/-- What happens in the market. -/
inductive MarketLabel
  | house (label : HouseLabel)
  | update (factor : Uuid → ℚ)
  | tick

/-- The house goes on, the oracle commits a round, or time passes. -/
inductive Markets (backend : Backend) (market : Market) : Database → MarketLabel → Database → Prop
  | house {db after : Database} {label : HouseLabel} (operates : Operates backend db label after) :
      Markets backend market db (.house label) after
  | update {db after : Database} {factor : Uuid → ℚ}
      (committed : after ∈ committedStates (updatePrices backend market factor) db) :
      Markets backend market db (.update factor) after
  | tick {db : Database} {time : Timestamp} (later : db.now ≤ time) :
      Markets backend market db .tick { db with now := time }

/-- Nothing but operations in the house, and updates later than all feeds. -/
def Timely (db : Database) : MarketLabel → Prop
  | .house label => Operating db label
  | .update _ => ∀ feed ∈ db.priceFeeds, feed.receivedAt < db.now
  | .tick => True

/-- An operation commits allowed statements. -/
theorem written_of_operates {may : Allowance} {label : HouseLabel}
    (allows : Allows backend may db) (operating : OperatingWith may.margin db label)
    (operates : Operates backend db label after) : Written backend may db after :=
  written_of_run allows (.snoc (.refl db) operating operates)

/-- From a house without prices margin and netting price every instrument alike in every state, at
the floor or above. -/
theorem prices_agree_of_run {first last : Database} (latest : LatestView market.view)
    (identified : (first.instruments.map Instrument.id).Nodup) (unlisted : first.latestPrices = [])
    (unfed : first.priceFeeds = []) (run : Run (Markets decimalBackend market) Timely first last)
    (instrument : Instrument) (listed : instrument ∈ last.instruments) :
    (Netting.quote last instrument.id).1 =
        (Margin.latestPriceOf last instrument.id).getD 0 ∧
      ∀ price, Margin.latestPriceOf last instrument.id = some price → leastPrice ≤ price := by
  have current : Current market last := by
    refine run.invariant (fun before label after current timely step => ?_)
      ⟨.inr ⟨unlisted, unfed⟩, by simp [unfed], by simp [unfed], identified⟩
    cases step with
    | house operates =>
        have granted := granted_of_written
          (written_of_operates (allows_everything before) timely operates)
        exact
          { view := by rw [granted.latestPrices, granted.priceFeeds]; exact current.view
            floor := by rw [granted.priceFeeds]; exact current.floor
            apart := by rw [granted.priceFeeds]; exact current.apart
            identified := by rw [granted.instruments]; exact current.identified }
    | update committed =>
        rcases published_of_committed committed with rfl | published
        · exact current
        · exact current.of_published timely published
    | tick => exact ⟨current.view, current.floor, current.apart, current.identified⟩
  have agree := current.latestPriceOf_eq latest instrument.id
  constructor
  · have found : ∃ other, (last.instruments.find? fun row => row.id = instrument.id) = some other :=
      Option.isSome_iff_exists.mp
        (List.find?_isSome.mpr ⟨instrument, listed, by simp⟩)
    obtain ⟨other, found⟩ := found
    rw [Netting.quote, found, agree]
  · intro price priced
    rw [agree] at priced
    obtain ⟨feed, picked, rfl⟩ := Option.map_eq_some_iff.mp priced
    exact current.floor feed (List.mem_filter.mp (List.argmax_mem picked)).1

/-- One of the latest feeds of every instrument. -/
def latestRows (feeds : List PriceFeed) : List LatestPrice :=
  (feeds.map PriceFeed.instrumentId).dedup.filterMap fun instrumentId =>
    ((feeds.filter fun feed => feed.instrumentId = instrumentId).argmax PriceFeed.receivedAt).map
      fun feed => { instrumentId, price := feed.price }

theorem latestView_latestRows : LatestView latestRows := by
  constructor
  · intro feeds feed inside
    have kept : feed ∈ feeds.filter fun other => other.instrumentId = feed.instrumentId :=
      List.mem_filter.mpr ⟨inside, by simp⟩
    cases picked : (feeds.filter fun other =>
        other.instrumentId = feed.instrumentId).argmax PriceFeed.receivedAt with
    | none => simp [List.argmax_eq_none.mp picked] at kept
    | some best =>
        refine ⟨⟨feed.instrumentId, best.price⟩, List.mem_filterMap.mpr
          ⟨feed.instrumentId, List.mem_dedup.mpr (List.mem_map_of_mem inside), ?_⟩, rfl⟩
        rw [picked]
        rfl
  · intro feeds row member
    obtain ⟨instrumentId, -, picked⟩ := List.mem_filterMap.mp member
    obtain ⟨best, largest, rfl⟩ := Option.map_eq_some_iff.mp picked
    obtain ⟨inside, same⟩ := List.mem_filter.mp (List.argmax_mem largest)
    refine ⟨best, inside, by simpa using same, rfl, fun other there same => ?_⟩
    exact List.le_of_mem_argmax (List.mem_filter.mpr ⟨there, by simpa using same⟩) largest

/-- A market of one symbol. -/
def bitcoinMarket (mayRefresh : Bool) : Market where
  symbol := fun _ => "BTC-PERP"
  collates := fun first second => first ≤ second
  view := latestRows
  mayRefresh := mayRefresh

private theorem updated_tradelessHouse :
    ∃ middle ∈ committedStates
        (updatePrices decimalBackend (bitcoinMarket true) fun _ => 101 / 100) tradelessHouse,
      middle.now = 0 ∧ (middle.priceFeeds.all fun feed => feed.receivedAt < 5) = true ∧
      ∃ last ∈ committedStates
        (updatePrices decimalBackend (bitcoinMarket true) fun _ => 99 / 100)
        { middle with now := 5 },
        last.priceFeeds.map PriceFeed.price = [65650, 64993.5] := by
  decide +kernel

/-- Two rounds with time between them. -/
theorem prices_agree_of_run_tradelessHouse :
    ∃ last, Run (Markets decimalBackend (bitcoinMarket true)) Timely tradelessHouse last ∧
      last.priceFeeds.map PriceFeed.price = [65650, 64993.5] ∧
        ∀ instrument ∈ last.instruments,
          (Netting.quote last instrument.id).1 =
              (Margin.latestPriceOf last instrument.id).getD 0 ∧
            ∀ price, Margin.latestPriceOf last instrument.id = some price →
              leastPrice ≤ price := by
  obtain ⟨middle, first, begun, early, last, second, prices⟩ := updated_tradelessHouse
  have timely : ∀ feed ∈ middle.priceFeeds, feed.receivedAt < 5 := fun feed member =>
    of_decide_eq_true (List.all_eq_true.mp early feed member)
  have opened : Timely tradelessHouse (.update fun _ => 101 / 100) := nofun
  have waited : Run (Markets decimalBackend (bitcoinMarket true)) Timely tradelessHouse
      { middle with now := 5 } :=
    .snoc (.snoc (.refl _) opened (.update first)) (by exact trivial) (.tick (by simp [begun]))
  have later : Timely { middle with now := 5 } (.update fun _ => 99 / 100) := timely
  have run : Run (Markets decimalBackend (bitcoinMarket true)) Timely tradelessHouse last :=
    .snoc waited later (.update second)
  exact ⟨last, run, prices, prices_agree_of_run latestView_latestRows (by decide) rfl rfl run⟩

/-- No price is known, and no instruction has an amount. -/
structure Unpriced (db : Database) : Prop where
  feeds : db.priceFeeds = []
  latest : db.latestPrices = []
  instructions : ∀ instruction ∈ db.settlementInstructions, instruction.amount = 0

/-- The journals that move money at a price. -/
def pricedJournals (db : Database) : List Journal :=
  db.journals.filter fun journal =>
    journal.journalType = .settlement ∨ journal.journalType = .variationMargin

/-- Neither amounts nor such journals. -/
def noPayments : Allowance :=
  { Allowance.everything with
    journal := fun journalType => journalType ≠ .settlement ∧ journalType ≠ .variationMargin
    instruction := fun amount => amount = 0 }

/-- Without prices nothing is paid. -/
structure Unpaid (db after : Database) : Prop where
  unpriced : Unpriced db → Unpriced after
  journals : pricedJournals after = pricedJournals db

instance : Std.Refl Unpaid := ⟨fun _ => ⟨id, rfl⟩⟩

instance : IsTrans Database Unpaid where
  trans _ _ _ head tail :=
    ⟨fun unpriced => tail.unpriced (head.unpriced unpriced), tail.journals.trans head.journals⟩

theorem unpaid_of_writes (writes : RowWrites backend noPayments db after) : Unpaid db after := by
  have granted := granted_of_writes writes
  have keeps : (∀ instruction ∈ after.settlementInstructions, instruction.amount = 0) →
      Unpriced db → Unpriced after := fun instructions unpriced =>
    ⟨granted.priceFeeds.trans unpriced.feeds, granted.latestPrices.trans unpriced.latest,
      instructions⟩
  cases writes with
  | journal journalType referenceType referenceId allowed =>
      refine ⟨fun unpriced => keeps unpriced.instructions unpriced, ?_⟩
      simp [pricedJournals, allowed.1, allowed.2]
  | instruction instruction allowed =>
      refine ⟨fun unpriced => keeps (fun row member => ?_) unpriced, rfl⟩
      rcases List.mem_append.mp member with old | new
      · exact unpriced.instructions row old
      · exact List.mem_singleton.mp new ▸ allowed
  | progress instructionId change same =>
      refine ⟨fun unpriced => keeps (fun row member => ?_) unpriced, rfl⟩
      obtain ⟨old, there, rfl⟩ := List.mem_map.mp member
      split
      · have amount : (change old).amount = old.amount :=
          congrArg (fun columns => columns.2.2.2.2.2.2.2.1) (same old)
        exact amount.trans (unpriced.instructions old there)
      · exact unpriced.instructions old there
  | _ => exact ⟨fun unpriced => keeps unpriced.instructions unpriced, rfl⟩

theorem unpaid_of_written (written : Written backend noPayments db after) : Unpaid db after :=
  related_of_written (fun _ _ => unpaid_of_writes) written

/-- Without feeds an obligation has no amount. -/
theorem settlementAmount_of_unfed (unfed : db.priceFeeds = []) {cutOffTime : Timestamp}
    {obligation : Netting.Obligation}
    (member : obligation ∈ Netting.cycleObligations backend cutOffTime db) :
    obligation.settlementAmount = 0 := by
  have free : ∀ instrumentId, (Netting.quote db instrumentId).1 = 0 := fun instrumentId => by
    rw [Netting.quote]
    split
    · simp [Netting.latestFeed, unfed]
    · rfl
  rw [Netting.cycleObligations, Netting.calculateNetObligations_eq] at member
  obtain ⟨k, -, rfl⟩ := List.mem_map.mp member
  simp [Netting.obligationAt, free, Backend.mul, Backend.abs, backend.round_zero]

theorem allows_noPayments (unpriced : Unpriced db) : Allows backend noPayments db where
  marginCall := ⟨nofun, nofun⟩
  trade := fun _ => trivial
  leg := fun _ _ _ _ _ _ => trivial
  payable := fun state _ written obligation member amount stored => by
    have later := (unpaid_of_written written).unpriced unpriced
    rw [settlementAmount_of_unfed later.feeds member, backend.store_zero] at stored
    exact (Option.some.inj stored).symm
  variation := .inr fun _ written => ((unpaid_of_written written).unpriced unpriced).latest
  settlement := .inr fun _ written =>
    ((unpaid_of_written written).unpriced unpriced).instructions
  deposit := ⟨nofun, nofun⟩
  withdrawal := ⟨nofun, nofun⟩
  margin := trivial
  waterfall := ⟨nofun, nofun⟩
  defaults := trivial
  contribution := ⟨nofun, nofun⟩

/-- While the oracle may not refresh its view, no price is ever known, no instruction ever has an
amount, and no journal of a settlement or of variation margin is ever written. -/
theorem unpaid_of_run {first last : Database} (foreign : market.mayRefresh = false)
    (unpriced : Unpriced first) (run : Run (Markets backend market) Timely first last) :
    Unpriced last ∧ pricedJournals last = pricedJournals first := by
  have preserved : ∀ before label after,
      Unpriced before ∧ pricedJournals before = pricedJournals first → Timely before label →
        Markets backend market before label after →
          Unpriced after ∧ pricedJournals after = pricedJournals first := by
    rintro before label after ⟨here, same⟩ timely step
    cases step with
    | house operates =>
        have unpaid := unpaid_of_written
          (written_of_operates (allows_noPayments here) timely operates)
        exact ⟨unpaid.unpriced here, unpaid.journals.trans same⟩
    | update committed =>
        rcases published_of_committed committed with rfl | published
        · exact ⟨here, same⟩
        · have owned := published.owned
          rw [foreign] at owned
          cases owned
    | tick => exact ⟨⟨here.feeds, here.latest, here.instructions⟩, same⟩
  exact run.invariant preserved ⟨unpriced, rfl⟩

/-- A netting cycle of all legs. -/
def netEverything : HouseOperation := .runNettingCycle .manual 5 ⟨6, "alice", none⟩

private theorem netted_tradelessHouse :
    ∃ submitted ∈ committedStates (called decimalBackend none (tenUnits.body decimalBackend))
        tradelessHouse,
      ∃ novated ∈ committedStates
        (called decimalBackend none (submittedUnits.body decimalBackend)) submitted,
        ∃ last ∈ committedStates
          (called decimalBackend none (netEverything.body decimalBackend)) novated,
          last.settlementInstructions.map SettlementInstruction.quantity = [10, 10] := by
  decide +kernel

/-- A trade is netted without a price. -/
theorem unpaid_of_run_tradelessHouse :
    ∃ last, Run (Markets decimalBackend (bitcoinMarket false)) Timely tradelessHouse last ∧
      last.settlementInstructions.map SettlementInstruction.quantity = [10, 10] ∧
        Unpriced last ∧ pricedJournals last = pricedJournals tradelessHouse := by
  obtain ⟨submitted, submit, novated, novate, last, net, quantities⟩ := netted_tradelessHouse
  have operating : ∀ db operation mark, Timely db (.house (.operation operation mark)) :=
    operating_operation
  have run : Run (Markets decimalBackend (bitcoinMarket false)) Timely tradelessHouse last :=
    .snoc (.snoc (.snoc (.refl _) (operating _ _ _) (.house (.operation submit)))
      (operating _ _ _) (.house (.operation novate))) (operating _ _ _) (.house (.operation net))
  have empty : tradelessHouse.settlementInstructions = [] := rfl
  exact ⟨last, run, quantities, unpaid_of_run rfl ⟨rfl, rfl, by simp [empty]⟩ run⟩

end Oracle

end ClearingHouse
