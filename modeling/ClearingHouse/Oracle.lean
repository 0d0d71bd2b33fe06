import ClearingHouse.Margin.Positions
import ClearingHouse.Statements

/-!
# Price oracle

A random walk over the prices of the active instruments.  An update inserts a feed for each of them,
refreshes the materialized view of the latest prices and announces the new prices.
-/

namespace ClearingHouse

namespace Oracle

open DecimalRounding Transactions Transactions.Session
open Transaction (bind_eq_ok)

/-- `BASE_PRICES`. -/
def basePrices : List (String × ℚ) :=
  [("BTC-PERP", 65000), ("ETH-FUTURE-Q2", 3500), ("BTC-OPTION-30K", 2500), ("AAPL-TOKEN", 175),
    ("TBOND-10Y", 98.5), ("REALESTATE-RWA-1", 250000)]

/-- `BASE_PRICES.get(symbol, Decimal("100"))`. -/
def basePrice (symbol : String) : ℚ := (basePrices.lookup symbol).getD 100

/-- The floor of a price. -/
def leastPrice : ℚ := 1 / 100

/-- `quantize(Decimal("0.00000001"))`; `none` is an `InvalidOperation`, when the result has more
digits than the context. -/
def quantize (x : ℚ) : Option ℚ :=
  let quantized := toUnit halfEven (1 / 10 ^ 8) x
  if |quantized| < 10 ^ 20 then some quantized else none

/-- `_random_walk`, given the factor it draws. -/
def randomWalk (backend : Backend) (lastPrice factor : ℚ) : Option ℚ :=
  (quantize (backend.mul lastPrice factor)).map fun newPrice => max newPrice leastPrice

/-- The server and the role of the service. -/
structure Market where
  /-- Column `symbol` of an instrument. -/
  symbol : Uuid → String
  /-- `ORDER BY symbol`. -/
  collates : String → String → Bool
  /-- The rows of `latest_prices` over some feeds; of equally late feeds the server picks one. -/
  view : List PriceFeed → List LatestPrice
  /-- The role owns `latest_prices`, which a refresh asks for. -/
  mayRefresh : Bool

/-- `_fetch_active_instruments`. -/
def fetchActiveInstruments (market : Market) (db : Database) : List (Uuid × String) :=
  ((db.instruments.filter Instrument.isActive).map fun instrument =>
    (instrument.id, market.symbol instrument.id)).mergeSort fun first second =>
      market.collates first.2 second.2

/-- `_insert_price_feed`. -/
def insertPriceFeed (backend : Backend) (instrumentId : Uuid) (price : ℚ) : Sql Unit := do
  let price ← castNumeric backend price
  let db ← Transaction.read
  Transaction.require (instrumentId ∈ db.instruments.map Instrument.id)
    (.server (.foreignKeyViolation "price_feeds_instrument_id_fkey"))
  Transaction.write fun db =>
    { db with priceFeeds := db.priceFeeds ++ [{ instrumentId, price, receivedAt := db.now }] }

/-- `REFRESH MATERIALIZED VIEW CONCURRENTLY latest_prices`. -/
def refreshLatestPrices (market : Market) : Sql Unit := do
  Transaction.require (market.mayRefresh = true) (.server (.insufficientPrivilege "latest_prices"))
  Transaction.write fun db => { db with latestPrices := market.view db.priceFeeds }

/-- An entry of `updated`. -/
structure UpdatedPrice where
  instrumentId : Uuid
  symbol : String
  price : ℚ
  deriving DecidableEq, Repr

/-- Loop body of `generate_prices`. -/
def updatePrice (backend : Backend) (lastPrices : Uuid → Option ℚ) (factor : Uuid → ℚ)
    (instrument : Uuid × String) : Sql UpdatedPrice := do
  let lastPrice := (lastPrices instrument.1).getD (basePrice instrument.2)
  match randomWalk backend lastPrice (factor instrument.1) with
  | none => Transaction.raise (.raised .runtimeError [.literal "InvalidOperation"])
  | some newPrice => do
      insertPriceFeed backend instrument.1 newPrice
      pure { instrumentId := instrument.1, symbol := instrument.2, price := newPrice }

/-- Payload of the new prices. -/
def pricesPayload (updated : List UpdatedPrice) : Payload :=
  [("prices", .objects (updated.map fun entry =>
    [("instrument_id", [.uuid entry.instrumentId]), ("symbol", [.literal entry.symbol]),
      ("price", [.decimal entry.price])]))]

/-- The transaction block of `generate_prices`, over a list that is not empty. -/
def publishPrices (backend : Backend) (market : Market) (lastPrices : Uuid → Option ℚ)
    (factor : Uuid → ℚ) (first : Uuid × String) (rest : List (Uuid × String)) :
    Sql (List UpdatedPrice) := do
  let updated ← (first :: rest).mapM (updatePrice backend lastPrices factor)
  refreshLatestPrices market
  let _ ← insertOutboxEvent "price_feed" first.1 "price.updated" "prices.updated"
    (pricesPayload updated) none
  pure updated

/-- `generate_prices`. -/
def generatePrices (backend : Backend) (market : Market) (factor : Uuid → ℚ) :
    Session Database Failure (List UpdatedPrice) := do
  let db ← execute (server backend) Transaction.read
  match fetchActiveInstruments market db with
  | [] => pure []
  | first :: rest => do
      let db ← execute (server backend) Transaction.read
      transaction (server backend)
        (publishPrices backend market (Margin.latestPriceOf db) factor first rest)

/-- One round of `_price_update_loop`, which logs what is raised. -/
def updatePrices (backend : Backend) (market : Market) (factor : Uuid → ℚ) :
    Session Database Failure Unit := do
  let _ ← generatePrices backend market factor
  commit (server backend)

end Oracle

end ClearingHouse
