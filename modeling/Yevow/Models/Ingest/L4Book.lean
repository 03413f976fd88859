import Yevow.Models.Ingest.L4Orders

/-!
# A book from an order-level feed

Messages maintain a cache of orders: a snapshot replaces it, differences and final statuses
change it, and a cache that has grown too large keeps the best orders of each side. The book
sent on shows the cached orders by price, without the levels that cross.
-/

namespace Yevow.Ingest

open JavaScript (Runtime Json Timestamp)
open JavaScript.Json (readField stringifyOrNull)
open Engine (TradeSide)

/-- The orders of the book, under their ids. -/
abbrev L4Cache : Type := Rows String DwellirL4OrderState

/-- An order in a message, with the side its list implies and the identifier that stands in
for a missing one. -/
structure L4OrderEntry where
  value : Json
  sideHint : Option TradeSide
  fallbackId : String

variable (js : Runtime)

/-- `applyDwellirL4OrderMutation`: the cache, and whether the order changed it. -/
def applyDwellirL4OrderMutation (receivedAt : String) (orderCache : L4Cache)
    (entry : L4OrderEntry) : L4Cache × Bool :=
  match normalizeDwellirL4OrderSource entry.value entry.sideHint with
  | none => (orderCache, false)
  | some source =>
    let orderId := readDwellirL4OrderId js source entry.fallbackId
    let existing := orderCache.get? orderId
    match readMutation js source entry.sideHint existing receivedAt with
    | none => (orderCache, false)
    | some none => (orderCache.delete orderId, existing.isSome)
    | some (some order) => (orderCache.set orderId order, true)

/-- The entries of a message, one after the other. -/
def applyEntries (receivedAt : String) (orderCache : L4Cache) (entries : List L4OrderEntry) :
    L4Cache × Bool :=
  entries.foldl
    (fun (state : L4Cache × Bool) entry =>
      let (orderCache, changed) := applyDwellirL4OrderMutation js receivedAt state.1 entry
      (orderCache, state.2 || changed))
    (orderCache, false)

/-- The orders of a list, each under its place in it. -/
def orderEntries (value : Json) (sideHint : Option TradeSide) (fallback : String) :
    List L4OrderEntry :=
  match value with
  | .array items => items.zipIdx.map fun (item, index) =>
      ⟨item, sideHint, fallback ++ ":" ++ toString index⟩
  | _ => []

/-- A list. -/
def isArray : Json → Bool
  | .array _ => true
  | _ => false

/-- The bids and asks of a message that brings a whole book. -/
def snapshotSides (data : Json.Fields) : Option (Json × Json) :=
  let levels := readField data ["levels", "book", "orderBook"]
  let (bids, asks) := match levels with
    | .object fields =>
      (readField fields ["bids", "bid", "buy"], readField fields ["asks", "ask", "sell"])
    | _ =>
      (readField data ["bids", "bidOrders", "buy"], readField data ["asks", "askOrders", "sell"])
  let fromLists := match levels with
    | .array items =>
      if isArray (Json.item items 0) || isArray (Json.item items 1) then
        some (Json.item items 0, Json.item items 1)
      else none
    | _ => none
  match fromLists with
  | some sides => some sides
  | none => if isArray bids || isArray asks then some (bids, asks) else none

/-- How many orders of a side are kept: half of a limit, at least one. -/
def sideLimit (maxCacheOrders : ℚ) : ℕ := (max 1 ⌊maxCacheOrders / 2⌋).toNat

/-- The orders of a whole book on one side, in the number that is kept. -/
def snapshotEntries (maxCacheOrders : ℚ) (sides : Json × Json) : List L4OrderEntry :=
  (orderEntries sides.1 (some .buy) "snapshot:bid").take (sideLimit maxCacheOrders) ++
    (orderEntries sides.2 (some .sell) "snapshot:ask").take (sideLimit maxCacheOrders)

/-- A snapshot replaces the orders. -/
def applyDwellirL4Snapshot (data : Json.Fields) (orderCache : L4Cache) (receivedAt : String)
    (maxCacheOrders : ℚ) : L4Cache × Bool :=
  match snapshotSides data with
  | some sides =>
    ((applyEntries js receivedAt Rows.empty (snapshotEntries maxCacheOrders sides)).1, true)
  | none => (orderCache, false)

/-- The differences of a message, and those of its statuses that take an order off the book. -/
def deltaEntries (data : Json.Fields) : List L4OrderEntry :=
  orderEntries (readField data ["book_diffs", "bookDiffs"]) none "delta" ++
    (orderEntries
      (readField data ["diffs", "deltas", "updates", "changes", "orders", "orderUpdates"]) none
      "delta" ++
    (orderEntries (readField data ["order_statuses", "orderStatuses", "statuses", "events"]) none
      "status").filter fun entry =>
        match normalizeDwellirL4OrderSource entry.value none with
        | some source => isDwellirL4Delete source (readDwellirL4Size js source)
        | none => false)

/-- Deltas change the orders. -/
def applyDwellirL4Deltas (data : Json.Fields) (orderCache : L4Cache) (receivedAt : String) :
    L4Cache × Bool :=
  applyEntries js receivedAt orderCache (deltaEntries js data)

/-! ## The size of the cache -/

/-- The order of prices on a side, best first. -/
def comparePrices (side : TradeSide) (left right : ℤ) : ℤ :=
  match side with
  | .buy => right - left
  | .sell => left - right

/-- The cached orders of a side, best first. -/
def sideOrders (orderCache : L4Cache) (side : TradeSide) :
    List (String × DwellirL4OrderState) :=
  Sorting.sortBy (fun left right => comparePrices side left.2.price right.2.price)
    (orderCache.entries.filter fun entry => entry.2.side = side)

/-- The best orders of both sides, where there are too many. -/
def pruneDwellirL4Cache (orderCache : L4Cache) (maxCacheOrders : ℚ) : L4Cache :=
  if (orderCache.entries.length : ℚ) ≤ maxCacheOrders then orderCache
  else
    let kept := (sideOrders orderCache .buy).take (sideLimit maxCacheOrders) ++
      (sideOrders orderCache .sell).take (sideLimit maxCacheOrders)
    kept.foldl (fun cache entry => cache.set entry.1 entry.2) Rows.empty

/-! ## The book -/

/-- The orders at one price. -/
structure DwellirAggregatedLevel where
  px : ℤ
  sz : ℚ
  n : ℕ
  updatedAt : String
  deriving DecidableEq

/-- Add an order to the level at its price. -/
def addToLevel (byPrice : Rows ℤ DwellirAggregatedLevel) (order : DwellirL4OrderState) :
    Rows ℤ DwellirAggregatedLevel :=
  let aggregate := (byPrice.get? order.price).getD ⟨order.price, 0, 0, order.updatedAt⟩
  byPrice.set order.price
    { aggregate with
      sz := aggregate.sz + order.size
      n := aggregate.n + 1
      updatedAt := if aggregate.updatedAt < order.updatedAt then order.updatedAt
        else aggregate.updatedAt }

/-- `roundTo(value, 8)`. -/
def roundToEight (value : ℚ) : ℚ := Arithmetic.mathRound (value * 10 ^ 8) / 10 ^ 8

/-- The levels of one side. -/
def buildDwellirL4AggregatedLevels (orderCache : L4Cache) (side : TradeSide)
    (depthLimit : ℕ) : List DwellirAggregatedLevel :=
  let byPrice := (orderCache.rows.filter fun order => order.side = side ∧ 0 < order.size).foldl
    addToLevel Rows.empty
  let sorted := Sorting.sortBy (fun left right => comparePrices side left.px right.px) byPrice.rows
  (sorted.take (max 1 depthLimit)).map fun level => { level with sz := roundToEight level.sz }

/-- Take the best levels off both sides as long as they cross, counting them. -/
def sanitizeCrossedAggregatedBook : List DwellirAggregatedLevel → List DwellirAggregatedLevel →
    List DwellirAggregatedLevel × List DwellirAggregatedLevel × ℕ
  | bid :: bids, ask :: asks =>
    if bid.px < ask.px then (bid :: bids, ask :: asks, 0)
    else
      let (bids, asks, pruned) := sanitizeCrossedAggregatedBook bids asks
      (bids, asks, pruned + 2)
  | bids, asks => (bids, asks, 0)

/-! ## Messages -/

/-- The settings of an order-level stream. -/
structure L4StreamConfig where
  instrumentCode : Option String
  maxBookDepth : Option ℕ
  bookDepth : Option ℕ
  maxCacheOrders : ℚ

/-- `HYPERLIQUID_PUBLIC_L2_DEPTH_LIMIT`. -/
def publicL2DepthLimit : ℕ := 20

/-- How many levels are shown. -/
def resolveDwellirL4BookDepthLimit (config : L4StreamConfig) : ℕ :=
  max 1 (min (config.maxBookDepth.getD publicL2DepthLimit)
    (config.bookDepth.getD publicL2DepthLimit))

/-- The coin of the first order in a list that names one. -/
def coinOfOrders (value : Json) : Option String :=
  match value with
  | .array items => items.findSome? fun item =>
      (normalizeDwellirL4OrderSource item none).bind fun source =>
        stringifyOrNull (readField source ["coin", "asset", "symbol"])
  | _ => none

/-- The coin that a message is about. -/
def readDwellirL4Coin (source : Json.Fields) : Option String :=
  ((stringifyOrNull (readField source ["coin", "asset", "symbol"])).or
    ((coinOfOrders (readField source ["book_diffs", "bookDiffs", "diffs", "updates"])).or
      (coinOfOrders (readField source ["order_statuses", "orderStatuses", "statuses"])))).map
    String.toUpper

/-- The coin of an instrument: its code without `-usd`, in capitals. -/
def instrumentCoin (instrumentCode : String) : String :=
  let code := if instrumentCode.toLower.endsWith "-usd"
    then String.ofList (instrumentCode.toList.take (instrumentCode.length - 4)) else instrumentCode
  code.toUpper

/-- A text, or an object that holds one. -/
def coerceTimestamp : Json → Option Timestamp
  | .string s => some (.text s)
  | .object fields => match Json.field fields "value" with
    | .string s => some (.text s)
    | _ => none
  | _ => none

/-- The timestamp of a time in seconds or milliseconds. -/
def coerceExchangeMillis (value : ℚ) : Except String Timestamp :=
  let millis := if 10000000000 < value then value else js.arithmetic.fraction (value * 1000)
  let time := Timestamp.truncate millis
  if |time| ≤ Timestamp.maxTime then .ok (.iso time) else .error "Invalid time value"

/-- The time of a message. -/
def coerceDwellirExchangeTime (value : Json) : Except String (Option Timestamp) :=
  match value with
  | .number (.finite n) => some <$> coerceExchangeMillis js n
  | .string s => match js.toNumber s with
    | .finite n => some <$> coerceExchangeMillis js n
    | _ => .ok (coerceTimestamp value)
  | _ => .ok (coerceTimestamp value)

/-- A book by price levels. -/
structure L2Book where
  coin : String
  time : Timestamp
  sequence : Json
  bids : List DwellirAggregatedLevel
  asks : List DwellirAggregatedLevel
  crossedLevelsPruned : ℕ

/-- `Date.parse` as a value. -/
def dateNumber (time : Timestamp) : Json :=
  match time.parse js with
  | some ms => .number (.finite ms)
  | none => .number .nan

/-- The part of a message that holds its content. -/
def messageData (raw : Json.Fields) : Json.Fields :=
  let envelope := match Json.field raw "data" with
    | .object fields => fields
    | _ => raw
  match Json.field envelope "Snapshot", Json.field envelope "Updates" with
  | .object fields, _ => fields
  | _, .object fields => fields
  | _, _ => envelope

/-- The book that the cached orders show, if they show a level. -/
def bookOfCache (config : L4StreamConfig) (orderCache : L4Cache) (coin : String)
    (time : Timestamp) (sequence : Json) : Option L2Book :=
  let depthLimit := resolveDwellirL4BookDepthLimit config
  let (bids, asks, pruned) := sanitizeCrossedAggregatedBook
    (buildDwellirL4AggregatedLevels orderCache .buy depthLimit)
    (buildDwellirL4AggregatedLevels orderCache .sell depthLimit)
  if bids.isEmpty && asks.isEmpty then none
  else some ⟨coin.toUpper, time, sequence, bids, asks, pruned⟩

/-- The cache after the orders of a message, before it is pruned, and whether they changed
it. -/
def applyContent (config : L4StreamConfig) (data : Json.Fields) (orderCache : L4Cache)
    (receivedAt : String) : L4Cache × Bool :=
  let (orderCache, replaced) := applyDwellirL4Snapshot js data orderCache receivedAt
    config.maxCacheOrders
  let (orderCache, changed) := applyDwellirL4Deltas js data orderCache receivedAt
  (orderCache, changed || replaced)

/-- The coin, time and sequence of a message, absent where no coin is known. -/
def readHeader (config : L4StreamConfig) (data : Json.Fields) (receivedAt : String) :
    Except String (Option (String × Timestamp × Json)) :=
  let coin := (readDwellirL4Coin data).or (config.instrumentCode.map instrumentCoin)
  match coin with
  | none => .ok none
  | some coin =>
    if coin = "" then .ok none
    else do
      let time ← coerceDwellirExchangeTime js
        (readField data ["time", "timestamp", "ts", "blockTime"])
      let exchangeTime := time.getD (.text receivedAt)
      let sequence := (readField data ["sequence", "seq", "block", "height", "time"]).orElse
        (dateNumber js exchangeTime)
      return some (coin, exchangeTime, sequence)

/-- `normalizeDwellirL4BookForEngine`: the cache afterwards, and the book to send on if there
is one. -/
def normalizeDwellirL4BookForEngine (config : L4StreamConfig) (orderCache : L4Cache)
    (raw : Json.Fields) (receivedAt : String) : L4Cache × Except String (Option L2Book) :=
  let data := messageData raw
  match readHeader js config data receivedAt with
  | .error e => (orderCache, .error e)
  | .ok none => (orderCache, .ok none)
  | .ok (some (coin, time, sequence)) =>
    let (orderCache, mutated) := applyContent js config data orderCache receivedAt
    if !mutated && orderCache.entries.isEmpty then (orderCache, .ok none)
    else
      let orderCache := pruneDwellirL4Cache orderCache (max 100 config.maxCacheOrders)
      (orderCache, .ok (bookOfCache config orderCache coin time sequence))

end Yevow.Ingest
