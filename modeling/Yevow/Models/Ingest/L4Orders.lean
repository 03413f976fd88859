import Yevow.Core.JavaScript.Json
import Yevow.Core.JavaScript.Timestamp
import Yevow.Models.Engine.ExecutionAccounting

/-!
# Orders of an order-level book feed

An order arrives as a record, as a record around another one, or as a list, under many field
names. Read are its identifier, side, price and size, and whether it is taken off the book.
-/

namespace Yevow.Ingest

open JavaScript (Runtime Json)
open JavaScript.Json (readField stringifyOrNull normalizeString)
open Engine (TradeSide)

/-- A cached order. Its price is the text with eight decimals, kept as the number of units of
`0.00000001`, of which there is one for each such text. -/
structure DwellirL4OrderState where
  side : TradeSide
  price : ℤ
  size : ℚ
  updatedAt : String
  deriving DecidableEq

variable (js : Runtime)

/-- The number of the decimal text that `formatDwellirPriceKey` writes. -/
def formatDwellirPriceKey (price : ℚ) : ℤ := Arithmetic.mathRound (price * 10 ^ 8)

/-- That text, without zeros at the end of its fraction. -/
def priceText (price : ℤ) : String :=
  let fraction := toString (price % 10 ^ 8)
  let padded := String.ofList (List.replicate (8 - fraction.length) '0') ++ fraction
  let digits := String.ofList (padded.toList.reverse.dropWhile (· = '0')).reverse
  toString (price / 10 ^ 8) ++ if digits = "" then "" else "." ++ digits

def sideValue : TradeSide → Json
  | .buy => .string "buy"
  | .sell => .string "sell"

/-- The fields of an order in any of the shapes it may have. Later names in a spread override
earlier ones, so they stand first here. -/
def normalizeDwellirL4OrderSource (value : Json) (sideHint : Option TradeSide) :
    Option Json.Fields :=
  match value with
  | .object fields =>
    match readField fields ["order", "restingOrder", "bookOrder", "data"] with
    | .object nested =>
      some (("status", (readField fields ["status", "type", "event", "state"]).orElse
        (readField nested ["status"])) :: (nested ++ fields))
    | _ => some fields
  | .array items =>
    match Json.item items 1 with
    | .object fields => some (fields ++ [("oid", Json.item items 0)])
    | _ =>
      match sideHint with
      | some side => some [("side", sideValue side), ("px", Json.item items 0),
          ("sz", Json.item items 1), ("oid", Json.item items 2)]
      | none => some [("side", Json.item items 0), ("px", Json.item items 1),
          ("sz", Json.item items 2), ("oid", Json.item items 3)]
  | _ => none

/-- What the order gives as its identifier. -/
def orderIdField (source : Json.Fields) : Json :=
  readField source
    ["oid", "orderId", "order_id", "id", "hash", "tid", "cloid", "clientOrderId"]

/-- The price of an order. -/
def readDwellirL4Price (source : Json.Fields) : Option ℤ :=
  match (readField source ["limitPx", "px", "price", "p"]).toNumber js with
  | .finite price => if price < 0 then none else some (formatDwellirPriceKey price)
  | _ => none

/-- The id of an order, or one made up from its price. -/
def readDwellirL4OrderId (source : Json.Fields) (fallbackId : String) : String :=
  (stringifyOrNull (orderIdField source)).getD
    (fallbackId ++ ":" ++ ((readDwellirL4Price js source).map priceText).getD "unknown")

/-- The change that an entry holds. -/
def readRawBookDiff (source : Json.Fields) : Json :=
  readField source ["raw_book_diff", "rawBookDiff", "bookDiff"]

/-- The size of an order after an entry. -/
def readDwellirL4Size (source : Json.Fields) : Option ℚ :=
  let newSize := match readRawBookDiff source with
    | .object diff =>
      match Json.field diff "new" with
      | .object newDiff => readField newDiff ["sz", "size", "qty", "quantity", "q"]
      | _ => .undefined
    | _ => .undefined
  let rawSize := (readField source ["sz", "size", "qty", "quantity", "q", "remainingSize"]).orElse
    newSize
  match rawSize.toNumber js with
  | .finite size => some size
  | _ => none

/-- The side of an order. -/
def readDwellirL4Side (source : Json.Fields) (fallback : Option TradeSide) :
    Option TradeSide :=
  match Json.field source "isBuy", Json.field source "isBid", Json.field source "isAsk" with
  | .boolean isBuy, _, _ => some (if isBuy then .buy else .sell)
  | _, .boolean isBid, _ => some (if isBid then .buy else .sell)
  | _, _, .boolean isAsk => some (if isAsk then .sell else .buy)
  | _, _, _ =>
    match normalizeString (readField source ["side", "s", "bookSide", "dir", "direction"]) with
    | some side =>
      if side ∈ ["B", "BUY", "BID", "LONG"] then some .buy
      else if side ∈ ["A", "ASK", "SELL", "S", "SHORT"] then some .sell
      else fallback
    | none => fallback

/-- The statuses of an order that is off the book. -/
def deletedStatuses : List String :=
  ["CANCEL", "CANCELED", "CANCELLED", "DELETE", "DELETED", "REMOVE", "REMOVED", "FILL", "FILLED",
    "EXPIRE", "EXPIRED"]

/-- An entry that deletes its order. -/
def isDwellirL4Delete (source : Json.Fields) (size : Option ℚ) : Bool :=
  let status := normalizeString (readField source ["status", "type", "event", "state", "action"])
  let rawBookDiffStatus := normalizeString (readRawBookDiff source)
  let newIsNull := match readRawBookDiff source with
    | .object diff => match Json.field diff "new" with
      | .null => true
      | _ => false
    | _ => false
  size == some 0 || newIsNull ||
    rawBookDiffStatus.any (· ∈ ["DELETE", "DELETED", "REMOVE", "REMOVED"]) ||
    status.any (· ∈ deletedStatuses)

/-- What an order asks of the cached order under its identifier, if it can be read: to delete
it, or to put another in its place. -/
def readMutation (source : Json.Fields) (sideHint : Option TradeSide)
    (existing : Option DwellirL4OrderState) (receivedAt : String) :
    Option (Option DwellirL4OrderState) :=
  let fallbackSide := sideHint.or (existing.map DwellirL4OrderState.side)
  let side := readDwellirL4Side source fallbackSide
  let price := (readDwellirL4Price js source).or (existing.map DwellirL4OrderState.price)
  let size := readDwellirL4Size js source
  if isDwellirL4Delete source size then some none
  else
    match side, price, size with
    | some side, some price, some size =>
      if size < 0 then none else some (some ⟨side, price, size, receivedAt⟩)
    | _, _, _ => none

end Yevow.Ingest
