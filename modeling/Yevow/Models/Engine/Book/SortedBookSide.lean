import Yevow.Core.Collection.Treap
import Yevow.Models.Engine.ExecutionAccounting

/-!
# One side of an order book

Prices are grouped into ticks; a group keeps the size announced at each raw price and shows
their sum as one level. An index finds a group by its key, and a treap keeps the keys in
order. A node of the tree and the index entry of its key are one object, whose level and raw
sizes are kept in the index.
-/

namespace Yevow.Engine

/-- The side of a book. -/
inductive OrderBookSide
  | bid
  | ask
  deriving DecidableEq, Repr

/-- A level of a book. -/
structure PriceLevel where
  price : ℚ
  size : ℚ
  updatedAt : String
  deriving DecidableEq

/-- A level and the raw prices in it. -/
structure BookNode where
  level : PriceLevel
  /-- The size at each raw price, keyed by the price in units of `0.00000001`. -/
  rawSizes : Rows ℤ ℚ

/-- A side of a book in a treap. -/
structure SortedBookSide where
  side : OrderBookSide
  root : Treap ℤ UInt32
  nodes : Rows ℤ BookNode

variable (ar : EngineArithmetic)

/-- The number of units of `0.00000001` in a price. -/
def priceKey (price : ℚ) : Except String ℤ :=
  if price < 0 then .error "INVALID_ORDER_BOOK_PRICE"
  else .ok (Arithmetic.mathRound (ar.mul price (10 ^ 8)))

/-- The price of a key. -/
def priceFromKey (key : ℤ) : ℚ := ar.roundCrypto (ar.div key (10 ^ 8))

/-- The price grouped to its tick: down for bids, up for asks. -/
def bucketPrice (price tickSize : ℚ) (side : OrderBookSide) : ℚ :=
  if tickSize ≤ 0 then ar.roundCrypto price
  else
    let scaled := ar.div price tickSize
    let ticks : ℤ := match side with
      | .bid => ⌊scaled⌋
      | .ask => ⌈scaled⌉
    ar.roundCrypto (ar.mul ticks tickSize)

/-- The size of the raw prices of a level. -/
def sumRawSizes (rawSizes : Rows ℤ ℚ) : ℚ :=
  ar.roundCrypto (rawSizes.rows.foldl ar.add 0)

/-- The hash of the key's decimal digits; it decides the shape of the tree only. -/
def priorityForKey (key : ℤ) : UInt32 :=
  (toString key).toList.foldl (fun hash c => (hash ^^^ c.val) * 16777619) 2166136261

/-- Append the tree's keys in the order in which the side lists them, up to a limit. -/
def collectTopLevels (side : OrderBookSide) (limit : ℕ) : Treap ℤ UInt32 → List ℤ → List ℤ
  | .leaf, output => output
  | .node left key _ right, output =>
    if limit ≤ output.length then output
    else match side with
    | .bid =>
      let output := collectTopLevels side limit right output
      let output := if output.length < limit then output ++ [key] else output
      collectTopLevels side limit left output
    | .ask =>
      let output := collectTopLevels side limit left output
      let output := if output.length < limit then output ++ [key] else output
      collectTopLevels side limit right output

namespace SortedBookSide

/-- `new SortedBookSide(side)`. -/
def empty (side : OrderBookSide) : SortedBookSide := ⟨side, .leaf, Rows.empty⟩

/-- How many levels a side has. -/
def size (book : SortedBookSide) : ℕ := book.nodes.rows.length

/-- A raw price is taken out of its level. -/
def deleteRawLevel (book : SortedBookSide) (key rawKey : ℤ) : SortedBookSide :=
  match book.nodes.get? key with
  | none => book
  | some existing =>
    let rawSizes := existing.rawSizes.delete rawKey
    if 0 < rawSizes.rows.length then
      { book with
        nodes := book.nodes.set key
          ⟨{ existing.level with size := sumRawSizes ar rawSizes }, rawSizes⟩ }
    else { book with nodes := book.nodes.delete key, root := book.root.delete key }

/-- A raw price is set, or removed with size zero. -/
def upsert (book : SortedBookSide) (price size : ℚ) (updatedAt : String) (tickSize : ℚ) :
    Except String SortedBookSide :=
  if size < 0 then .error "INVALID_ORDER_BOOK_SIZE"
  else do
    let key ← priceKey ar (bucketPrice ar price tickSize book.side)
    let rawKey ← priceKey ar price
    let roundedSize := ar.roundCrypto size
    if size = 0 then return book.deleteRawLevel ar key rawKey
    else match book.nodes.get? key with
    | some existing =>
      let rawSizes := existing.rawSizes.set rawKey roundedSize
      return { book with
        nodes := book.nodes.set key
          ⟨{ existing.level with size := sumRawSizes ar rawSizes, updatedAt := updatedAt },
            rawSizes⟩ }
    | none =>
      return { book with
        nodes := book.nodes.set key
          ⟨⟨priceFromKey ar key, roundedSize, updatedAt⟩, Rows.empty.set rawKey roundedSize⟩
        root := book.root.insert key (priorityForKey key) }

/-- The first levels of the side. -/
def top (book : SortedBookSide) (limit : ℕ) : List PriceLevel :=
  (collectTopLevels book.side limit book.root []).filterMap fun key =>
    (book.nodes.get? key).map BookNode.level

end SortedBookSide

end Yevow.Engine
