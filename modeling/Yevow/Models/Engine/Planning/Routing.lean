import Yevow.Core.Collection.Filling
import Yevow.Models.Engine.Book.Reconstructor
import Yevow.Models.Engine.Planning.Sizing

/-!
# Smart order routing

An order is filled from the best levels of all books of its instrument, at whatever prices they
have, until its size is reached.
-/

namespace Yevow.Engine

/-- A part of an order on one exchange. -/
structure SorRoute where
  marketKey : String
  source_exchange : String
  size : ℚ
  expectedPrice : ℚ
  deriving DecidableEq

/-- The parts of an order. -/
structure SorPlan where
  routes : List SorRoute
  bestSingleExchangePrice : Option ℚ
  aggregatePrice : Option ℚ
  sorSavings : ℚ
  unfilledSize : ℚ
  deriving DecidableEq

/-- A level of a book, as a candidate for a part of an order. -/
structure SorCandidate where
  marketKey : String
  source_exchange : String
  price : ℚ
  size : ℚ
  deriving DecidableEq

/-- The levels that an order of a side trades with. -/
def InternalOrderBook.sideLevels (book : InternalOrderBook) : TradeSide → List PriceLevel
  | .buy => book.asks
  | .sell => book.bids

/-- The sign that orders candidates, the best price first. -/
def comparePrices (action : TradeSide) (left right : SorCandidate) : ℤ :=
  match action with
  | .buy => (left.price - right.price).num
  | .sell => (right.price - left.price).num

/-- The levels of all books, best first. -/
def sorCandidates (intent : ExecutionIntent) (books : List InternalOrderBook) :
    List SorCandidate :=
  Sorting.sortBy (comparePrices intent.action)
    ((books.filter fun book => book.instrumentCode = intent.instrumentCode).flatMap fun book =>
      ((book.sideLevels intent.action).take 20).map fun level =>
        ⟨book.marketKey, book.sourceExchange, level.price, level.size⟩)

/-- The part that a level fills. -/
def SorRoute.ofPart (part : SorCandidate × ℚ) : SorRoute where
  marketKey := part.1.marketKey
  source_exchange := part.1.source_exchange
  size := part.2
  expectedPrice := part.1.price

/-- An order is filled from the best levels. -/
def planSmartOrderRoute (intent : ExecutionIntent) (books : List InternalOrderBook) : SorPlan :=
  let targetSize := intent.size
  let candidates := sorCandidates intent books
  let filled := Filling.fill SorCandidate.size targetSize candidates
  let routes := filled.1.map SorRoute.ofPart
  let notional := (routes.map fun route => route.size * route.expectedPrice).sum
  let aggregatePrice :=
    if routes ≠ [] then some (notional / max (1 / 10 ^ 8) (targetSize - filled.2)) else none
  let bestSingleExchangePrice := candidates.head?.map SorCandidate.price
  { routes
    bestSingleExchangePrice
    aggregatePrice
    sorSavings :=
      match aggregatePrice, bestSingleExchangePrice with
      | some aggregate, some best =>
        match intent.action with
        | .buy => best - aggregate
        | .sell => aggregate - best
      | _, _ => 0
    unfilledSize := filled.2 }

/-! ## The routes -/

variable {intent : ExecutionIntent} {books : List InternalOrderBook}

/-- A book's level that an intent may be routed to. -/
def IsCandidateLevel (intent : ExecutionIntent) (books : List InternalOrderBook)
    (price size : ℚ) : Prop :=
  ∃ book ∈ books, book.instrumentCode = intent.instrumentCode ∧
    ∃ level ∈ (book.sideLevels intent.action).take 20, level.price = price ∧ level.size = size

private theorem mem_sorCandidates {candidate : SorCandidate}
    (h : candidate ∈ sorCandidates intent books) :
    IsCandidateLevel intent books candidate.price candidate.size := by
  obtain ⟨book, hbook, hlevel⟩ :=
    List.mem_flatMap.mp ((Sorting.perm_sortBy _ _).mem_iff.mp h)
  obtain ⟨hbook, hcode⟩ := List.mem_filter.mp hbook
  obtain ⟨level, hmem, rfl⟩ := List.mem_map.mp hlevel
  exact ⟨book, hbook, of_decide_eq_true hcode, level, hmem, rfl, rfl⟩

/-- The better of two prices for a side. -/
def NoWorse (action : TradeSide) (left right : ℚ) : Prop :=
  match action with
  | .buy => left ≤ right
  | .sell => right ≤ left

private theorem respects_comparePrices (action : TradeSide) :
    Sorting.Respects (comparePrices action) fun left right =>
      NoWorse action left.price right.price := by
  cases action
  all_goals
    refine ⟨fun a b h => ?_, fun a b h => ?_, fun a b c hab hbc => ?_⟩
    · simp only [comparePrices, Rat.num_nonpos, sub_nonpos] at h
      exact h
    · simp only [comparePrices, Rat.num_pos, sub_pos] at h
      exact h.le
    · simp only [NoWorse] at hab hbc ⊢
      linarith

private theorem pairwise_sorCandidates : (sorCandidates intent books).Pairwise fun left right =>
    NoWorse intent.action left.price right.price :=
  Sorting.pairwise_sortBy (respects_comparePrices intent.action) _

private theorem mem_routes {route : SorRoute}
    (h : route ∈ (planSmartOrderRoute intent books).routes) :
    ∃ part ∈ (Filling.fill SorCandidate.size intent.size (sorCandidates intent books)).1,
      SorRoute.ofPart part = route :=
  List.mem_map.mp h

/-- The routes' sizes and what is left of the intent's. -/
theorem sum_routes : ((planSmartOrderRoute intent books).routes.map SorRoute.size).sum =
    intent.size - (planSmartOrderRoute intent books).unfilledSize := by
  have hparts : (planSmartOrderRoute intent books).routes.map SorRoute.size =
      (Filling.fill SorCandidate.size intent.size (sorCandidates intent books)).1.map Prod.snd := by
    rw [planSmartOrderRoute, List.map_map]
    rfl
  rw [hparts]
  exact Filling.sum_fill

/-- No more is routed than was asked for. -/
theorem unfilledSize_nonneg (h : 0 ≤ intent.size) :
    0 ≤ (planSmartOrderRoute intent books).unfilledSize :=
  Filling.fill_rest_nonneg h

theorem route_size_pos
    (hlevels : ∀ price size, IsCandidateLevel intent books price size → 0 < size)
    {route : SorRoute} (h : route ∈ (planSmartOrderRoute intent books).routes) :
    0 < route.size := by
  obtain ⟨part, hpart, rfl⟩ := mem_routes h
  refine Filling.pos_of_mem_fill ?_ hpart
  intro candidate hcandidate
  exact hlevels _ _ (mem_sorCandidates hcandidate)

/-- A route's price is that of a level. -/
theorem route_isCandidateLevel {route : SorRoute}
    (h : route ∈ (planSmartOrderRoute intent books).routes) :
    ∃ size, IsCandidateLevel intent books route.expectedPrice size := by
  obtain ⟨part, hpart, rfl⟩ := mem_routes h
  have hcandidate := Filling.fst_fill_isBeginning.subset (List.mem_map_of_mem hpart)
  exact ⟨part.1.size, mem_sorCandidates hcandidate⟩

/-- The best levels come first. -/
theorem pairwise_routes : ((planSmartOrderRoute intent books).routes.map
    SorRoute.expectedPrice).Pairwise (NoWorse intent.action) := by
  have hsorted : ((Filling.fill SorCandidate.size intent.size
      (sorCandidates intent books)).1.map Prod.fst).Pairwise fun left right =>
        NoWorse intent.action left.price right.price :=
    pairwise_sorCandidates.sublist Filling.fst_fill_isBeginning.sublist
  rw [List.pairwise_map] at hsorted
  rw [planSmartOrderRoute, List.map_map, List.pairwise_map]
  exact hsorted

end Yevow.Engine
