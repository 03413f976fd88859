import Mathlib.Algebra.BigOperators.Group.List.Basic
import Mathlib.Algebra.Group.WithOne.Defs
import Yevow.Models.Cascade.CandleAggregator

/-!
# The figures of candles

Where nothing is rounded, the figures of a candle are what those of its ticks add up to, in the
order in which the ticks came. Adding them is associative, so that long candles are the sums of
the short ones of their time.
-/

namespace Yevow.Cascade.Aggregation

/-- What a candle says of the ticks of its interval. -/
@[ext] structure Figures (N : Type) where
  «open» : N
  high : N
  low : N
  close : N
  volume : N
  notionalVolume : N
  buyVolume : N
  sellVolume : N
  trades : ℕ
  deriving DecidableEq

variable {N : Type}

/-- The figures of a candle. -/
def Candle.figures (candle : Candle N) : Figures N :=
  ⟨candle.open, candle.high, candle.low, candle.close, candle.volume, candle.notionalVolume,
    candle.buyVolume, candle.sellVolume, candle.trades⟩

variable [Field N] [LinearOrder N]

/-- Earlier figures merged with later ones. -/
instance : AddSemigroup (Figures N) where
  add earlier later :=
    { «open» := earlier.open
      high := max earlier.high later.high
      low := min earlier.low later.low
      close := later.close
      volume := earlier.volume + later.volume
      notionalVolume := earlier.notionalVolume + later.notionalVolume
      buyVolume := earlier.buyVolume + later.buyVolume
      sellVolume := earlier.sellVolume + later.sellVolume
      trades := earlier.trades + later.trades }
  add_assoc _ _ _ :=
    Figures.ext rfl (max_assoc _ _ _) (min_assoc _ _ _) rfl (add_assoc _ _ _) (add_assoc _ _ _)
      (add_assoc _ _ _) (add_assoc _ _ _) (add_assoc _ _ _)

/-- The figures of a single tick. -/
def MarketTick.figures (tick : MarketTick N) : Figures N where
  «open» := tick.price
  high := tick.price
  low := tick.price
  close := tick.price
  volume := tradeVolume tick
  notionalVolume := tradeVolume tick * tick.price
  buyVolume := if tick.side = .buy then tradeVolume tick else 0
  sellVolume := if tick.side = .sell then tradeVolume tick else 0
  trades := if 0 < tradeVolume tick then 1 else 0

/-- Sums as they are. -/
def unrounded (value : N) (_ : ℕ) : N := value

/-- Merging a tick adds its figures. -/
theorem figures_mergeTickIntoCandle (candle : Candle N) (tick : MarketTick N) :
    (mergeTickIntoCandle unrounded candle tick).figures = candle.figures + tick.figures := rfl

/-- What ticks add up to, in their order. -/
def figuresOf (ticks : List (MarketTick N)) : WithZero (Figures N) :=
  (ticks.map fun tick => (tick.figures : WithZero (Figures N))).sum

/-- Figures add up over consecutive ticks. -/
theorem figuresOf_append (ticks later : List (MarketTick N)) :
    figuresOf (ticks ++ later) = figuresOf ticks + figuresOf later := by
  rw [figuresOf, List.map_append, List.sum_append]
  rfl

theorem figuresOf_singleton (tick : MarketTick N) : figuresOf [tick] = ↑tick.figures :=
  add_zero _

theorem figuresOf_eq_zero_iff {ticks : List (MarketTick N)} : figuresOf ticks = 0 ↔ ticks = [] := by
  cases ticks with
  | nil => exact ⟨fun _ => rfl, fun _ => rfl⟩
  | cons tick ticks =>
    constructor
    · intro h
      rw [figuresOf, List.map_cons, List.sum_cons] at h
      generalize (ticks.map fun tick => (tick.figures : WithZero (Figures N))).sum = rest at h
      cases rest with
      | zero => exact absurd h WithZero.coe_ne_zero
      | coe figures => exact absurd h WithZero.coe_ne_zero
    · exact fun h => nomatch h

/-- A candle that accounts for ticks, each of them once. -/
structure AccountsFor (candle : Candle N) (ticks : List (MarketTick N)) : Prop where
  volume : candle.volume = (ticks.map tradeVolume).sum
  notionalVolume : candle.notionalVolume =
    (ticks.map fun tick => tradeVolume tick * tick.price).sum
  buyVolume : candle.buyVolume =
    (ticks.map fun tick => if tick.side = .buy then tradeVolume tick else 0).sum
  sellVolume : candle.sellVolume =
    (ticks.map fun tick => if tick.side = .sell then tradeVolume tick else 0).sum
  trades : candle.trades = (ticks.filter fun tick => 0 < tradeVolume tick).length
  le_high : ∀ tick ∈ ticks, tick.price ≤ candle.high
  high_mem : ∃ tick ∈ ticks, tick.price = candle.high
  low_le : ∀ tick ∈ ticks, candle.low ≤ tick.price
  low_mem : ∃ tick ∈ ticks, tick.price = candle.low

/-- A candle with the figures of ticks accounts for them. -/
theorem accountsFor_of_figuresOf {ticks : List (MarketTick N)} {candle : Candle N}
    (h : figuresOf ticks = ↑candle.figures) : AccountsFor candle ticks := by
  suffices hall : ∀ figures : Figures N, figuresOf ticks = ↑figures →
      figures.volume = (ticks.map tradeVolume).sum ∧
      figures.notionalVolume = (ticks.map fun tick => tradeVolume tick * tick.price).sum ∧
      figures.buyVolume =
        (ticks.map fun tick => if tick.side = .buy then tradeVolume tick else 0).sum ∧
      figures.sellVolume =
        (ticks.map fun tick => if tick.side = .sell then tradeVolume tick else 0).sum ∧
      figures.trades = (ticks.filter fun tick => 0 < tradeVolume tick).length ∧
      (∀ tick ∈ ticks, tick.price ≤ figures.high) ∧
      (∃ tick ∈ ticks, tick.price = figures.high) ∧
      (∀ tick ∈ ticks, figures.low ≤ tick.price) ∧
      ∃ tick ∈ ticks, tick.price = figures.low by
    obtain ⟨h1, h2, h3, h4, h5, h6, h7, h8, h9⟩ := hall candle.figures h
    exact ⟨h1, h2, h3, h4, h5, h6, h7, h8, h9⟩
  clear h
  induction ticks with
  | nil => exact fun figures h => absurd h.symm WithZero.coe_ne_zero
  | cons tick ticks ih =>
    intro figures hfigures
    rw [figuresOf, List.map_cons, List.sum_cons] at hfigures
    cases hrest : figuresOf ticks with
    | zero =>
      obtain rfl := figuresOf_eq_zero_iff.mp hrest
      obtain rfl := WithZero.coe_injective ((add_zero _).symm.trans hfigures)
      simp only [List.map_cons, List.map_nil, List.sum_cons, List.sum_nil, add_zero,
        List.mem_singleton, forall_eq, exists_eq_left, MarketTick.figures, le_refl, true_and,
        and_true, List.filter_cons, List.filter_nil, decide_eq_true_eq]
      split_ifs
      · rfl
      · rfl
    | coe later =>
      have hlater : (ticks.map fun tick => (tick.figures : WithZero (Figures N))).sum = ↑later :=
        hrest
      rw [hlater, ← WithZero.coe_add] at hfigures
      obtain rfl := WithZero.coe_injective hfigures
      obtain ⟨hvolume, hnotional, hbuy, hsell, htrades, hle, hmem, hge, hmem'⟩ := ih later hrest
      refine ⟨?_, ?_, ?_, ?_, ?_, ?_, ?_, ?_, ?_⟩
      · rw [List.map_cons, List.sum_cons, ← hvolume]
        rfl
      · rw [List.map_cons, List.sum_cons, ← hnotional]
        rfl
      · rw [List.map_cons, List.sum_cons, ← hbuy]
        rfl
      · rw [List.map_cons, List.sum_cons, ← hsell]
        rfl
      · rw [List.filter_cons]
        show tick.figures.trades + later.trades = _
        rw [htrades, MarketTick.figures]
        simp only [decide_eq_true_eq]
        split_ifs
        · rw [List.length_cons, add_comm]
        · rw [zero_add]
      · intro other hother
        show other.price ≤ max tick.price later.high
        rcases List.mem_cons.mp hother with rfl | hother
        · exact le_max_left _ _
        · exact (hle other hother).trans (le_max_right _ _)
      · show ∃ other ∈ tick :: ticks, other.price = max tick.price later.high
        obtain ⟨other, hother, hprice⟩ := hmem
        rcases le_total tick.price later.high with hmax | hmax
        · exact ⟨other, List.mem_cons_of_mem _ hother, hprice.trans (max_eq_right hmax).symm⟩
        · exact ⟨tick, List.mem_cons_self, (max_eq_left hmax).symm⟩
      · intro other hother
        show min tick.price later.low ≤ other.price
        rcases List.mem_cons.mp hother with rfl | hother
        · exact min_le_left _ _
        · exact (min_le_right _ _).trans (hge other hother)
      · show ∃ other ∈ tick :: ticks, other.price = min tick.price later.low
        obtain ⟨other, hother, hprice⟩ := hmem'
        rcases le_total tick.price later.low with hmin | hmin
        · exact ⟨tick, List.mem_cons_self, (min_eq_left hmin).symm⟩
        · exact ⟨other, List.mem_cons_of_mem _ hother, hprice.trans (min_eq_right hmin).symm⟩

/-! ## Sums along a key -/

/-- Ticks whose keys ascend are the ticks of one key after the other. -/
theorem figuresOf_flatMap {κ : Type} [LinearOrder κ] {key : MarketTick N → κ} {keys : List κ}
    (hkeys : keys.Pairwise (· < ·)) {ticks : List (MarketTick N)}
    (hmem : ∀ tick ∈ ticks, key tick ∈ keys)
    (hticks : ticks.Pairwise fun earlier later => key earlier ≤ key later) :
    figuresOf ticks = (keys.map fun k => figuresOf (ticks.filter (key · = k))).sum := by
  induction keys generalizing ticks with
  | nil =>
    obtain rfl : ticks = [] := List.eq_nil_iff_forall_not_mem.mpr fun tick htick =>
      List.not_mem_nil (hmem tick htick)
    rfl
  | cons k keys ih =>
    obtain ⟨hk, hkeys⟩ := List.pairwise_cons.mp hkeys
    have hsplit : ticks.filter (key · = k) ++ ticks.filter (fun tick => !decide (key tick = k)) =
        ticks := by
      apply Sorting.filter_append_filter_not
      apply List.Pairwise.imp_of_mem _ hticks
      intro earlier later hearlier _ hle hlater
      rw [decide_eq_true_eq] at hlater ⊢
      rcases List.mem_cons.mp (hmem earlier hearlier) with heq | hlt
      · exact heq
      · exact absurd (hk _ hlt) (not_lt.mpr (hle.trans hlater.le))
    have hrest := @ih hkeys (ticks.filter fun tick => !decide (key tick = k))
      (fun tick htick => by
        obtain ⟨htick, hne⟩ := List.mem_filter.mp htick
        rcases List.mem_cons.mp (hmem tick htick) with heq | hmem
        · simp only [heq, decide_true, Bool.not_true, Bool.false_eq_true] at hne
        · exact hmem)
      (hticks.filter _)
    rw [List.map_cons, List.sum_cons]
    conv_lhs => rw [← hsplit]
    rw [figuresOf_append, hrest]
    congr 2
    apply List.map_congr_left
    intro k' hk'
    rw [List.filter_filter]
    congr 1
    apply List.filter_congr
    intro tick _
    by_cases heq : key tick = k'
    · simp [heq, (hk k' hk').ne']
    · simp [heq]

end Yevow.Cascade.Aggregation
