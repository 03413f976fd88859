import Yevow.Core.Number.Correlated
import Yevow.Core.Text.Separator
import Yevow.Models.Cascade.HeatManager

/-!
# The heat of a portfolio

Under the default correlations the product of two correlations with one asset never exceeds the
correlation between the two others. The heat of a portfolio, in real numbers, is the sum of two
roots of quadratic forms over its positions.
-/

namespace Yevow.Cascade

open JavaScript (Record)

/-! ## The default correlations -/

section Correlations

variable {K : Type} [Field K] [LinearOrder K] [IsStrictOrderedRing K]

/-- The assets that have correlations, in the order of their texts. -/
def assetIndex : String → Option (Fin 4)
  | "BTC" => some 0
  | "ETH" => some 1
  | "HYPE" => some 2
  | "SOL" => some 3
  | _ => none

/-- The default correlations as a matrix of percentages. -/
def correlationPercent : Fin 4 → Fin 4 → ℕ
  | 0, 1 | 1, 0 => 85
  | 0, 2 | 2, 0 => 65
  | 0, 3 | 3, 0 => 75
  | 1, 2 | 2, 1 => 60
  | 1, 3 | 3, 1 => 80
  | 2, 3 | 3, 2 => 55
  | _, _ => 100

/-- The correlation of two assets under the default correlations. -/
def correlation (left right : String) : K :=
  if left = right then 1
  else match assetIndex left, assetIndex right with
    | some i, some j => correlationPercent i j / 100
    | _, _ => 0

omit [LinearOrder K] [IsStrictOrderedRing K] in
private theorem get?_defaultCascadeCorrelations (left right : String) :
    (defaultCascadeCorrelations : Record K).get? (left ++ ":" ++ right) =
      if left = "HYPE" ∧ right = "SOL" then some (55 / 100)
      else if left = "ETH" ∧ right = "HYPE" then some (60 / 100)
      else if left = "BTC" ∧ right = "HYPE" then some (65 / 100)
      else if left = "ETH" ∧ right = "SOL" then some (80 / 100)
      else if left = "BTC" ∧ right = "SOL" then some (75 / 100)
      else if left = "BTC" ∧ right = "ETH" then some (85 / 100)
      else none := by
  have hkey : ∀ {c d : String}, Text.Free ':' c → Text.Free ':' d →
      (left ++ ":" ++ right = c ++ ":" ++ d ↔ left = c ∧ right = d) :=
    fun hc hd => Text.append_sep_eq_iff (by decide) hc hd
  have h₁ := hkey (c := "HYPE") (d := "SOL") (by decide) (by decide)
  have h₂ := hkey (c := "ETH") (d := "HYPE") (by decide) (by decide)
  have h₃ := hkey (c := "BTC") (d := "HYPE") (by decide) (by decide)
  have h₄ := hkey (c := "ETH") (d := "SOL") (by decide) (by decide)
  have h₅ := hkey (c := "BTC") (d := "SOL") (by decide) (by decide)
  have h₆ := hkey (c := "BTC") (d := "ETH") (by decide) (by decide)
  simp only [defaultCascadeCorrelations, JavaScript.Record.fromEntries, List.foldl_cons,
    List.foldl_nil, Rows.get?_set, Rows.get?_empty]
  simp only [← h₁, ← h₂, ← h₃, ← h₄, ← h₅, ← h₆]
  rfl

private theorem assetIndex_eq_some {asset : String} {i : Fin 4} (h : assetIndex asset = some i) :
    asset = "BTC" ∧ i = 0 ∨ asset = "ETH" ∧ i = 1 ∨ asset = "HYPE" ∧ i = 2 ∨
      asset = "SOL" ∧ i = 3 := by
  unfold assetIndex at h
  split at h
  all_goals cases h
  all_goals decide

private theorem ne_of_assetIndex_eq_none {asset : String} (h : assetIndex asset = none) :
    asset ≠ "BTC" ∧ asset ≠ "ETH" ∧ asset ≠ "HYPE" ∧ asset ≠ "SOL" := by
  refine ⟨?_, ?_, ?_, ?_⟩
  all_goals rintro rfl
  all_goals cases h

omit [LinearOrder K] [IsStrictOrderedRing K] in
private theorem correlation_comm (left right : String) :
    (correlation left right : K) = correlation right left := by
  have hmatrix : ∀ i j, correlationPercent i j = correlationPercent j i := by decide
  unfold correlation
  by_cases h : left = right
  · rw [if_pos h, if_pos h.symm]
  · rw [if_neg h, if_neg (Ne.symm h)]
    cases hleft : assetIndex left with
    | none => cases assetIndex right <;> rfl
    | some i =>
      cases hright : assetIndex right with
      | none => rfl
      | some j => simp only [hmatrix i j]

omit [LinearOrder K] [IsStrictOrderedRing K] in
@[simp] theorem correlation_self (asset : String) : (correlation asset asset : K) = 1 := if_pos rfl

/-- No two assets are negatively correlated. -/
theorem correlation_nonneg (left right : String) : (0 : K) ≤ correlation left right := by
  unfold correlation
  split_ifs with h
  · exact zero_le_one
  · split
    · positivity
    · exact le_rfl

private theorem correlation_le_one (left right : String) : (correlation left right : K) ≤ 1 := by
  have hmatrix : ∀ i j, correlationPercent i j ≤ 100 := by decide
  unfold correlation
  split_ifs with h
  · exact le_rfl
  · split
    · rw [div_le_one₀ (by norm_num)]
      exact_mod_cast hmatrix _ _
    · exact zero_le_one

/-- The correlations of an asset with two others do not multiply to more than the correlation
between these. -/
theorem correlation_mul_le (middle left right : String) :
    (correlation middle left : K) * correlation middle right ≤ correlation left right := by
  have hmatrix : ∀ i j k, correlationPercent i j * correlationPercent i k ≤
      100 * correlationPercent j k := by decide
  by_cases hlr : left = right
  · rw [hlr, correlation_self]
    exact mul_le_one₀ (correlation_le_one _ _) (correlation_nonneg _ _) (correlation_le_one _ _)
  by_cases hml : middle = left
  · rw [hml, correlation_self, one_mul]
  by_cases hmr : middle = right
  · rw [hmr, correlation_self, mul_one, correlation_comm]
  have hright := correlation_nonneg (K := K) left right
  unfold correlation at hright ⊢
  rw [if_neg hlr] at hright
  rw [if_neg hml, if_neg hmr, if_neg hlr]
  cases hm : assetIndex middle with
  | none => simpa using hright
  | some i =>
    cases hl : assetIndex left with
    | none => simp
    | some j =>
      cases hr : assetIndex right with
      | none => simp
      | some k =>
        have hcast : (correlationPercent i j : K) * correlationPercent i k ≤
            100 * correlationPercent j k := by exact_mod_cast hmatrix i j k
        dsimp only
        linarith

private theorem lookup_of_lt {left right : String} (h : left < right) :
    max 0 (((defaultCascadeCorrelations : Record K).get? (left ++ ":" ++ right)).getD 0) =
      correlation left right := by
  rw [get?_defaultCascadeCorrelations, correlation, if_neg h.ne]
  cases hleft : assetIndex left with
  | none =>
    obtain ⟨hbtc, heth, hhype, hsol⟩ := ne_of_assetIndex_eq_none hleft
    simp [hbtc, heth, hhype]
  | some i =>
    cases hright : assetIndex right with
    | none =>
      obtain ⟨hbtc, heth, hhype, hsol⟩ := ne_of_assetIndex_eq_none hright
      simp [heth, hhype, hsol]
    | some j =>
      rcases assetIndex_eq_some hleft with ⟨rfl, rfl⟩ | ⟨rfl, rfl⟩ | ⟨rfl, rfl⟩ | ⟨rfl, rfl⟩ <;>
        rcases assetIndex_eq_some hright with ⟨rfl, rfl⟩ | ⟨rfl, rfl⟩ | ⟨rfl, rfl⟩ | ⟨rfl, rfl⟩
      -- the keys hold each pair of assets in one order only
      all_goals first
        | exact absurd h (by decide)
        | simp +decide only [if_true, if_false, Option.getD_some, correlationPercent]
          norm_num

/-- The correlation that the code looks up. -/
theorem correlationFor_default (left right : String) :
    max 0 (correlationFor (defaultCascadeCorrelations : Record K) left right) =
      correlation (baseAsset left) (baseAsset right) := by
  unfold correlationFor
  dsimp only
  split_ifs with heq hlt
  · rw [heq, correlation_self]
    exact max_eq_right zero_le_one
  · rw [lookup_of_lt hlt, correlation_comm]
  · exact lookup_of_lt (lt_of_le_of_ne (not_lt.mp hlt) heq)

end Correlations

/-! ## The heat of a list of positions -/

/-- A position in real numbers. -/
abbrev RealPosition := CascadeOpenPosition ℝ ℝ

/-- The heat of a position in a direction. -/
noncomputable def heatOf (direction : CascadeRecoveryDirection) (position : RealPosition) : ℝ :=
  ((heatContribution direction position).map HeatContribution.heat).getD 0

/-- The heat of a position in one direction, written out. -/
theorem heatOf_eq (direction : CascadeRecoveryDirection) (position : RealPosition) :
    heatOf direction position =
      if isActivePosition position ∧ 0 < position.totalSize ∧ 0 < position.remainingSize ∧
          position.direction = direction then
        max 0 (position.remainingSize / position.totalSize * position.initialRiskPct)
      else 0 := by
  unfold heatOf heatContribution
  by_cases hcounted : isActivePosition position ∧ 0 < position.totalSize ∧
      0 < position.remainingSize
  · obtain ⟨hactive, htotal, hremaining⟩ := hcounted
    simp only [hactive, htotal, hremaining, not_le.mpr htotal, not_le.mpr hremaining, true_and,
      Bool.not_true, decide_false, Bool.or_self, Bool.false_eq_true, if_false, ne_eq]
    by_cases hdirection : position.direction = direction
    · rw [if_pos hdirection]
      by_cases hzero : max 0 (position.remainingSize / position.totalSize *
          position.initialRiskPct) ≤ 0
      · rw [if_pos (Or.inl hzero)]
        exact (le_antisymm hzero (le_max_left 0 _)).symm
      · rw [if_neg (by tauto)]
        rfl
    · rw [if_neg hdirection, if_pos (Or.inr hdirection)]
      rfl
  · have hskipped : (!isActivePosition position || decide (position.totalSize ≤ 0) ||
        decide (position.remainingSize ≤ 0)) = true := by
      rw [Bool.or_eq_true, Bool.or_eq_true, Bool.not_eq_true', decide_eq_true_eq,
        decide_eq_true_eq, ← not_lt, ← not_lt]
      by_contra hall
      simp only [not_or, not_not, Bool.not_eq_false] at hall
      exact hcounted ⟨hall.1.1, hall.1.2, hall.2⟩
    rw [if_pos hskipped, if_neg fun h => hcounted ⟨h.1, h.2.1, h.2.2.1⟩]
    rfl

/-- No position has negative heat. -/
theorem heatOf_nonneg (direction : CascadeRecoveryDirection) (position : RealPosition) :
    0 ≤ heatOf direction position := by
  rw [heatOf_eq]
  split_ifs
  · exact le_max_left 0 _
  · exact le_rfl

/-- The correlation of the assets of two positions. -/
noncomputable def positionCorrelation (left right : RealPosition) : ℝ :=
  correlation (baseAsset left.instrumentCode) (baseAsset right.instrumentCode)

/-- The variance of the heats of a direction. -/
noncomputable def directionVariance (direction : CascadeRecoveryDirection)
    (positions : List RealPosition) : ℝ :=
  Correlated.variance positionCorrelation (heatOf direction) positions

private theorem positionCorrelation_comm (left right : RealPosition) :
    positionCorrelation left right = positionCorrelation right left :=
  correlation_comm _ _

theorem positionCorrelation_nonneg (left right : RealPosition) :
    0 ≤ positionCorrelation left right :=
  correlation_nonneg _ _

/-- A further position adds at most its own heat. -/
theorem sqrt_directionVariance_cons_le (direction : CascadeRecoveryDirection)
    (position : RealPosition) (positions : List RealPosition) :
    √(directionVariance direction (position :: positions)) ≤
      heatOf direction position + √(directionVariance direction positions) :=
  Correlated.sqrt_variance_cons_le positionCorrelation_comm (fun _ => correlation_self _)
    positionCorrelation_nonneg (fun _ _ _ => correlation_mul_le _ _ _) (heatOf_nonneg direction)
    position positions

private theorem instrumentCode_contribution {direction : CascadeRecoveryDirection}
    {position : RealPosition} {contribution : HeatContribution ℝ}
    (h : heatContribution direction position = some contribution) :
    contribution.instrumentCode = position.instrumentCode := by
  unfold heatContribution at h
  dsimp only at h
  split_ifs at h
  exact (congrArg HeatContribution.instrumentCode (Option.some.inj h)).symm

/-- Positions without heat do not count. -/
private theorem heatVariance_filterMap (direction : CascadeRecoveryDirection)
    (positions : List RealPosition) :
    heatVariance defaultCascadeCorrelations (positions.filterMap (heatContribution direction)) =
      directionVariance direction positions := by
  induction positions with
  | nil => rfl
  | cons position positions ih =>
    rw [directionVariance, Correlated.variance_cons positionCorrelation_comm, ← directionVariance,
      ← ih, List.filterMap_cons]
    cases hcontribution : heatContribution direction position with
    | none =>
      have hheat : heatOf direction position = 0 := by rw [heatOf, hcontribution]; rfl
      simp only [hheat, mul_zero, zero_mul, zero_add]
    | some contribution =>
      have hheat : heatOf direction position = contribution.heat := by
        rw [heatOf, hcontribution]
        rfl
      have hrow : ((positions.filterMap (heatContribution direction)).map fun inner =>
          2 * max 0 (correlationFor defaultCascadeCorrelations contribution.instrumentCode
            inner.instrumentCode) * contribution.heat * inner.heat).sum =
          2 * contribution.heat *
            (positions.map fun other =>
              positionCorrelation position other * heatOf direction other).sum := by
        rw [instrumentCode_contribution hcontribution]
        clear ih hcontribution hheat
        induction positions with
        | nil => simp
        | cons other positions ih =>
          rw [List.filterMap_cons, List.map_cons, List.sum_cons, mul_add, ← ih]
          cases hother : heatContribution direction other with
          | none =>
            have hzero : heatOf direction other = 0 := by rw [heatOf, hother]; rfl
            rw [hzero, mul_zero, mul_zero, zero_add]
          | some inner =>
            have hinner : heatOf direction other = inner.heat := by rw [heatOf, hother]; rfl
            rw [List.map_cons, List.sum_cons, correlationFor_default,
              instrumentCode_contribution hother, hinner, positionCorrelation]
            ring
      have hself : positionCorrelation position position = 1 := correlation_self _
      show contribution.heat * contribution.heat + _ + _ = _
      rw [hrow, hself, hheat, one_mul]

/-- The heat manager of a backtest. -/
noncomputable def backtestHeatManager (heatCapPct : ℝ) : HeatManager ℝ :=
  ⟨heatCapPct, defaultCascadeCorrelations⟩

/-- The heat of the positions of a manager. -/
noncomputable def portfolioHeat (heatCapPct : ℝ) (manager : PositionManager ℝ ℝ) : ℝ :=
  (backtestHeatManager heatCapPct).currentHeat CascadeArithmetic.real Real.sqrt
    (manager.positions.entries.map Prod.snd)

/-- The heat of a portfolio is that of its two directions. -/
theorem portfolioHeat_eq (heatCapPct : ℝ) (manager : PositionManager ℝ ℝ) :
    portfolioHeat heatCapPct manager =
      √(directionVariance .long (manager.positions.entries.map Prod.snd)) +
        √(directionVariance .short (manager.positions.entries.map Prod.snd)) := by
  have hmax : ∀ direction positions,
      max 0 (directionVariance direction positions) = directionVariance direction positions :=
    fun direction _ =>
      max_eq_right (Correlated.variance_nonneg positionCorrelation_nonneg (heatOf_nonneg direction))
  simp only [portfolioHeat, HeatManager.currentHeat, backtestHeatManager, correlatedHeat,
    heatVariance_filterMap, hmax, CascadeArithmetic.real, id_eq]

end Yevow.Cascade
