import Mathlib.Data.Int.Log
import Yevow.Core.JavaScript.Reference
import Yevow.Core.Number.Decimal
import Yevow.Core.Number.DecimalText
import Yevow.Models.Execution.Intent

/-!
# Prices and sizes on the wire

A price goes out with at most five significant digits, rounded down for a purchase and up for a
sale, and a size with the decimals of its asset. Zeros are dropped at the end of a text with a
point. From `10 ^ 21` on a text ends with an exponent, whose zeros are dropped as well.
-/

namespace Yevow.Execution

open JavaScript (Runtime)

/-- An asset of the exchange. -/
structure HyperliquidAssetMeta where
  coin : String
  assetIndex : ℕ
  szDecimals : ℕ

/-- `Number.EPSILON`, and `Math.log10` of a positive number. -/
structure WireMath where
  epsilon : Number
  log10 : ℚ → ℚ

/-- Price and size as they are written. -/
structure HyperliquidOrderWire where
  price : String
  size : String
  priceRounded : Bool
  sizeRounded : Bool
  deriving DecidableEq

section Model

variable (js : Runtime) (math : WireMath)

/-- The decimals that a price may have. -/
def hyperliquidPriceDecimals (value : Number) (szDecimals : ℕ) : ℕ :=
  match value with
  | .finite a =>
    -- zero is an integer as well
    if a.den = 1 then 0 else min (6 - szDecimals) (5 - ⌊math.log10 |a|⌋ - 1).toNat
  | .infinite _ => 0
  | .nan => 0

/-- Rounding down, past an epsilon. -/
def floorToDecimalPlaces (value : Number) (precision : ℕ) : Number :=
  let round := js.arithmetic.fraction
  let scale := Number.finite (10 ^ precision)
  ((value.add round math.epsilon).mul round scale).floor.div round scale

/-- Rounding up, past an epsilon. -/
def ceilToDecimalPlaces (value : Number) (precision : ℕ) : Number :=
  let round := js.arithmetic.fraction
  let scale := Number.finite (10 ^ precision)
  ((value.sub round math.epsilon).mul round scale).ceil.div round scale

/-- `value.toFixed(digits)` of a number that is not negative. A number from `10 ^ 21` on, of which
all digits are written, is taken to have that many decimals at most. -/
def unsignedToFixed (digits : ℕ) (a : ℚ) : List Char :=
  if 10 ^ 21 ≤ a then DecimalText.exponential digits ⌊a * 10 ^ digits⌋₊
  else DecimalText.plain digits (Decimal.nearestAway (a * 10 ^ digits)).toNat

/-- `value.toFixed(digits)`. -/
def toFixedText (digits : ℕ) : Number → List Char
  | .finite a => if a < 0 then '-' :: unsignedToFixed digits (-a) else unsignedToFixed digits a
  | .infinite negative => if negative then "-Infinity".toList else "Infinity".toList
  | .nan => "NaN".toList

/-- A number without trailing zeros. -/
def hyperliquidWireNumber (value : Number) (precision : ℕ) : String :=
  let fixed := toFixedText (min 12 precision) value
  let compact := if '.' ∈ fixed then DecimalText.withoutTrailingZeros fixed else fixed
  if compact = "-0".toList ∨ compact = [] then "0" else String.ofList compact

/-- Price and size of an order on the wire. -/
def hyperliquidOrderWire (price size : Number) (side : Action) (asset : HyperliquidAssetMeta) :
    Except String HyperliquidOrderWire :=
  let round := js.arithmetic.fraction
  let priceDecimals := hyperliquidPriceDecimals math price asset.szDecimals
  let snappedPrice := match side with
    | .buy => floorToDecimalPlaces js math price priceDecimals
    | .sell => ceilToDecimalPlaces js math price priceDecimals
  let snappedSize := floorToDecimalPlaces js math size asset.szDecimals
  let isRounded (snapped value : Number) : Bool :=
    (Number.finite (round (1 / 10 ^ 12))).le (snapped.sub round value).abs
  if snappedPrice.le (.finite 0) then .error "HYPERLIQUID_PRICE_ROUNDED_TO_ZERO"
  else if snappedSize.le (.finite 0) then .error "HYPERLIQUID_SIZE_ROUNDED_TO_ZERO"
  else .ok
    { price := hyperliquidWireNumber snappedPrice priceDecimals
      size := hyperliquidWireNumber snappedSize asset.szDecimals
      priceRounded := isRounded snappedPrice price
      sizeRounded := isRounded snappedSize size }

end Model

/-! ## What a text denotes -/

section Text

open DecimalText

/-- A number whose exponent ends with zeros that are dropped: it has more than one digit and an
exponent that is a multiple of ten. -/
def CutShort (a : ℚ) : Prop :=
  10 ^ 21 ≤ a ∧ 10 ∣ Int.log 10 a ∧ ∀ digit : ℕ, a ≠ digit * 10 ^ Int.log 10 a

variable {digits n : ℕ}

private theorem log_div_pow (hn : 0 < n) (hdigits : digits < (Nat.toDigits 10 n).length) :
    Int.log 10 ((n : ℚ) / 10 ^ digits) = ((Nat.toDigits 10 n).length - 1 - digits : ℕ) := by
  have hlow : (10 : ℚ) ^ ((Nat.toDigits 10 n).length - 1) ≤ n := by
    exact_mod_cast pow_length_toDigits_le hn
  have hhigh : (n : ℚ) < 10 ^ (Nat.toDigits 10 n).length := by
    exact_mod_cast lt_pow_length_toDigits n
  have hpos : (0 : ℚ) < n / 10 ^ digits := by positivity
  generalize (Nat.toDigits 10 n).length = count at *
  apply le_antisymm
  · have hlt : (n : ℚ) / 10 ^ digits < ((10 : ℕ) : ℚ) ^ (((count - 1 - digits : ℕ) : ℤ) + 1) := by
      rw [div_lt_iff₀ (by positivity), Nat.cast_ofNat, ← Nat.cast_add_one, zpow_natCast, ← pow_add]
      have hcount : count - 1 - digits + 1 + digits = count := by omega
      rw [hcount]
      exact hhigh
    have hlog := (Int.lt_zpow_iff_log_lt (by decide) hpos).mp hlt
    omega
  · apply (Int.zpow_le_iff_le_log (by decide) hpos).mp
    rw [le_div_iff₀ (by positivity), Nat.cast_ofNat, zpow_natCast, ← pow_add]
    have hcount : count - 1 - digits + digits = count - 1 := by omega
    rw [hcount]
    exact hlow

private theorem lt_length_of_large (hlarge : 10 ^ 21 ≤ (n : ℚ) / 10 ^ digits) :
    digits + 1 < (Nat.toDigits 10 n).length := by
  have hle : (10 : ℚ) ^ (21 + digits) ≤ n := by
    rw [pow_add]
    exact (le_div_iff₀ (by positivity)).mp hlarge
  have hlt : 10 ^ (21 + digits) < 10 ^ (Nat.toDigits 10 n).length :=
    lt_of_le_of_lt (by exact_mod_cast hle) (lt_pow_length_toDigits n)
  have hexponent := (Nat.pow_lt_pow_iff_right (by decide)).mp hlt
  omega

private theorem cutShort_iff (hn : 0 < n) (hlarge : 10 ^ 21 ≤ (n : ℚ) / 10 ^ digits) :
    CutShort (n / 10 ^ digits) ↔
      10 ∣ (Nat.toDigits 10 n).length - 1 - digits ∧ '.' ∈ exponential digits n := by
  have hlength := lt_length_of_large hlarge
  have hscale : (10 : ℚ) ^ ((Nat.toDigits 10 n).length - 1 - digits) * 10 ^ digits =
      10 ^ ((Nat.toDigits 10 n).length - 1) := by
    rw [← pow_add]
    congr 1
    omega
  have hdigit (digit : ℕ) :
      (n : ℚ) / 10 ^ digits = digit * 10 ^ ((Nat.toDigits 10 n).length - 1 - digits) ↔
        n = digit * 10 ^ ((Nat.toDigits 10 n).length - 1) := by
    rw [div_eq_iff (by positivity), mul_assoc, hscale]
    exact_mod_cast Iff.rfl
  have hmany : '.' ∈ exponential digits n ↔
      ∀ digit, n ≠ digit * 10 ^ ((Nat.toDigits 10 n).length - 1) := by
    rw [point_mem_exponential_iff, ← not_le, length_significant_le_one_iff hn, not_exists]
  have hten : (10 : ℤ) ∣ ((Nat.toDigits 10 n).length - 1 - digits : ℕ) ↔
      10 ∣ (Nat.toDigits 10 n).length - 1 - digits := by
    exact_mod_cast Iff.rfl
  simp only [CutShort, log_div_pow hn (Nat.lt_of_succ_lt hlength), zpow_natCast, hten, hmany, ne_eq,
    hdigit, hlarge, true_and]

/-- Nothing of a fixed text but zeros behind its point is dropped below `10 ^ 21`, and above it
nothing unless it is cut short. -/
theorem value_compact_iff (hn : 0 < n) :
    let fixed := unsignedToFixed digits (n / 10 ^ digits)
    let compact := if '.' ∈ fixed then withoutTrailingZeros fixed else fixed
    (value compact).isSome ∧
      (value compact = some ((n : ℚ) / 10 ^ digits) ↔ ¬ CutShort (n / 10 ^ digits)) := by
  have hscale : (n : ℚ) / 10 ^ digits * 10 ^ digits = n := by field_simp
  intro fixed compact
  by_cases hlarge : 10 ^ 21 ≤ (n : ℚ) / 10 ^ digits
  · have hlength := lt_length_of_large hlarge
    have hfixed : fixed = exponential digits n := by
      rw [show fixed = unsignedToFixed digits (n / 10 ^ digits) from rfl, unsignedToFixed,
        if_pos hlarge, hscale, Nat.floor_natCast]
    have hcompact : compact = if '.' ∈ exponential digits n then
        withoutTrailingZeros (exponential digits n) else exponential digits n := by
      rw [← hfixed]
    rw [hcompact, cutShort_iff hn hlarge]
    split_ifs with hpoint
    · refine ⟨isSome_value_withoutTrailingZeros_exponential hn hlength, ?_⟩
      rw [value_withoutTrailingZeros_exponential_iff hn hlength]
      simp only [hpoint, and_true]
    · rw [value_exponential hn (Nat.lt_of_succ_lt hlength)]
      simp only [hpoint, and_false, not_false_eq_true, Option.isSome_some, and_self]
  · have hfixed : fixed = plain digits n := by
      have hround := Decimal.nearestAway_intCast n
      rw [Int.cast_natCast] at hround
      rw [show fixed = unsignedToFixed digits (n / 10 ^ digits) from rfl, unsignedToFixed,
        if_neg hlarge, hscale, hround, Int.toNat_natCast]
    have hwhole : ¬ CutShort ((n : ℚ) / 10 ^ digits) := fun hcut => hlarge hcut.1
    have hvalue : value compact = some ((n : ℚ) / 10 ^ digits) := by
      have hcompact : compact = if '.' ∈ plain digits n then
          withoutTrailingZeros (plain digits n) else plain digits n := by
        rw [← hfixed]
      rw [hcompact]
      rcases Nat.eq_zero_or_pos digits with rfl | hdigits
      · have hpoint : '.' ∉ plain 0 n := (digits_toDigits n).notMem (by decide)
        rw [if_neg hpoint, value_plain_zero, pow_zero, div_one]
      · have hpoint : '.' ∈ plain digits n := by
          rw [plain, if_neg hdigits.ne']
          exact List.mem_append_right _ List.mem_cons_self
        rw [if_pos hpoint, value_withoutTrailingZeros_plain hdigits]
    rw [hvalue]
    exact ⟨rfl, iff_of_true rfl hwhole⟩

private theorem value_hyperliquidWireNumber_iff (hn : 0 < n) (hdigits : digits ≤ 12) :
    value (hyperliquidWireNumber (.finite (n / 10 ^ digits)) digits).toList =
        some ((n : ℚ) / 10 ^ digits) ↔ ¬ CutShort (n / 10 ^ digits) := by
  obtain ⟨hsome, hiff⟩ := @value_compact_iff digits n hn
  have hsign : ¬ (n : ℚ) / 10 ^ digits < 0 := not_lt.mpr (by positivity)
  have htext : toFixedText (min 12 digits) (.finite (n / 10 ^ digits)) =
      unsignedToFixed digits (n / 10 ^ digits) := by
    rw [Nat.min_eq_right hdigits, toFixedText, if_neg hsign]
  rw [← hiff, hyperliquidWireNumber, htext]
  generalize unsignedToFixed digits (n / 10 ^ digits) = fixed at *
  generalize (if '.' ∈ fixed then withoutTrailingZeros fixed else fixed) = compact at *
  have hkept : ¬ (compact = "-0".toList ∨ compact = []) := by
    rintro (rfl | rfl)
    · exact absurd hsome (by decide)
    · exact absurd hsome (by decide)
  rw [if_neg hkept, String.toList_ofList]

end Text

/-! ## Snapped numbers -/

section Snapping

/-- The whole units on the side of an order: those below for a purchase, those above for a sale. -/
def wholeUnits : Action → ℚ → ℤ
  | .buy, a => ⌊a⌋
  | .sell, a => ⌈a⌉

/-- An exact logarithm, and an epsilon that is taken as zero. -/
structure ExactMath (math : WireMath) : Prop where
  epsilon_eq : math.epsilon = .finite 0
  floor_log10 : ∀ a, 0 < a → ⌊math.log10 a⌋ = Int.log 10 a

variable {js : Runtime} {math : WireMath} {price size : ℚ} {szDecimals precision : ℕ}
  {side : Action}

private theorem abs_wholeUnits_sub_lt (side : Action) (a : ℚ) :
    |(wholeUnits side a : ℚ) - a| < 1 := by
  cases side with
  | buy =>
    have hle := Int.floor_le a
    have hlt := Int.lt_floor_add_one a
    rw [wholeUnits, abs_lt]
    constructor <;> linarith
  | sell =>
    have hle := Int.le_ceil a
    have hlt := Int.ceil_lt_add_one a
    rw [wholeUnits, abs_lt]
    constructor <;> linarith

private theorem wholeUnits_nonneg {a : ℚ} (ha : 0 ≤ a) : 0 ≤ wholeUnits side a := by
  cases side with
  | buy => exact Int.floor_nonneg.mpr ha
  | sell => exact Int.ceil_nonneg ha

/-- A bound by a whole number stays one. -/
theorem wholeUnits_le {a : ℚ} {bound : ℕ} (ha : a ≤ bound) : wholeUnits side a ≤ bound := by
  cases side with
  | buy =>
    have hle : (⌊a⌋ : ℚ) ≤ bound := (Int.floor_le a).trans ha
    exact_mod_cast hle
  | sell => exact Int.ceil_le.mpr (by exact_mod_cast ha)

private theorem wholeUnits_pos_iff {a : ℚ} (ha : 0 < a) :
    0 < wholeUnits side a ↔ (side = .buy → 1 ≤ a) := by
  cases side with
  | buy => simp only [wholeUnits, Int.floor_pos, forall_const]
  | sell => simp only [wholeUnits, Int.ceil_pos, ha, reduceCtorEq, false_imp_iff]

private theorem floorToDecimalPlaces_exact (hmath : ExactMath math) (a : ℚ) :
    floorToDecimalPlaces (js.withArithmetic .exact) math (.finite a) precision =
      .finite (wholeUnits .buy (a * 10 ^ precision) / 10 ^ precision) := by
  have hscale : (10 : ℚ) ^ precision ≠ 0 := by positivity
  rw [floorToDecimalPlaces, hmath.epsilon_eq]
  simp only [Number.add, Number.mul, Number.floor, Number.div, if_neg hscale, wholeUnits,
    Runtime.withArithmetic, Arithmetic.exact, add_zero]

private theorem ceilToDecimalPlaces_exact (hmath : ExactMath math) (a : ℚ) :
    ceilToDecimalPlaces (js.withArithmetic .exact) math (.finite a) precision =
      .finite (wholeUnits .sell (a * 10 ^ precision) / 10 ^ precision) := by
  have hscale : (10 : ℚ) ^ precision ≠ 0 := by positivity
  rw [ceilToDecimalPlaces, hmath.epsilon_eq]
  simp only [Number.sub, Number.neg, Number.add, Number.mul, Number.ceil, Number.div,
    if_neg hscale, wholeUnits, Runtime.withArithmetic, Arithmetic.exact, neg_zero, add_zero]

/-! ### The decimals of a price -/

private theorem hyperliquidPriceDecimals_exact (hmath : ExactMath math) (hprice : 0 < price) :
    hyperliquidPriceDecimals math (.finite price) szDecimals =
      if price.den = 1 then 0
      else min (6 - szDecimals) (5 - Int.log 10 price - 1).toNat := by
  rw [hyperliquidPriceDecimals, abs_of_pos hprice, hmath.floor_log10 price hprice]

private theorem hyperliquidPriceDecimals_le (math : WireMath) (value : Number) (szDecimals : ℕ) :
    hyperliquidPriceDecimals math value szDecimals ≤ 6 - szDecimals := by
  unfold hyperliquidPriceDecimals
  split
  · split_ifs
    · exact Nat.zero_le _
    · exact min_le_left _ _
  · exact Nat.zero_le _
  · exact Nat.zero_le _

/-- A price with decimals has five digits in front of them and behind the point. -/
theorem mul_pow_lt (hmath : ExactMath math) (hprice : 0 < price)
    (hdecimals : 0 < hyperliquidPriceDecimals math (.finite price) szDecimals) :
    price * 10 ^ hyperliquidPriceDecimals math (.finite price) szDecimals < 10 ^ 5 := by
  rw [hyperliquidPriceDecimals_exact hmath hprice] at hdecimals ⊢
  split_ifs at hdecimals ⊢
  · exact absurd hdecimals (lt_irrefl 0)
  · have hlog := Int.lt_zpow_succ_log_self (by decide : 1 < 10) price
    have hle : ((min (6 - szDecimals) (5 - Int.log 10 price - 1).toNat : ℕ) : ℤ) ≤
        5 - Int.log 10 price - 1 := by omega
    generalize min (6 - szDecimals) (5 - Int.log 10 price - 1).toNat = decimals at *
    calc price * 10 ^ decimals
        < 10 ^ (Int.log 10 price + 1) * 10 ^ (decimals : ℤ) := by
          rw [zpow_natCast]
          exact mul_lt_mul_of_pos_right (by exact_mod_cast hlog) (by positivity)
      _ = 10 ^ (Int.log 10 price + 1 + decimals) := (zpow_add₀ (by norm_num) _ _).symm
      _ ≤ 10 ^ (5 : ℤ) := zpow_le_zpow_right₀ (by norm_num) (by omega)
      _ = 10 ^ 5 := by norm_num

/-- A price with fewer decimals than are allowed has a digit that is not dropped. -/
theorem one_le_mul_pow (hmath : ExactMath math) (hprice : 0 < price)
    (hdecimals : hyperliquidPriceDecimals math (.finite price) szDecimals < 6 - szDecimals) :
    1 ≤ price * 10 ^ hyperliquidPriceDecimals math (.finite price) szDecimals := by
  rw [hyperliquidPriceDecimals_exact hmath hprice] at hdecimals ⊢
  split_ifs at hdecimals ⊢ with hwhole
  · have hnum : price = price.num := ((Rat.den_eq_one_iff price).mp hwhole).symm
    have hpos : 0 < price.num := Rat.num_pos.mpr hprice
    rw [pow_zero, mul_one, hnum]
    exact_mod_cast hpos
  · have hlog := Int.zpow_log_le_self (by decide : 1 < 10) hprice
    have hle : 0 ≤ Int.log 10 price +
        ((min (6 - szDecimals) (5 - Int.log 10 price - 1).toNat : ℕ) : ℤ) := by omega
    generalize min (6 - szDecimals) (5 - Int.log 10 price - 1).toNat = decimals at *
    calc (1 : ℚ) ≤ 10 ^ (Int.log 10 price + decimals) := one_le_zpow₀ (by norm_num) hle
      _ = 10 ^ Int.log 10 price * 10 ^ decimals := by
          rw [zpow_add₀ (by norm_num), zpow_natCast]
      _ ≤ price * 10 ^ decimals :=
          mul_le_mul_of_nonneg_right (by exact_mod_cast hlog) (by positivity)

private theorem one_le_mul_pow_iff (hmath : ExactMath math) (hprice : 0 < price) :
    1 ≤ price * 10 ^ hyperliquidPriceDecimals math (.finite price) szDecimals ↔
      1 ≤ price * 10 ^ (6 - szDecimals) := by
  have hle := hyperliquidPriceDecimals_le math (.finite price) szDecimals
  rcases hle.lt_or_eq with hlt | heq
  · have hone := one_le_mul_pow hmath hprice hlt
    have hpow : (10 : ℚ) ^ hyperliquidPriceDecimals math (.finite price) szDecimals ≤
        10 ^ (6 - szDecimals) := pow_le_pow_right₀ (by norm_num) hle
    exact iff_of_true hone (hone.trans (mul_le_mul_of_nonneg_left hpow hprice.le))
  · rw [heq]

/-- What is cut short are whole numbers. -/
theorem cutShort_snapped_iff (hmath : ExactMath math) (hprice : 0 < price) :
    CutShort (wholeUnits side
          (price * 10 ^ hyperliquidPriceDecimals math (.finite price) szDecimals) /
        10 ^ hyperliquidPriceDecimals math (.finite price) szDecimals) ↔
      CutShort (wholeUnits side price) := by
  rcases Nat.eq_zero_or_pos (hyperliquidPriceDecimals math (.finite price) szDecimals)
    with hzero | hpos
  · rw [hzero, pow_zero, mul_one, div_one]
  · have hlt := mul_pow_lt hmath hprice hpos
    have hone : (1 : ℚ) ≤ 10 ^ hyperliquidPriceDecimals math (.finite price) szDecimals :=
      one_le_pow₀ (by norm_num)
    have hunits : wholeUnits side
        (price * 10 ^ hyperliquidPriceDecimals math (.finite price) szDecimals) ≤ (10 ^ 5 : ℕ) :=
      wholeUnits_le (by exact_mod_cast hlt.le)
    have hwhole : wholeUnits side price ≤ (10 ^ 5 : ℕ) := by
      apply wholeUnits_le
      have hle := (le_mul_of_one_le_right hprice.le hone).trans hlt.le
      exact_mod_cast hle
    have hsmall : ∀ a : ℚ, a ≤ 10 ^ 5 → ¬ CutShort a := by
      rintro a hle ⟨hlarge, -⟩
      linarith
    apply iff_of_false
    · apply hsmall
      apply (div_le_iff₀ (by positivity)).mpr
      have hcast : (wholeUnits side
          (price * 10 ^ hyperliquidPriceDecimals math (.finite price) szDecimals) : ℚ) ≤
            10 ^ 5 := by
        exact_mod_cast hunits
      linarith
    · apply hsmall
      exact_mod_cast hwhole

/-! ## Orders -/

/-- An integer, or a number of at most five significant digits and of the decimals a price has. -/
def FewDigits (szDecimals : ℕ) (x : ℚ) : Prop :=
  (∃ k : ℕ, x = k) ∨
    (∃ (m : ℕ) (e : ℤ), m < 10 ^ 5 ∧ x = m * 10 ^ e) ∧ ∃ k : ℕ, x = k / 10 ^ (6 - szDecimals)

/-- A purchase is not sent at more, and a sale not at less. -/
def NoWorse : Action → ℚ → ℚ → Prop
  | .buy, sent, price => sent ≤ price
  | .sell, sent, price => price ≤ sent

variable (js math price szDecimals side) in
/-- The number of which the text of a price is made. -/
def snappedPrice : Number :=
  let priceDecimals := hyperliquidPriceDecimals math (.finite price) szDecimals
  match side with
  | .buy => floorToDecimalPlaces js math (.finite price) priceDecimals
  | .sell => ceilToDecimalPlaces js math (.finite price) priceDecimals

variable (js math price size side szDecimals) in
/-- What is sent of an order denotes its size below one unit, and its price in few digits. -/
structure SoundWire (wire : HyperliquidOrderWire) : Prop where
  size_sound : ∃ n : ℕ, 0 < n ∧
    DecimalText.value wire.size.toList = some ((n : ℚ) / 10 ^ szDecimals) ∧
    (n : ℚ) / 10 ^ szDecimals ≤ size ∧ size - n / 10 ^ szDecimals < 1 / 10 ^ szDecimals
  price_sound : ∃ x, DecimalText.value wire.price.toList = some x ∧ 0 < x ∧ FewDigits szDecimals x ∧
    NoWorse side x price ∧
    |x - price| < 1 / 10 ^ hyperliquidPriceDecimals math (.finite price) szDecimals
  price_parses : (DecimalText.value wire.price.toList).map Number.finite =
    some (snappedPrice js math price szDecimals side)
  size_parses : (DecimalText.value wire.size.toList).map Number.finite =
    some (floorToDecimalPlaces js math (.finite size) szDecimals)

variable (js math price size side szDecimals) in
/-- An order is sent soundly, or nothing of its price or its size is left. -/
def SoundAnswer : Except String HyperliquidOrderWire → Prop
  | .ok wire => SoundWire js math price size szDecimals side wire
  | .error _ =>
    (side = .buy ∧ snappedPrice js math price szDecimals side = .finite 0) ∨
      floorToDecimalPlaces js math (.finite size) szDecimals = .finite 0

/-- A unit of the size is left, and of the price of a purchase. -/
def UnitLeft (price size : ℚ) (side : Action) (szDecimals : ℕ) : Prop :=
  1 ≤ size * 10 ^ szDecimals ∧ (side = .buy → 1 ≤ price * 10 ^ (6 - szDecimals))

private theorem fewDigits_snapped (hmath : ExactMath math) (hprice : 0 < price) {n : ℕ}
    (hn : wholeUnits side
      (price * 10 ^ hyperliquidPriceDecimals math (.finite price) szDecimals) = n) :
    FewDigits szDecimals
      ((n : ℚ) / 10 ^ hyperliquidPriceDecimals math (.finite price) szDecimals) := by
  rcases Nat.eq_zero_or_pos (hyperliquidPriceDecimals math (.finite price) szDecimals)
    with hzero | hpos
  · left
    exact ⟨n, by rw [hzero, pow_zero, div_one]⟩
  · right
    have hlt := mul_pow_lt hmath hprice hpos
    have hle := hyperliquidPriceDecimals_le math (.finite price) szDecimals
    have hunits : n ≤ 10 ^ 5 := by
      have hbound := @wholeUnits_le side _ (10 ^ 5 : ℕ) (hlt.le.trans_eq (by norm_num))
      rw [hn] at hbound
      exact_mod_cast hbound
    generalize hyperliquidPriceDecimals math (.finite price) szDecimals = decimals at *
    constructor
    · rcases hunits.lt_or_eq with hfive | rfl
      · refine ⟨n, -decimals, hfive, ?_⟩
        rw [zpow_neg, zpow_natCast, div_eq_mul_inv]
      · -- rounding up reached the next power of ten, which has one digit
        refine ⟨1, 5 - decimals, by norm_num, ?_⟩
        rw [zpow_sub₀ (by norm_num), zpow_natCast]
        norm_num
    · refine ⟨n * 10 ^ (6 - szDecimals - decimals), ?_⟩
      have hpow : (10 : ℚ) ^ (6 - szDecimals) =
          10 ^ (6 - szDecimals - decimals) * 10 ^ decimals := by
        rw [← pow_add, Nat.sub_add_cancel hle]
      rw [hpow, Nat.cast_mul, Nat.cast_pow, Nat.cast_ofNat, mul_comm (n : ℚ),
        mul_div_mul_left _ _ (by positivity)]

private theorem noWorse_snapped (side : Action) (price : ℚ) (precision : ℕ) :
    NoWorse side (wholeUnits side (price * 10 ^ precision) / 10 ^ precision) price := by
  cases side with
  | buy => exact (div_le_iff₀ (by positivity)).mpr (Int.floor_le _)
  | sell => exact (le_div_iff₀ (by positivity)).mpr (Int.le_ceil _)

private theorem abs_snapped_sub_lt (side : Action) (a : ℚ) (precision : ℕ) :
    |(wholeUnits side (a * 10 ^ precision) : ℚ) / 10 ^ precision - a| < 1 / 10 ^ precision := by
  have hlt := abs_wholeUnits_sub_lt side (a * 10 ^ precision)
  have hscale : (0 : ℚ) < 10 ^ precision := by positivity
  have heq : (wholeUnits side (a * 10 ^ precision) : ℚ) / 10 ^ precision - a =
      (wholeUnits side (a * 10 ^ precision) - a * 10 ^ precision) / 10 ^ precision := by
    field_simp
  rw [heq, abs_div, abs_of_pos hscale]
  exact div_lt_div_of_pos_right hlt hscale

private theorem le_zero_iff (a : ℚ) : (Number.finite a).le (.finite 0) = true ↔ a ≤ 0 := by
  simp only [Number.le, Number.lt, Bool.or_eq_true, decide_eq_true_eq, Bool.and_eq_true, bne_iff_ne,
    beq_iff_eq, Number.finite.injEq, ne_eq, reduceCtorEq, not_false_eq_true, true_and]
  exact le_iff_lt_or_eq.symm

private theorem snappedPrice_exact (hmath : ExactMath math) :
    snappedPrice (js.withArithmetic .exact) math price szDecimals side =
      .finite (wholeUnits side
          (price * 10 ^ hyperliquidPriceDecimals math (.finite price) szDecimals) /
        10 ^ hyperliquidPriceDecimals math (.finite price) szDecimals) := by
  cases side with
  | buy => exact floorToDecimalPlaces_exact hmath price
  | sell => exact ceilToDecimalPlaces_exact hmath price

/-- What is sent of an order, in units of its price and of its size. -/
theorem hyperliquidOrderWire_exact (hmath : ExactMath math) {asset : HyperliquidAssetMeta}
    {p s : ℕ} (hp : wholeUnits side
      (price * 10 ^ hyperliquidPriceDecimals math (.finite price) asset.szDecimals) = p)
    (hs : wholeUnits .buy (size * 10 ^ asset.szDecimals) = s) :
    ∃ priceRounded sizeRounded,
      hyperliquidOrderWire (js.withArithmetic .exact) math (.finite price) (.finite size) side
        asset =
        if p = 0 then .error "HYPERLIQUID_PRICE_ROUNDED_TO_ZERO"
        else if s = 0 then .error "HYPERLIQUID_SIZE_ROUNDED_TO_ZERO"
        else .ok
          { price := hyperliquidWireNumber (.finite ((p : ℚ) /
              10 ^ hyperliquidPriceDecimals math (.finite price) asset.szDecimals))
                (hyperliquidPriceDecimals math (.finite price) asset.szDecimals)
            size := hyperliquidWireNumber (.finite ((s : ℚ) / 10 ^ asset.szDecimals))
              asset.szDecimals
            priceRounded := priceRounded
            sizeRounded := sizeRounded } := by
  have hsnapped := @snappedPrice_exact js math price asset.szDecimals side hmath
  have hfloored := @floorToDecimalPlaces_exact js math asset.szDecimals hmath size
  rw [hp, Int.cast_natCast] at hsnapped
  rw [hs, Int.cast_natCast] at hfloored
  unfold snappedPrice at hsnapped
  have hzero (n digits : ℕ) :
      (Number.finite ((n : ℚ) / 10 ^ digits)).le (.finite 0) = true ↔ n = 0 := by
    rw [le_zero_iff, div_le_iff₀ (by positivity), zero_mul]
    exact_mod_cast Nat.le_zero
  unfold hyperliquidOrderWire
  dsimp only at hsnapped ⊢
  simp only [hsnapped, hfloored, hzero]
  exact ⟨_, _, rfl⟩

private theorem unitLeft_iff (hmath : ExactMath math) (hprice : 0 < price) {p s : ℕ}
    (hp : wholeUnits side
      (price * 10 ^ hyperliquidPriceDecimals math (.finite price) szDecimals) = p)
    (hs : wholeUnits .buy (size * 10 ^ szDecimals) = s) :
    UnitLeft price size side szDecimals ↔ p ≠ 0 ∧ s ≠ 0 := by
  have hscaled :
      0 < price * 10 ^ hyperliquidPriceDecimals math (.finite price) szDecimals := by positivity
  have hpos := @wholeUnits_pos_iff side _ hscaled
  rw [hp, Int.natCast_pos, one_le_mul_pow_iff hmath hprice] at hpos
  have hsize : 0 < s ↔ 1 ≤ size * 10 ^ szDecimals := by
    rw [← Int.natCast_pos, ← hs, wholeUnits, Int.floor_pos]
  rw [UnitLeft, ← hpos, ← hsize, Nat.pos_iff_ne_zero, Nat.pos_iff_ne_zero, and_comm]

/-- Every order is sent soundly, unless the zeros of an exponent are dropped from the text of its
price or of its size. -/
theorem hyperliquidOrderWire_sound_iff (js : Runtime) (hmath : ExactMath math)
    (asset : HyperliquidAssetMeta) (side : Action) (hprice : 0 < price) (hsize : 0 < size)
    (hdecimals : asset.szDecimals ≤ 6) :
    SoundAnswer (js.withArithmetic .exact) math price size asset.szDecimals side
        (hyperliquidOrderWire (js.withArithmetic .exact) math (.finite price) (.finite size) side
          asset) ↔
      (UnitLeft price size side asset.szDecimals →
        ¬ CutShort (wholeUnits side price) ∧
          ¬ CutShort (⌊size * 10 ^ asset.szDecimals⌋ / 10 ^ asset.szDecimals)) := by
  have hscaled :
      0 ≤
        price * 10 ^ hyperliquidPriceDecimals math (.finite price) asset.szDecimals := by positivity
  obtain ⟨p, hp⟩ := Int.eq_ofNat_of_zero_le (@wholeUnits_nonneg side _ hscaled)
  have hsizeScaled : 0 ≤ size * 10 ^ asset.szDecimals := by positivity
  obtain ⟨s, hs⟩ := Int.eq_ofNat_of_zero_le (@wholeUnits_nonneg .buy _ hsizeScaled)
  obtain ⟨priceRounded, sizeRounded, hanswer⟩ := @hyperliquidOrderWire_exact js math price size side
    hmath asset p s hp hs
  have hsnapped := @snappedPrice_exact js math price asset.szDecimals side hmath
  have hfloored := @floorToDecimalPlaces_exact js math asset.szDecimals hmath size
  have hcutPrice := @cutShort_snapped_iff math price asset.szDecimals side hmath hprice
  have hcutSize : (⌊size * 10 ^ asset.szDecimals⌋ : ℚ) = s := by exact_mod_cast hs
  rw [unitLeft_iff hmath hprice hp hs, ← hcutPrice, hcutSize, hanswer]
  rw [hp, Int.cast_natCast] at hsnapped
  rw [hs, Int.cast_natCast] at hfloored
  have hfew := fewDigits_snapped hmath hprice hp
  have hside := noWorse_snapped side price
    (hyperliquidPriceDecimals math (.finite price) asset.szDecimals)
  have hnear := abs_snapped_sub_lt side price
    (hyperliquidPriceDecimals math (.finite price) asset.szDecimals)
  have hsizeSide := noWorse_snapped .buy size asset.szDecimals
  have hsizeNear := abs_snapped_sub_lt .buy size asset.szDecimals
  rw [hp, Int.cast_natCast] at hside hnear ⊢
  rw [hs, Int.cast_natCast] at hsizeSide hsizeNear
  have hpriceDecimals := hyperliquidPriceDecimals_le math (.finite price) asset.szDecimals
  have hfiniteInjective : Function.Injective Number.finite := fun _ _ => Number.finite.inj
  split_ifs with hnoPrice hnoSize
  · have hbuy : side = .buy := by
      by_contra hsell
      have hpositive : 0 < price *
          10 ^ hyperliquidPriceDecimals math (.finite price) asset.szDecimals := by positivity
      have hpos := (@wholeUnits_pos_iff side _ hpositive).mpr fun hbuy => absurd hbuy hsell
      rw [hp, hnoPrice] at hpos
      exact absurd hpos (lt_irrefl _)
    rw [hnoPrice, Nat.cast_zero, zero_div] at hsnapped
    exact iff_of_true (.inl ⟨hbuy, hsnapped⟩) fun hleft => absurd hnoPrice hleft.1
  · rw [hnoSize, Nat.cast_zero, zero_div] at hfloored
    exact iff_of_true (.inr hfloored) fun hleft => absurd hnoSize hleft.2
  · have hpriceText := value_hyperliquidWireNumber_iff (Nat.pos_of_ne_zero hnoPrice)
      (by omega : hyperliquidPriceDecimals math (.finite price) asset.szDecimals ≤ 12)
    have hsizeText := value_hyperliquidWireNumber_iff (Nat.pos_of_ne_zero hnoSize)
      (by omega : asset.szDecimals ≤ 12)
    rw [← hpriceText, ← hsizeText]
    constructor
    · rintro hsound -
      constructor
      · exact Option.map_injective hfiniteInjective
          (hsound.price_parses.trans (congrArg some hsnapped))
      · exact Option.map_injective hfiniteInjective
          (hsound.size_parses.trans (congrArg some hfloored))
    · intro hboth
      obtain ⟨hpriceValue, hsizeValue⟩ := hboth ⟨hnoPrice, hnoSize⟩
      have hpositive : 0 < (p : ℚ) /
          10 ^ hyperliquidPriceDecimals math (.finite price) asset.szDecimals := by positivity
      refine ⟨⟨s, Nat.pos_of_ne_zero hnoSize, hsizeValue, hsizeSide, ?_⟩,
        ⟨_, hpriceValue, hpositive, hfew, hside, hnear⟩, ?_, ?_⟩
      · rw [← neg_sub]
        exact (neg_le_abs _).trans_lt hsizeNear
      · rw [hpriceValue, hsnapped]
        rfl
      · rw [hsizeValue, hfloored]
        rfl

private def wholeLog : WireMath where
  epsilon := .finite 0
  log10 a := Int.log 10 a

private def aCoin : HyperliquidAssetMeta where
  coin := "kX"
  assetIndex := 0
  szDecimals := 0

private theorem exactMath_wholeLog : ExactMath wholeLog where
  epsilon_eq := rfl
  floor_log10 _ _ := Int.floor_intCast _

/-- A sale at `9.99996` goes out at ten. -/
theorem sale_below_ten_sound :
    SoundAnswer ((JavaScript.reference .exact).withArithmetic .exact) wholeLog (999996 / 10 ^ 5) 7
      aCoin.szDecimals .sell
      (hyperliquidOrderWire ((JavaScript.reference .exact).withArithmetic .exact) wholeLog
        (.finite (999996 / 10 ^ 5)) (.finite 7) .sell aCoin) := by
  have hprice : (wholeUnits .sell (999996 / 10 ^ 5) : ℚ) ≤ 10 := by
    have hle := @wholeUnits_le .sell (999996 / 10 ^ 5) 10 (by norm_num)
    exact_mod_cast hle
  have hsize : ((⌊(7 : ℚ) * 10 ^ aCoin.szDecimals⌋ : ℚ)) / 10 ^ aCoin.szDecimals ≤ 7 :=
    noWorse_snapped .buy 7 aCoin.szDecimals
  refine (hyperliquidOrderWire_sound_iff (JavaScript.reference .exact) exactMath_wholeLog aCoin
    .sell (by norm_num) (by norm_num) (by decide)).mpr fun _ => ⟨?_, ?_⟩
  · rintro ⟨hlarge, -⟩
    linarith
  · rintro ⟨hlarge, -⟩
    linarith

/-- Of a size of `1.5e+30` what is sent is `1.5e+3`. -/
theorem exponent_cut_short :
    hyperliquidOrderWire ((JavaScript.reference .exact).withArithmetic .exact) wholeLog
        (.finite 100) (.finite (3 / 2 * 10 ^ 30)) .buy aCoin =
      .ok { price := "100", size := "1.5e+3", priceRounded := false, sizeRounded := false } ∧
    ¬ SoundAnswer ((JavaScript.reference .exact).withArithmetic .exact) wholeLog 100
      (3 / 2 * 10 ^ 30) aCoin.szDecimals .buy
      (hyperliquidOrderWire ((JavaScript.reference .exact).withArithmetic .exact) wholeLog
        (.finite 100) (.finite (3 / 2 * 10 ^ 30)) .buy aCoin) := by
  have hanswer : hyperliquidOrderWire ((JavaScript.reference .exact).withArithmetic .exact) wholeLog
        (.finite 100) (.finite (3 / 2 * 10 ^ 30)) .buy aCoin =
      .ok { price := "100", size := "1.5e+3", priceRounded := false, sizeRounded := false } := by
    decide +kernel
  refine ⟨hanswer, ?_⟩
  rw [hanswer]
  intro hsound
  exact absurd hsound.size_parses (by decide +kernel)

end Snapping

end Yevow.Execution
