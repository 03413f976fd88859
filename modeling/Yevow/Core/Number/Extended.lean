import Yevow.Core.Number.Arithmetic

/-!
# Arithmetic with infinities and NaN

Operations on all values of the `number` type, over a rounding of exact finite results. Zeros
carry no sign, and a quotient by zero is taken as one by a positive zero.
-/

namespace Number

variable (round : ℚ → ℚ)

/-- The negation of a number. -/
def neg : Number → Number
  | finite a => finite (-a)
  | infinite negative => infinite !negative
  | nan => nan

/-- The absolute value of a number. -/
def abs : Number → Number
  | finite a => finite |a|
  | infinite _ => infinite false
  | nan => nan

/-- A sum, rounded where it is finite. -/
def add : Number → Number → Number
  | finite a, finite b => finite (round (a + b))
  | finite _, infinite negative => infinite negative
  | infinite negative, finite _ => infinite negative
  | infinite m, infinite n => if m = n then infinite m else nan
  | nan, _ => nan
  | _, nan => nan

/-- A difference, rounded where it is finite. -/
def sub (a b : Number) : Number := add round a b.neg

/-- A product, rounded where it is finite. -/
def mul : Number → Number → Number
  | finite a, finite b => finite (round (a * b))
  | finite a, infinite negative => if a = 0 then nan else infinite (negative ^^ decide (a < 0))
  | infinite negative, finite b => if b = 0 then nan else infinite (negative ^^ decide (b < 0))
  | infinite m, infinite n => infinite (m ^^ n)
  | nan, _ => nan
  | _, nan => nan

/-- A quotient, rounded where it is finite. -/
def div : Number → Number → Number
  | finite a, finite b =>
    if b = 0 then if a = 0 then nan else infinite (decide (a < 0)) else finite (round (a / b))
  | finite _, infinite _ => finite 0
  | infinite negative, finite b => infinite (negative ^^ decide (b < 0))
  | infinite _, infinite _ => nan
  | nan, _ => nan
  | _, nan => nan

/-- `a < b`, false where one of them is NaN. -/
def lt : Number → Number → Bool
  | finite a, finite b => a < b
  | finite _, infinite negative => !negative
  | infinite negative, finite _ => negative
  | infinite m, infinite n => m && !n
  | nan, _ => false
  | _, nan => false

/-- `a <= b`, false where one of them is NaN. -/
def le (a b : Number) : Bool := lt a b || (a != nan && a == b)

/-- `Math.max(a, b)`. -/
def max : Number → Number → Number
  | nan, _ => nan
  | _, nan => nan
  | a, b => if lt a b then b else a

/-- `Math.min(a, b)`. -/
def min : Number → Number → Number
  | nan, _ => nan
  | _, nan => nan
  | a, b => if lt b a then b else a

/-- A square root, from that of the finite values. -/
def sqrt (root : ℚ → ℚ) : Number → Number
  | finite a => if a < 0 then nan else finite (root a)
  | infinite negative => if negative then nan else infinite false
  | nan => nan

/-- `Math.round(a)`. -/
def mathRound : Number → Number
  | finite a => finite (Arithmetic.mathRound a)
  | infinite negative => infinite negative
  | nan => nan

/-- `Math.floor(a)`. -/
def floor : Number → Number
  | finite a => finite ⌊a⌋
  | infinite negative => infinite negative
  | nan => nan

/-- `Math.ceil(a)`. -/
def ceil : Number → Number
  | finite a => finite ⌈a⌉
  | infinite negative => infinite negative
  | nan => nan

/-- `Number.EPSILON`. -/
def epsilon : Number := finite (1 / 2 ^ 52)

/-- `Number.isFinite(a) && a > 0`. -/
def isPositive : Number → Bool
  | finite a => 0 < a
  | infinite _ => false
  | nan => false

/-- `xs.reduce((sum, x) => sum + x, 0)`. -/
def sum (xs : List Number) : Number := xs.foldl (add round) (finite 0)

end Number
