import RequestCode.Decimal.Double
import RequestCode.Text.Digits

/-!
# The shortest decimal of a double

Every double is the nearest one to a whole interval of reals. Its shortest decimal is the one with
the fewest digits in that interval, and among those the one nearest to the double.
-/

namespace RequestCode.Decimal

/-- A decimal number: an integer times a power of ten. -/
structure Digits where
  integer : Nat
  exponent : Int
  deriving DecidableEq

/-- The greatest `e` with `10 ^ e ≤ n / d`, for positive `n` and `d`. -/
def floorLog10 (n d : Nat) : Int :=
  if d ≤ n then (Text.decimal (n / d)).length - 1
  else
    let k := (Text.decimal (d / n)).length
    if d ≤ n * Nat.pow 10 (k - 1) then -(k - 1 : Int) else -(k : Int)

/-- The interval of reals that round to a positive double, in quarters of its last place. -/
structure Interval where
  low : Nat
  value : Nat
  high : Nat
  /-- Whether the bounds round to the double, too. -/
  closed : Bool
  /-- Power of two of a quarter. -/
  exponent : Int

def Interval.of (x : Double) : Interval where
  low := 4 * x.significand -
    (if x.significand = Nat.pow 2 52 ∧ Double.leastExponent < x.exponent then 1 else 2)
  value := 4 * x.significand
  high := 4 * x.significand + 2
  closed := x.significand % 2 = 0
  exponent := x.exponent - 2

/-- Both sides of the comparison of `a` quarters with `b` units of `10 ^ k`, as integers. -/
def Interval.scale (i : Interval) (k : Int) (a b : Nat) : Nat × Nat :=
  (a * Nat.pow 2 i.exponent.toNat * Nat.pow 10 (-k).toNat,
    b * Nat.pow 2 (-i.exponent).toNat * Nat.pow 10 k.toNat)

def Interval.holds (i : Interval) (k : Int) (c : Nat) : Bool :=
  let (l, c₁) := i.scale k i.low c
  let (h, c₂) := i.scale k i.high c
  if i.closed then l ≤ c₁ && c₂ ≤ h else l < c₁ && c₂ < h

/-- The decimal in the interval on the grid of `10 ^ k`, the nearer of two. -/
def Interval.onGrid? (i : Interval) (k : Int) : Option Digits :=
  let (n, d) := i.scale k i.value 1
  let a := n / d
  match i.holds k a, i.holds k (a + 1) with
  | true, true => some ⟨divideToEven n d, k⟩
  | true, false => some ⟨a, k⟩
  | false, true => some ⟨a + 1, k⟩
  | false, false => none

/-- Try grids of one digit more each time. -/
def Interval.search (i : Interval) (top : Int) : Nat → Nat → Digits
  | 0, count => ⟨(let (n, d) := i.scale (top - count + 1) i.value 1; divideToEven n d),
      top - count + 1⟩
  | more + 1, count =>
    match i.onGrid? (top - count + 1) with
    | some d => d
    | none => i.search top more (count + 1)

/-- The shortest decimal of a double other than zero; seventeen digits always suffice. -/
def shortest (x : Double) : Digits :=
  let i := Interval.of x
  let (n, d) := i.scale 0 i.value 1
  i.search (floorLog10 n d) 16 1

end RequestCode.Decimal
