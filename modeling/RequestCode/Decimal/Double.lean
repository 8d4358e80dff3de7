/-!
# Double-precision numbers

Finite doubles as exact values: a sign, a significand below 2^53 and a power of two. Arithmetic is
exact, then rounded to the nearest double, a tie to the even one.
-/

namespace RequestCode.Decimal

/-- The quotient rounded to the nearest integer, a half to the even neighbour. -/
def divideToEven (n d : Nat) : Nat :=
  let q := n / d
  let r := n % d
  if 2 * r < d then q else if d < 2 * r then q + 1 else q + q % 2

/-- The value is the significand times two to the exponent. The exponent is at least -1074, and
the significand has 53 bits unless the exponent is -1074. -/
structure Double where
  negative : Bool
  significand : Nat
  exponent : Int
  deriving DecidableEq

namespace Double

def leastExponent : Int := -1074

def greatestExponent : Int := 971

def zero (negative : Bool) : Double := ⟨negative, 0, leastExponent⟩

def isZero (x : Double) : Bool := x.significand = 0

/-- The greatest integer `e` with `2 ^ e ≤ n / d`, for positive `n` and `d`. -/
def floorLog2 (n d : Nat) : Int :=
  let e : Int := (Nat.log2 n : Int) - (Nat.log2 d : Int)
  let atLeast := if 0 ≤ e then d * Nat.pow 2 e.toNat ≤ n else d ≤ n * Nat.pow 2 (-e).toNat
  if atLeast then e else e - 1

/-- The double nearest to a quotient; `none` if that is beyond the greatest one. -/
def ofRatio (negative : Bool) (n d : Nat) : Option Double :=
  if n = 0 then some (zero negative)
  else
    let q := max (floorLog2 n d - 52) leastExponent
    let m := if 0 ≤ q then divideToEven n (d * Nat.pow 2 q.toNat)
      else divideToEven (n * Nat.pow 2 (-q).toNat) d
    let x : Double :=
      if m = Nat.pow 2 53 then ⟨negative, Nat.pow 2 52, q + 1⟩ else ⟨negative, m, q⟩
    if greatestExponent < x.exponent then none else some x

/-- The double nearest to `n · 2 ^ e`. -/
def ofScaled (negative : Bool) (n : Nat) (e : Int) : Option Double :=
  if 0 ≤ e then ofRatio negative (n * Nat.pow 2 e.toNat) 1
  else ofRatio negative n (Nat.pow 2 (-e).toNat)

def mul (x y : Double) : Option Double :=
  ofScaled (x.negative != y.negative) (x.significand * y.significand) (x.exponent + y.exponent)

/-- The quotient by a number other than zero. -/
def div (x y : Double) : Option Double :=
  let e := x.exponent - y.exponent
  if 0 ≤ e then
    ofRatio (x.negative != y.negative) (x.significand * Nat.pow 2 e.toNat) y.significand
  else ofRatio (x.negative != y.negative) x.significand (y.significand * Nat.pow 2 (-e).toNat)

/-- The double nearest to `n · 10 ^ e`. -/
def ofDecimal (negative : Bool) (n : Nat) (e : Int) : Option Double :=
  if 0 ≤ e then ofRatio negative (n * Nat.pow 10 e.toNat) 1
  else ofRatio negative n (Nat.pow 10 (-e).toNat)

end Double

end RequestCode.Decimal
