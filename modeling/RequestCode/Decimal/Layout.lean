import RequestCode.Decimal.Shortest

/-!
# Writing doubles

Digits are laid out with a point while it falls near them, and with an exponent otherwise. There
is always a point or an exponent, so that a double does not read as an integer.
-/

namespace RequestCode.Decimal

/-- Where the point may fall, counted from the first digit, and whether a positive exponent shows
its sign. -/
structure Layout where
  leastPoint : Int
  greatestPoint : Int
  signedExponent : Bool

def Layout.exponentText (l : Layout) (e : Int) : List Char :=
  (if 0 ≤ e && l.signedExponent then ['e', '+'] else ['e']) ++ Text.signedDecimal e

def Layout.place (l : Layout) (digits : List Char) (exponent : Int) : List Char :=
  let point := digits.length + exponent
  if 0 ≤ exponent && point ≤ l.greatestPoint then
    digits ++ List.replicate exponent.toNat '0' ++ ['.', '0']
  else if 0 < point && point ≤ l.greatestPoint then
    digits.take point.toNat ++ '.' :: digits.drop point.toNat
  else if l.leastPoint ≤ point && point ≤ 0 then
    ['0', '.'] ++ List.replicate (-point).toNat '0' ++ digits
  else match digits with
    | [d] => d :: l.exponentText (point - 1)
    | d :: r => d :: '.' :: r ++ l.exponentText (point - 1)
    | [] => []

/-- Drop zeros at the end of the integer. -/
def Digits.reduced (d : Digits) : Digits :=
  let s := Text.decimal d.integer
  let zeros := (s.reverse.takeWhile (· = '0')).length
  if d.integer = 0 then d else ⟨d.integer / Nat.pow 10 zeros, d.exponent + zeros⟩

def Layout.write (l : Layout) (x : Double) : List Char :=
  let body :=
    if x.isZero then ['0', '.', '0']
    else
      let d := (shortest x).reduced
      l.place (Text.decimal d.integer) d.exponent
  if x.negative then '-' :: body else body

end RequestCode.Decimal
