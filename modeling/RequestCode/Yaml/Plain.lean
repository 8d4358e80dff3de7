import RequestCode.Json.Value
import RequestCode.Text.Digits

/-!
# What plain texts stand for

A text without quotes may stand for null, a truth value, an integer or a real number; any other
text stands for itself. Integers have to fit in 64 bits. Infinities and numbers that are none have
no JSON value and become null.
-/

namespace RequestCode.Yaml

open Text Decimal

/-- What a text stands for. -/
inductive Plain where
  | null
  | bool (b : Bool)
  | integer (n : Int)
  /-- A real number; `none` beyond all doubles, or if it is no number. -/
  | real (x : Option Double)
  | text
  deriving DecidableEq

def nullWords : List String := ["null", "Null", "NULL", "~"]

def trueWords : List String := ["true", "True", "TRUE"]

def falseWords : List String := ["false", "False", "FALSE"]

def infinityWords : List String := [".inf", ".Inf", ".INF"]

def noNumberWords : List String := [".nan", ".NaN", ".NAN"]

def isNull (s : List Char) : Bool := nullWords.contains (.ofList s)

def bool? (s : List Char) : Option Bool :=
  if trueWords.contains (.ofList s) then some true
  else if falseWords.contains (.ofList s) then some false
  else none

/-- A sign, and what follows it. -/
def takeSign : List Char → Option Char × List Char
  | '+' :: r => (some '+', r)
  | '-' :: r => (some '-', r)
  | s => (none, s)

/-- Leading zeros in front of further digits make a text and no number. -/
def isPadded (s : List Char) : Bool :=
  match (takeSign s).2 with
  | '0' :: d :: r => (d :: r).all isDecimal
  | _ => false

/-- The bases of integers, by their marks. -/
def base? : Char → Option Nat
  | 'x' => some 16
  | 'o' => some 8
  | 'b' => some 2
  | _ => none

/-- The digits of an integer in a base other than ten. -/
def basedNumeral? : List Char → Option Nat
  | '0' :: c :: r => (base? c).bind (numeral? · r)
  | _ => none

def integer? (s : List Char) : Option Int :=
  let (sign, r) := takeSign s
  let magnitude := (basedNumeral? r).or (if isPadded s then none else numeral? 10 r)
  magnitude.map fun n => if sign = some '-' then -(n : Int) else n

/-- The digits of an exponent, after its mark. -/
def exponent? : List Char → Option Int
  | [] => some 0
  | c :: r =>
    if c = 'e' || c = 'E' then
      let (sign, ds) := takeSign r
      (numeral? 10 ds).map fun n => if sign = some '-' then -(n : Int) else n
    else none

/-- The double nearest to `n · 10 ^ e`, without computing powers that cannot matter. -/
def scaled (negative : Bool) (n : Nat) (e : Int) : Option Double :=
  if n = 0 then some (Double.zero negative)
  else if 400 < e then none
  else if e + (decimal n).length < -400 then some (Double.zero negative)
  else Double.ofDecimal negative n e

/-- A decimal numeral with a point, an exponent or both; `none` inside beyond all doubles. -/
def decimal? (s : List Char) : Option (Option Double) := do
  let (sign, r) := takeSign s
  let whole := r.takeWhile isDecimal
  let r := r.dropWhile isDecimal
  let (fraction, r) := match r with
    | '.' :: t => (t.takeWhile isDecimal, t.dropWhile isDecimal)
    | t => ([], t)
  if whole.isEmpty && fraction.isEmpty then none
  let e ← exponent? r
  return scaled (sign = some '-') (decimalValue (whole ++ fraction)) (e - fraction.length)

/-- A real number; `none` inside if it is infinite or no number. -/
def real? (s : List Char) : Option (Option Double) :=
  if infinityWords.contains (.ofList (takeSign s).2) || noNumberWords.contains (.ofList s) then
    some none
  else match decimal? s with
    | some (some x) => some (some x)
    | _ => none

def Plain.read (s : List Char) : Plain :=
  if s.isEmpty || isNull s then .null
  else match bool? s with
    | some b => .bool b
    | none => match integer? s with
      | some n => .integer n
      | none => match real? s with
        | some x => if isPadded s then .text else .real x
        | none => .text

/-- Whether an integer fits in that many bits, with a sign or without. -/
def fits (bits : Nat) (n : Int) : Bool :=
  if n < 0 then n.natAbs ≤ Nat.pow 2 (bits - 1) else n.toNat < Nat.pow 2 bits

/-- The JSON number of an integer, if it fits in 64 bits. -/
def wordNumber? (n : Int) : Option Json :=
  if fits 64 n then some (.number (.integer n)) else none

def realNumber : Option Double → Json
  | some x => .number (.real x)
  | none => .null

/-- The value of a plain text. An integer beyond 64 bits has none, and one beyond 128 bits counts
as a real number. -/
def plainValue? (s : List Char) : Option Json :=
  match Plain.read s with
  | .null => some .null
  | .bool b => some (.bool b)
  | .integer n =>
    if fits 128 n then wordNumber? n
    else match real? s with
      | some x => some (realNumber x)
      | none => some (.string (.ofList s))
  | .real x => some (realNumber x)
  | .text => some (.string (.ofList s))

end RequestCode.Yaml
