import RequestCode.Json.Value
import RequestCode.Text.Digits

/-!
# JSON as written

Reading JSON has two steps. The first finds the structure of the text: repeated members stay, and a
string or number whose spelling denotes no value is kept as a hole. The second takes the value of
such a tree. What is ignored in a record need not have a value.
-/

namespace RequestCode.Json

open Decimal Text

inductive Tree where
  | null
  | bool (b : Bool)
  | number (n : Option Number)
  | string (s : Option String)
  | array (items : List Tree)
  | object (members : List (Option String × Tree))

instance : Inhabited Tree := ⟨.null⟩

/-- What a string literal is made of: characters, and escapes by code unit. -/
inductive Unit where
  | char (c : Char)
  | code (n : Nat)

/-- The text of a literal; `none` if half of a surrogate pair stands alone. -/
def assemble : List Unit → Option (List Char)
  | [] => some []
  | .char c :: r => (assemble r).map (c :: ·)
  | .code n :: r =>
    if 0xD800 ≤ n ∧ n ≤ 0xDBFF then
      match r with
      | .code m :: r =>
        if 0xDC00 ≤ m ∧ m ≤ 0xDFFF then
          (assemble r).map (Char.ofNat (0x10000 + (n - 0xD800) * 0x400 + (m - 0xDC00)) :: ·)
        else none
      | _ => none
    else if 0xDC00 ≤ n ∧ n ≤ 0xDFFF then none
    else (assemble r).map (Char.ofNat n :: ·)

def escaped? : Char → Option Char
  | '"' => some '"'
  | '\\' => some '\\'
  | '/' => some '/'
  | 'b' => some '\x08'
  | 'f' => some '\x0c'
  | 'n' => some '\n'
  | 'r' => some '\r'
  | 't' => some '\t'
  | _ => none

/-- The rest of a string literal after its opening quote. -/
def readUnits : List Char → Option (List Unit × List Char)
  | [] => none
  | '"' :: r => some ([], r)
  | '\\' :: 'u' :: a :: b :: c :: d :: r => do
    let n ← numeral? 16 [a, b, c, d]
    let (us, r) ← readUnits r
    return (.code n :: us, r)
  | '\\' :: e :: r => do
    let c ← escaped? e
    let (us, r) ← readUnits r
    return (.char c :: us, r)
  | c :: r => do
    if c.toNat < 0x20 || c = '\\' then none
    let (us, r) ← readUnits r
    return (.char c :: us, r)

def readString (s : List Char) : Option (Option String × List Char) := do
  let (us, r) ← readUnits s
  return ((assemble us).map .ofList, r)

/-- The parts of a number literal. -/
structure Numeral where
  negative : Bool
  whole : List Char
  fraction : Option (List Char)
  /-- The sign and the digits of the exponent. -/
  exponent : Option (Bool × List Char)

def greatestWord : Nat := 0xFFFFFFFFFFFFFFFF

/-- Append digits to a significand as long as it fits in 64 bits: the significand and the number
of digits left over. -/
def takeDigits (n : Nat) : List Char → Nat × Nat
  | [] => (n, 0)
  | c :: r =>
    let next := n * 10 + (c.toNat - 48)
    if next ≤ greatestWord then takeDigits next r else (n, r.length + 1)

def powerOfTen (k : Nat) : Option Double := Double.ofRatio false (Nat.pow 10 k) 1

/-- The greatest power of ten below the greatest double. -/
def greatestPower : Nat := 308

/-- Divide by the greatest power of ten once for each step, then by what remains of the
exponent; every quotient is rounded. -/
def scaleDown : Nat → Double → Nat → Option Double
  | 0, x, e => (powerOfTen e).bind x.div
  | steps + 1, x, e =>
    if x.isZero then some x
    else ((powerOfTen greatestPower).bind x.div).bind fun y => scaleDown steps y (e - greatestPower)

/-- The significand scaled by a power of ten. Both are rounded first, and powers below the least
one are taken in several steps. -/
def scale (x : Double) (e : Int) : Option Double :=
  if e < 0 then scaleDown (((-e).toNat - 1) / greatestPower) x (-e).toNat
  else if e ≤ greatestPower then (powerOfTen e.toNat).bind x.mul
  else if x.isZero then some x
  else none

/-- The value of a numeral; `none` if its magnitude exceeds every double. -/
def Numeral.value (n : Numeral) : Option Number :=
  let (whole, left) := takeDigits 0 n.whole
  if left = 0 ∧ n.fraction = none ∧ n.exponent = none then
    if !n.negative then some (.integer whole)
    else if 0 < whole ∧ whole ≤ Nat.pow 2 63 then some (.integer (-whole))
    else (Double.ofRatio true whole 1).map .real
  else
    let digits := n.fraction.getD []
    let (significand, dropped) := takeDigits whole digits
    let point : Int := left - (digits.length - dropped)
    let exponent : Int := match n.exponent with
      | some (true, ds) => point - decimalValue ds
      | some (false, ds) => point + decimalValue ds
      | none => point
    match Double.ofRatio false significand 1 with
    | some x => (scale x exponent).map fun y => .real { y with negative := n.negative }
    | none => none

def takeExponent (s : List Char) : Option (Option (Bool × List Char) × List Char) :=
  match s with
  | e :: r =>
    if e = 'e' || e = 'E' then
      let (negative, r) := match r with
        | '+' :: r => (false, r)
        | '-' :: r => (true, r)
        | r => (false, r)
      let ds := r.takeWhile isDecimal
      if ds.isEmpty then none else some (some (negative, ds), r.dropWhile isDecimal)
    else some (none, s)
  | [] => some (none, s)

/-- A number literal and what follows it. -/
def readNumeral (s : List Char) : Option (Numeral × List Char) := do
  let (negative, s) := match s with
    | '-' :: r => (true, r)
    | r => (false, r)
  let whole := s.takeWhile isDecimal
  if whole.isEmpty then none
  if whole.head? = some '0' && whole.length > 1 then none
  match s.dropWhile isDecimal with
  | '.' :: r =>
    let fraction := r.takeWhile isDecimal
    if fraction.isEmpty then none
    let (exponent, r) ← takeExponent (r.dropWhile isDecimal)
    return (⟨negative, whole, some fraction, exponent⟩, r)
  | r =>
    let (exponent, r) ← takeExponent r
    return (⟨negative, whole, none, exponent⟩, r)

def isSpace (c : Char) : Bool := c = ' ' || c = '\n' || c = '\t' || c = '\r'

def skipSpace (s : List Char) : List Char := s.dropWhile isSpace

mutual

/-- Read one value; `fuel` exceeds the length of the text. -/
def readTree : Nat → List Char → Option (Tree × List Char)
  | 0, _ => none
  | fuel + 1, s =>
    match skipSpace s with
    | 'n' :: 'u' :: 'l' :: 'l' :: r => some (.null, r)
    | 't' :: 'r' :: 'u' :: 'e' :: r => some (.bool true, r)
    | 'f' :: 'a' :: 'l' :: 's' :: 'e' :: r => some (.bool false, r)
    | '"' :: r => do
      let (text, r) ← readString r
      return (.string text, r)
    | '[' :: r =>
      match skipSpace r with
      | ']' :: r => some (.array [], r)
      | r => do
        let (items, r) ← readItems fuel r
        return (.array items, r)
    | '{' :: r =>
      match skipSpace r with
      | '}' :: r => some (.object [], r)
      | r => do
        let (members, r) ← readMembers fuel r
        return (.object members, r)
    | s => do
      let (n, r) ← readNumeral s
      return (.number n.value, r)

/-- The items of an array that is not empty, and its end. -/
def readItems : Nat → List Char → Option (List Tree × List Char)
  | 0, _ => none
  | fuel + 1, s => do
    let (item, r) ← readTree fuel s
    match skipSpace r with
    | ',' :: r =>
      let (items, r) ← readItems fuel r
      return (item :: items, r)
    | ']' :: r => return ([item], r)
    | _ => none

/-- The members of an object that is not empty, and its end. -/
def readMembers : Nat → List Char → Option (List (Option String × Tree) × List Char)
  | 0, _ => none
  | fuel + 1, s => do
    let '"' :: r := skipSpace s | none
    let (name, r) ← readString r
    let ':' :: r := skipSpace r | none
    let (value, r) ← readTree fuel r
    match skipSpace r with
    | ',' :: r =>
      let (members, r) ← readMembers fuel r
      return ((name, value) :: members, r)
    | '}' :: r => return ([(name, value)], r)
    | _ => none

end

/-- The tree of a text that holds one value and blanks. -/
def Tree.read (s : String) : Option Tree := do
  let s := s.toList
  let (t, r) ← readTree (2 * s.length + 2) s
  if (skipSpace r).isEmpty then some t else none

/-- Arrays and objects may be nested less than this deep. -/
def nesting : Nat := 128

mutual

/-- The value of a tree, in a place where `depth` is what remains of the nesting. -/
def Tree.value : Nat → Tree → Option Json
  | _, .null => some .null
  | _, .bool b => some (.bool b)
  | _, .number n => n.map .number
  | _, .string s => s.map .string
  | depth, .array items =>
    if depth ≤ 1 then none else (itemValues (depth - 1) items).map .array
  | depth, .object members =>
    if depth ≤ 1 then none else (memberValues (depth - 1) members).map fun ms =>
      .object (ms.foldl (fun acc m => insertEntry m.1 m.2 acc) [])

def itemValues : Nat → List Tree → Option (List Json)
  | _, [] => some []
  | depth, t :: ts => do return (← t.value depth) :: (← itemValues depth ts)

def memberValues : Nat → List (Option String × Tree) → Option (List (String × Json))
  | _, [] => some []
  | depth, (name, t) :: ts => do
    return (← name, ← t.value depth) :: (← memberValues depth ts)

end

/-- The value of a JSON text. -/
def read (s : String) : Option Json := (Tree.read s).bind (·.value nesting)

end RequestCode.Json
