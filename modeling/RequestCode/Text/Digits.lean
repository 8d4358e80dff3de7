/-!
# Digits

Numerals over `List Char`, read and written in bases up to sixteen.
-/

namespace RequestCode.Text

def isDecimal (c : Char) : Bool := '0' ≤ c && c ≤ '9'

def isAsciiLower (c : Char) : Bool := 'a' ≤ c && c ≤ 'z'

def isAsciiUpper (c : Char) : Bool := 'A' ≤ c && c ≤ 'Z'

def isAsciiAlpha (c : Char) : Bool := isAsciiLower c || isAsciiUpper c

def isAsciiAlphanumeric (c : Char) : Bool := isAsciiAlpha c || isDecimal c

/-- The value of a hexadecimal digit of either case. -/
def hexValue? (c : Char) : Option Nat :=
  if isDecimal c then some (c.toNat - 48)
  else if 'a' ≤ c && c ≤ 'f' then some (c.toNat - 87)
  else if 'A' ≤ c && c ≤ 'F' then some (c.toNat - 55)
  else none

/-- The value of a digit below `base`. -/
def digitValue? (base : Nat) (c : Char) : Option Nat :=
  (hexValue? c).filter (· < base)

def lowerHexDigit (n : Nat) : Char :=
  if n < 10 then Char.ofNat (48 + n) else Char.ofNat (87 + n)

def upperHexDigit (n : Nat) : Char :=
  if n < 10 then Char.ofNat (48 + n) else Char.ofNat (55 + n)

/-- The least significant `width` digits of `n`. -/
def digitsOfWidth (digit : Nat → Char) (base : Nat) : Nat → Nat → List Char
  | 0, _ => []
  | width + 1, n => digitsOfWidth digit base width (n / base) ++ [digit (n % base)]

/-- The digits of `n` in a base of at least two, least significant last, without leading zeros. -/
def digits (digit : Nat → Char) (base : Nat) (n : Nat) : List Char :=
  if _h : base < 2 ∨ n < base then [digit n]
  else digits digit base (n / base) ++ [digit (n % base)]
termination_by n
decreasing_by
  have : 2 ≤ base ∧ base ≤ n := by omega
  exact Nat.div_lt_self (by omega) (by omega)

def decimal (n : Nat) : List Char := digits lowerHexDigit 10 n

def lowerHex (n : Nat) : List Char := digits lowerHexDigit 16 n

def signedDecimal (n : Int) : List Char :=
  if n < 0 then '-' :: decimal n.natAbs else decimal n.natAbs

/-- The value of a numeral in `base`; `none` if there is no digit or a foreign character. -/
def numeral? (base : Nat) (s : List Char) : Option Nat :=
  if s.isEmpty then none
  else s.foldlM (fun n c => (digitValue? base c).map (n * base + ·)) 0

/-- The value of a decimal numeral whose characters are known to be digits. -/
def decimalValue (s : List Char) : Nat :=
  s.foldl (fun n c => n * 10 + (c.toNat - 48)) 0

/-- The value of a hexadecimal numeral; other characters count as zero. -/
def hexNumeral (s : List Char) : Nat :=
  s.foldl (fun n c => n * 16 + (hexValue? c).getD 0) 0

end RequestCode.Text
