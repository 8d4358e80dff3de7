import RequestCode.Text.Digits
import RequestCode.Text.Cut

/-!
# Sets and maps of characters

Character properties are tables of intervals. A table is written as text: hexadecimal bounds
separated by `-`, intervals separated by blanks or line breaks. A map adds after `:` the image of
the lower bound, a list of scalars separated by `.`; the other members of the interval are shifted
alike, and `~` in place of `-` takes only every second member.
-/

namespace RequestCode.Text

/-- The words of a table. -/
def words (s : String) : List (List Char) :=
  (pieces ' ' (s.toList.map fun c => if c = '\n' then ' ' else c)).filter (!·.isEmpty)

structure RangeSet where
  ranges : List (Nat × Nat)

namespace RangeSet

def contains (s : RangeSet) (c : Char) : Bool :=
  s.ranges.any fun r => r.1 ≤ c.toNat && c.toNat ≤ r.2

def readRange (s : List Char) : Nat × Nat :=
  match cutFirst '-' s with
  | some (low, high) => (hexNumeral low, hexNumeral high)
  | none => (hexNumeral s, hexNumeral s)

def read (s : String) : RangeSet :=
  ⟨(words s).map readRange⟩

end RangeSet

/-- An interval of characters and the image of its first member. -/
structure Shift where
  low : Nat
  high : Nat
  step : Nat
  image : List Nat

namespace Shift

def applies (m : Shift) (n : Nat) : Bool :=
  m.low ≤ n && n ≤ m.high && (n - m.low) % m.step = 0

def apply (m : Shift) (n : Nat) : List Char :=
  m.image.map fun i => Char.ofNat (i + (n - m.low))

def readBounds (s : List Char) : Nat × Nat × Nat :=
  match cutFirst '-' s with
  | some (low, high) => (hexNumeral low, hexNumeral high, 1)
  | none => match cutFirst '~' s with
    | some (low, high) => (hexNumeral low, hexNumeral high, 2)
    | none => (hexNumeral s, hexNumeral s, 1)

def read (s : List Char) : Option Shift := do
  let (bounds, image) ← cutFirst ':' s
  let (low, high, step) := readBounds bounds
  return ⟨low, high, step, (pieces '.' image).map hexNumeral⟩

end Shift

structure CharMap where
  shifts : List Shift

namespace CharMap

def read (s : String) : CharMap :=
  ⟨(words s).filterMap Shift.read⟩

/-- The image of a character the map moves. -/
def image? (m : CharMap) (c : Char) : Option (List Char) :=
  (m.shifts.find? (·.applies c.toNat)).map (·.apply c.toNat)

end CharMap

/-- Intervals of characters that share a number; all other characters have the number zero. -/
structure ClassMap where
  entries : List ((Nat × Nat) × Nat)

namespace ClassMap

def read (s : String) : ClassMap :=
  ⟨(words s).filterMap fun e =>
    (cutFirst ':' e).map fun p => (RangeSet.readRange p.1, hexNumeral p.2)⟩

def value (m : ClassMap) (c : Char) : Nat :=
  match m.entries.find? fun e => e.1.1 ≤ c.toNat && c.toNat ≤ e.1.2 with
  | some e => e.2
  | none => 0

end ClassMap

end RequestCode.Text
