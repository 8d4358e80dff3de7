import RequestCode.Idna.CompositionTable

/-!
# Normal form of names

Canonical composition (Normalization Form C): a text is decomposed, its marks are put in canonical
order, and what can be composed is composed again.
-/

namespace RequestCode.Idna

open Text

/-- First syllable, and the first letter of each kind less one where the letter may be absent. -/
def hangulBase : Nat := 0xAC00

def hangulLead : Nat := 0x1100

def hangulVowel : Nat := 0x1161

def hangulTail : Nat := 0x11A7

/-- The two parts of a composed character. -/
def parts? (c : Char) : Option (Char × Char) :=
  let n := c.toNat
  if hangulBase ≤ n ∧ n < hangulBase + 11172 then
    let i := n - hangulBase
    if i % 28 = 0 then
      some (.ofNat (hangulLead + i / 588), .ofNat (hangulVowel + i % 588 / 28))
    else some (.ofNat (n - i % 28), .ofNat (hangulTail + i % 28))
  else match compositions.image? c with
    | some [a, b] => some (a, b)
    | _ => none

/-- The composition of two characters, if there is one. -/
def compose? (a b : Char) : Option Char :=
  let m := a.toNat
  let n := b.toNat
  if hangulLead ≤ m ∧ m < hangulLead + 19 ∧ hangulVowel ≤ n ∧ n < hangulVowel + 21 then
    some (.ofNat (hangulBase + ((m - hangulLead) * 21 + (n - hangulVowel)) * 28))
  else if hangulBase ≤ m ∧ m < hangulBase + 11172 ∧ (m - hangulBase) % 28 = 0
      ∧ hangulTail < n ∧ n < hangulTail + 28 then
    some (.ofNat (m + (n - hangulTail)))
  else (compositions.shifts.find? (·.image = [m, n])).map fun e => .ofNat e.low

/-- Take a character apart, at most `depth` times over; no character needs more than four. -/
def decomposeChar : Nat → Char → List Char
  | 0, c => [c]
  | depth + 1, c => match parts? c with
    | some (a, b) => decomposeChar depth a ++ [b]
    | none => [c]

abbrev Marked := Char × Nat

/-- Add a character to a text kept from back to front, before the marks of a higher class. -/
def addOrdered (x : Marked) : List Marked → List Marked
  | [] => [x]
  | y :: r => if x.2 ≠ 0 ∧ x.2 < y.2 then y :: addOrdered x r else x :: y :: r

def decomposed (s : List Char) : List Marked :=
  ((s.flatMap (decomposeChar 4)).foldl
    (fun acc c => addOrdered (c, combiningClasses.value c) acc) []).reverse

/-- Compose with the last starter: `marks` are the characters kept since then, from back to
front, and `last` is the class of the last of them. -/
def composeAfter (starter : Char) (marks : List Char) (last : Nat) : List Marked → List Char
  | [] => starter :: marks.reverse
  | (c, k) :: r =>
    match if marks.isEmpty || last < k then compose? starter c else none with
    | some d => composeAfter d marks last r
    | none =>
      if k = 0 then (starter :: marks.reverse) ++ composeAfter c [] 0 r
      else composeAfter starter (c :: marks) k r

def composed : List Marked → List Char
  | [] => []
  | (c, k) :: r => if k = 0 then composeAfter c [] 0 r else c :: composed r

def normal (s : List Char) : List Char :=
  if s.all (·.toNat < 0x80) then s else composed (decomposed s)

end RequestCode.Idna
