import RequestCode.Text.Digits

/-!
# Punycode

A label with characters outside ASCII is written as its ASCII characters, a hyphen, and a series
of variable-length numbers that say which character goes where.
-/

namespace RequestCode.Idna.Punycode

open Text

def base : Nat := 36

/-- The next bias, from the number just written or read. -/
def adapt (delta points : Nat) (first : Bool) : Nat :=
  let delta := if first then delta / 700 else delta / 2
  reduce (delta + delta / points) 0 (delta + delta / points + 1)
where
  /-- Divide by 35 while the number is large; `bound` exceeds the number. -/
  reduce (delta k : Nat) : Nat → Nat
    | 0 => k
    | bound + 1 =>
      if 455 < delta then reduce (delta / 35) (k + base) bound
      else k + 36 * delta / (delta + 38)

def threshold (k bias : Nat) : Nat :=
  if k ≤ bias then 1 else if bias + 26 ≤ k then 26 else k - bias

def digitValue? (c : Char) : Option Nat :=
  if isAsciiLower c then some (c.toNat - 97)
  else if isAsciiUpper c then some (c.toNat - 65)
  else if isDecimal c then some (c.toNat - 22)
  else none

def digit (n : Nat) : Char :=
  if n < 26 then Char.ofNat (97 + n) else Char.ofNat (22 + n)

/-- Numbers do not exceed 31 bits. -/
def limit : Nat := 0x7FFFFFFF

/-- Read one number, added to `i`: its value and what is left. -/
def readNumber (i weight k bias : Nat) : List Char → Option (Nat × List Char)
  | [] => none
  | c :: r => do
    let d ← digitValue? c
    let i := i + d * weight
    if i > limit then none
    else
      let t := threshold k bias
      if d < t then some (i, r)
      else
        let weight := weight * (base - t)
        if weight > limit then none else readNumber i weight (k + base) bias r

theorem readNumber_length {i weight k bias : Nat} {s r : List Char} {n : Nat}
    (h : readNumber i weight k bias s = some (n, r)) : r.length < s.length := by
  induction s generalizing i weight k with
  | nil => simp [readNumber] at h
  | cons c s ih =>
    simp only [readNumber, Option.bind_eq_bind, Option.bind_eq_some_iff] at h
    obtain ⟨d, -, h⟩ := h
    split at h
    · simp at h
    · split at h
      · simp at h
        simp [← h.2]
      · split at h
        · simp at h
        · have := ih h
          simp only [List.length_cons]
          omega

def insertAt (c : Char) : Nat → List Char → List Char
  | 0, s => c :: s
  | _ + 1, [] => [c]
  | n + 1, d :: s => d :: insertAt c n s

/-- Insert the characters that the numbers describe into `out`. -/
def insertAll (n i bias : Nat) (first : Bool) (out : List Char) (s : List Char) :
    Option (List Char) :=
  if s.isEmpty then some out
  else
    match _h : readNumber i 1 base bias s with
    | none => none
    | some (j, r) =>
      let points := out.length + 1
      let n := n + j / points
      if n > 0x10FFFF ∨ (0xD800 ≤ n ∧ n ≤ 0xDFFF) then none
      else
        let place := j % points
        insertAll n (place + 1) (adapt (j - i) points first) false
          (insertAt (Char.ofNat n) place out) r
termination_by s.length
decreasing_by exact readNumber_length _h

/-- The last hyphen separates the ASCII characters from the numbers; it stands only after some. -/
def decode (s : List Char) : Option (List Char) :=
  let tail := (s.reverse.takeWhile (· ≠ '-')).reverse
  let head := s.take (s.length - tail.length - 1)
  insertAll 128 0 72 true head (if head.isEmpty then s else tail)

/-- Write one number. -/
def writeNumber (q k bias : Nat) : List Char :=
  let t := threshold k bias
  if _h : q < t ∨ base ≤ t then [digit q]
  else digit (t + (q - t) % (base - t)) :: writeNumber ((q - t) / (base - t)) (k + base) bias
termination_by q
decreasing_by
  have ht : 0 < t := by simp only [t, threshold]; split <;> (try split) <;> omega
  have : t ≤ q ∧ t < base := by omega
  calc (q - t) / (base - t) ≤ q - t := Nat.div_le_self ..
    _ < q := by omega

structure Progress where
  delta : Nat
  bias : Nat
  /-- Characters written so far. -/
  done : Nat
  out : List Char

/-- One pass over the label: write a number for every occurrence of `n`. -/
def pass (n basic : Nat) (p : Progress) : List Char → Progress
  | [] => p
  | c :: r =>
    if c.toNat < n then pass n basic { p with delta := p.delta + 1 } r
    else if c.toNat = n then
      pass n basic
        { delta := 0
          bias := adapt p.delta (p.done + 1) (p.done = basic)
          done := p.done + 1
          out := p.out ++ writeNumber p.delta base p.bias } r
    else pass n basic p r

/-- Write the characters from `n` on, in the order of their numbers. -/
def passes (s : List Char) (basic : Nat) : List Nat → Nat → Progress → List Char
  | [], _, p => p.out
  | m :: ms, n, p =>
    let p := { p with delta := p.delta + (m - n) * (p.done + 1) }
    let p := pass m basic p s
    passes s basic ms (m + 1) { p with delta := p.delta + 1 }

def encode (s : List Char) : List Char :=
  let basic := s.filter (·.toNat < 128)
  let others := ((s.map Char.toNat).filter (128 ≤ ·)).mergeSort.eraseDups
  let head := if basic.isEmpty then [] else basic ++ ['-']
  head ++ passes s basic.length others 128 ⟨0, 72, basic.length, []⟩

end RequestCode.Idna.Punycode
