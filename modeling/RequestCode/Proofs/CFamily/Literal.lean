import RequestCode.Proofs.Json.Literal

/-!
# Literals of C and C#

Both languages write literals between double quotes, with the same escapes for some characters and
character numbers of four digits for others. They differ in the numbers they allow and in the
characters that have to be escaped. Main statement: `read?_quote`, what they make of a JSON string.
-/

namespace RequestCode.CFamily

open Text Json

inductive Language where
  | c
  | sharp

namespace Language

/-- The numbers that an escape may give. In C they name characters, and only those that are neither
controls nor in the basic set; in C# they are any code units. -/
def names : Language → Nat → Bool
  | c, n => n = 0x24 || n = 0x40 || n = 0x60 || (0xA0 ≤ n && !(0xD800 ≤ n && n ≤ 0xDFFF))
  | sharp, _ => true

def raw : Language → Char → Bool
  | c, x => x ≠ '\n' && x ≠ '\r'
  | sharp, x => x ≠ '\n' && x ≠ '\r' && x ≠ '\x85' && x ≠ '\u2028' && x ≠ '\u2029'

end Language

def escaped? : Char → Option Char
  | '"' => some '"'
  | '\\' => some '\\'
  | 'b' => some '\x08'
  | 'f' => some '\x0c'
  | 'n' => some '\n'
  | 'r' => some '\r'
  | 't' => some '\t'
  | _ => none

variable {l : Language} {x : Char} {s t : List Char}

def readUnits (l : Language) : List Char → Option (List Json.Unit × List Char)
  | [] => none
  | '"' :: r => some ([], r)
  | '\\' :: 'u' :: a :: b :: c :: d :: r => do
    let n ← numeral? 16 [a, b, c, d]
    if l.names n then (readUnits l r).map fun p => (.code n :: p.1, p.2) else none
  | '\\' :: e :: r => do
    let x ← escaped? e
    (readUnits l r).map fun p => (.char x :: p.1, p.2)
  | x :: r =>
    if l.raw x && x ≠ '\\' then (readUnits l r).map fun p => (.char x :: p.1, p.2) else none

def read? (l : Language) : List Char → Option (List Char × List Char)
  | '"' :: r => do
    let (us, r) ← readUnits l r
    (assemble us).map fun text => (text, r)
  | _ => none

/-- The characters that a JSON string holds in a way that the language knows. -/
def Language.knows : Language → Char → Bool
  | c, x => !isNumbered x
  | sharp, x => x ≠ '\x85' && x ≠ '\u2028' && x ≠ '\u2029'

theorem readUnits_escape {e : Char} (h : escaped? e = some x) (s : List Char) :
    readUnits l ('\\' :: e :: s) = (readUnits l s).map fun p => (.char x :: p.1, p.2) := by
  rw [readUnits, h]
  · rfl
  · rintro a b c d r rfl
    cases h

theorem readUnits_number {a b c d : Char} {n : Nat} (h : numeral? 16 [a, b, c, d] = some n)
    (s : List Char) :
    readUnits l ('\\' :: 'u' :: a :: b :: c :: d :: s) =
      if l.names n then (readUnits l s).map fun p => (.code n :: p.1, p.2) else none := by
  rw [readUnits, h]
  rfl

theorem readUnits_char (quote : x ≠ '"') (backslash : x ≠ '\\') (s : List Char) :
    readUnits l (x :: s) =
      if l.raw x then (readUnits l s).map fun p => (.char x :: p.1, p.2) else none := by
  rw [readUnits.eq_def]
  simp [backslash]

/-- None of the characters that are written by number has a name in C, and all of them have one in
C#. -/
theorem names_small (small : x.toNat < 0x20) (numbered : isNumbered x = true) :
    l.names x.toNat = l.knows x := by
  cases l with
  | c =>
    rw [Language.knows, numbered, Bool.not_true, ← Bool.not_eq_true]
    intro named
    simp only [Language.names, Bool.or_eq_true, Bool.and_eq_true, decide_eq_true_eq] at named
    omega
  | sharp =>
    have other (y : Char) (h : 0x20 ≤ y.toNat) : x ≠ y := by
      rintro rfl
      omega
    simp [Language.names, Language.knows, other '\x85' (by decide), other '\u2028' (by decide),
      other '\u2029' (by decide)]

theorem readUnits_escapeChar (x : Char) (s : List Char) :
    readUnits l (escapeChar x ++ s) =
      if l.knows x then (readUnits l s).map fun p => (unit x :: p.1, p.2) else none := by
  unfold escapeChar
  split
  iterate 7
    rw [List.cons_append, List.singleton_append, readUnits_escape rfl, if_pos (by cases l <;> rfl)]
    rfl
  · obtain ⟨quote, backslash, backspace, formFeed, newline, return_, tab⟩ :
        x ≠ '"' ∧ x ≠ '\\' ∧ x ≠ '\x08' ∧ x ≠ '\x0c' ∧ x ≠ '\n' ∧ x ≠ '\r' ∧ x ≠ '\t' :=
      ⟨‹_›, ‹_›, ‹_›, ‹_›, ‹_›, ‹_›, ‹_›⟩
    split
    · rename_i small
      have numbered : isNumbered x = true := by
        simp [isNumbered, small, backspace, formFeed, newline, return_, tab]
      have digits : readUnits l (['\\', 'u'] ++ digitsOfWidth lowerHexDigit 16 4 x.toNat ++ s) =
          if l.names x.toNat then (readUnits l s).map fun p => (.code x.toNat :: p.1, p.2)
          else none :=
        readUnits_number (numeral?_number x.toNat small) s
      rw [digits, names_small small numbered, unit, if_pos numbered]
    · rename_i large
      have plain : isNumbered x = false := by simp [isNumbered, large]
      have known : l.raw x = l.knows x := by
        cases l <;> simp [Language.raw, Language.knows, newline, return_, plain]
      rw [List.singleton_append, readUnits_char quote backslash, known]
      simp [unit, plain]

theorem readUnits_quote (s t : List Char) :
    readUnits l (s.flatMap escapeChar ++ '"' :: t) =
      if s.all l.knows then some (s.map unit, t) else none := by
  induction s with
  | nil => rfl
  | cons x s ih =>
    rw [List.flatMap_cons, List.append_assoc, readUnits_escapeChar, ih, List.all_cons]
    cases l.knows x <;> cases s.all l.knows <;> rfl

/-- The literal denotes the text if the language knows all of its characters, and is refused
otherwise. -/
theorem read?_quote (s t : List Char) :
    read? l (quote s ++ t) = if s.all l.knows then some (s, t) else none := by
  rw [quote_append, read?, readUnits_quote]
  split
  · rename_i known
    show (assemble (s.map unit)).map (fun text => (text, t)) = _
    rw [assemble_units]
    rfl
  · rfl

end RequestCode.CFamily
