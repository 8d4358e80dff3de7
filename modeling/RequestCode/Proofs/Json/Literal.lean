import RequestCode.Json.Tree
import RequestCode.Json.Writer

/-!
# String literals are read back

A string is written as one literal, with escapes of two characters, or by number where there is
none. Whatever follows the literal, it reads as the string. Main statement: `readString_quote`.
-/

namespace RequestCode.Json

open Text

variable {x : Char}

/-- The characters that are written by number in a JSON string. -/
def isNumbered (x : Char) : Bool :=
  x.toNat < 0x20 && !(x = '\x08' || x = '\t' || x = '\n' || x = '\x0c' || x = '\r')

def unit (x : Char) : Unit := if isNumbered x then .code x.toNat else .char x

theorem numeral?_number : ∀ n < 0x20,
    numeral? 16 (digitsOfWidth lowerHexDigit 16 4 n) = some n := by decide

theorem assemble_unit (x : Char) (us : List Unit) :
    assemble (unit x :: us) = (assemble us).map (x :: ·) := by
  unfold unit
  split
  · rename_i numbered
    rw [isNumbered, Bool.and_eq_true, decide_eq_true_eq] at numbered
    have small := numbered.1
    rw [assemble.eq_def]
    simp only [show ¬ (0xD800 ≤ x.toNat ∧ x.toNat ≤ 0xDBFF) by omega,
      show ¬ (0xDC00 ≤ x.toNat ∧ x.toNat ≤ 0xDFFF) by omega, if_false, Char.ofNat_toNat]
  · rw [assemble]

theorem assemble_units (s : List Char) : assemble (s.map unit) = some s := by
  induction s with
  | nil => rfl
  | cons x s ih =>
    rw [List.map_cons, assemble_unit, ih]
    rfl

theorem readUnits_escape {e : Char} (h : escaped? e = some x) (s : List Char) :
    readUnits ('\\' :: e :: s) = (readUnits s).map fun p => (.char x :: p.1, p.2) := by
  rw [readUnits, h]
  · cases readUnits s <;> rfl
  · rintro a b c d r rfl
    cases h

theorem readUnits_number {a b c d : Char} {n : Nat} (h : numeral? 16 [a, b, c, d] = some n)
    (s : List Char) :
    readUnits ('\\' :: 'u' :: a :: b :: c :: d :: s) =
      (readUnits s).map fun p => (.code n :: p.1, p.2) := by
  rw [readUnits, h]
  cases readUnits s <;> rfl

theorem readUnits_char (quote : x ≠ '"') (backslash : x ≠ '\\') (large : ¬ x.toNat < 0x20)
    (s : List Char) : readUnits (x :: s) = (readUnits s).map fun p => (.char x :: p.1, p.2) := by
  rw [readUnits.eq_def]
  cases rest : readUnits s <;> simp [backslash, large, rest]

theorem readUnits_escapeChar (x : Char) (s : List Char) :
    readUnits (escapeChar x ++ s) = (readUnits s).map fun p => (unit x :: p.1, p.2) := by
  unfold escapeChar
  split
  iterate 7
    rw [List.cons_append, List.singleton_append, readUnits_escape rfl]
    rfl
  · obtain ⟨quote, backslash, backspace, formFeed, newline, return_, tab⟩ :
        x ≠ '"' ∧ x ≠ '\\' ∧ x ≠ '\x08' ∧ x ≠ '\x0c' ∧ x ≠ '\n' ∧ x ≠ '\r' ∧ x ≠ '\t' :=
      ⟨‹_›, ‹_›, ‹_›, ‹_›, ‹_›, ‹_›, ‹_›⟩
    split
    · rename_i small
      have numbered : isNumbered x = true := by
        simp [isNumbered, small, backspace, formFeed, newline, return_, tab]
      rw [unit, if_pos numbered]
      exact readUnits_number (numeral?_number x.toNat small) s
    · rename_i large
      rw [List.singleton_append, readUnits_char quote backslash large]
      simp [unit, isNumbered, large]

theorem quote_append (s t : List Char) :
    quote s ++ t = '"' :: (s.flatMap escapeChar ++ '"' :: t) := by
  simp [quote]

theorem readUnits_quote (s t : List Char) :
    readUnits (s.flatMap escapeChar ++ '"' :: t) = some (s.map unit, t) := by
  induction s with
  | nil => rfl
  | cons x s ih =>
    rw [List.flatMap_cons, List.append_assoc, readUnits_escapeChar, ih]
    rfl

/-- Behind its opening quote, the literal of a text reads as the text. -/
theorem readString_quote (s t : List Char) :
    readString (s.flatMap escapeChar ++ '"' :: t) = some (some (.ofList s), t) := by
  rw [readString, readUnits_quote]
  show some ((assemble (s.map unit)).map String.ofList, t) = _
  rw [assemble_units]
  rfl

end RequestCode.Json
