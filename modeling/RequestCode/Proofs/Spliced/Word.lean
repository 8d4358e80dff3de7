import Mathlib.Data.List.Infix
import Mathlib.Data.List.TakeWhile
import RequestCode.Text.Case

/-!
# Words of a program

An identifier or a keyword goes on for as long as its characters do. Main statement:
`read_append_iff`, a text in front of something else is read as one word exactly if it is a word of
the language by itself.
-/

namespace RequestCode.Spliced

open Text

/-- The letters and digits of a language, which are the usual ones within ASCII. -/
structure Alphabet where
  letter : Char → Bool
  digit : Char → Bool
  letter_ascii : ∀ {c}, isAscii c = true → letter c = isAsciiAlpha c
  digit_ascii : ∀ {c}, isAscii c = true → digit c = isDecimal c

structure Lexis where
  /-- The characters that a word goes on with. -/
  inner : Char → Bool
  /-- Whether such characters make up a word. -/
  formed : List Char → Bool

namespace Lexis

variable {x : Lexis} {s rest : List Char}

def read (x : Lexis) (s : List Char) : Option (List Char × List Char) :=
  let w := s.takeWhile x.inner
  if !w.isEmpty && x.formed w then some (w, s.dropWhile x.inner) else none

structure IsWord (x : Lexis) (w : List Char) : Prop where
  nonempty : w ≠ []
  inner : ∀ c ∈ w, x.inner c = true
  formed : x.formed w = true

/-- No word goes on into the text. -/
def Stops (x : Lexis) (rest : List Char) : Prop := ∀ c ∈ rest.head?, x.inner c = false

theorem Stops.takeWhile_eq (h : x.Stops rest) : rest.takeWhile x.inner = [] := by
  cases rest with
  | nil => rfl
  | cons c rest => exact List.takeWhile_cons_of_neg (by simp [h c rfl])

theorem Stops.dropWhile_eq (h : x.Stops rest) : rest.dropWhile x.inner = rest := by
  cases rest with
  | nil => rfl
  | cons c rest => exact List.dropWhile_cons_of_neg (by simp [h c rfl])

theorem takeWhile_append (h : x.Stops rest) :
    (s ++ rest).takeWhile x.inner = s.takeWhile x.inner := by
  induction s with
  | nil => exact h.takeWhile_eq
  | cons c s ih => rw [List.cons_append, List.takeWhile_cons, List.takeWhile_cons, ih]

/-- What the word leaves of a text stands in front of what follows the text. -/
theorem dropWhile_append (h : x.Stops rest) :
    (s ++ rest).dropWhile x.inner = s.dropWhile x.inner ++ rest := by
  induction s with
  | nil => exact h.dropWhile_eq
  | cons c s ih =>
    rw [List.cons_append, List.dropWhile_cons, List.dropWhile_cons, ih]
    split <;> rfl

/-- A text in front of something else is read as one word exactly if it is a word by itself. -/
theorem read_append_iff (h : x.Stops rest) : x.read (s ++ rest) = some (s, rest) ↔ x.IsWord s := by
  unfold read
  rw [takeWhile_append h, dropWhile_append h]
  constructor
  · intro whole
    obtain ⟨formed, same⟩ := Option.ite_none_right_eq_some.mp whole
    rw [Bool.and_eq_true] at formed
    obtain ⟨word, -⟩ := Prod.mk.inj (Option.some.inj same)
    rw [word] at formed
    exact ⟨by simpa using formed.1, List.takeWhile_eq_self_iff.mp word, formed.2⟩
  · intro word
    rw [List.takeWhile_eq_self_iff.mpr word.inner, List.dropWhile_eq_nil_iff.mpr word.inner]
    simp [word.nonempty, word.formed]

end Lexis

/-- An identifier: a letter or underscore, and then letters, digits and underscores. -/
def identifier (alphabet : Alphabet) : Lexis where
  inner c := alphabet.letter c || alphabet.digit c || c = '_'
  formed
    | [] => false
    | c :: _ => alphabet.letter c || c = '_'

/-- The characters that end a word in Clojure, apart from white space. -/
def clojureMarks : List Char :=
  ['"', ';', '@', '^', '\x60', '~', '(', ')', '[', ']', '\x7b', '\x7d', '\\', ',']

def clojureBlankSet : RangeSet :=
  ⟨[(0x09, 0x0D), (0x1C, 0x20), (0x1680, 0x1680), (0x2000, 0x2006), (0x2008, 0x200A),
    (0x2028, 0x2029), (0x205F, 0x205F), (0x3000, 0x3000)]⟩

/-- A keyword without a namespace, given by what follows its colon. Colons stand only between other
characters, and a slash only by itself. -/
def keyword : Lexis where
  inner c := !clojureBlankSet.contains c && !clojureMarks.contains c
  formed w :=
    (w = ['/'] || !w.contains '/') && !([':', ':'] <:+: ':' :: w) && w.getLast? ≠ some ':'

end RequestCode.Spliced
