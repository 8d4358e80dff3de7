import RequestCode.Proofs.Yaml.Style

/-!
# Places in a written text

How a place in a text moves past what a writer puts there: a character, a line break that keeps its
identity, an indentation.
-/

namespace RequestCode.Yaml

variable {d : Char} {s t : List Char} {i l k n m : Nat}

namespace Cursor

@[simp]
theorem skip_one : (⟨d :: t, i, l, k⟩ : Cursor).skip 1 = ⟨t, i + 1, l, k + 1⟩ := rfl

@[simp]
theorem skip_zero (c : Cursor) : c.skip 0 = c := rfl

@[simp]
theorem skip_length_append :
    (⟨s ++ t, i, l, k⟩ : Cursor).skip s.length = ⟨t, i + s.length, l, k + s.length⟩ := by
  simp [skip]

@[simp]
theorem skip_spaces :
    (⟨spaces n ++ t, i, l, k⟩ : Cursor).skip n = ⟨t, i + n, l, k + n⟩ := by
  simp [skip, spaces]

theorem takeBreak_newline :
    (⟨'\n' :: t, i, l, k⟩ : Cursor).takeBreak = (['\n'], ⟨t, i + 1, l + 1, 0⟩) := rfl

/-- A printable line break keeps its identity. -/
theorem takeBreak_of_isPrintable (hb : isBreak d = true) (hp : isPrintable d = true) :
    (⟨d :: t, i, l, k⟩ : Cursor).takeBreak = ([d], ⟨t, i + 1, l + 1, 0⟩) := by
  by_cases newline : d = '\n'
  · rw [newline]
    rfl
  · have ret : d ≠ '\r' := by
      rintro rfl
      exact absurd hp (by decide)
    have next : d ≠ '\u0085' := by
      rintro rfl
      exact absurd hp (by decide)
    simp [takeBreak, newline, ret, next, hb, nextLine]

theorem atDocumentMark_of_pos (h : 0 < k) :
    (⟨t, i, l, k⟩ : Cursor).atDocumentMark = false := by
  simp [atDocumentMark, Nat.pos_iff_ne_zero.mp h]

end Cursor

/-- Where a line of a block starts, and nothing can be skipped; the end of the text counts. -/
def Opens (t : List Char) : Prop :=
  ∀ d, t.head? = some d → isBlank d = false ∧ isBreak d = false ∧ d ≠ '#' ∧ d ≠ '\uFEFF'

theorem opens_nil : Opens [] := fun _ h => nomatch h

end RequestCode.Yaml
