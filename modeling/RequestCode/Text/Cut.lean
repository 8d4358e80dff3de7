/-!
# Cutting texts

A text is cut at the first occurrence of a character, or at every one. Cutting loses nothing:
joining the parts with the character gives the text back.
-/

namespace RequestCode.Text

/-- The parts around the first `sep`, if there is one. -/
def cutFirst (sep : Char) : List Char → Option (List Char × List Char)
  | [] => none
  | c :: r => if c = sep then some ([], r) else (cutFirst sep r).map fun p => (c :: p.1, p.2)

theorem eq_of_cutFirst {sep : Char} {s a b : List Char} (h : cutFirst sep s = some (a, b)) :
    s = a ++ sep :: b := by
  induction s generalizing a with
  | nil => simp [cutFirst] at h
  | cons c r ih =>
    by_cases hc : c = sep
    · simp [cutFirst, hc] at h
      simp [hc, ← h.1, h.2]
    · simp [cutFirst, hc] at h
      obtain ⟨x, hx, rfl⟩ := h
      simp [ih hx]

theorem not_mem_of_cutFirst {sep : Char} {s a b : List Char} (h : cutFirst sep s = some (a, b)) :
    sep ∉ a := by
  induction s generalizing a with
  | nil => simp [cutFirst] at h
  | cons c r ih =>
    by_cases hc : c = sep
    · simp [cutFirst, hc] at h
      simp [h.1]
    · simp [cutFirst, hc] at h
      obtain ⟨x, hx, rfl⟩ := h
      simp [ih hx, Ne.symm hc]

theorem cutFirst_append {sep : Char} {a : List Char} (b : List Char) (h : sep ∉ a) :
    cutFirst sep (a ++ sep :: b) = some (a, b) := by
  induction a with
  | nil => simp [cutFirst]
  | cons c r ih =>
    simp only [List.mem_cons, not_or] at h
    simp [cutFirst, Ne.symm h.1, ih h.2]

theorem cutFirst_eq_none {sep : Char} {s : List Char} : cutFirst sep s = none ↔ sep ∉ s := by
  induction s with
  | nil => simp [cutFirst]
  | cons c r ih =>
    by_cases hc : c = sep
    · simp [cutFirst, hc]
    · simp [cutFirst, hc, ih, Ne.symm hc]

/-- The parts between the occurrences of `sep`; one more part than occurrences. -/
def pieces (sep : Char) : List Char → List (List Char)
  | [] => [[]]
  | c :: r =>
    if c = sep then [] :: pieces sep r
    else match pieces sep r with
      | [] => [[c]]
      | p :: ps => (c :: p) :: ps

theorem pieces_ne_nil (sep : Char) (s : List Char) : pieces sep s ≠ [] := by
  cases s with
  | nil => simp [pieces]
  | cons c r =>
    by_cases hc : c = sep
    · simp [pieces, hc]
    · simp only [pieces, hc, if_false]
      split <;> simp

/-- The inverse of `pieces`. -/
def joined (sep : Char) : List (List Char) → List Char
  | [] => []
  | [p] => p
  | p :: q :: ps => p ++ sep :: joined sep (q :: ps)

theorem joined_pieces (sep : Char) (s : List Char) : joined sep (pieces sep s) = s := by
  induction s with
  | nil => rfl
  | cons c r ih =>
    by_cases hc : c = sep
    · rw [pieces, if_pos hc]
      cases h : pieces sep r with
      | nil => exact absurd h (pieces_ne_nil sep r)
      | cons p ps => rw [h] at ih; simp [joined, ih, hc]
    · rw [pieces, if_neg hc]
      cases h : pieces sep r with
      | nil => exact absurd h (pieces_ne_nil sep r)
      | cons p ps =>
        rw [h] at ih
        cases ps with
        | nil => simpa [joined] using ih
        | cons q qs => simpa [joined] using ih

theorem pieces_append {sep : Char} {a : List Char} (b : List Char) (h : sep ∉ a) :
    pieces sep (a ++ sep :: b) = a :: pieces sep b := by
  induction a with
  | nil => simp [pieces]
  | cons c r ih =>
    simp only [List.mem_cons, not_or] at h
    simp [pieces, Ne.symm h.1, ih h.2]

theorem pieces_of_not_mem {sep : Char} {a : List Char} (h : sep ∉ a) : pieces sep a = [a] := by
  induction a with
  | nil => rfl
  | cons c r ih =>
    simp only [List.mem_cons, not_or] at h
    simp [pieces, Ne.symm h.1, ih h.2]

theorem not_mem_of_mem_pieces {sep : Char} {s p : List Char} (h : p ∈ pieces sep s) : sep ∉ p := by
  induction s generalizing p with
  | nil => simp_all [pieces]
  | cons c r ih =>
    by_cases hc : c = sep
    · rw [pieces, if_pos hc, List.mem_cons] at h
      rcases h with rfl | later
      · exact List.not_mem_nil
      · exact ih later
    · rw [pieces, if_neg hc] at h
      cases hr : pieces sep r with
      | nil => exact absurd hr (pieces_ne_nil sep r)
      | cons q qs =>
        simp only [hr, List.mem_cons] at h ih
        rcases h with rfl | later
        · rw [List.mem_cons, not_or]
          exact ⟨Ne.symm hc, ih (.inl rfl)⟩
        · exact ih (.inr later)

/-- Drop the characters of a class from both ends. -/
def strip (p : Char → Bool) (s : List Char) : List Char :=
  ((s.dropWhile p).reverse.dropWhile p).reverse

end RequestCode.Text
