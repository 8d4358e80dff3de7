import RequestCode.Proofs.Yaml.Cursor

/-!
# Plain scalars are read back

A plain text ends where its line does, or at a colon with a gap after it; what `canBePlain` asks of
a text is that it holds no such end itself. Main statements: `readPlain_line` for a value and
`readPlain_key` for a key.
-/

namespace RequestCode.Yaml

variable {c d : Char} {s t u o b : List Char} {i l k j indent f : Nat}

/-- A text, or the rest of one, in which no plain scalar ends. -/
structure Bare (s : List Char) : Prop where
  printable : ∀ c ∈ s, isPrintable c = true
  oneLine : ∀ c ∈ s, isBreak c = false
  lastBlank : s.getLast? ≠ some ' '
  lastColon : s.getLast? ≠ some ':'
  noColon : hasPair (· = ':') isGap s = false
  noHash : hasPair isGap (· = '#') s = false

theorem bare_of_canBePlain (h : canBePlain s = true) : Bare s := by
  simp only [canBePlain, hasMark, Bool.and_eq_true, List.all_eq_true, Bool.not_eq_true',
    Bool.or_eq_false_iff] at h
  obtain ⟨⟨⟨chars, -⟩, last⟩, ⟨⟨-, colon⟩, noColon⟩, noHash⟩ := h
  refine ⟨fun c hc => (chars c hc).1, fun c hc => (chars c hc).2, ?_, ?_, noColon, noHash⟩
  · intro blank
    simp [blank, isEdge, isSpace] at last
  · simpa using colon

theorem Bare.tail (h : Bare (c :: s)) : Bare s where
  printable d hd := h.printable d (List.mem_cons_of_mem c hd)
  oneLine d hd := h.oneLine d (List.mem_cons_of_mem c hd)
  lastBlank last := h.lastBlank (by simp [List.getLast?_cons, last])
  lastColon last := h.lastColon (by simp [List.getLast?_cons, last])
  noColon := hasPair_of_hasPair_append (s := [c]) h.noColon
  noHash := hasPair_of_hasPair_append (s := [c]) h.noHash

theorem readPlain_blank (h : isBlank d = true) :
    readPlain false indent (f + 1) ⟨d :: t, i, l, k⟩ ⟨b, false, [], []⟩ o =
      readPlain false indent f ⟨t, i + 1, l, k + 1⟩ ⟨b ++ [d], false, [], []⟩ o := by
  simp [readPlain, h, Gap.addBlank]

theorem readPlain_char (blank : isBlank d = false) (lineBreak : isBreak d = false)
    (mark : (⟨d :: t, i, l, k⟩ : Cursor).atDocumentMark = false)
    (gap : b ≠ [] → indent ≤ k ∧ d ≠ '#')
    (colon : d = ':' → (⟨d :: t, i, l, k⟩ : Cursor).gapAt 1 = false) :
    readPlain false indent (f + 1) ⟨d :: t, i, l, k⟩ ⟨b, false, [], []⟩ o =
      readPlain false indent f ⟨t, i + 1, l, k + 1⟩ .empty (o ++ b ++ [d]) := by
  have noEnd : ¬ (d = ':' ∧ (⟨d :: t, i, l, k⟩ : Cursor).gapAt 1 = true) := by
    rintro ⟨hd, hgap⟩
    rw [colon hd] at hgap
    cases hgap
  cases b with
  | nil => simp [readPlain, blank, lineBreak, mark, Gap.isEmpty, noEnd, Gap.text]
  | cons a b =>
    obtain ⟨column, hash⟩ := gap (List.cons_ne_nil a b)
    simp [readPlain, blank, lineBreak, mark, Gap.isEmpty, noEnd, Gap.text, hash,
      Nat.not_lt.mpr column]

/-- A colon inside a plain text has no gap after it. -/
theorem Bare.gapAt_colon (h : Bare (':' :: s)) :
    (⟨':' :: (s ++ t), i, l, k⟩ : Cursor).gapAt 1 = false := by
  cases s with
  | nil => exact absurd rfl h.lastColon
  | cons d s =>
    have pair := h.noColon
    simp only [hasPair_cons, isGap, List.head?_cons, Option.any_some, decide_true, Bool.true_and,
      Bool.or_eq_false_iff] at pair
    simp [Cursor.gapAt, Cursor.peek, pair.1.1]

theorem readPlain_append (h : Bare s) (hash : b ≠ [] → s.head? ≠ some '#') (ends : s = [] → b = [])
    (column : indent ≤ k ∨ b = [] ∧ ' ' ∉ s)
    (mark : (⟨s ++ t, i, l, k⟩ : Cursor).atDocumentMark = false ∨ s = []) :
    readPlain false indent (f + s.length) ⟨s ++ t, i, l, k⟩ ⟨b, false, [], []⟩ o =
      readPlain false indent f ⟨t, i + s.length, l, k + s.length⟩ .empty (o ++ b ++ s) := by
  induction s generalizing b o i k with
  | nil => simp [ends rfl, Gap.empty]
  | cons c s ih =>
    have next : (⟨s ++ t, i + 1, l, k + 1⟩ : Cursor).atDocumentMark = false :=
      Cursor.atDocumentMark_of_pos (Nat.succ_pos k)
    have fuels : f + (c :: s).length = f + s.length + 1 := by
      rw [List.length_cons, Nat.add_assoc]
    have places (n : Nat) : n + (c :: s).length = n + 1 + s.length := by
      rw [List.length_cons, Nat.add_right_comm, Nat.add_assoc]
    rw [fuels, places, places, List.cons_append]
    by_cases blank : c = ' '
    · subst blank
      have inside : indent ≤ k := by
        rcases column with column | ⟨-, none⟩
        · exact column
        · exact absurd List.mem_cons_self none
      have noHash : s.head? ≠ some '#' := by
        intro head
        have pair := h.noHash
        simp [hasPair_cons, head, isGap, isBlank] at pair
      have ends : s = [] → b ++ [' '] = [] := by
        rintro rfl
        exact absurd rfl h.lastBlank
      rw [readPlain_blank rfl,
        ih h.tail (fun _ => noHash) ends (.inl (Nat.le_succ_of_le inside)) (.inl next)]
      simp
    · have noBlank : isBlank c = false := by
        simp [isBlank, blank, ne_tab_of_isPrintable (h.printable c List.mem_cons_self)]
      have gap : b ≠ [] → indent ≤ k ∧ c ≠ '#' := by
        intro hb
        refine ⟨?_, fun hc => hash hb (by rw [hc]; rfl)⟩
        rcases column with column | ⟨nothing, -⟩
        · exact column
        · exact absurd nothing hb
      have column : indent ≤ k + 1 ∨ ([] : List Char) = [] ∧ ' ' ∉ s := by
        rcases column with column | ⟨-, none⟩
        · exact .inl (Nat.le_succ_of_le column)
        · exact .inr ⟨rfl, fun mem => none (List.mem_cons_of_mem c mem)⟩
      have colon : c = ':' → (⟨c :: (s ++ t), i, l, k⟩ : Cursor).gapAt 1 = false := by
        rintro rfl
        exact h.gapAt_colon
      rw [readPlain_char noBlank (h.oneLine c List.mem_cons_self) (by simpa using mark) gap colon,
        Gap.empty, ih h.tail (fun none => absurd rfl none) (fun _ => rfl) column (.inl next)]
      simp [Gap.empty]

/-! ### Where a plain text ends -/

theorem readPlain_spaces (first more : List Char) :
    readPlain false indent (f + j) ⟨spaces j ++ t, i, l, k⟩ ⟨[], true, first, more⟩ o =
      readPlain false indent f ⟨t, i + j, l, k + j⟩ ⟨[], true, first, more⟩ o := by
  induction j generalizing i k with
  | zero => rfl
  | succ j ih =>
    have blank : isBlank ' ' = true := rfl
    rw [← Nat.add_assoc, spaces, List.replicate_succ, List.cons_append, readPlain]
    simp only [blank, if_true, Cursor.skip_one, Gap.addBlank]
    rw [if_neg (by simp), ← spaces, ih, Nat.add_right_comm, Nat.add_right_comm k]
    rfl

/-- A line that stands further left is no part of the text. -/
theorem readPlain_outdented (hu : Opens u) (hk : k < indent) (first more : List Char) :
    readPlain false indent (f + 1) ⟨u, i, l, k⟩ ⟨[], true, first, more⟩ o =
      some (o, true, ⟨u, i, l, k⟩) := by
  cases u with
  | nil => rfl
  | cons d u =>
    obtain ⟨blank, lineBreak, -⟩ := hu d rfl
    simp [readPlain, blank, lineBreak, Gap.isEmpty, hk]

theorem readPlain_line (h : Bare s) (hk : 0 < k) (column : indent ≤ k) (hu : Opens u)
    (hj : j < indent) :
    ∃ i' l', readPlain false indent ((s ++ '\n' :: (spaces j ++ u)).length + 1)
      ⟨s ++ '\n' :: (spaces j ++ u), i, l, k⟩ .empty [] = some (s, true, ⟨u, i', l', j⟩) := by
  have fuels : (s ++ '\n' :: (spaces j ++ u)).length + 1 = u.length + 1 + j + 1 + s.length := by
    simp [spaces]
    omega
  have lineBreak : isBreak '\n' = true := rfl
  have blank : isBlank '\n' = false := rfl
  have column : indent ≤ k ∨ ([] : List Char) = [] ∧ ' ' ∉ s := .inl column
  refine ⟨i + s.length + 1 + j, l + 1, ?_⟩
  rw [fuels, Gap.empty, readPlain_append h (fun none => absurd rfl none) (fun _ => rfl) column
    (.inl (Cursor.atDocumentMark_of_pos hk)), readPlain]
  simp only [blank, lineBreak, Bool.false_eq_true, if_false, if_true, Cursor.takeBreak_newline,
    Gap.addBreak, Gap.empty, List.nil_append]
  rw [readPlain_spaces, Nat.zero_add, readPlain_outdented hu hj]

theorem readPlain_key (h : Bare s) (hs : s ≠ []) (noBlank : ' ' ∉ s)
    (mark : (⟨s ++ ':' :: t, i, l, k⟩ : Cursor).atDocumentMark = false)
    (gap : (⟨':' :: t, i, l, k⟩ : Cursor).gapAt 1 = true) :
    readPlain false indent ((s ++ ':' :: t).length + 1) ⟨s ++ ':' :: t, i, l, k⟩ .empty [] =
      some (s, false, ⟨':' :: t, i + s.length, l, k + s.length⟩) := by
  have fuels : (s ++ ':' :: t).length + 1 = t.length + 1 + 1 + s.length := by
    simp
    omega
  have pos : 0 < k + s.length := Nat.add_pos_right k (List.length_pos_iff.mpr hs)
  have ends : (⟨':' :: t, i + s.length, l, k + s.length⟩ : Cursor).gapAt 1 = true := gap
  have lineBreak : isBreak ':' = false := rfl
  have blank : isBlank ':' = false := rfl
  have column : indent ≤ k ∨ ([] : List Char) = [] ∧ ' ' ∉ s := .inr ⟨rfl, noBlank⟩
  rw [fuels, Gap.empty, readPlain_append h (fun none => absurd rfl none) (fun _ => rfl) column
    (.inl mark), readPlain]
  simp [blank, lineBreak, Cursor.atDocumentMark_of_pos pos, ends, Gap.empty, Gap.isEmpty]

end RequestCode.Yaml
