import RequestCode.Proofs.Yaml.Cursor

/-!
# Literal blocks are read back

A block keeps its lines as they are. Its marks say how far it is indented, where that does not
show, and how many of the line breaks at its end belong to it. Main statement:
`readBlock_literalBlock`.
-/

namespace RequestCode.Yaml

variable {c d : Char} {s t u w a o first more text : List Char}
variable {i l j k n f g parent : Nat} {b fresh : Bool}

/-! ### Indented lines -/

theorem indented_break (h : isBreak c = true) :
    indented n fresh (c :: s) = c :: indented n true s := by
  rw [indented, if_pos h]

theorem indented_line (h : ∀ c ∈ s, isBreak c = false) :
    indented n false (s ++ t) = s ++ indented n false t := by
  induction s with
  | nil => rfl
  | cons c s ih =>
    rw [List.cons_append, indented, if_neg (by simp [h c List.mem_cons_self]),
      ih fun d hd => h d (List.mem_cons_of_mem c hd)]
    rfl

theorem indented_concat_newline :
    indented n fresh (s ++ ['\n']) = indented n fresh s ++ ['\n'] := by
  induction s generalizing fresh with
  | nil => rfl
  | cons c s ih =>
    rw [List.cons_append, indented, indented]
    split
    · rw [ih, List.cons_append]
    · rw [ih, List.append_assoc, List.cons_append]

theorem length_le_length_indented : s.length ≤ (indented n fresh s).length := by
  induction s generalizing fresh with
  | nil => exact Nat.zero_le 0
  | cons c s ih =>
    rw [indented]
    split
    · exact Nat.succ_le_succ ih
    · have longer : s.length ≤ (indented n false s).length := ih
      simp only [List.length_append, List.length_cons]
      omega

theorem spaces_length : (spaces n).length = n := List.length_replicate

theorem takeWhile_spaces (h : t.head? ≠ some ' ') :
    (spaces n ++ t).takeWhile (· = ' ') = spaces n := by
  have none : t.takeWhile (· = ' ') = [] := by
    cases t with
    | nil => rfl
    | cons c t =>
      have hc : c ≠ ' ' := fun hc => h (by rw [hc]; rfl)
      simp [hc]
  rw [List.takeWhile_append_of_pos (by simp [spaces]), none, List.append_nil]

theorem le_length_takeWhile_spaces : n ≤ ((spaces n ++ t).takeWhile (· = ' ')).length := by
  rw [List.takeWhile_append_of_pos (by simp [spaces])]
  simp [spaces]

/-! ### Empty lines -/

/-- The indentation of a line is skipped, and no more of it than that of the block. -/
theorem readBlockBreaks_spaces (wide : n = j ∨ j < n ∧ t.head? ≠ some ' ')
    (tab : t.head? ≠ some '\t') (lineBreak : t.head?.any isBreak = false) :
    readBlockBreaks (some n) (f + 1) ⟨spaces j ++ t, i, l, 0⟩ a g =
      some (a, max g j, ⟨t, i + j, l, j⟩) := by
  have width : min ((spaces j ++ t).takeWhile (· = ' ')).length n = j := by
    rcases wide with rfl | ⟨less, noSpace⟩
    · exact Nat.min_eq_right le_length_takeWhile_spaces
    · rw [takeWhile_spaces noSpace, spaces, List.length_replicate,
        Nat.min_eq_left (Nat.le_of_lt less)]
  rw [readBlockBreaks]
  simp [width, Cursor.isAt, tab, Cursor.atBreak, lineBreak]

theorem readBlockBreaks_break (hb : isBreak c = true) (hp : isPrintable c = true) :
    readBlockBreaks (some n) (f + 1) ⟨c :: t, i, l, 0⟩ a g =
      readBlockBreaks (some n) f ⟨t, i + 1, l + 1, 0⟩ (a ++ [c]) g := by
  have space : c ≠ ' ' := by
    rintro rfl
    exact absurd hb (by decide)
  rw [readBlockBreaks]
  simp [space, ne_tab_of_isPrintable hp, Cursor.isAt, Cursor.atBreak, hb,
    Cursor.takeBreak_of_isPrintable hb hp]

/-- Where the lines of a block go on: at its indentation, or behind the block if none is left. -/
def linePlace (n j : Nat) (u : List Char) (i l : Nat) : List Char → Cursor
  | [] => ⟨u, i, l, j⟩
  | c :: w => ⟨indented n false (c :: w) ++ (spaces j ++ u), i, l, n⟩

theorem readBlockBreaks_indented (printable : ∀ c ∈ w, isPrintable c = true) (hu : Opens u)
    (hj : j < n) (hf : w.length < f) :
    ∃ width i' l', readBlockBreaks (some n) f
        ⟨indented n true w ++ (spaces j ++ u), i, l, 0⟩ a g =
      some (a ++ w.takeWhile isBreak, width, linePlace n j u i' l' (w.dropWhile isBreak)) := by
  obtain ⟨f, rfl⟩ : ∃ m, f = m + 1 := ⟨f - 1, by omega⟩
  induction w generalizing a i l f with
  | nil =>
    refine ⟨max g j, i + j, l, ?_⟩
    have space : u.head? ≠ some ' ' := fun h => by simpa [isBlank] using (hu ' ' h).1
    have tab : u.head? ≠ some '\t' := fun h => by simpa [isBlank] using (hu '\t' h).1
    have lineBreak : u.head?.any isBreak = false := by
      cases h : u.head? with
      | none => rfl
      | some d => exact (hu d h).2.1
    rw [indented, List.nil_append, readBlockBreaks_spaces (.inr ⟨hj, space⟩) tab lineBreak]
    simp [linePlace]
  | cons c w ih =>
    have hp := printable c List.mem_cons_self
    cases lineBreak : isBreak c with
    | true =>
      obtain ⟨f, rfl⟩ : ∃ m, f = m + 1 := ⟨f - 1, by simp at hf; omega⟩
      obtain ⟨width, i', l', read⟩ := ih (a := a ++ [c]) (i := i + 1) (l := l + 1)
        (fun d hd => printable d (List.mem_cons_of_mem c hd)) f (by simpa using hf)
      refine ⟨width, i', l', ?_⟩
      rw [indented_break lineBreak, List.cons_append, readBlockBreaks_break lineBreak hp, read]
      simp [lineBreak]
    | false =>
      refine ⟨max g n, i + n, l, ?_⟩
      have line : indented n true (c :: w) = spaces n ++ indented n false (c :: w) := by
        simp [indented, lineBreak]
      have head : (indented n false (c :: w) ++ (spaces j ++ u)).head? = some c := by
        simp [indented, lineBreak]
      rw [line, List.append_assoc, readBlockBreaks_spaces (.inl rfl)
        (by rw [head]; exact fun h => ne_tab_of_isPrintable hp (Option.some.inj h))
        (by rw [head]; exact lineBreak)]
      simp [lineBreak, linePlace]

/-! ### Lines -/

/-- A text cut in front of the line breaks at its end: the break that ends its last line, if it has
one, and those after it. -/
structure Ended (o first more text : List Char) : Prop where
  whole : o ++ first ++ more = text
  breaks : ∀ c ∈ first ++ more, isBreak c = true
  line : (o = [] ∧ first = []) ∨
    (first.length = 1 ∧ ∃ c, o.getLast? = some c ∧ isBreak c = false)

/-- A text whose lines are all ended splits after its first line. -/
theorem exists_line (hw : w ≠ []) (ended : w.getLast?.all isBreak = true) :
    ∃ line d rest, w = line ++ d :: rest ∧ (∀ c ∈ line, isBreak c = false) ∧ isBreak d = true := by
  induction w with
  | nil => exact absurd rfl hw
  | cons c w ih =>
    cases lineBreak : isBreak c with
    | true => exact ⟨[], c, w, rfl, by simp, lineBreak⟩
    | false =>
      have hw : w ≠ [] := by
        rintro rfl
        simp [lineBreak] at ended
      obtain ⟨line, d, rest, rfl, line_no_break, hd⟩ := ih hw (by
        rw [List.getLast?_cons] at ended
        obtain ⟨e, he⟩ := Option.ne_none_iff_exists'.mp (mt List.getLast?_eq_none_iff.mp hw)
        rw [he] at ended ⊢
        exact ended)
      refine ⟨c :: line, d, rest, rfl, ?_, hd⟩
      intro e he
      rcases List.mem_cons.mp he with rfl | he
      · exact lineBreak
      · exact line_no_break e he

theorem getLast?_all_of_append {p : Char → Bool} (h : (s ++ t).getLast?.all p = true) :
    t.getLast?.all p = true := by
  rw [List.getLast?_append] at h
  cases last : t.getLast? with
  | none => rfl
  | some c => simpa [last] using h

theorem head?_dropWhile_isBreak : (s.dropWhile isBreak).head?.any isBreak = false := by
  have head := List.head?_dropWhile_not isBreak s
  cases h : (s.dropWhile isBreak).head? with
  | none => rfl
  | some c => simpa [h] using head

theorem readBlockLines_line (f : Nat) (first more o : List Char) (b : Bool)
    (hs : ∀ c ∈ s, isBreak c = false) (hb : isBreak d = true)
    (hp : isPrintable d = true) {breaks : List Char} {width : Nat} {place : Cursor}
    (empty : readBlockBreaks (some n) (t.length + 1) ⟨t, i + s.length + 1, l + 1, 0⟩ [] 0 =
      some (breaks, width, place)) :
    ∃ startsBlank, readBlockLines true n (f + 1) ⟨s ++ d :: t, i, l, n⟩ first more b o =
      readBlockLines true n f place [d] breaks startsBlank (o ++ (first ++ more) ++ s) := by
  have line : (s ++ d :: t).takeWhile (!isBreak ·) = s := by
    rw [List.takeWhile_append_of_pos (by simpa using hs), List.takeWhile_cons_of_neg (by simp [hb]),
      List.append_nil]
  refine ⟨(⟨s ++ d :: t, i, l, n⟩ : Cursor).atBlank, ?_⟩
  rw [readBlockLines]
  simp [line, Cursor.takeBreak_of_isPrintable hb hp, empty]

theorem readBlockLines_next (f : Nat) (first more o : List Char) (b : Bool) (hs : s ≠ [])
    (hline : ∀ c ∈ s, isBreak c = false) (hd : isBreak d = true) (hp : isPrintable d = true)
    (printable : ∀ c ∈ w, isPrintable c = true) (hu : Opens u) (hj : j < n) :
    ∃ i' l' startsBlank,
      readBlockLines true n (f + 1) (linePlace n j u i l (s ++ d :: w)) first more b o =
        readBlockLines true n f (linePlace n j u i' l' (w.dropWhile isBreak)) [d]
          (w.takeWhile isBreak) startsBlank (o ++ (first ++ more) ++ s) := by
  have place : linePlace n j u i l (s ++ d :: w) =
      ⟨s ++ d :: (indented n true w ++ (spaces j ++ u)), i, l, n⟩ := by
    have lines : indented n false (s ++ d :: w) = s ++ d :: indented n true w := by
      rw [indented_line hline, indented_break hd]
    obtain ⟨c, s, rfl⟩ := List.exists_cons_of_ne_nil hs
    rw [List.cons_append] at lines ⊢
    rw [linePlace, lines, List.append_assoc]
    rfl
  have longer : w.length ≤ (indented n true w).length := length_le_length_indented
  obtain ⟨width, i', l', empty⟩ := readBlockBreaks_indented (a := []) (g := 0)
    (i := i + s.length + 1) (l := l + 1)
    (f := (indented n true w ++ (spaces j ++ u)).length + 1) printable hu hj
    (by simp only [List.length_append]; omega)
  obtain ⟨startsBlank, read⟩ := readBlockLines_line f first more o b hline hd hp empty
  refine ⟨i', l', startsBlank, ?_⟩
  rw [place]
  exact read

/-- After a line its own break is the last one, with the empty lines behind it. -/
theorem Ended.next (cut : Ended o first more text) (hs : s ≠ [])
    (hline : ∀ c ∈ s, isBreak c = false) (hd : isBreak d = true) :
    Ended (o ++ (first ++ more) ++ s) [d] (w.takeWhile isBreak)
      (text ++ (s ++ d :: w.takeWhile isBreak)) where
  whole := by simp [← cut.whole]
  breaks := by
    intro c hc
    rcases List.mem_cons.mp hc with rfl | hc
    · exact hd
    · exact List.all_eq_true.mp List.all_takeWhile c hc
  line := by
    obtain ⟨a, last⟩ := Option.ne_none_iff_exists'.mp (mt List.getLast?_eq_none_iff.mp hs)
    exact .inr ⟨rfl, a, by simp [List.getLast?_append, last],
      hline a (List.mem_of_getLast? last)⟩

/-- The lines of a literal block are read to its end. -/
theorem readBlockLines_linePlace (printable : ∀ c ∈ w, isPrintable c = true) (hu : Opens u)
    (hj : j < n) (start : w.head?.any isBreak = false) (ended : w.getLast?.all isBreak = true)
    (cut : Ended o first more text) (hf : w.length < f) :
    ∃ o' first' more' i' l', Ended o' first' more' (text ++ w) ∧
      readBlockLines true n f (linePlace n j u i l w) first more b o =
        some (o', first', more', ⟨u, i', l', j⟩) := by
  induction f generalizing w o first more text i l b with
  | zero => omega
  | succ f ih =>
    by_cases empty : w = []
    · subst empty
      refine ⟨o, first, more, i, l, by simpa using cut, ?_⟩
      rw [linePlace, readBlockLines]
      simp [Nat.ne_of_lt hj]
    · obtain ⟨line, d, rest, rfl, hline, hd⟩ := exists_line empty ended
      have line_ne_nil : line ≠ [] := by
        rintro rfl
        simp [hd] at start
      have rest_printable : ∀ c ∈ rest, isPrintable c = true := fun c hc =>
        printable c (by simp [hc])
      have later_printable : ∀ c ∈ rest.dropWhile isBreak, isPrintable c = true := fun c hc =>
        rest_printable c ((List.dropWhile_suffix isBreak).mem hc)
      have whole : line ++ d :: rest =
          (line ++ d :: rest.takeWhile isBreak) ++ rest.dropWhile isBreak := by
        rw [List.append_assoc, List.cons_append, List.takeWhile_append_dropWhile]
      have shorter : (rest.dropWhile isBreak).length ≤ rest.length :=
        (List.dropWhile_suffix isBreak).length_le
      obtain ⟨i₁, l₁, startsBlank, read⟩ := readBlockLines_next (i := i) (l := l) f first more o b
        line_ne_nil hline hd (printable d (by simp)) rest_printable hu hj
      obtain ⟨o', first', more', i₂, l₂, cut', later⟩ := ih (i := i₁) (l := l₁)
        (b := startsBlank) later_printable head?_dropWhile_isBreak
        (getLast?_all_of_append (by rwa [whole] at ended)) (cut.next line_ne_nil hline hd)
        (by simp at hf; omega)
      refine ⟨o', first', more', i₂, l₂, ?_, ?_⟩
      · rw [whole, ← List.append_assoc]
        exact cut'
      · rw [read]
        exact later

/-! ### Marks -/

def Chomp.kept (o first more : List Char) : Chomp → List Char
  | .strip => o
  | .clip => o ++ first
  | .keep => o ++ first ++ more

def chompOf (s : List Char) : Chomp :=
  match s.reverse with
  | a :: r => if !isBreak a then .strip else if r.head?.all isBreak then .keep else .clip
  | [] => .strip

def hintOf (s : List Char) : Option Nat := if s.head?.any isEdge then some 2 else none

theorem blockHints_eq :
    blockHints s = (if s.head?.any isEdge then ['2'] else []) ++
      match chompOf s with
      | .strip => ['-']
      | .clip => []
      | .keep => ['+'] := by
  unfold blockHints chompOf
  congr 1
  cases s.reverse with
  | nil => rfl
  | cons a r =>
    dsimp only
    split
    · rfl
    · split <;> rfl

theorem readBlockHeader_blockHints :
    ∃ i' k', readBlockHeader ⟨blockHints s ++ '\n' :: t, i, l, n⟩ =
      some (chompOf s, hintOf s, ⟨'\n' :: t, i', l, k'⟩) := by
  rw [blockHints_eq, hintOf]
  cases s.head?.any isEdge <;> cases chompOf s <;> exact ⟨_, _, rfl⟩

def lastBreak (s : List Char) : List Char := if s.getLast?.any isBreak then [] else ['\n']

/-- Where a text ends in one break only, no more than that was cut off. -/
theorem eq_of_append_eq_concat (breaks : ∀ c ∈ d :: more, isBreak c = true)
    (h : o ++ d :: more = s ++ [c]) (hs : s.getLast?.any isBreak = false) :
    s = o ∧ more = [] := by
  rcases more.eq_nil_or_concat with rfl | ⟨front, e, rfl⟩
  · exact ⟨(List.append_inj' h rfl).1.symm, rfl⟩
  · rw [List.concat_eq_append] at breaks h
    have longer : s = o ++ d :: front := by
      rw [← List.cons_append, ← List.append_assoc] at h
      exact (List.append_inj' h rfl).1.symm
    have last : s.getLast? = some ((d :: front).getLast (List.cons_ne_nil d front)) := by
      rw [longer, List.getLast?_append, List.getLast?_eq_some_getLast (List.cons_ne_nil d front)]
      rfl
    have mem := List.getLast_mem (List.cons_ne_nil d front)
    have hb := breaks _ (List.mem_append_left [e] mem)
    rw [last, Option.any_some, hb] at hs
    cases hs

/-- The breaks that the marks keep are those of the text. -/
theorem Ended.chomped (cut : Ended o first more (s ++ lastBreak s)) (hs : s ≠ []) :
    (chompOf s).kept o first more = s := by
  obtain ⟨a, r, reversed⟩ := List.exists_cons_of_ne_nil (mt List.reverse_eq_nil_iff.mp hs)
  have text : s = r.reverse ++ [a] := by
    rw [← List.reverse_reverse s, reversed, List.reverse_cons]
  have last : s.getLast? = some a := by simp [text]
  obtain ⟨whole, breaks, line⟩ := cut
  unfold chompOf
  rw [reversed]
  rcases line with ⟨rfl, rfl⟩ | ⟨one, -⟩
  · have all : ∀ c ∈ s, isBreak c = true := by
      intro c hc
      apply breaks c
      rw [List.nil_append] at whole
      rw [whole]
      exact List.mem_append_left _ hc
    have lineBreak := all a (List.mem_of_getLast? last)
    have before : r.head?.all isBreak = true := by
      cases head : r.head? with
      | none => rfl
      | some b =>
        apply all
        rw [text]
        exact List.mem_append_left _ (List.mem_reverse.mpr (List.mem_of_head? head))
    simpa [Chomp.kept, lastBreak, last, lineBreak, before] using whole
  · obtain ⟨d, rfl⟩ := List.length_eq_one_iff.mp one
    rw [List.append_assoc, List.singleton_append] at whole
    cases lineBreak : isBreak a with
    | false =>
      simp only [lastBreak, last, Option.any_some, lineBreak, Bool.false_eq_true, if_false] at whole
      have stripped := eq_of_append_eq_concat breaks whole (by simp [last, lineBreak])
      simpa [Chomp.kept, lineBreak] using stripped.1.symm
    | true =>
      simp only [lastBreak, last, Option.any_some, lineBreak, if_true, List.append_nil] at whole
      cases before : r.head?.all isBreak with
      | true => simpa [Chomp.kept, lineBreak, before] using whole
      | false =>
        have clipped := eq_of_append_eq_concat breaks (whole.trans text) (by
          rw [List.getLast?_reverse]
          cases head : r.head? with
          | none => rfl
          | some b => simpa [head] using before)
        have nothing : more = [] := clipped.2
        rw [nothing] at whole
        simpa [Chomp.kept, lineBreak, before] using whole

/-! ### Blocks -/

theorem lastBreak_ended : (s ++ lastBreak s).getLast?.all isBreak = true := by
  unfold lastBreak
  cases last : s.getLast? with
  | none => simp [List.getLast?_append, isBreak]
  | some c =>
    cases lineBreak : isBreak c <;> simp [List.getLast?_append, last, lineBreak]
    decide

theorem isPrintable_of_mem_lastBreak (h : c ∈ lastBreak s) : isPrintable c = true := by
  unfold lastBreak at h
  split at h
  · cases h
  · rw [List.mem_singleton.mp h]
    decide

theorem length_le_length_rest_linePlace : w.length ≤ (linePlace n j u i l w).rest.length := by
  cases w with
  | nil => exact Nat.zero_le _
  | cons c w =>
    have longer : (c :: w).length ≤ (indented n false (c :: w)).length := length_le_length_indented
    rw [linePlace, List.length_append]
    omega

/-- The indentation of a block is told by its mark, or seen at its first line. -/
theorem readBlockBreaks_known (hw : w.head? = s.head?) (hs : s ≠ [])
    (printable : ∀ c ∈ w, isPrintable c = true) (hu : Opens u) (hj : j < parent + 2)
    (hf : w.length < f) :
    ∃ width i' l', readBlockBreaks ((hintOf s).map fun n => parent + n) f
        ⟨indented (parent + 2) true w ++ (spaces j ++ u), i, l, 0⟩ [] 0 =
      some (w.takeWhile isBreak, width, linePlace (parent + 2) j u i' l' (w.dropWhile isBreak)) ∧
      ((hintOf s).map fun n => parent + n).getD (max width (max (parent + 1) 1)) = parent + 2 := by
  unfold hintOf
  split
  · obtain ⟨width, i', l', read⟩ := readBlockBreaks_indented (a := []) (g := 0)
      (i := i) (l := l) printable hu hj hf
    exact ⟨width, i', l', read, rfl⟩
  · rename_i edge
    obtain ⟨c, t, rfl⟩ := List.exists_cons_of_ne_nil hs
    obtain ⟨w, rfl⟩ : ∃ w', w = c :: w' := by
      cases w with
      | nil => cases hw
      | cons d w => exact ⟨w, by rw [Option.some.inj hw]⟩
    obtain ⟨f, rfl⟩ : ∃ m, f = m + 1 := ⟨f - 1, by omega⟩
    have hp := printable c List.mem_cons_self
    simp only [List.head?_cons, Option.any_some, isEdge, isSpace, Bool.or_eq_true,
      decide_eq_true_eq, not_or, Bool.not_eq_true] at edge
    obtain ⟨space, lineBreak⟩ := edge
    have line : indented (parent + 2) true (c :: w) ++ (spaces j ++ u) =
        spaces (parent + 2) ++ (c :: (indented (parent + 2) false w ++ (spaces j ++ u))) := by
      simp [indented, lineBreak]
    have place : linePlace (parent + 2) j u (i + (parent + 2)) l (c :: w) =
        ⟨c :: (indented (parent + 2) false w ++ (spaces j ++ u)), i + (parent + 2), l,
          parent + 2⟩ := by
      simp [linePlace, indented, lineBreak]
    refine ⟨parent + 2, i + (parent + 2), l, ?_, ?_⟩
    · rw [line, Option.map_none, readBlockBreaks, takeWhile_spaces (by simpa using space)]
      dsimp only
      rw [spaces_length, Cursor.skip_spaces]
      simp [Cursor.isAt, Cursor.atBreak, ne_tab_of_isPrintable hp, lineBreak, place]
    · simp

theorem readBlock_of_header {c c₂ c₃ : Cursor} {chomp : Chomp} {increment : Option Nat}
    {breaks : List Char} {width : Nat}
    (header : readBlockHeader c = some (chomp, increment, ⟨'\n' :: t, i, l, k⟩))
    (empty : readBlockBreaks (increment.map fun n => parent + n) (t.length + 1)
      ⟨t, i + 1, l + 1, 0⟩ [] 0 = some (breaks, width, c₂))
    (lines : readBlockLines true
      ((increment.map fun n => parent + n).getD (max width (max (parent + 1) 1)))
      (c₂.rest.length + 1) c₂ [] breaks false [] = some (o, first, more, c₃)) :
    readBlock true parent c = some (chomp.kept o first more, c₃) := by
  have known : (fun n : Nat => if (0 : Int) ≤ parent then ((parent : Int) + n).toNat else n) =
      fun n => parent + n := by
    funext n
    rw [if_pos (Int.natCast_nonneg parent)]
    rfl
  have least : ((parent : Int) + 1).toNat = parent + 1 := rfl
  have skipped : ((⟨'\n' :: t, i, l, k⟩ : Cursor).skipWhile isBlank).skipComment =
      ⟨'\n' :: t, i, l, k⟩ := rfl
  have ended : (⟨'\n' :: t, i, l, k⟩ : Cursor).atLineEnd = true := rfl
  simp only [readBlock, header, Option.bind_eq_bind, Option.bind_some, known, least, skipped, ended,
    Cursor.takeBreak_newline, empty, lines, Bool.not_true, Bool.false_eq_true, if_false,
    Option.pure_def]
  cases chomp <;> rfl

/-- A text of several lines is read back from a literal block. -/
theorem readBlock_literalBlock (hs : s ≠ []) (printable : ∀ c ∈ s, isPrintable c = true)
    (hu : Opens u) (hj : j < parent + 2) :
    ∃ i' l', readBlock true parent
        ⟨blockHints s ++ '\n' :: (indented (parent + 2) true (s ++ lastBreak s) ++ (spaces j ++ u)),
          i, l, k⟩ =
      some (s, ⟨u, i', l', j⟩) := by
  have printable' : ∀ c ∈ s ++ lastBreak s, isPrintable c = true := by
    intro c hc
    rcases List.mem_append.mp hc with hc | hc
    · exact printable c hc
    · exact isPrintable_of_mem_lastBreak hc
  have head : (s ++ lastBreak s).head? = s.head? := by
    obtain ⟨c, t, rfl⟩ := List.exists_cons_of_ne_nil hs
    rfl
  obtain ⟨i₁, k₁, header⟩ := readBlockHeader_blockHints (s := s) (i := i) (l := l) (n := k)
    (t := indented (parent + 2) true (s ++ lastBreak s) ++ (spaces j ++ u))
  obtain ⟨width, i₂, l₂, empty, indent⟩ := readBlockBreaks_known (i := i₁ + 1) (l := l + 1)
    (f := (indented (parent + 2) true (s ++ lastBreak s) ++ (spaces j ++ u)).length + 1)
    head hs printable' hu hj (by
      have longer : (s ++ lastBreak s).length ≤
          (indented (parent + 2) true (s ++ lastBreak s)).length := length_le_length_indented
      simp only [List.length_append] at longer ⊢
      omega)
  have cut : Ended [] [] ((s ++ lastBreak s).takeWhile isBreak)
      ((s ++ lastBreak s).takeWhile isBreak) :=
    ⟨rfl, List.all_eq_true.mp List.all_takeWhile, .inl ⟨rfl, rfl⟩⟩
  have split : (s ++ lastBreak s).takeWhile isBreak ++ (s ++ lastBreak s).dropWhile isBreak =
      s ++ lastBreak s := List.takeWhile_append_dropWhile
  obtain ⟨o, first, more, i₃, l₃, ended, lines⟩ := readBlockLines_linePlace (i := i₂) (l := l₂)
    (b := false)
    (fun c hc => printable' c ((List.dropWhile_suffix isBreak).mem hc)) hu hj
    head?_dropWhile_isBreak
    (getLast?_all_of_append (s := (s ++ lastBreak s).takeWhile isBreak) (by
      rw [split]
      exact lastBreak_ended))
    cut (Nat.lt_succ_of_le length_le_length_rest_linePlace)
  rw [split] at ended
  refine ⟨i₃, l₃, ?_⟩
  rw [readBlock_of_header header empty (by rw [indent]; exact lines), ended.chomped hs]

end RequestCode.Yaml
