import Mathlib.Algebra.Group.Nat.Defs
import RequestCode.Proofs.Yaml.Cursor

/-!
# Quoted scalars are read back

In double quotes every character is read back by itself. In single quotes a line break is folded
with the indentation after it, so the text must not hold line feeds, and no blank may stand next to
a line break. Main statements: `readQuoted_escaped` and `readQuoted_quotedLines`.
-/

namespace RequestCode.Yaml

open Text

variable {c d q : Char} {s t o b : List Char} {i l k n f : Nat} {g : Gap} {fresh : Bool}

/-! ### Gaps -/

@[simp]
theorem Gap.text_blanks {first more : List Char} :
    (⟨b, false, first, more⟩ : Gap).text = b := rfl

@[simp]
theorem Gap.addBlank_blanks {first more : List Char} :
    (⟨b, false, first, more⟩ : Gap).addBlank c = ⟨b ++ [c], false, first, more⟩ := rfl

/-! ### One character -/

theorem readQuoted_blank (h : isBlank d = true) :
    readQuoted q (f + 1) ⟨d :: t, i, l, k⟩ g o =
      readQuoted q f ⟨t, i + 1, l, k + 1⟩ (g.addBlank d) o := by
  simp [readQuoted, h]

theorem readQuoted_break (hb : isBreak d = true) (hp : isPrintable d = true) :
    readQuoted q (f + 1) ⟨d :: t, i, l, k⟩ g o =
      readQuoted q f ⟨t, i + 1, l + 1, 0⟩ (g.addBreak [d]) o := by
  have blank : isBlank d = false := not_isBlank_of_isBreak hb
  simp [readQuoted, blank, hb, Cursor.takeBreak_of_isPrintable hb hp]

theorem readQuoted_raw (hk : 0 < k) (blank : isBlank d = false) (lineBreak : isBreak d = false)
    (hq : d ≠ q) (hb : ¬ (q = '"' ∧ d = '\\')) :
    readQuoted q (f + 1) ⟨d :: t, i, l, k⟩ g o =
      readQuoted q f ⟨t, i + 1, l, k + 1⟩ .empty (o ++ g.text ++ [d]) := by
  simp [readQuoted, blank, lineBreak, Cursor.atDocumentMark_of_pos hk, hq, hb]

theorem readQuoted_doubled (hk : 0 < k) :
    readQuoted '\'' (f + 1) ⟨'\'' :: '\'' :: t, i, l, k⟩ g o =
      readQuoted '\'' f ⟨t, i + 2, l, k + 2⟩ .empty (o ++ g.text ++ ['\'']) := by
  have blank : isBlank '\'' = false := by decide
  have lineBreak : isBreak '\'' = false := by decide
  simp [readQuoted, blank, lineBreak, Cursor.atDocumentMark_of_pos hk, Cursor.skip]

theorem readQuoted_close (hk : 0 < k) (hq : q = '\'' ∨ q = '"')
    (ht : t.head? ≠ some '\'') :
    readQuoted q (f + 1) ⟨q :: t, i, l, k⟩ g o =
      some (o ++ g.text, ⟨t, i + 1, l, k + 1⟩) := by
  have blank : isBlank q = false := by rcases hq with rfl | rfl <;> decide
  have lineBreak : isBreak q = false := by rcases hq with rfl | rfl <;> decide
  simp [readQuoted, blank, lineBreak, Cursor.atDocumentMark_of_pos hk, ht]

theorem readQuoted_backslash (hk : 0 < k) (hb : isBreak d = false)
    (he : readEscape (d :: s ++ t) = some (c, s.length + 1)) :
    readQuoted '"' (f + 1) ⟨'\\' :: d :: s ++ t, i, l, k⟩ g o =
      readQuoted '"' f ⟨t, i + (s.length + 2), l, k + (s.length + 2)⟩ .empty
        (o ++ g.text ++ [c]) := by
  have blank : isBlank '\\' = false := by decide
  have lineBreak : isBreak '\\' = false := by decide
  have after : (⟨'\\' :: d :: s ++ t, i, l, k⟩ : Cursor).skip (s.length + 1 + 1) =
      ⟨t, i + (s.length + 2), l, k + (s.length + 2)⟩ := by
    simp [Cursor.skip, Nat.add_assoc]
  rw [readQuoted]
  simp only [List.cons_append] at he after ⊢
  simp [blank, lineBreak, Cursor.atDocumentMark_of_pos hk, hb, he, after]

/-! ### Double quotes -/

theorem digitValue?_upperHexDigit : ∀ d < 16, digitValue? 16 (upperHexDigit d) = some d := by
  decide

theorem foldlM_digitsOfWidth (width n start : Nat) :
    (digitsOfWidth upperHexDigit 16 width n).foldlM
        (fun n c => (digitValue? 16 c).map (n * 16 + ·)) start =
      some (start * 16 ^ width + n % 16 ^ width) := by
  induction width generalizing n with
  | zero => simp [digitsOfWidth, Nat.mod_one]
  | succ width ih =>
    have last : n % 16 < 16 := Nat.mod_lt n (by decide)
    have digits : n % 16 ^ (width + 1) = n / 16 % 16 ^ width * 16 + n % 16 := by
      rw [Nat.pow_succ', Nat.mod_mul]
      omega
    have weight : start * 16 ^ (width + 1) = start * 16 ^ width * 16 := by
      rw [Nat.pow_succ, Nat.mul_assoc]
    rw [digitsOfWidth, List.foldlM_append, ih]
    simp [digitValue?_upperHexDigit _ last, digits, weight, Nat.add_mul, Nat.add_assoc]

theorem length_digitsOfWidth {digit : Nat → Char} {base width : Nat} :
    (digitsOfWidth digit base width n).length = width := by
  induction width generalizing n with
  | zero => rfl
  | succ width ih => simp [digitsOfWidth, ih]

theorem numeral?_digitsOfWidth {width : Nat} (hw : 0 < width) (hn : n < 16 ^ width) :
    numeral? 16 (digitsOfWidth upperHexDigit 16 width n) = some n := by
  have nonempty : digitsOfWidth upperHexDigit 16 width n ≠ [] := by
    rw [← List.length_pos_iff, length_digitsOfWidth]
    exact hw
  simp [numeral?, nonempty, foldlM_digitsOfWidth, Nat.mod_eq_of_lt hn]

theorem scalarValue?_toNat (c : Char) : scalarValue? c.toNat = some c := by
  have valid : c.toNat < 0xD800 ∨ (0xDFFF < c.toNat ∧ c.toNat < 0x110000) := c.valid
  simp [scalarValue?, valid, Char.ofNat_toNat]

theorem readEscape_number {width : Nat} (hd : escapeWidth? d = some width) (hw : 0 < width)
    (hc : c.toNat < 16 ^ width) :
    readEscape (d :: digitsOfWidth upperHexDigit 16 width c.toNat ++ t) = some (c, width + 1) := by
  have digits : (digitsOfWidth upperHexDigit 16 width c.toNat ++ t).take width =
      digitsOfWidth upperHexDigit 16 width c.toNat :=
    List.take_left' length_digitsOfWidth
  simp [readEscape, hd, digits, length_digitsOfWidth, numeral?_digitsOfWidth hw hc,
    scalarValue?_toNat]

theorem readEscape_letter {e : Char} (h : escapeLetter? c = some e) :
    readEscape (e :: t) = some (c, 1) ∧ isBreak e = false := by
  unfold escapeLetter? at h
  split at h <;> cases h <;> exact ⟨rfl, rfl⟩

/-- A character by its number, which is as long as the letter in front of it says. -/
theorem readQuoted_number {width : Nat} (hk : 0 < k) (hd : escapeWidth? d = some width)
    (hw : 0 < width) (hb : isBreak d = false) (hc : c.toNat < 16 ^ width) :
    readQuoted '"' (f + 1)
        ⟨['\\', d] ++ digitsOfWidth upperHexDigit 16 width c.toNat ++ t, i, l, k⟩ g o =
      readQuoted '"' f ⟨t, i + (width + 2), l, k + (width + 2)⟩ .empty (o ++ g.text ++ [c]) := by
  have same : (digitsOfWidth upperHexDigit 16 width c.toNat).length = width :=
    length_digitsOfWidth
  have escape : readEscape (d :: digitsOfWidth upperHexDigit 16 width c.toNat ++ t) =
      some (c, (digitsOfWidth upperHexDigit 16 width c.toNat).length + 1) := by
    rw [same]
    exact readEscape_number hd hw hc
  have read := readQuoted_backslash (f := f) (i := i) (l := l) (g := g) (o := o) hk hb escape
  rw [same] at read
  exact read

theorem length_escaped_pos : 0 < (escaped c).length := by
  unfold escaped
  split
  · simp
  · split
    · simp
    · split <;> simp

/-- A character in double quotes is read back; a blank waits for what follows. -/
theorem readQuoted_escapedChar (hk : 0 < k) (hc : c ≠ ' ') :
    readQuoted '"' (f + 1) ⟨escaped c ++ t, i, l, k⟩ g o =
      readQuoted '"' f ⟨t, i + (escaped c).length, l, k + (escaped c).length⟩ .empty
        (o ++ g.text ++ [c]) := by
  unfold escaped
  split
  · rename_i e he
    obtain ⟨escape, lineBreak⟩ := readEscape_letter (t := t) he
    exact readQuoted_backslash (s := []) hk lineBreak escape
  · rename_i he
    split
    · rename_i printable
      have lineBreak : isBreak c = false := by
        rw [Bool.eq_false_iff]
        intro h
        simp only [isBreak, Bool.or_eq_true, decide_eq_true_eq, or_assoc] at h
        rcases h with rfl | rfl | rfl | rfl | rfl <;> cases he
      have blank : isBlank c = false := by
        simp [isBlank, hc, ne_tab_of_isPrintable printable]
      refine readQuoted_raw hk blank lineBreak ?_ ?_
      · rintro rfl
        cases he
      · rintro ⟨-, rfl⟩
        cases he
    · rename_i unprintable
      have small := toNat_le_of_not_isPrintable (Bool.eq_false_iff.mpr unprintable)
      split
      · simpa [length_digitsOfWidth] using readQuoted_number (d := 'x') hk rfl (by decide)
          (by decide) (by omega)
      · simpa [length_digitsOfWidth] using readQuoted_number (d := 'u') hk rfl (by decide)
          (by decide) (by omega)

theorem readQuoted_escaped (hk : 0 < k) (ht : t.head? ≠ some '\'')
    (hf : (s.flatMap escaped ++ '"' :: t).length < f) :
    ∃ i' k', readQuoted '"' f ⟨s.flatMap escaped ++ '"' :: t, i, l, k⟩ ⟨b, false, [], []⟩ o =
      some (o ++ b ++ s, ⟨t, i', l, k'⟩) := by
  induction s generalizing b o i k f with
  | nil =>
    obtain ⟨f, rfl⟩ : ∃ m, f = m + 1 := ⟨f - 1, by omega⟩
    rw [List.append_nil]
    exact ⟨i + 1, k + 1, readQuoted_close hk (.inr rfl) ht⟩
  | cons c s ih =>
    obtain ⟨f, rfl⟩ : ∃ m, f = m + 1 := ⟨f - 1, by omega⟩
    have consumed := length_escaped_pos (c := c)
    rw [List.flatMap_cons, List.append_assoc, List.length_append] at hf
    rw [List.flatMap_cons, List.append_assoc]
    by_cases blank : c = ' '
    · obtain ⟨i', k', read⟩ := ih (b := b ++ [c]) (o := o) (i := i + 1) (f := f)
        (Nat.succ_pos k) (by omega)
      refine ⟨i', k', ?_⟩
      rw [blank] at read ⊢
      rw [show escaped ' ' = [' '] from by decide, List.singleton_append, readQuoted_blank rfl]
      simpa using read
    · obtain ⟨i', k', read⟩ := ih (b := []) (o := o ++ b ++ [c]) (i := i + (escaped c).length)
        (k := k + (escaped c).length) (f := f) (by omega) (by omega)
      refine ⟨i', k', ?_⟩
      rw [readQuoted_escapedChar hk blank]
      simpa [Gap.empty] using read

/-! ### Single quotes -/

/-- A text whose line breaks can be folded: each of them keeps its identity, and no blank next to
one gets lost. -/
structure Foldable (s : List Char) : Prop where
  noFeed : '\n' ∉ s
  printable : ∀ c ∈ s, isPrintable c = true
  noBlankAfter : hasPair isBreak isSpace s = false
  noBlankBefore : hasPair isSpace isBreak s = false

theorem foldable_of_styleOf (h : styleOf s = .single) : Foldable s := by
  obtain ⟨noFeed, single⟩ := of_styleOf_single h
  simp only [canBeSingle, Bool.and_eq_true, List.all_eq_true, Bool.not_eq_true'] at single
  exact ⟨noFeed, single.1.1, single.1.2, single.2⟩

theorem Foldable.tail (h : Foldable (c :: s)) : Foldable s :=
  ⟨fun mem => h.noFeed (List.mem_cons_of_mem c mem),
    fun d mem => h.printable d (List.mem_cons_of_mem c mem),
    hasPair_of_hasPair_append (s := [c]) h.noBlankAfter,
    hasPair_of_hasPair_append (s := [c]) h.noBlankBefore⟩

/-- What waits at a column in front of a text. -/
structure Gap.Waits (g : Gap) (k : Nat) (s : List Char) : Prop where
  keeps : g.folding = true → ∃ d, g.first = [d] ∧ d ≠ '\n'
  inside : g.folding = false → 0 < k
  afterBreak : g.folding = true → s.head? ≠ some ' '
  afterBlank : g.folding = false → g.blanks ≠ [] → s.head?.any isBreak = false

theorem Gap.waits_empty (hk : 0 < k) : Gap.empty.Waits k s where
  keeps h := by cases h
  inside _ := hk
  afterBreak h := by cases h
  afterBlank _ h := absurd rfl h

theorem Gap.folding_addBreak : (g.addBreak s).folding = true := by
  unfold addBreak
  split
  · assumption
  · rfl

theorem Gap.Waits.addBreak (h : g.Waits k (d :: s)) (hs : Foldable (d :: s))
    (hd : isBreak d = true) : (g.addBreak [d]).Waits 0 s where
  keeps _ := by
    cases folding : g.folding with
    | false => exact ⟨d, by simp [Gap.addBreak, folding], fun feed => hs.noFeed (by simp [feed])⟩
    | true => simpa [Gap.addBreak, folding] using h.keeps folding
  inside still := by
    rw [folding_addBreak] at still
    cases still
  afterBreak _ space := by
    have pair := hs.noBlankAfter
    rw [hasPair_cons, hd, space] at pair
    simp [isSpace] at pair
  afterBlank still := by
    rw [folding_addBreak] at still
    cases still

theorem Gap.Waits.text_addBreak (h : g.Waits k (d :: s)) (hs : Foldable (d :: s))
    (hd : isBreak d = true) : (g.addBreak [d]).text = g.text ++ [d] := by
  have feed : d ≠ '\n' := fun feed => hs.noFeed (by simp [feed])
  cases folding : g.folding with
  | false =>
    have blanks : g.blanks = [] := by
      cases blanks : g.blanks with
      | nil => rfl
      | cons b r =>
        have noBreak := h.afterBlank folding (by simp [blanks])
        simp [hd] at noBreak
    simp [Gap.addBreak, text, folding, feed, blanks]
  | true =>
    obtain ⟨e, first, he⟩ := h.keeps folding
    simp [Gap.addBreak, text, folding, first, he]

theorem Gap.Waits.addBlank (h : g.Waits k (' ' :: s)) (hs : Foldable (' ' :: s)) (hn : 0 < n) :
    (g.addBlank ' ').folding = false ∧ (g.addBlank ' ').Waits n s ∧
      (g.addBlank ' ').text = g.text ++ [' '] := by
  have folding : g.folding = false := by
    rw [Bool.eq_false_iff]
    intro folding
    exact h.afterBreak folding rfl
  have pair := hs.noBlankBefore
  rw [hasPair_cons, Bool.or_eq_false_iff] at pair
  have still : (g.addBlank ' ').folding = false := by simp [Gap.addBlank, folding]
  refine ⟨still, ⟨?_, fun _ => hn, ?_, fun _ _ => by simpa [isSpace] using pair.1⟩, ?_⟩
  · simp [still]
  · simp [still]
  · simp [Gap.addBlank, text, folding]

/-- The lines of a text in single quotes, with what stands in front of the closing quote; `fresh`
tells whether a line starts here. -/
def quotedLines (n : Nat) (fresh : Bool) (s : List Char) : List Char :=
  indented n fresh (s.flatMap fun c => if c = '\'' then [c, c] else [c])
    ++ (if s.getLast?.elim fresh isBreak then spaces n else [])

theorem singleQuoted_eq : singleQuoted n s = '\'' :: quotedLines n false s ++ ['\''] := by
  cases h : s.getLast? <;> simp [singleQuoted, quotedLines, h]

theorem quotedLines_nil : quotedLines n fresh [] = if fresh then spaces n else [] := rfl

theorem elim_getLast?_cons :
    (c :: s).getLast?.elim fresh isBreak = s.getLast?.elim (isBreak c) isBreak := by
  rw [List.getLast?_cons]
  cases s.getLast? <;> rfl

theorem quotedLines_break (h : isBreak c = true) :
    quotedLines n fresh (c :: s) = c :: quotedLines n true s := by
  have apostrophe : c ≠ '\'' := by
    rintro rfl
    exact absurd h (by decide)
  simp [quotedLines, indented, elim_getLast?_cons, apostrophe, h]

theorem quotedLines_cons (h : isBreak c = false) :
    quotedLines n fresh (c :: s) =
      (if fresh then spaces n else []) ++
        ((if c = '\'' then [c, c] else [c]) ++ quotedLines n false s) := by
  by_cases apostrophe : c = '\''
  · simp [quotedLines, indented, elim_getLast?_cons, apostrophe,
      show isBreak '\'' = false by decide]
  · simp [quotedLines, indented, elim_getLast?_cons, apostrophe, h]

/-- The indentation after a line break does not count. -/
theorem readQuoted_spaces (h : g.folding = true) (n : Nat) :
    readQuoted q (f + n) ⟨spaces n ++ t, i, l, k⟩ g o =
      readQuoted q f ⟨t, i + n, l, k + n⟩ g o := by
  have addBlank : g.addBlank ' ' = g := by simp [Gap.addBlank, h]
  induction n generalizing i k with
  | zero => rfl
  | succ n ih =>
    rw [← Nat.add_assoc, spaces, List.replicate_succ, List.cons_append, readQuoted_blank rfl,
      addBlank, ← spaces, ih, Nat.add_right_comm, Nat.add_right_comm k]
    rfl

/-- Where a line starts, its indentation is skipped. -/
theorem readQuoted_indentation (hg : g.Waits k s) (hn : 0 < n)
    (hf : ((if g.folding then spaces n else []) ++ t).length < f) :
    ∃ f' i' k', 0 < k' ∧ t.length < f' + 1 ∧
      readQuoted q f ⟨(if g.folding then spaces n else []) ++ t, i, l, k⟩ g o =
        readQuoted q (f' + 1) ⟨t, i', l, k'⟩ g o := by
  cases folding : g.folding with
  | false =>
    obtain ⟨f, rfl⟩ : ∃ m, f = m + 1 := ⟨f - 1, by omega⟩
    exact ⟨f, i, k, hg.inside folding, by simpa [folding] using hf, rfl⟩
  | true =>
    simp only [folding, if_true, List.length_append, spaces, List.length_replicate] at hf
    obtain ⟨rest, rfl⟩ : ∃ m, f = m + 1 + n := ⟨f - 1 - n, by omega⟩
    exact ⟨rest, i + n, k + n, by omega, by omega, readQuoted_spaces folding n⟩

/-- A character other than a blank or a break is read back, an apostrophe from two of them. -/
theorem readQuoted_visible (hk : 0 < k) (blank : isBlank c = false)
    (lineBreak : isBreak c = false) :
    ∃ i' k', k < k' ∧
      readQuoted '\'' (f + 1) ⟨(if c = '\'' then [c, c] else [c]) ++ t, i, l, k⟩ g o =
        readQuoted '\'' f ⟨t, i', l, k'⟩ .empty (o ++ g.text ++ [c]) := by
  by_cases apostrophe : c = '\''
  · subst apostrophe
    exact ⟨i + 2, k + 2, by omega, readQuoted_doubled hk⟩
  · rw [if_neg apostrophe, List.singleton_append]
    exact ⟨i + 1, k + 1, by omega,
      readQuoted_raw hk blank lineBreak apostrophe (by simp)⟩

theorem readQuoted_quotedLines (hn : 0 < n) (ht : t.head? ≠ some '\'') (hs : Foldable s)
    (hg : g.Waits k s) (hf : (quotedLines n g.folding s ++ '\'' :: t).length < f) :
    ∃ i' l' k', readQuoted '\'' f ⟨quotedLines n g.folding s ++ '\'' :: t, i, l, k⟩ g o =
      some (o ++ g.text ++ s, ⟨t, i', l', k'⟩) := by
  induction s generalizing g o i l k f with
  | nil =>
    obtain ⟨f', i', k', pos, -, skipped⟩ :=
      readQuoted_indentation (q := '\'') (o := o) (i := i) (l := l) hg hn hf
    refine ⟨i' + 1, l, k' + 1, ?_⟩
    rw [quotedLines_nil, skipped, List.append_nil]
    exact readQuoted_close pos (.inl rfl) ht
  | cons c s ih =>
    have printable := hs.printable c List.mem_cons_self
    cases lineBreak : isBreak c with
    | true =>
      obtain ⟨f, rfl⟩ : ∃ m, f = m + 1 := ⟨f - 1, by omega⟩
      rw [quotedLines_break lineBreak] at hf ⊢
      obtain ⟨i', l', k', read⟩ := ih (o := o) (i := i + 1) (l := l + 1) (f := f)
        hs.tail (hg.addBreak hs lineBreak)
        (by rw [Gap.folding_addBreak]; simpa using hf)
      refine ⟨i', l', k', ?_⟩
      rw [Gap.folding_addBreak, hg.text_addBreak hs lineBreak] at read
      rw [List.cons_append, readQuoted_break lineBreak printable, read]
      simp
    | false =>
      rw [quotedLines_cons lineBreak, List.append_assoc] at hf ⊢
      obtain ⟨f', i', k', pos, left, skipped⟩ :=
        readQuoted_indentation (q := '\'') (o := o) (i := i) (l := l) hg hn hf
      rw [skipped]
      by_cases blank : c = ' '
      · subst blank
        obtain ⟨still, waits, text⟩ := hg.addBlank hs (Nat.succ_pos k')
        obtain ⟨i₂, l₂, k₂, read⟩ := ih (o := o) (i := i' + 1) (l := l) (f := f')
          hs.tail waits (by rw [still]; simpa using left)
        refine ⟨i₂, l₂, k₂, ?_⟩
        rw [still, text] at read
        rw [if_neg (by decide), List.singleton_append, List.cons_append, readQuoted_blank rfl, read]
        simp
      · have noBlank : isBlank c = false := by
          simp [isBlank, blank, ne_tab_of_isPrintable printable]
        obtain ⟨i₁, k₁, later, shown⟩ := readQuoted_visible (f := f') (i := i') (l := l) (g := g)
          (o := o) (t := quotedLines n false s ++ '\'' :: t) pos noBlank lineBreak
        obtain ⟨i₂, l₂, k₂, read⟩ := ih (o := o ++ g.text ++ [c]) (i := i₁) (l := l) (f := f')
          hs.tail (Gap.waits_empty (Nat.zero_lt_of_lt later))
          (by
            have longer : 0 < (if c = '\'' then [c, c] else [c]).length := by split <;> simp
            simp only [Gap.empty, List.length_append] at left ⊢
            omega)
        refine ⟨i₂, l₂, k₂, ?_⟩
        rw [List.append_assoc, shown]
        simpa [Gap.empty] using read

end RequestCode.Yaml
