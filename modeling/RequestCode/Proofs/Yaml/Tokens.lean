import RequestCode.Proofs.Yaml.Block
import RequestCode.Proofs.Yaml.Plain
import RequestCode.Proofs.Yaml.Quoted
import RequestCode.Yaml.Writer

/-!
# Written text is scanned

What the scanner yields from a place on is followed backwards from the end of a text, one step of
the scanner at a time. Main statements: `Scanner.yields_scalar`, a text in its style is scanned as
that text, `Scanner.yields_first_key` and `Scanner.yields_next_key` for the keys of a mapping, and
`tokens?_of_yields` for a whole text.
-/

namespace RequestCode.Yaml

open Text

variable {c d : Char} {s t u v w : List Char} {i l j k n f : Nat} {indent : Int}
variable {outer : List Int} {tokens : Array Token} {ts : List Token} {allowed : Bool}

/-- What starts a plain text: no mark, no blank, and a hyphen, question mark or colon only with
something right after it. -/
theorem start_of_canBePlain (h : canBePlain (d :: s) = true) :
    startMarks.contains d = false ∧ d ≠ ' ' ∧ isBreak d = false ∧
      (d = '-' ∨ d = '?' ∨ d = ':' → (⟨d :: (s ++ t), i, l, k⟩ : Cursor).gapAt 1 = false) := by
  have bare := bare_of_canBePlain h
  simp only [canBePlain, hasMark, Bool.and_eq_true, List.all_eq_true, Bool.not_eq_true',
    Bool.or_eq_false_iff, List.head?_cons, Option.any_some, isEdge] at h
  obtain ⟨⟨⟨-, space, lineBreak⟩, -⟩, ⟨⟨⟨⟨-, marks⟩, gap⟩, -⟩, -⟩, -⟩ := h
  refine ⟨marks, by simpa [isSpace] using space, lineBreak, ?_⟩
  have inside (start : d = '?' ∨ d = '-') :
      (⟨d :: (s ++ t), i, l, k⟩ : Cursor).gapAt 1 = false := by
    have next : s.head?.all isGap = false := by
      rcases start with rfl | rfl <;> simpa using gap
    cases s with
    | nil => simp at next
    | cons e s =>
      simp only [List.head?_cons, Option.all_some, isGap, Bool.or_eq_false_iff] at next
      simp [Cursor.gapAt, Cursor.peek, next.1]
  rintro (rfl | rfl | rfl)
  · exact inside (.inr rfl)
  · exact inside (.inl rfl)
  · exact bare.gapAt_colon

theorem opens_cons (h : (isBlank d || isBreak d || d = '#' || d = '\uFEFF') = false) :
    Opens (d :: u) := by
  intro e he
  cases he
  simpa [and_assoc] using h

theorem opens_of_canBePlain (h : canBePlain (d :: s) = true) : Opens (d :: (s ++ t)) := by
  obtain ⟨marks, space, lineBreak, -⟩ := start_of_canBePlain (t := t) (i := 0) (l := 0) (k := 0) h
  have printable := (bare_of_canBePlain h).printable d List.mem_cons_self
  apply opens_cons
  have hash : d ≠ '#' := by
    rintro rfl
    cases marks
  simp [isBlank, space, ne_tab_of_isPrintable printable, lineBreak, hash,
    ne_mark_of_isPrintable printable]

theorem getLast?_indented {b : Bool} : (indented n b s).getLast? = s.getLast? := by
  induction s generalizing b with
  | nil => rfl
  | cons c s ih =>
    rw [indented]
    split
    · rw [List.getLast?_cons, List.getLast?_cons, ih]
    · rw [List.getLast?_append, List.getLast?_cons, List.getLast?_cons, ih]
      rfl

theorem endLine_concat (h : isBreak c = false) : endLine (s ++ [c]) = s ++ [c, '\n'] := by
  simp [endLine, h]

theorem opens_endLine_scalar : Opens (endLine (scalar n s) ++ t) := by
  obtain ⟨tail, ended⟩ : ∃ tail, endLine (scalar n s) = scalar n s ++ tail := by
    unfold endLine
    split
    · exact ⟨[], (List.append_nil _).symm⟩
    · exact ⟨['\n'], rfl⟩
  rw [ended, List.append_assoc]
  unfold scalar
  cases style : styleOf s with
  | plain =>
    obtain ⟨d, r, rfl⟩ := List.exists_cons_of_ne_nil (ne_nil_of_styleOf_plain style)
    exact opens_of_canBePlain (of_styleOf_plain style).2
  | single => exact opens_cons (by decide)
  | double => exact opens_cons (by decide)
  | literal => exact opens_cons (by decide)

theorem endLine_literalBlock (hs : s ≠ []) :
    endLine (literalBlock n s) =
      '|' :: blockHints s ++ '\n' :: indented n true (s ++ lastBreak s) := by
  obtain ⟨a, last⟩ := Option.ne_none_iff_exists'.mp (mt List.getLast?_eq_none_iff.mp hs)
  have same : (literalBlock n s).getLast? = some a := by
    rw [literalBlock, List.cons_append, List.getLast?_cons, List.getLast?_append,
      List.getLast?_cons, getLast?_indented, last]
    rfl
  rw [endLine, lastBreak, same, last, Option.any_some]
  split
  · rw [List.append_nil]
    rfl
  · rw [indented_concat_newline, literalBlock, List.append_assoc, List.cons_append]
    rfl

/-- A key that is written as it is, also at the start of a line. -/
structure IsWord (w : List Char) : Prop where
  plain : styleOf w = .plain
  noBlank : ' ' ∉ w
  noMark : w.head? ≠ some '-' ∧ w.head? ≠ some '.'
  simple : isSimpleKey w = true
  short : w.length ≤ 1024

namespace Scanner

theorem toNextToken_spaces (h : Opens u) (m : Option SimpleKey) :
    (⟨⟨spaces j ++ u, i, l, k⟩, tokens, indent, outer, allowed, [m]⟩ : Scanner).toNextToken
        (f + 1) =
      ⟨⟨u, i + j, l, k + j⟩, tokens, indent, outer, allowed, [m]⟩ := by
  have mark : (⟨spaces j ++ u, i, l, k⟩ : Cursor).isAt '\uFEFF' = false := by
    cases j with
    | zero => exact decide_eq_false fun hd => (h _ hd).2.2.2 rfl
    | succ j => simp [Cursor.isAt, spaces, List.replicate_succ]
  have blanks (tabs : Bool) : (spaces j ++ u).takeWhile
      (fun d => d = ' ' || (tabs && d = '\t')) = spaces j := by
    have none : u.takeWhile (fun d => d = ' ' || (tabs && d = '\t')) = [] := by
      cases u with
      | nil => rfl
      | cons d u =>
        have blank := (h d rfl).1
        simp only [isBlank, Bool.or_eq_false_iff, decide_eq_false_iff_not] at blank
        simp [blank]
    rw [List.takeWhile_append_of_pos (by simp [spaces]), none, List.append_nil]
  have comment : (⟨u, i + j, l, k + j⟩ : Cursor).skipComment = ⟨u, i + j, l, k + j⟩ := by
    have hash : (⟨u, i + j, l, k + j⟩ : Cursor).isAt '#' = false :=
      decide_eq_false fun hd => (h _ hd).2.2.1 rfl
    simp [Cursor.skipComment, hash]
  have lineBreak : (⟨u, i + j, l, k + j⟩ : Cursor).atBreak = false := by
    cases u with
    | nil => rfl
    | cons d u => exact (h d rfl).2.1
  simp [toNextToken, mark, Cursor.skipWhile, blanks, spaces_length, comment, lineBreak]

/-- Nothing is skipped in front of a token. -/
theorem toNextToken_of_opens (h : Opens u) (m : Option SimpleKey) :
    (⟨⟨u, i, l, k⟩, tokens, indent, outer, allowed, [m]⟩ : Scanner).toNextToken (f + 1) =
      ⟨⟨u, i, l, k⟩, tokens, indent, outer, allowed, [m]⟩ :=
  toNextToken_spaces (j := 0) h m

/-- After a line break a key may start. -/
theorem toNextToken_newline (h : Opens u) :
    (⟨⟨'\n' :: (spaces j ++ u), i, l, k⟩, tokens, indent, outer, allowed, [none]⟩ :
        Scanner).toNextToken (f + 2) =
      ⟨⟨u, i + 1 + j, l + 1, j⟩, tokens, indent, outer, true, [none]⟩ := by
  have ended : (⟨⟨'\n' :: (spaces j ++ u), i, l, k⟩, tokens, indent, outer, allowed, [none]⟩ :
        Scanner).toNextToken (f + 2) =
      toNextToken (f + 1) ⟨⟨spaces j ++ u, i + 1, l + 1, 0⟩, tokens, indent, outer, true,
        [none]⟩ := by
    rw [toNextToken]
    simp [Cursor.isAt, Cursor.skipWhile, Cursor.skipComment, Cursor.atBreak, isBreak,
      Cursor.takeBreak_newline, inFlow]
  rw [ended, toNextToken_spaces h, Nat.zero_add]

theorem step_congr {a b : Scanner} (h : a.toNextToken (a.cursor.rest.length + 1) = b)
    (hb : b.toNextToken (b.cursor.rest.length + 1) = b) : a.step = b.step := by
  rw [step, step, h, hb]

theorem run_congr {a b : Scanner} (h : a.toNextToken (a.cursor.rest.length + 1) = b)
    (hb : b.toNextToken (b.cursor.rest.length + 1) = b) : run f a = run f b := by
  cases f with
  | zero => rfl
  | succ f => rw [run, run, step_congr h hb, h, hb]

/-! ### What the rest of a text yields -/

/-- Scanning from a place with these blocks open yields these further tokens. -/
def Yields (allowed : Bool) (text : List Char) (column : Nat) (indent : Int) (outer : List Int)
    (new : List Token) : Prop :=
  ∀ f i l tokens, text.length < f →
    ∃ last, run f ⟨⟨text, i, l, column⟩, tokens, indent, outer, allowed, [none]⟩ = some last ∧
      last.tokens.toList = tokens.toList ++ new

theorem yields_spaces (hu : Opens u) (h : Yields allowed u (k + j) indent outer ts) :
    Yields allowed (spaces j ++ u) k indent outer ts := by
  intro f i l tokens hf
  rw [run_congr (toNextToken_spaces hu none) (toNextToken_of_opens hu none)]
  exact h f _ _ tokens (by simp at hf; omega)

theorem yields_newline (hu : Opens u) (h : Yields true u j indent outer ts) :
    Yields allowed ('\n' :: (spaces j ++ u)) k indent outer ts := by
  intro f i l tokens hf
  rw [run_congr (toNextToken_newline hu) (toNextToken_of_opens hu none)]
  exact h f _ _ tokens (by simp at hf; omega)

theorem yields_of_step (new : List Token) {allowed' : Bool} {indent' : Int} {outer' : List Int}
    (hs : ∀ i l tokens, ∃ i' l' tokens',
      step ⟨⟨s, i, l, k⟩, tokens, indent, outer, allowed, [none]⟩ =
        some (some ⟨⟨t, i', l', n⟩, tokens', indent', outer', allowed', [none]⟩) ∧
      tokens'.toList = tokens.toList ++ new)
    (shorter : t.length < s.length) (h : Yields allowed' t n indent' outer' ts) :
    Yields allowed s k indent outer (new ++ ts) := by
  intro f i l tokens hf
  obtain ⟨f, rfl⟩ : ∃ m, f = m + 1 := ⟨f - 1, by omega⟩
  obtain ⟨i', l', tokens', stepped, added⟩ := hs i l tokens
  obtain ⟨last, ran, final⟩ := h f i' l' tokens' (by omega)
  refine ⟨last, ?_, ?_⟩
  · rw [run, stepped]
    exact ran
  · rw [final, added, List.append_assoc]

/-- At the end of the text the last block is closed. -/
theorem yields_end : Yields true [] 0 0 [-1] [.blockEnd] := by
  intro f i l tokens hf
  obtain ⟨f, rfl⟩ : ∃ m, f = m + 1 := ⟨f - 1, by omega⟩
  exact ⟨⟨⟨[], i, l, 0⟩, tokens.push .blockEnd, -1, [], true, [none]⟩, rfl, by simp⟩

theorem unroll_inner {c : Cursor} {column m : Int} {n : Nat} (h : column < n) :
    (⟨c, tokens, n, m :: outer, allowed, [none]⟩ : Scanner).unroll column =
      (⟨c, tokens.push .blockEnd, m, outer, allowed, [none]⟩ : Scanner).unroll column := by
  simp [unroll, unroll.go, inFlow, h, emit]

/-- A line that stands further left closes a block. -/
theorem yields_blockEnd {m : Int} (hu : Opens u) (inner : k < n)
    (h : Yields true u k m outer ts) :
    Yields true u k n (m :: outer) (.blockEnd :: ts) := by
  intro f i l tokens hf
  obtain ⟨f, rfl⟩ : ∃ m, f = m + 1 := ⟨f - 1, by omega⟩
  obtain ⟨last, ran, final⟩ := h (f + 1) i l (tokens.push .blockEnd) hf
  have stepped : step ⟨⟨u, i, l, k⟩, tokens, n, m :: outer, true, [none]⟩ =
      step ⟨⟨u, i, l, k⟩, tokens.push .blockEnd, m, outer, true, [none]⟩ := by
    have closed : unroll k ⟨⟨u, i, l, k⟩, tokens, n, m :: outer, true, [none]⟩ =
        unroll k ⟨⟨u, i, l, k⟩, tokens.push .blockEnd, m, outer, true, [none]⟩ :=
      unroll_inner (Int.ofNat_lt.mpr inner)
    rw [step, step, toNextToken_of_opens hu, toNextToken_of_opens hu]
    simp only [dropStaleKeys, List.mapM_cons, List.mapM_nil, Option.bind_eq_bind, Option.bind_some,
      Option.pure_def, closed]
  have ended : scanEnd ⟨⟨u, i, l, k⟩, tokens, n, m :: outer, true, [none]⟩ =
      scanEnd ⟨⟨u, i, l, k⟩, tokens.push .blockEnd, m, outer, true, [none]⟩ := by
    rw [scanEnd, scanEnd, unroll_inner (by omega)]
  refine ⟨last, ?_, by simpa using final⟩
  rw [← ran, run, run, stepped, toNextToken_of_opens hu, toNextToken_of_opens hu, ended]

theorem unroll_eq_self {s : Scanner} {column : Int} (h : s.indent ≤ column) :
    s.unroll column = s := by
  unfold unroll
  split
  · rfl
  · cases s.outer with
    | nil => rfl
    | cons m outer => rw [unroll.go, if_neg (by omega)]

def Fresh (i l : Nat) (m : Option SimpleKey) : Prop :=
  ∀ key, m = some key → key.line = l ∧ i ≤ key.index + 1024

theorem fresh_none : Fresh i l none := fun _ h => nomatch h

/-- In front of a token of the innermost block, nothing has to be done first. -/
theorem step_eq_scanToken {m : Option SimpleKey} (hu : Opens (d :: u)) (hk : indent ≤ k)
    (hm : Fresh i l m) :
    step ⟨⟨d :: u, i, l, k⟩, tokens, indent, outer, allowed, [m]⟩ =
      (scanToken d ⟨⟨d :: u, i, l, k⟩, tokens, indent, outer, allowed, [m]⟩).map some := by
  have kept : dropStaleKeys ⟨⟨d :: u, i, l, k⟩, tokens, indent, outer, allowed, [m]⟩ =
      some ⟨⟨d :: u, i, l, k⟩, tokens, indent, outer, allowed, [m]⟩ := by
    cases m with
    | none => rfl
    | some key =>
      obtain ⟨line, index⟩ := hm key rfl
      simp [dropStaleKeys, line, Nat.not_lt.mpr index]
  rw [step, toNextToken_of_opens hu]
  simp only [Option.bind_eq_bind, Option.bind_some, kept]
  rw [unroll_eq_self hk]
  exact Option.map_eq_bind.symm

theorem yields_blockEntry (h : Yields true (' ' :: u) (k + 1) k outer ts) :
    Yields true ('-' :: ' ' :: u) k k outer (.blockEntry :: ts) := by
  refine yields_of_step [.blockEntry] (fun i l tokens => ?_) (Nat.lt_succ_self _) h
  refine ⟨i + 1, l, tokens.push .blockEntry, ?_, by simp⟩
  rw [step_eq_scanToken (opens_cons (by decide)) (Int.le_refl _) fresh_none]
  simp [scanToken, Cursor.atDocumentMark, Cursor.gapAt, Cursor.peek, isBlank, scanBlockEntry,
    inFlow, roll, removeKey, allowKey, skip, emit]

theorem startsPlain_of_canBePlain (h : canBePlain (d :: s) = true) :
    startsPlain false ⟨d :: (s ++ t), i, l, k⟩ d = true := by
  obtain ⟨marks, space, -, gap⟩ := start_of_canBePlain (t := t) (i := i) (l := l) (k := k) h
  have tab := ne_tab_of_isPrintable ((bare_of_canBePlain h).printable d List.mem_cons_self)
  by_cases special : d = '-' ∨ d = '?' ∨ d = ':'
  · have noGap := gap special
    rcases special with rfl | rfl | rfl
    · have noBlank : ((⟨'-' :: (s ++ t), i, l, k⟩ : Cursor).peek 1).any isBlank = false := by
        rw [Cursor.gapAt] at noGap
        split at noGap
        · cases noGap
        · rename_i e he
          rw [Bool.or_eq_false_iff] at noGap
          simp [he, noGap.1]
      simp [startsPlain, noBlank]
    · simp [startsPlain, noGap]
    · simp [startsPlain, noGap]
  · simp only [startMarks, List.contains_cons, List.contains_nil, Bool.or_false,
      Bool.or_eq_false_iff, beq_eq_false_iff_ne, ne_eq] at marks
    rw [not_or, not_or] at special
    simp [startsPlain, isIndicator, isFlowIndicator, isBlank, marks, special, space, tab]

theorem scanToken_plain {m : Option SimpleKey} (h : canBePlain (d :: s) = true)
    (mark : (⟨d :: (s ++ t), i, l, k⟩ : Cursor).atDocumentMark = false) :
    scanToken d ⟨⟨d :: (s ++ t), i, l, k⟩, tokens, indent, outer, allowed, [m]⟩ =
      scanPlain ⟨⟨d :: (s ++ t), i, l, k⟩, tokens, indent, outer, allowed, [m]⟩ := by
  obtain ⟨marks, -, -, gap⟩ := start_of_canBePlain (t := t) (i := i) (l := l) (k := k) h
  have starts := startsPlain_of_canBePlain (t := t) (i := i) (l := l) (k := k) h
  simp only [startMarks, List.contains_cons, List.contains_nil, Bool.or_false,
    Bool.or_eq_false_iff, beq_eq_false_iff_ne, ne_eq] at marks
  by_cases special : d = '-' ∨ d = '?' ∨ d = ':'
  · simp [scanToken, mark, marks, inFlow, starts, gap special]
  · rw [not_or, not_or] at special
    simp [scanToken, mark, marks, inFlow, starts, special]

theorem scanPlain_of_readPlain {c c' : Cursor} {m : Option SimpleKey} {newLine : Bool}
    (saved : saveKey ⟨c, tokens, indent, outer, allowed, [none]⟩ =
      some ⟨c, tokens, indent, outer, allowed, [m]⟩)
    (read : readPlain false (indent + 1).toNat (c.rest.length + 1) c .empty [] =
      some (s, newLine, c')) :
    scanPlain ⟨c, tokens, indent, outer, allowed, [none]⟩ =
      some ⟨c', tokens.push (.scalar s true), indent, outer, newLine, [m]⟩ := by
  have inBlock : inFlow ⟨c, tokens, indent, outer, allowed, [m]⟩ = false := rfl
  simp only [scanPlain, saved, Option.bind_eq_bind, Option.bind_some, inBlock, read]
  rfl

theorem scanQuoted_of_readQuoted {quote : Char} {c : Cursor}
    (read : readQuoted quote (t.length + 1) ⟨t, i + 1, l, k + 1⟩ .empty [] = some (s, c)) :
    scanQuoted quote ⟨⟨quote :: t, i, l, k⟩, tokens, indent, outer, false, [none]⟩ =
      some ⟨c, tokens.push (.scalar s false), indent, outer, false, [none]⟩ := by
  have saved : saveKey ⟨⟨quote :: t, i, l, k⟩, tokens, indent, outer, false, [none]⟩ =
    some ⟨⟨quote :: t, i, l, k⟩, tokens, indent, outer, false, [none]⟩ := rfl
  simp only [scanQuoted, saved, Option.bind_eq_bind, Option.bind_some, Cursor.skip_one, read]
  rfl

theorem scanBlock_of_readBlock {c : Cursor}
    (read : readBlock true indent ⟨t, i + 1, l, k + 1⟩ = some (s, c)) :
    scanBlock true ⟨⟨'|' :: t, i, l, k⟩, tokens, indent, outer, false, [none]⟩ =
      some ⟨c, tokens.push (.scalar s false), indent, outer, true, [none]⟩ := by
  have removed : removeKey ⟨⟨'|' :: t, i, l, k⟩, tokens, indent, outer, false, [none]⟩ =
    some ⟨⟨'|' :: t, i, l, k⟩, tokens, indent, outer, false, [none]⟩ := rfl
  simp only [scanBlock, removed, Option.bind_eq_bind, Option.bind_some, Cursor.skip_one, read]
  rfl

/-! ### Values -/

theorem yields_plain (hs : styleOf s = .plain) (hu : Opens u) (hj : j ≤ n) (hk : n < k)
    (h : Yields true u j n outer ts) :
    Yields false (s ++ '\n' :: (spaces j ++ u)) k n outer (.scalar s true :: ts) := by
  have plain := (of_styleOf_plain hs).2
  obtain ⟨d, r, rfl⟩ := List.exists_cons_of_ne_nil (ne_nil_of_styleOf_plain hs)
  refine yields_of_step [.scalar (d :: r) true] (fun i l tokens => ?_) (by simp; omega) h
  obtain ⟨i', l', read⟩ := readPlain_line (i := i) (l := l) (bare_of_canBePlain plain)
    (Nat.zero_lt_of_lt hk) hk hu (Nat.lt_succ_of_le hj)
  refine ⟨i', l', tokens.push (.scalar (d :: r) true), ?_, by simp⟩
  rw [List.cons_append] at read ⊢
  have scanned : scanPlain ⟨⟨d :: (r ++ '\n' :: (spaces j ++ u)), i, l, k⟩, tokens, n, outer, false,
        [none]⟩ =
      some ⟨⟨u, i', l', j⟩, tokens.push (.scalar (d :: r) true), n, outer, true, [none]⟩ :=
    scanPlain_of_readPlain rfl read
  rw [step_eq_scanToken (opens_of_canBePlain plain) (by omega) fresh_none,
    scanToken_plain plain (Cursor.atDocumentMark_of_pos (Nat.zero_lt_of_lt hk)), scanned]
  rfl

/-- A quoted value; after its closing quote the line ends. -/
theorem yields_quoted {quote : Char} (hq : quote = '\'' ∨ quote = '"') (hu : Opens u) (hk : n < k)
    (read : ∀ i l, ∃ i' l' k', readQuoted quote (t.length + 1) ⟨t, i + 1, l, k + 1⟩ .empty [] =
      some (s, ⟨'\n' :: (spaces j ++ u), i', l', k'⟩))
    (shorter : ('\n' :: (spaces j ++ u)).length ≤ t.length)
    (h : Yields true u j n outer ts) :
    Yields false (quote :: t) k n outer (.scalar s false :: ts) := by
  intro f i l tokens hf
  obtain ⟨f, rfl⟩ : ∃ m, f = m + 1 := ⟨f - 1, by omega⟩
  obtain ⟨i', l', k', text⟩ := read i l
  have opens : Opens (quote :: t) := by
    rcases hq with rfl | rfl <;> exact opens_cons (by decide)
  have mark : (⟨quote :: t, i, l, k⟩ : Cursor).atDocumentMark = false :=
    Cursor.atDocumentMark_of_pos (Nat.zero_lt_of_lt hk)
  have scanned : scanToken quote ⟨⟨quote :: t, i, l, k⟩, tokens, n, outer, false, [none]⟩ =
      some ⟨⟨'\n' :: (spaces j ++ u), i', l', k'⟩, tokens.push (.scalar s false), n, outer, false,
        [none]⟩ := by
    rw [← scanQuoted_of_readQuoted text]
    rcases hq with rfl | rfl <;> simp [scanToken, mark, inFlow]
  have ended : Yields false ('\n' :: (spaces j ++ u)) k' n outer ts := yields_newline hu h
  obtain ⟨last, ran, final⟩ := ended f i' l' (tokens.push (.scalar s false))
    (by simp at hf shorter ⊢; omega)
  refine ⟨last, ?_, by simpa using final⟩
  rw [run, step_eq_scanToken opens (by omega) fresh_none, scanned]
  exact ran

theorem yields_literal (hs : styleOf s = .literal) (hne : s ≠ []) (hu : Opens u) (hj : j ≤ n)
    (hk : n < k) (h : Yields true u j n outer ts) :
    Yields false ('|' :: blockHints s ++
        '\n' :: (indented (n + 2) true (s ++ lastBreak s) ++ (spaces j ++ u))) k n outer
      (.scalar s false :: ts) := by
  refine yields_of_step [.scalar s false] (fun i l tokens => ?_) (by simp; omega) h
  have printable := of_styleOf_literal hs
  simp only [canBeBlock, Bool.and_eq_true, List.all_eq_true] at printable
  obtain ⟨i', l', read⟩ := readBlock_literalBlock (i := i + 1) (l := l) (k := k + 1) hne
    printable.1.1 hu (Nat.lt_add_right 1 (Nat.lt_succ_of_le hj))
  have mark : (⟨'|' :: (blockHints s ++
      '\n' :: (indented (n + 2) true (s ++ lastBreak s) ++ (spaces j ++ u))), i, l, k⟩ :
        Cursor).atDocumentMark = false := Cursor.atDocumentMark_of_pos (Nat.zero_lt_of_lt hk)
  refine ⟨i', l', tokens.push (.scalar s false), ?_, by simp⟩
  rw [List.cons_append, step_eq_scanToken (opens_cons (by decide)) (by omega) fresh_none]
  simp [scanToken, mark, inFlow, scanBlock_of_readBlock read]

theorem yields_scalar (hu : Opens u) (hj : j ≤ n) (hk : n < k) (h : Yields true u j n outer ts) :
    Yields false (endLine (scalar (n + 2) s) ++ (spaces j ++ u)) k n outer
      (.scalar s (styleOf s = .plain) :: ts) := by
  unfold scalar
  cases style : styleOf s with
  | plain =>
    have bare := bare_of_canBePlain (of_styleOf_plain style).2
    have last : s.getLast?.any isBreak = false := by
      cases last : s.getLast? with
      | none => rfl
      | some c => exact bare.oneLine c (List.mem_of_getLast? last)
    dsimp only
    rw [endLine, last, if_neg (by decide), List.append_assoc, decide_eq_true rfl]
    exact yields_plain style hu hj hk h
  | single =>
    dsimp only
    rw [singleQuoted_eq, endLine_concat (by decide), List.append_assoc, List.cons_append]
    apply yields_quoted (.inl rfl) hu hk _ (by simp; omega) h
    intro i l
    obtain ⟨i', l', k', read⟩ := readQuoted_quotedLines (g := .empty) (o := []) (i := i + 1)
      (l := l) (t := '\n' :: (spaces j ++ u)) (n := n + 2) (Nat.succ_pos (n + 1)) (by simp)
      (foldable_of_styleOf style) (Gap.waits_empty (Nat.succ_pos k)) (Nat.lt_succ_self _)
    exact ⟨i', l', k', read⟩
  | double =>
    dsimp only
    rw [endLine_concat (by decide), List.append_assoc, List.cons_append]
    apply yields_quoted (.inr rfl) hu hk _ (by simp; omega) h
    intro i l
    obtain ⟨i', k', read⟩ := readQuoted_escaped (s := s) (b := []) (o := []) (i := i + 1) (l := l)
      (t := '\n' :: (spaces j ++ u)) (Nat.succ_pos k) (by simp) (Nat.lt_succ_self _)
    exact ⟨i', l, k', read⟩
  | literal =>
    have hne : s ≠ [] := by
      rintro rfl
      exact absurd style (by decide)
    dsimp only
    rw [endLine_literalBlock hne, List.append_assoc, List.cons_append]
    exact yields_literal style hne hu hj hk h

/-! ### Keys -/

/-- At the colon of a key the key is announced, and a mapping if it is the first key of one. -/
theorem scanValue_key {key : SimpleKey} (hk : key.column = k) (ht : key.token = tokens.size)
    (hi : indent ≤ k) :
    ∃ tokens', scanValue ⟨⟨':' :: v, i, l, n⟩, tokens.push (.scalar w true), indent, outer, false,
        [some key]⟩ =
      some ⟨⟨v, i + 1, l, n + 1⟩, tokens', k, if indent < k then indent :: outer else outer, false,
        [none]⟩ ∧
      tokens'.toList = tokens.toList ++ ((if indent < k then [.blockMappingStart] else []) ++
        [.key, .scalar w true, .value]) := by
  by_cases less : indent < k
  · simp [scanValue, roll, inFlow, insert, hk, ht, less, allowKey, skip, emit]
  · have same : indent = k := by omega
    subst same
    simp [scanValue, roll, inFlow, insert, hk, ht, allowKey, skip, emit]

theorem step_word (hw : IsWord w)
    (gap : (⟨':' :: v, i + w.length, l, k + w.length⟩ : Cursor).gapAt 1 = true)
    (hi : indent ≤ k) :
    step ⟨⟨w ++ ':' :: v, i, l, k⟩, tokens, indent, outer, true, [none]⟩ =
      some (some ⟨⟨':' :: v, i + w.length, l, k + w.length⟩, tokens.push (.scalar w true), indent,
        outer, false, [some ⟨indent = k, tokens.size, i, l, k⟩]⟩) := by
  have plain := (of_styleOf_plain hw.plain).2
  obtain ⟨d, r, rfl⟩ := List.exists_cons_of_ne_nil (ne_nil_of_styleOf_plain hw.plain)
  have mark : (⟨d :: (r ++ ':' :: v), i, l, k⟩ : Cursor).atDocumentMark = false := by
    obtain ⟨hyphen, dot⟩ := hw.noMark
    have hyphen : d ≠ '-' := fun h => hyphen (by rw [h]; rfl)
    have dot : d ≠ '.' := fun h => dot (by rw [h]; rfl)
    simp [Cursor.atDocumentMark, hyphen, dot]
  have scanned : scanPlain ⟨⟨d :: (r ++ ':' :: v), i, l, k⟩, tokens, indent, outer, true, [none]⟩ =
      some ⟨⟨':' :: v, i + (d :: r).length, l, k + (d :: r).length⟩,
        tokens.push (.scalar (d :: r) true), indent, outer, false,
        [some ⟨indent = k, tokens.size, i, l, k⟩]⟩ :=
    scanPlain_of_readPlain rfl
      (readPlain_key (bare_of_canBePlain plain) (List.cons_ne_nil d r) hw.noBlank mark gap)
  rw [List.cons_append, step_eq_scanToken (opens_of_canBePlain plain) hi fresh_none,
    scanToken_plain plain mark, scanned]
  rfl

/-- The colon after a word makes it a key. -/
theorem step_colon (gap : (⟨':' :: v, i + j, l, k + j⟩ : Cursor).gapAt 1 = true) (pos : 0 < j)
    (short : j ≤ 1024) (hi : indent ≤ k) :
    ∃ tokens', step ⟨⟨':' :: v, i + j, l, k + j⟩, tokens.push (.scalar w true), indent, outer,
        false, [some ⟨indent = k, tokens.size, i, l, k⟩]⟩ =
      some (some ⟨⟨v, i + j + 1, l, k + j + 1⟩, tokens', k,
        if indent < k then indent :: outer else outer, false, [none]⟩) ∧
      tokens'.toList = tokens.toList ++ ((if indent < k then [.blockMappingStart] else []) ++
        [.key, .scalar w true, .value]) := by
  let key : SimpleKey := ⟨indent = k, tokens.size, i, l, k⟩
  have fresh : Fresh (i + j) l (some key) := by
    intro noted hnoted
    cases hnoted
    exact ⟨rfl, Nat.add_le_add_left short i⟩
  have scanned : scanToken ':' ⟨⟨':' :: v, i + j, l, k + j⟩, tokens.push (.scalar w true), indent,
        outer, false, [some key]⟩ =
      scanValue ⟨⟨':' :: v, i + j, l, k + j⟩, tokens.push (.scalar w true), indent, outer, false,
        [some key]⟩ := by
    simp [scanToken, Cursor.atDocumentMark_of_pos (Nat.add_pos_right k pos), inFlow, gap]
  obtain ⟨tokens', value, added⟩ := scanValue_key (v := v) (w := w) (i := i + j) (l := l)
    (n := k + j) (show key.column = k from rfl) rfl hi
  refine ⟨tokens', ?_, added⟩
  rw [step_eq_scanToken (opens_cons (by decide)) (by omega) fresh, scanned, value]
  rfl

theorem yields_key (hw : IsWord w) (hv : (⟨':' :: v, 0, 0, 0⟩ : Cursor).gapAt 1 = true)
    (hi : indent ≤ k)
    (h : Yields false v (k + w.length + 1) k (if indent < k then indent :: outer else outer) ts) :
    Yields true (w ++ ':' :: v) k indent outer
      ((if indent < k then [.blockMappingStart] else []) ++ [.key, .scalar w true, .value] ++
        ts) := by
  intro f i l tokens hf
  have pos : 0 < w.length := List.length_pos_iff.mpr (ne_nil_of_styleOf_plain hw.plain)
  obtain ⟨f, rfl⟩ : ∃ m, f = m + 2 := ⟨f - 2, by simp at hf; omega⟩
  obtain ⟨tokens', announced, added⟩ := step_colon (w := w) (l := l) (i := i) hv pos hw.short hi
  obtain ⟨last, ran, final⟩ := h f _ _ tokens' (by simp at hf; omega)
  refine ⟨last, ?_, ?_⟩
  · rw [run, step_word hw hv hi]
    change run (f + 1) _ = _
    rw [run, announced]
    exact ran
  · rw [final, added, List.append_assoc]

theorem yields_first_key (hw : IsWord w) (hv : (⟨':' :: v, 0, 0, 0⟩ : Cursor).gapAt 1 = true)
    (hi : indent < k) (h : Yields false v (k + w.length + 1) k (indent :: outer) ts) :
    Yields true (w ++ ':' :: v) k indent outer
      (.blockMappingStart :: .key :: .scalar w true :: .value :: ts) := by
  rw [← if_pos (t := indent :: outer) (e := outer) hi] at h
  have opened := yields_key hw hv (Int.le_of_lt hi) h
  rw [if_pos hi] at opened
  exact opened

theorem yields_next_key (hw : IsWord w) (hv : (⟨':' :: v, 0, 0, 0⟩ : Cursor).gapAt 1 = true)
    (h : Yields false v (k + w.length + 1) k outer ts) :
    Yields true (w ++ ':' :: v) k k outer (.key :: .scalar w true :: .value :: ts) := by
  have irrefl := Int.lt_irrefl k
  rw [← if_neg (t := (k : Int) :: outer) (e := outer) irrefl] at h
  have added := yields_key hw hv (Int.le_refl k) h
  rw [if_neg irrefl] at added
  exact added

end Scanner

theorem tokens?_of_yields (h : Scanner.Yields true s 0 (-1) [] ts)
    (chars : ∀ c ∈ s, isAllowed c = true) (mark : s.head? ≠ some '\uFEFF') :
    tokens? s = some ts := by
  obtain ⟨last, ran, final⟩ := h (s.length + 1) 0 0 #[] (Nat.lt_succ_self _)
  have scanned : Scanner.run (s.length + 1) (.start s) = some last := ran
  rw [tokens?, if_neg mark, if_pos (List.all_eq_true.mpr chars), scanned]
  simpa using final

end RequestCode.Yaml
