import RequestCode.Yaml.Style
import RequestCode.Yaml.Token

/-!
# What a style promises

A style is chosen by looking at the text, and what was seen is what makes the written scalar
readable. Main statements: a text that is written plainly stands for itself
(`plainValue?_of_styleOf`), and no style writes a character that a YAML text may not hold
(`isAllowed_of_mem_scalar`).
-/

namespace RequestCode.Yaml

open Text

variable {p q : Char → Bool} {c d : Char} {s t : List Char} {n : Nat}

theorem hasPair_cons : hasPair p q (c :: s) = (p c && s.head?.any q || hasPair p q s) := by
  cases s <;> simp [hasPair]

/-- Neighbours in the front part of a text are neighbours in the text. -/
theorem hasPair_of_hasPair_append (h : hasPair p q (s ++ t) = false) : hasPair p q t = false := by
  induction s with
  | nil => exact h
  | cons c s ih =>
    rw [List.cons_append, hasPair_cons, Bool.or_eq_false_iff] at h
    exact ih h.2

/-! ### Characters -/

theorem isPrintable_iff : isPrintable c = true ↔
    c.toNat = 10 ∨ (0x20 ≤ c.toNat ∧ c.toNat ≤ 0x7e) ∨
      (0xa0 ≤ c.toNat ∧ c.toNat ≤ 0xfffd ∧ c.toNat ≠ 0xfeff) ∨ 0xffff < c.toNat := by
  simp only [isPrintable, Bool.or_eq_true, Bool.and_eq_true, decide_eq_true_eq, ne_eq, or_assoc,
    and_assoc, ← Char.toNat_inj, Char.le_def, Char.lt_def, UInt32.le_iff_toNat_le,
    UInt32.lt_iff_toNat_lt]
  rfl

theorem isBlank_iff : isBlank c = true ↔ c = ' ' ∨ c = '\t' := by
  simp [isBlank]

theorem ne_tab_of_isPrintable (h : isPrintable c = true) : c ≠ '\t' := by
  rintro rfl
  exact absurd h (by decide)

theorem ne_mark_of_isPrintable (h : isPrintable c = true) : c ≠ '\uFEFF' := by
  rintro rfl
  exact absurd h (by decide)

theorem not_isBreak_of_isBlank (h : isBlank c = true) : isBreak c = false := by
  rcases isBlank_iff.mp h with rfl | rfl <;> decide

theorem not_isBlank_of_isBreak (h : isBreak c = true) : isBlank c = false := by
  rw [Bool.eq_false_iff]
  intro blank
  rw [not_isBreak_of_isBlank blank] at h
  cases h

theorem isAllowed_of_isPrintable (h : isPrintable c = true) : isAllowed c = true := by
  rw [isPrintable_iff] at h
  simp only [isAllowed, Bool.or_eq_true, Bool.and_eq_true, decide_eq_true_eq]
  omega

theorem toNat_le_of_not_isPrintable (h : isPrintable c = false) : c.toNat ≤ 0xffff := by
  rw [Bool.eq_false_iff, ne_eq, isPrintable_iff] at h
  omega

theorem isAllowed_upperHexDigit : ∀ d < 16, isAllowed (upperHexDigit d) = true := by decide

theorem exists_digit_of_mem {digit : Nat → Char} {base width : Nat} (hb : 0 < base)
    (h : c ∈ digitsOfWidth digit base width n) : ∃ d < base, c = digit d := by
  induction width generalizing n with
  | zero => cases h
  | succ width ih =>
    rcases List.mem_append.mp h with front | last
    · exact ih front
    · exact ⟨n % base, Nat.mod_lt n hb, List.mem_singleton.mp last⟩

theorem isAllowed_escapeLetter {e : Char} (h : escapeLetter? c = some e) : isAllowed e = true := by
  unfold escapeLetter? at h
  split at h <;> cases h <;> decide

theorem isAllowed_of_mem_escaped (h : d ∈ escaped c) : isAllowed d = true := by
  have hex (width : Nat) (hd : d ∈ digitsOfWidth upperHexDigit 16 width c.toNat) :
      isAllowed d = true := by
    obtain ⟨v, hv, rfl⟩ := exists_digit_of_mem (by decide) hd
    exact isAllowed_upperHexDigit v hv
  have mark {a : Char} (hd : d ∈ ['\\', a]) (ha : a = 'x' ∨ a = 'u') : isAllowed d = true := by
    simp only [List.mem_cons, List.not_mem_nil, or_false] at hd
    rcases hd with rfl | rfl
    · decide
    · rcases ha with rfl | rfl <;> decide
  unfold escaped at h
  split at h
  · rename_i e he
    simp only [List.mem_cons, List.not_mem_nil, or_false] at h
    rcases h with rfl | rfl
    · decide
    · exact isAllowed_escapeLetter he
  · split at h
    · rename_i printable
      rw [List.mem_singleton.mp h]
      exact isAllowed_of_isPrintable printable
    · split at h <;> rcases List.mem_append.mp h with front | digits
      · exact mark front (.inl rfl)
      · exact hex 2 digits
      · exact mark front (.inr rfl)
      · exact hex 4 digits

/-! ### The choice of a style -/

/-- Only a text itself is a text that stands for a text. -/
theorem eq_of_plainValue?_eq_string {x : String} (h : plainValue? s = some (.string x)) :
    x = .ofList s := by
  unfold plainValue? at h
  split at h
  · cases h
  · cases h
  · split at h
    · unfold wordNumber? at h
      split at h <;> cases h
    · split at h
      · rename_i y _
        cases y <;> cases h
      · cases h
        rfl
  · rename_i y _
    cases y <;> cases h
  · cases h
    rfl

theorem plainValue?_of_not_isAmbiguous (h : isAmbiguous s = false) :
    plainValue? s = some (.string (.ofList s)) := by
  unfold isAmbiguous at h
  split at h
  · rename_i x hx
    rw [hx, eq_of_plainValue?_eq_string hx]
  · cases h

theorem of_styleOf_plain (h : styleOf s = .plain) :
    isAmbiguous s = false ∧ canBePlain s = true := by
  unfold styleOf at h
  split at h
  · split at h <;> cases h
  · split at h
    · simp_all
    · split at h <;> cases h

theorem of_styleOf_single (h : styleOf s = .single) : '\n' ∉ s ∧ canBeSingle s = true := by
  unfold styleOf at h
  split at h
  · split at h <;> cases h
  · split at h
    · cases h
    · split at h
      · simp_all
      · cases h

theorem of_styleOf_literal (h : styleOf s = .literal) : canBeBlock s = true := by
  unfold styleOf at h
  split at h
  · split at h
    · assumption
    · cases h
  · split at h
    · cases h
    · split at h <;> cases h

/-- A text that is written without quotes reads as that text. -/
theorem plainValue?_of_styleOf (h : styleOf s = .plain) :
    plainValue? s = some (.string (.ofList s)) :=
  plainValue?_of_not_isAmbiguous (of_styleOf_plain h).1

theorem ne_nil_of_styleOf_plain (h : styleOf s = .plain) : s ≠ [] := by
  rintro rfl
  exact absurd h (by decide)

/-! ### Written characters -/

theorem mem_of_mem_indented {fresh : Bool} (h : c ∈ indented n fresh s) : c = ' ' ∨ c ∈ s := by
  induction s generalizing fresh with
  | nil => cases h
  | cons d s ih =>
    unfold indented at h
    split at h
    · rcases List.mem_cons.mp h with rfl | later
      · simp
      · exact (ih later).imp_right (List.mem_cons_of_mem d)
    · rcases List.mem_append.mp h with blank | later
      · split at blank
        · exact .inl (List.eq_of_mem_replicate blank)
        · cases blank
      · rcases List.mem_cons.mp later with rfl | later
        · simp
        · exact (ih later).imp_right (List.mem_cons_of_mem d)

theorem isAllowed_of_mem_blockHints (h : c ∈ blockHints s) : isAllowed c = true := by
  have hints : c = '2' ∨ c = '-' ∨ c = '+' := by
    unfold blockHints at h
    rcases List.mem_append.mp h with h | h
    all_goals
      repeat' split at h
      all_goals simp_all
  rcases hints with rfl | rfl | rfl <;> decide

theorem isAllowed_of_mem_indented {fresh : Bool} (hs : ∀ d ∈ s, isPrintable d = true)
    (h : c ∈ indented n fresh s) : isAllowed c = true := by
  rcases mem_of_mem_indented h with rfl | mem
  · decide
  · exact isAllowed_of_isPrintable (hs c mem)

theorem isAllowed_of_mem_singleQuoted (hs : ∀ d ∈ s, isPrintable d = true)
    (h : c ∈ singleQuoted n s) : isAllowed c = true := by
  have doubled : ∀ d ∈ s.flatMap fun c => if c = '\'' then [c, c] else [c],
      isPrintable d = true := by
    intro d hd
    obtain ⟨e, he, hd⟩ := List.mem_flatMap.mp hd
    obtain rfl : d = e := by
      split at hd <;> simp_all
    exact hs d he
  simp only [singleQuoted, List.cons_append, List.mem_cons, List.mem_append] at h
  rcases h with rfl | (body | closing) | quote | none
  · decide
  · exact isAllowed_of_mem_indented doubled body
  · split at closing
    · rw [List.eq_of_mem_replicate closing]
      decide
    · cases closing
  · rw [quote]
    decide
  · cases none

theorem isAllowed_of_mem_literalBlock (hs : ∀ d ∈ s, isPrintable d = true)
    (h : c ∈ literalBlock n s) : isAllowed c = true := by
  simp only [literalBlock, List.cons_append, List.mem_cons, List.mem_append] at h
  rcases h with rfl | hint | rfl | body
  · decide
  · exact isAllowed_of_mem_blockHints hint
  · decide
  · exact isAllowed_of_mem_indented hs body

/-- No style writes a character that a YAML text may not hold. -/
theorem isAllowed_of_mem_scalar (h : c ∈ scalar n s) : isAllowed c = true := by
  unfold scalar at h
  split at h
  next plain =>
    have printable := (of_styleOf_plain plain).2
    simp only [canBePlain, Bool.and_eq_true, List.all_eq_true] at printable
    exact isAllowed_of_isPrintable (printable.1.1.1 c h).1
  next single =>
    have printable := (of_styleOf_single single).2
    simp only [canBeSingle, Bool.and_eq_true, List.all_eq_true] at printable
    exact isAllowed_of_mem_singleQuoted printable.1.1 h
  next double =>
    simp only [List.cons_append, List.mem_cons, List.mem_append, List.mem_flatMap] at h
    rcases h with rfl | ⟨d, -, hc⟩ | quote | none
    · decide
    · exact isAllowed_of_mem_escaped hc
    · rw [quote]
      decide
    · cases none
  next literal =>
    have printable := of_styleOf_literal literal
    simp only [canBeBlock, Bool.and_eq_true, List.all_eq_true] at printable
    exact isAllowed_of_mem_literalBlock printable.1.1 h

end RequestCode.Yaml
