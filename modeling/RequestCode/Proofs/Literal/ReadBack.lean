import RequestCode.Proofs.Literal.Reader

/-!
# Literals are read back

What each style of quotation writes for a character stands, in the form of that style, for that
character; so a written literal is one literal, and its text is the text that was quoted. Main
statement: `reads_write`.
-/

namespace RequestCode.Literal

open Text

variable {forms : List Form} {form : Form} {text : List Char}

def formOf? : Quote → Option Form
  | .apostrophe => some .apostrophe
  | .template => some .template
  | .braced => some .braced
  | .json => some .json
  | .shell | .shellWord | .verbatim => none

theorem hexValue?_lowerHexDigit : ∀ d < 16, hexValue? (lowerHexDigit d) = some d := by decide

theorem lowerHexDigit_ne_brace : ∀ d < 16, lowerHexDigit d ≠ '\x7d' := by decide

theorem toNat_lt_of_isControl {c : Char} (h : isControl c = true) : c.toNat < 0xA0 := by
  simp only [isControl, Bool.or_eq_true, Bool.and_eq_true, decide_eq_true_eq] at h
  omega

theorem numbered_toNat (c : Char) :
    numbered form text c.toNat = some ([], .literal form (text ++ [c]) .plain) := by
  have valid : c.toNat.isValidChar := c.valid
  simp [numbered, valid, Char.ofNat_toNat]

theorem reads_digit {left value d : Nat} (hd : d < 16) (hl : left ≠ 0) :
    (reader forms).Reads (.literal form text (.number (left + 1) value)) [lowerHexDigit d] []
      (.literal form text (.number left (value * 16 + d))) := by
  simp [Scanner.Reads, Scanner.run, reader, readMode, hexValue?_lowerHexDigit d hd, hl]

theorem reads_lastDigit {value d : Nat} (c : Char) (hd : d < 16) (hc : value * 16 + d = c.toNat) :
    (reader forms).Reads (.literal form text (.number 1 value)) [lowerHexDigit d] []
      (.literal form (text ++ [c]) .plain) := by
  simp [Scanner.Reads, Scanner.run, reader, readMode, hexValue?_lowerHexDigit d hd, hc,
    numbered_toNat]

theorem reads_fourDigits (c : Char) (h : c.toNat < 0x10000) :
    (reader forms).Reads (.literal form text (.number 4 0))
      (digitsOfWidth lowerHexDigit 16 4 c.toNat) [] (.literal form (text ++ [c]) .plain) := by
  have first : (reader forms).Reads (.literal form text (.number 4 0))
      [lowerHexDigit (c.toNat / 16 / 16 / 16 % 16)] [] _ :=
    reads_digit (Nat.mod_lt _ (by decide)) (by decide)
  have second := first.append (reads_digit (Nat.mod_lt (c.toNat / 16 / 16) (by decide)) (by decide))
  have third := second.append (reads_digit (Nat.mod_lt (c.toNat / 16) (by decide)) (by decide))
  exact third.append (reads_lastDigit c (Nat.mod_lt c.toNat (by decide)) (by omega))

theorem reads_lowerHex (n : Nat) :
    (reader forms).Reads (.literal form text (.braced none)) (lowerHex n) []
      (.literal form text (.braced (some n))) := by
  have digit (value : Option Nat) (d : Nat) (hd : d < 16) :
      (reader forms).Reads (.literal form text (.braced value)) [lowerHexDigit d] []
        (.literal form text (.braced (some (value.getD 0 * 16 + d)))) := by
    simp [Scanner.Reads, Scanner.run, reader, readMode, hexValue?_lowerHexDigit d hd,
      lowerHexDigit_ne_brace d hd]
  induction n using Nat.strongRecOn with
  | ind n ih =>
    rw [lowerHex, digits]
    split
    · rename_i hn
      simpa using digit none n (by omega)
    · rename_i hn
      have rest := (ih (n / 16) (by omega)).append
        (digit (some (n / 16)) (n % 16) (Nat.mod_lt n (by decide)))
      have whole : n / 16 * 16 + n % 16 = n := by omega
      simpa [lowerHex, whole] using rest

theorem reads_raw {c : Char} (hq : c ≠ form.quote) (hb : c ≠ '\\') (hr : form.raw c = true) :
    (reader forms).Reads (.literal form text .plain) [c] []
      (.literal form (text ++ [c]) .plain) := by
  simp [Scanner.Reads, Scanner.run, reader, readMode, hq, hb, hr]

theorem reads_escape {c : Char} {s : List Char} (hq : form.quote ≠ '\\')
    (h : form.escape c = .text s) :
    (reader forms).Reads (.literal form text .plain) ['\\', c] []
      (.literal form (text ++ s) .plain) := by
  simp [Scanner.Reads, Scanner.run, reader, readMode, hq.symm, h]

theorem reads_number {c : Char} (hq : form.quote ≠ '\\') (h : form.escape 'u' = .number)
    (hc : c.toNat < 0x10000) :
    (reader forms).Reads (.literal form text .plain)
      (['\\', 'u'] ++ digitsOfWidth lowerHexDigit 16 4 c.toNat) []
      (.literal form (text ++ [c]) .plain) := by
  have opened : (reader forms).Reads (.literal form text .plain) ['\\', 'u'] []
      (.literal form text (.number 4 0)) := by
    simp [Scanner.Reads, Scanner.run, reader, readMode, hq.symm, h]
  exact opened.append (reads_fourDigits c hc)

theorem reads_bracedNumber (c : Char) (hq : form.quote ≠ '\\') (h : form.escape 'u' = .braced) :
    (reader forms).Reads (.literal form text .plain)
      (['\\', 'u', '\x7b'] ++ lowerHex c.toNat ++ ['\x7d']) []
      (.literal form (text ++ [c]) .plain) := by
  have opened : (reader forms).Reads (.literal form text .plain) ['\\', 'u', '\x7b'] []
      (.literal form text (.braced none)) := by
    simp [Scanner.Reads, Scanner.run, reader, readMode, hq.symm, h]
  have closed : (reader forms).Reads (.literal form text (.braced (some c.toNat))) ['\x7d'] []
      (.literal form (text ++ [c]) .plain) := by
    simp [Scanner.Reads, Scanner.run, reader, readMode, numbered_toNat]
  exact (opened.append (reads_lowerHex c.toNat)).append closed

theorem reads_apostropheChar (c : Char) :
    (reader forms).Reads (.literal .apostrophe text .plain) (Quote.apostropheChar c) []
      (.literal .apostrophe (text ++ [c]) .plain) := by
  unfold Quote.apostropheChar
  split
  · rename_i h
    simp only [Bool.or_eq_true, decide_eq_true_eq] at h
    rcases h with rfl | rfl
    · exact reads_escape (by decide) rfl
    · exact reads_escape (by decide) rfl
  · rename_i h
    simp only [Bool.or_eq_true, decide_eq_true_eq, not_or] at h
    exact reads_raw h.1 h.2 rfl

theorem reads_commonEscape {c : Char} {e : List Char} (h : Quote.commonEscape? c = some e)
    (hq : form.quote ≠ '\\')
    (hc : ∀ d ∈ ['"', '\\', 'n', 'r', 't'], form.escape d = Form.commonEscape d) :
    (reader forms).Reads (.literal form text .plain) e [] (.literal form (text ++ [c]) .plain) := by
  unfold Quote.commonEscape? at h
  split at h <;> cases h <;> exact reads_escape hq (hc _ (by decide))

theorem commonEscape?_eq_none {c : Char} (h : Quote.commonEscape? c = none) :
    c ≠ '"' ∧ c ≠ '\\' ∧ c ≠ '\n' ∧ c ≠ '\r' ∧ c ≠ '\t' := by
  refine ⟨?_, ?_, ?_, ?_, ?_⟩ <;> rintro rfl <;> revert h <;> decide

theorem reads_templateChar (c : Char) :
    (reader forms).Reads (.literal .template text .plain) (Quote.templateChar c) []
      (.literal .template (text ++ [c]) .plain) := by
  unfold Quote.templateChar
  split
  · rename_i h
    exact reads_commonEscape h (by decide) (by simp [Form.template])
  · rename_i h
    obtain ⟨quote, backslash, newline, return_, -⟩ := commonEscape?_eq_none h
    split
    · rename_i hd
      subst hd
      exact reads_escape (by decide) rfl
    · rename_i hd
      split
      · rename_i hc
        have := toNat_lt_of_isControl hc
        exact reads_number (by decide) rfl (by omega)
      · exact reads_raw quote backslash (by simp [Form.template, hd, newline, return_])

theorem reads_bracedChar (c : Char) :
    (reader forms).Reads (.literal .braced text .plain) (Quote.bracedChar c) []
      (.literal .braced (text ++ [c]) .plain) := by
  unfold Quote.bracedChar
  split
  · rename_i h
    exact reads_commonEscape h (by decide) (by simp [Form.braced])
  · rename_i h
    obtain ⟨quote, backslash, newline, return_, -⟩ := commonEscape?_eq_none h
    split
    · exact reads_bracedNumber c (by decide) rfl
    · exact reads_raw quote backslash (by simp [Form.braced, newline, return_])

theorem reads_jsonChar (c : Char) :
    (reader forms).Reads (.literal .json text .plain) (Json.escapeChar c) []
      (.literal .json (text ++ [c]) .plain) := by
  unfold Json.escapeChar
  split
  iterate 7 exact reads_escape (by decide) rfl
  · rename_i quote backslash _ _ _ _ _
    split
    · exact reads_number (by decide) rfl (by omega)
    · rename_i h
      exact reads_raw quote backslash (by simpa [Form.json] using h)

/-- Between quotes, characters that are read back make up one literal. -/
theorem reads_between {write : Char → List Char} {s : List Char}
    (hopen : forms.find? (·.quote = form.quote) = some form)
    (h : ∀ c text, (reader forms).Reads (.literal form text .plain) (write c) []
      (.literal form (text ++ [c]) .plain)) :
    (reader forms).Reads .code (Quote.between form.quote (s.flatMap write))
      [.literal (.ofList s)] .code := by
  have opened : (reader forms).Reads .code [form.quote] [] (.literal form [] .plain) := by
    simp [Scanner.Reads, Scanner.run, reader, hopen]
  have inside := Scanner.Reads.flatMap (fun text => State.literal form text .plain) (s := s)
    (fun c _ text => h c text) []
  have closed : (reader forms).Reads (.literal form s .plain) [form.quote]
      [.literal (.ofList s)] .code := by
    simp [Scanner.Reads, Scanner.run, reader, readMode]
  simpa [Quote.between] using (opened.append inside).append closed

/-- A quoted text is one literal, and the literal says the text. -/
theorem reads_write {style : Quote} (h : formOf? style = some form)
    (hopen : forms.find? (·.quote = form.quote) = some form) (s : List Char) :
    (reader forms).Reads .code (style.write s) [.literal (.ofList s)] .code := by
  cases style with
  | apostrophe => cases h; exact reads_between hopen fun c _ => reads_apostropheChar c
  | template => cases h; exact reads_between hopen fun c _ => reads_templateChar c
  | braced => cases h; exact reads_between hopen fun c _ => reads_bracedChar c
  | json => cases h; exact reads_between hopen fun c _ => reads_jsonChar c
  | shell => cases h
  | shellWord => cases h
  | verbatim => cases h

end RequestCode.Literal
