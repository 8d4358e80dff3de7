import RequestCode.Piece
import RequestCode.Proofs.Literal.ReadBack

/-!
# Literals of pieces

A snippet is cut piece by piece, as long as no piece leaves a literal open. Main statements:
`cut_render`, a snippet is cut into the tokens of its pieces, and `tokens_quoted`, a quoted text is
one literal and nothing else.
-/

namespace RequestCode

open Literal

namespace Piece

/-- The piece has no literal that is still open at its end. -/
def Closed (forms : List Form) (p : Piece) : Prop :=
  ∃ ts, (reader forms).Reads .code p.chars ts .code

def tokens (forms : List Form) (p : Piece) : List Token :=
  (((reader forms).run .code p.chars).map (·.1)).getD []

def texts (forms : List Form) (p : Piece) : List String := Literal.texts (p.tokens forms)

/-- The piece without the text of the request that it quotes. -/
def blank : Piece → Piece
  | quoted style _ => quoted style ""
  | p => p

variable {forms : List Form} {ps : List Piece} {p : Piece}

theorem tokens_of_reads {ts : List Token} (h : (reader forms).Reads .code p.chars ts .code) :
    p.tokens forms = ts := by
  unfold Text.Scanner.Reads at h
  simp [tokens, h]

theorem Closed.reads (h : p.Closed forms) :
    (reader forms).Reads .code p.chars (p.tokens forms) .code := by
  obtain ⟨ts, hts⟩ := h
  rwa [tokens_of_reads hts]

theorem reads_pieces (h : ∀ p ∈ ps, p.Closed forms) :
    (reader forms).Reads .code (ps.flatMap chars) (ps.flatMap (tokens forms)) .code := by
  induction ps with
  | nil => exact .nil
  | cons p ps ih =>
    exact (h p List.mem_cons_self).reads.append
      (ih fun q hq => h q (List.mem_cons_of_mem p hq))

theorem cut_render (h : ∀ p ∈ ps, p.Closed forms) :
    cut forms (render ps) = some (ps.flatMap (tokens forms)) := by
  have hrun : (reader forms).run .code (render ps).toList =
      some (ps.flatMap (tokens forms), .code) := by
    rw [render, String.toList_ofList]
    exact reads_pieces h
  unfold cut
  rw [hrun]

theorem texts_flatMap_tokens :
    Literal.texts (ps.flatMap (tokens forms)) = ps.flatMap (texts forms) := by
  induction ps with
  | nil => rfl
  | cons p ps ih => simp [texts, ih]

theorem frame_flatMap_tokens :
    frame (ps.flatMap (tokens forms)) = ps.flatMap fun p => frame (p.tokens forms) := by
  induction ps with
  | nil => rfl
  | cons p ps ih => simp [ih]

def Readable (forms : List Form) (style : Quote) : Prop :=
  ∃ form, formOf? style = some form ∧ forms.find? (·.quote = form.quote) = some form

variable {style : Quote} {text : String}

theorem readable_json : Readable [.json] .json := ⟨_, rfl, rfl⟩

theorem tokens_quoted (h : Readable forms style) :
    (quoted style text).tokens forms = [.literal text] := by
  obtain ⟨form, hform, hopen⟩ := h
  simpa using tokens_of_reads (p := quoted style text) (reads_write hform hopen text.toList)

theorem closed_quoted (h : Readable forms style) : (quoted style text).Closed forms := by
  obtain ⟨form, hform, hopen⟩ := h
  exact ⟨_, reads_write hform hopen text.toList⟩

theorem texts_quoted (h : Readable forms style) : (quoted style text).texts forms = [text] := by
  rw [texts, tokens_quoted h]
  rfl

/-- The piece leaves no literal open, whatever text of the request it quotes. -/
def Whole (forms : List Form) : Piece → Prop
  | quoted style _ => Readable forms style
  | p => p.Closed forms

@[simp] theorem whole_quoted : (quoted style text).Whole forms ↔ Readable forms style := Iff.rfl

theorem Whole.closed (h : p.Whole forms) : p.Closed forms := by
  cases p with
  | code text => exact h
  | quoted style text => exact closed_quoted h
  | bare text => exact h

theorem Whole.frame_blank (h : p.Whole forms) :
    frame (p.tokens forms) = frame (p.blank.tokens forms) := by
  cases p with
  | code text => rfl
  | quoted style text =>
    rw [blank, tokens_quoted h, tokens_quoted h]
    rfl
  | bare text => rfl

def isPlain (forms : List Form) (s : List Char) : Bool :=
  s.all fun c => forms.all fun f => f.quote ≠ c

theorem reads_plain {s : List Char} (h : isPlain forms s = true) :
    (reader forms).Reads .code s (s.map .code) .code := by
  induction s with
  | nil => exact .nil
  | cons c s ih =>
    rw [isPlain, List.all_cons, Bool.and_eq_true] at h
    have unopened : forms.find? (fun f => decide (f.quote = c)) = none := by
      simpa using h.1
    have first : (reader forms).step .code c = some ([.code c], .code) := by
      simp [reader, unopened]
    exact .cons first (ih h.2)

theorem whole_plain {text : String} (h : isPlain forms text.toList = true) :
    (code text).Whole forms :=
  ⟨_, reads_plain h⟩

theorem texts_plain {text : String} (h : isPlain forms text.toList = true) :
    (code text).texts forms = [] := by
  rw [texts, tokens_of_reads (p := code text) (reads_plain h)]
  simp [Literal.texts]

theorem isPlain_ofList {s : List Char} (h : isPlain forms s = true) :
    isPlain forms (String.ofList s).toList = true := by
  rwa [String.toList_ofList]

theorem isPlain_ite {yes no : String} (b : Bool) (hyes : isPlain forms yes.toList = true)
    (hno : isPlain forms no.toList = true) :
    isPlain forms (if b then yes else no).toList = true := by
  cases b with
  | false => exact hno
  | true => exact hyes

def cutsTo (forms : List Form) (s : List Char) (xs : List String) : Bool :=
  match (reader forms).run .code s with
  | some (ts, .code) => Literal.texts ts = xs
  | _ => false

theorem reads_of_cutsTo {s : List Char} {xs : List String} (h : cutsTo forms s xs = true) :
    ∃ ts, (reader forms).Reads .code s ts .code ∧ Literal.texts ts = xs := by
  unfold cutsTo at h
  split at h
  · rename_i ts hrun
    exact ⟨ts, hrun, by simpa using h⟩
  · simp at h

def Constant (forms : List Form) (text : String) (xs : List String) : Prop :=
  (code text).Whole forms ∧ (code text).texts forms = xs

theorem constant_ofList {s : List Char} {xs : List String} (h : cutsTo forms s xs = true) :
    Constant forms (.ofList s) xs := by
  obtain ⟨ts, hts, hxs⟩ := reads_of_cutsTo h
  have hread : (reader forms).Reads .code (code (.ofList s)).chars ts .code := by
    simpa [chars] using hts
  exact ⟨⟨ts, hread⟩, by rw [texts, tokens_of_reads hread, hxs]⟩

end Piece

end RequestCode
