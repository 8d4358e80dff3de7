import RequestCode.Proofs.Literal.Reader
import RequestCode.Proofs.Literal.Parts

/-!
# Places of literals

Where the texts of a request stand in a snippet as literals. Main statements: `toList_render` gives
the snippet around each of them, and `frame_parts_congr` says that pieces which differ only in the
texts they quote have the same text between them.
-/

namespace RequestCode.Piece

open Literal

/-- Among the pieces, the text stands as a literal of the style between the two texts. -/
def Stands (ps : List Piece) (style : Quote) (text : String) (before after : List Char) : Prop :=
  ∃ qs rs, ps = qs ++ quoted style text :: rs ∧ before = qs.flatMap chars ∧
    after = rs.flatMap chars

def said : Piece → List String
  | quoted _ text => [text]
  | _ => []

def styles : Piece → List Quote
  | quoted style _ => [style]
  | _ => []

def parts : Piece → List Token
  | code text => text.toList.map .code
  | quoted _ text => [.literal text]
  | bare text => text.toList.map .code

variable {ps qs : List Piece} {style : Quote} {text : String} {before after : List Char}

@[simp] theorem said_code : (code text).said = [] := rfl

@[simp] theorem said_bare : (bare text).said = [] := rfl

@[simp] theorem said_quoted : (quoted style text).said = [text] := rfl

@[simp] theorem styles_code : (code text).styles = [] := rfl

@[simp] theorem styles_bare : (bare text).styles = [] := rfl

@[simp] theorem styles_quoted : (quoted style text).styles = [style] := rfl

theorem toList_render (h : Stands ps style text before after) :
    (render ps).toList = before ++ style.write text.toList ++ after := by
  obtain ⟨qs, rs, rfl, rfl, rfl⟩ := h
  simp [render, chars]

theorem mem_said_of_stands (h : Stands ps style text before after) : text ∈ ps.flatMap said := by
  obtain ⟨qs, rs, rfl, -, -⟩ := h
  simp

theorem mem_styles_of_stands (h : Stands ps style text before after) :
    style ∈ ps.flatMap styles := by
  obtain ⟨qs, rs, rfl, -, -⟩ := h
  simp

theorem stands_of_mem_said (h : text ∈ ps.flatMap said) :
    ∃ style before after, Stands ps style text before after := by
  obtain ⟨p, mem, quotes⟩ := List.mem_flatMap.mp h
  obtain ⟨qs, rs, rfl⟩ := List.append_of_mem mem
  cases p with
  | code text => cases quotes
  | quoted style text =>
    obtain rfl := List.mem_singleton.mp quotes
    exact ⟨style, _, _, qs, rs, rfl, rfl, rfl⟩
  | bare text => cases quotes

theorem texts_code (s : List Char) : Literal.texts (s.map .code) = [] := by
  simp [Literal.texts]

theorem texts_parts (ps : List Piece) : Literal.texts (ps.flatMap parts) = ps.flatMap said := by
  induction ps with
  | nil => rfl
  | cons p ps ih =>
    rw [List.flatMap_cons, List.flatMap_cons, texts_append, ih]
    congr 1
    cases p with
    | code text => exact texts_code text.toList
    | quoted style text => rfl
    | bare text => exact texts_code text.toList

/-- Pieces that differ only in what they quote have the same text between their literals. -/
theorem frame_parts_congr (h : ps.map blank = qs.map blank) :
    frame (ps.flatMap parts) = frame (qs.flatMap parts) := by
  have blanked (rs : List Piece) :
      frame (rs.flatMap parts) = (rs.map blank).flatMap fun p => frame p.parts := by
    induction rs with
    | nil => rfl
    | cons p rs ih =>
      rw [List.flatMap_cons, frame_append, ih]
      cases p <;> rfl
  rw [blanked ps, blanked qs, h]

end RequestCode.Piece
