import Mathlib.Data.List.Basic
import RequestCode.Proofs.Literal.Pieces

/-!
# Literals of the parts of a snippet

What the pieces of a loop or of a conditional part leave open, quote, and have between their
literals. Main statement: `frame_eq_of_blank_eq`, pieces that differ only in the texts they quote
have the same text between their literals.
-/

namespace RequestCode.Piece

open Literal

variable {forms : List Form} {ps qs : List Piece} {sep : Piece} {hs : List Param}
  {f : Param → List Piece}

/-- No piece leaves a literal open, whatever texts the pieces quote. -/
def Sealed (forms : List Form) (ps : List Piece) : Prop := ∀ p ∈ ps, p.Whole forms

@[simp] theorem sealed_nil : Sealed forms [] := List.forall_mem_nil _

@[simp] theorem sealed_cons {p : Piece} :
    Sealed forms (p :: ps) ↔ p.Whole forms ∧ Sealed forms ps := List.forall_mem_cons

@[simp] theorem sealed_append :
    Sealed forms (ps ++ qs) ↔ Sealed forms ps ∧ Sealed forms qs := List.forall_mem_append

@[simp] theorem sealed_each : Sealed forms (each hs f) ↔ ∀ h ∈ hs, Sealed forms (f h) := by
  induction hs with
  | nil => simp [each]
  | cons h hs ih =>
    have split : each (h :: hs) f = f h ++ each hs f := List.flatMap_cons
    rw [split, sealed_append, List.forall_mem_cons, ih]

theorem sealed_eachWith (hsep : sep.Whole forms) :
    Sealed forms (eachWith sep f hs) ↔ ∀ h ∈ hs, Sealed forms (f h) := by
  induction hs using eachWith.induct with
  | case1 => simp [eachWith]
  | case2 h => simp [eachWith]
  | case3 h i hs ih =>
    rw [eachWith, sealed_append, sealed_cons, List.forall_mem_cons, ih]
    exact and_congr_right fun _ => and_iff_right hsep

@[simp] theorem sealed_only {b : Bool} : Sealed forms (only b ps) ↔ (b → Sealed forms ps) := by
  cases b <;> simp [only]

section FlatMap

variable {α : Type} {g : Piece → List α}

@[simp] theorem flatMap_each : (each hs f).flatMap g = hs.flatMap fun h => (f h).flatMap g :=
  List.flatMap_assoc

theorem flatMap_eachWith (hsep : g sep = []) :
    (eachWith sep f hs).flatMap g = hs.flatMap fun h => (f h).flatMap g := by
  induction hs using eachWith.induct with
  | case1 => rfl
  | case2 h => simp [eachWith]
  | case3 h i hs ih => simp [eachWith, hsep, ih]

@[simp] theorem flatMap_only {b : Bool} :
    (only b ps).flatMap g = if b then ps.flatMap g else [] := by
  cases b <;> rfl

end FlatMap

@[simp] theorem blank_only {b : Bool} :
    (only b ps).map blank = if b then ps.map blank else [] := by
  cases b <;> rfl

/-- A loop that quotes every text is, up to these texts, as long as its list. -/
@[simp] theorem blank_each (h : ∀ p, (f p).map blank = (f ⟨"", ""⟩).map blank) :
    (each hs f).map blank = (List.replicate hs.length ((f ⟨"", ""⟩).map blank)).flatten := by
  induction hs with
  | nil => rfl
  | cons p hs ih =>
    have split : each (p :: hs) f = f p ++ each hs f := List.flatMap_cons
    rw [split, List.map_append, ih, h p]
    rfl

@[simp] theorem blank_eachWith (h : ∀ p, (f p).map blank = (f ⟨"", ""⟩).map blank) :
    (eachWith sep f hs).map blank =
      [sep.blank].intercalate (List.replicate hs.length ((f ⟨"", ""⟩).map blank)) := by
  induction hs using eachWith.induct with
  | case1 => rfl
  | case2 p => simp [eachWith, h p]
  | case3 p q hs ih =>
    rw [eachWith, List.map_append, List.map_cons, ih, h p]
    simp [List.replicate_succ, List.intercalate_cons_cons]

theorem frame_eq_of_blank_eq (hp : Sealed forms ps) (hq : Sealed forms qs)
    (h : ps.map blank = qs.map blank) :
    frame (ps.flatMap (tokens forms)) = frame (qs.flatMap (tokens forms)) := by
  have blanked : ∀ rs : List Piece, Sealed forms rs →
      frame (rs.flatMap (tokens forms)) =
        (rs.map blank).flatMap fun r => frame (r.tokens forms) := by
    intro rs hrs
    rw [frame_flatMap_tokens, List.flatMap_map]
    exact List.flatMap_congr fun r mem => (hrs r mem).frame_blank
  rw [blanked ps hp, blanked qs hq, h]

end RequestCode.Piece
