import RequestCode.Proofs.Catalog.Keys
import RequestCode.Proofs.Traversal

/-!
# The end of a snippet

Whatever the request is, the text that a client of the catalog prints for it ends with a line
break: the last piece is fixed text. Main statement: `getLast?_of_convert_eq_ok`.
-/

namespace RequestCode

open Piece

namespace Piece

variable {ps qs : List Piece} {s : List Char}

def EndsLine (ps : List Piece) : Prop :=
  ∃ qs s, ps = qs ++ [code (.ofList s)] ∧ s.getLast? = some '\n'

theorem EndsLine.append (h : EndsLine qs) : EndsLine (ps ++ qs) := by
  obtain ⟨rs, s, rfl, hs⟩ := h
  exact ⟨ps ++ rs, s, by simp, hs⟩

theorem EndsLine.cons {p : Piece} (h : EndsLine ps) : EndsLine (p :: ps) := by
  change EndsLine ([p] ++ ps)
  exact h.append

theorem EndsLine.fixed (h : s.getLast? = some '\n') : EndsLine [code (.ofList s)] :=
  ⟨[], s, rfl, h⟩

theorem EndsLine.getLast?_render (h : EndsLine ps) : (render ps).toList.getLast? = some '\n' := by
  obtain ⟨qs, s, rfl, hs⟩ := h
  simp [render, chars, List.getLast?_append, hs]

end Piece

namespace Catalog

theorem endsLine_printer : ∀ l ∈ languages, ∀ c ∈ l.clients, ∀ r, EndsLine (c.printer r) := by
  simp only [languages, Language.clients, c, clojure, cSharp, go, http, java, javaScript, kotlin,
    node, php, powerShell, python, ruby, rust, shell, swift, List.forall_mem_cons,
    List.not_mem_nil, false_implies, implies_true, and_true]
  and_intros <;> intro r <;> apply EndsLine.append
  all_goals repeat first | exact .fixed rfl | apply EndsLine.cons

end Catalog

theorem Outgoing.getLast?_of_convert_eq_ok {r : Outgoing} {language content : String}
    {library : Option String} (h : r.convert language library = .ok content) :
    content.toList.getLast? = some '\n' := by
  obtain ⟨c, found, rfl⟩ := map_eq_ok_iff.mp h
  obtain ⟨l, hl, -, hc, -⟩ := findClient_eq_ok_iff.mp found
  exact (Catalog.endsLine_printer l hl c hc r).getLast?_render

end RequestCode
