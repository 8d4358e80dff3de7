import RequestCode.Proofs.Script.Pieces

/-!
# Declarations of objects

A declaration is found by the beginning of its line, and the object behind it is read part by part.
Main statement: `declares_of_parses`.
-/

namespace RequestCode.Script

open Text Piece

def Declares (constant : String) (s : List Char) (ms : Members) (rest : List Char) : Prop :=
  ∃ t, declared constant s = some t ∧ readObject t = some (ms, rest)

variable {constant : String}

theorem reads_skipped {line s : List Char} (h : '\n' ∉ s) :
    (lineWith line).Reads none s [] none := by
  induction s with
  | nil => exact .nil
  | cons c s ih =>
    rw [List.mem_cons, not_or] at h
    have skipped : (lineWith line).step none c = some ([], none) := by
      simp [lineWith, Ne.symm h.1]
    exact .cons skipped (ih h.2)

theorem newline_not_mem_quote (s : List Char) : '\n' ∉ Json.quote s := by
  have digit : ∀ d < 16, '\n' ≠ lowerHexDigit d := by decide
  have escaped (c : Char) : '\n' ∉ Json.escapeChar c := by
    unfold Json.escapeChar
    split
    iterate 7 decide
    · rename_i newline _ _
      split
      · simp [digitsOfWidth, digit _ (Nat.mod_lt _ _)]
      · simpa using Ne.symm newline
  simp [Json.quote, escaped]

/-- A declaration is read part by part: what stands before its line, the line up to the first
member that is open, the members, and the closing brace. -/
theorem declares_of_parses {q : Option (List Char)} {line object after : List Char} {p o : State}
    {ms : Members} (before middle : List Piece) (closing : List Char) (tail : List Piece)
    (hbefore : (lineWith (opening constant)).Reads (some (opening constant))
      (before.flatMap chars) [] q)
    (hline : (lineWith (opening constant)).first? q line = some ((), object))
    (hobject : reader.Reads (.code, .start) object [] (.code, p))
    (hmiddle : Parses p middle o)
    (hclosing : reader.first? (.code, o) closing = some (ms, [])) :
    Declares constant
      ((before ++ code (.ofList line) ::
        (middle ++ code (.ofList (closing ++ ';' :: after)) :: tail)).flatMap chars)
      ms (';' :: (code (.ofList after) :: tail).flatMap chars) := by
  refine ⟨object ++ (middle ++ code (.ofList (closing ++ ';' :: after)) :: tail).flatMap chars,
    ?_, ?_⟩
  · have found := Scanner.first?_append hline
      ((middle ++ code (.ofList (closing ++ ';' :: after)) :: tail).flatMap chars)
    rw [declared, List.flatMap_append, List.flatMap_cons, chars, String.toList_ofList,
      hbefore.first?_append, found]
    rfl
  · have closed := Scanner.first?_append hclosing (';' :: after ++ tail.flatMap chars)
    rw [readObject, hobject.first?_append, List.flatMap_append, hmiddle.first?_append,
      List.flatMap_cons, chars, String.toList_ofList, List.append_assoc, closed, List.flatMap_cons,
      chars, String.toList_ofList]
    rfl

theorem reads_urlLine (s : List Char) :
    (lineWith (opening "options")).Reads (some (opening "options"))
      ("const url = ".toList ++ Json.quote s) [] none := by
  have other : (lineWith (opening "options")).Reads (some (opening "options"))
      "const url = ".toList [] none := rfl
  exact other.append (reads_skipped (newline_not_mem_quote s))

end RequestCode.Script
