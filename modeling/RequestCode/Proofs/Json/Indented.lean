import Mathlib.Data.List.DropRight
import RequestCode.Proofs.Json.Literal
import RequestCode.Proofs.Json.Tree

/-!
# Indented JSON is read back

What is read does not depend on the blanks in front of it, and a value ends where its text does, so
the text with one item a line reads as the value that it was written for. Main statement:
`read_writeIndented`, for values without numbers.
-/

namespace RequestCode.Json

open Text

mutual

def NumberFree : Json → Prop
  | number _ => False
  | array items => NumberFreeItems items
  | object members => NumberFreeMembers members
  | _ => True

def NumberFreeItems : List Json → Prop
  | [] => True
  | v :: r => v.NumberFree ∧ NumberFreeItems r

def NumberFreeMembers : List (String × Json) → Prop
  | [] => True
  | (_, v) :: r => v.NumberFree ∧ NumberFreeMembers r

end

section Blanks

variable {s t : List Char} {c : Char}

theorem skipSpace_newLine (d : Nat) (s : List Char) :
    skipSpace (newLine d ++ s) = skipSpace s := by
  apply List.dropWhile_append_of_pos
  simp [newLine, isSpace]

theorem skipSpace_cons (h : isSpace c = false) (s : List Char) : skipSpace (c :: s) = c :: s := by
  rw [skipSpace, List.dropWhile_cons_of_neg (by simp [h])]

theorem skipSpace_skipSpace (s : List Char) : skipSpace (skipSpace s) = skipSpace s :=
  List.dropWhile_idempotent isSpace s

theorem readTree_congr (h : skipSpace s = skipSpace t) (fuel : Nat) :
    readTree fuel s = readTree fuel t := by
  cases fuel with
  | zero => rfl
  | succ fuel => rw [readTree, readTree, h]

theorem readItems_congr (h : skipSpace s = skipSpace t) (fuel : Nat) :
    readItems fuel s = readItems fuel t := by
  cases fuel with
  | zero => rfl
  | succ fuel => rw [readItems, readItems, readTree_congr h]

theorem readMembers_congr (h : skipSpace s = skipSpace t) (fuel : Nat) :
    readMembers fuel s = readMembers fuel t := by
  cases fuel with
  | zero => rfl
  | succ fuel => rw [readMembers, readMembers, h]

end Blanks

section Brackets

variable {s t rest : List Char} {fuel : Nat} {item : Tree}

theorem readTree_array {items : List Tree} (filled : ∀ r, skipSpace s ≠ ']' :: r)
    (read : readItems fuel s = some (items, rest)) :
    readTree (fuel + 1) ('[' :: s) = some (.array items, rest) := by
  rw [← readItems_congr (skipSpace_skipSpace s)] at read
  have opened : skipSpace ('[' :: s) = '[' :: s := skipSpace_cons (by decide) s
  simp only [readTree, opened]
  rw [read]
  rfl

theorem readTree_object {members : List (Option String × Tree)}
    (filled : ∀ r, skipSpace s ≠ '}' :: r)
    (read : readMembers fuel s = some (members, rest)) :
    readTree (fuel + 1) ('{' :: s) = some (.object members, rest) := by
  rw [← readMembers_congr (skipSpace_skipSpace s)] at read
  have opened : skipSpace ('{' :: s) = '{' :: s := skipSpace_cons (by decide) s
  simp only [readTree, opened]
  rw [read]
  rfl

theorem readTree_quote (s : List Char) :
    readTree (fuel + 1) (quote s ++ rest) = some (.string (some (.ofList s)), rest) := by
  rw [quote_append, readTree]
  simp only [skipSpace_cons (show isSpace '"' = false by decide), readString_quote]
  rfl

theorem readItems_last (read : readTree fuel s = some (item, t))
    (closed : skipSpace t = ']' :: rest) : readItems (fuel + 1) s = some ([item], rest) := by
  rw [readItems, read]
  simp [closed]

theorem readItems_more {items : List Tree} (read : readTree fuel s = some (item, ',' :: t))
    (more : readItems fuel t = some (items, rest)) :
    readItems (fuel + 1) s = some (item :: items, rest) := by
  rw [readItems, read]
  simp [skipSpace_cons, isSpace, more]

theorem readTree_blank (fuel : Nat) (s : List Char) :
    readTree fuel (' ' :: s) = readTree fuel s := by
  have skipped : skipSpace (' ' :: s) = skipSpace s := rfl
  exact readTree_congr skipped fuel

theorem readMembers_last (k : List Char) (read : readTree fuel s = some (item, t))
    (closed : skipSpace t = '}' :: rest) :
    readMembers (fuel + 1) (quote k ++ ':' :: ' ' :: s) =
      some ([(some (.ofList k), item)], rest) := by
  rw [quote_append, readMembers, skipSpace_cons (by decide)]
  simp [readString_quote, skipSpace_cons, isSpace, readTree_blank, read, closed]

theorem readMembers_more {members : List (Option String × Tree)} (k : List Char)
    (read : readTree fuel s = some (item, ',' :: t))
    (more : readMembers fuel t = some (members, rest)) :
    readMembers (fuel + 1) (quote k ++ ':' :: ' ' :: s) =
      some ((some (.ofList k), item) :: members, rest) := by
  rw [quote_append, readMembers, skipSpace_cons (by decide)]
  simp [readString_quote, skipSpace_cons, isSpace, readTree_blank, read, more]

end Brackets

section Places

variable {v : Json} {d : Nat}

theorem exists_head (h : v.NumberFree) (d : Nat) :
    ∃ c s, v.indentedChars d = c :: s ∧ isSpace c = false ∧ c ≠ ']' := by
  cases v with
  | null => exact ⟨_, _, rfl, by decide, by decide⟩
  | bool b => cases b <;> exact ⟨_, _, rfl, by decide, by decide⟩
  | number n => exact h.elim
  | string s => exact ⟨_, _, rfl, by decide, by decide⟩
  | array items => cases items <;> exact ⟨_, _, rfl, by decide, by decide⟩
  | object members => cases members <;> exact ⟨_, _, rfl, by decide, by decide⟩

theorem indentedItems_cons (d : Nat) (v : Json) (r : List Json) :
    ∃ rest, indentedItems d (v :: r) = newLine d ++ (v.indentedChars d ++ rest) := by
  cases r with
  | nil => exact ⟨[], by rw [indentedItems, List.append_nil]⟩
  | cons w r => exact ⟨_, by rw [indentedItems, List.append_assoc]⟩

theorem skipSpace_items_ne {r : List Json} (h : v.NumberFree) (d : Nat) (t u : List Char) :
    skipSpace (indentedItems d (v :: r) ++ t) ≠ ']' :: u := by
  obtain ⟨rest, line⟩ := indentedItems_cons d v r
  obtain ⟨c, s, written, solid, open_⟩ := exists_head h d
  rw [line, List.append_assoc, skipSpace_newLine, written, List.cons_append, List.cons_append,
    skipSpace_cons solid]
  intro closed
  cases closed
  exact open_ rfl

theorem skipSpace_members_ne (m : String × Json) (r : List (String × Json)) (d : Nat)
    (t u : List Char) : skipSpace (indentedMembers d (m :: r) ++ t) ≠ '}' :: u := by
  have line : ∃ rest, indentedMembers d (m :: r) = newLine d ++ '"' :: rest := by
    cases r <;> simp [indentedMembers, quote]
  obtain ⟨rest, line⟩ := line
  rw [line, List.append_assoc, skipSpace_newLine, List.cons_append, skipSpace_cons (by decide)]
  intro closed
  cases closed

end Places

mutual

/-- A value is read from its text with as much fuel as the text is long. -/
theorem readTree_indentedChars : ∀ {v : Json} {d fuel : Nat} (rest : List Char), v.NumberFree →
    (v.indentedChars d).length ≤ fuel →
    readTree fuel (v.indentedChars d ++ rest) = some (v.tree, rest)
  | .null, d, fuel + 1, rest, _, _ => rfl
  | .bool true, d, fuel + 1, rest, _, _ => rfl
  | .bool false, d, fuel + 1, rest, _, _ => rfl
  | .string s, d, fuel + 1, rest, _, _ => by
    have written : (string s).indentedChars d = quote s.toList := rfl
    rw [written, readTree_quote, String.ofList_toList]
    rfl
  | .array [], d, fuel + 1, rest, _, _ => rfl
  | .object [], d, fuel + 1, rest, _, _ => rfl
  | .array (v :: r), d, fuel + 1, rest, h, enough => by
    rw [indentedChars] at enough ⊢
    simp only [List.length_append, List.length_cons] at enough
    simp only [List.append_assoc, List.cons_append]
    apply readTree_array
    · intro u
      exact skipSpace_items_ne h.1 _ _ _
    · apply readItems_indentedItems h (by omega)
      rw [skipSpace_newLine]
      exact skipSpace_cons (by decide) _
  | .object (m :: r), d, fuel + 1, rest, h, enough => by
    rw [indentedChars] at enough ⊢
    simp only [List.length_append, List.length_cons] at enough
    simp only [List.append_assoc, List.cons_append]
    apply readTree_object
    · intro u
      exact skipSpace_members_ne _ _ _ _ _
    · apply readMembers_indentedMembers h (by omega)
      rw [skipSpace_newLine]
      exact skipSpace_cons (by decide) _

theorem readItems_indentedItems : ∀ {v : Json} {r : List Json} {d fuel : Nat} {rest t : List Char},
    NumberFreeItems (v :: r) → (indentedItems d (v :: r)).length ≤ fuel →
    skipSpace t = ']' :: rest →
    readItems fuel (indentedItems d (v :: r) ++ t) = some (itemTrees (v :: r), rest)
  | v, [], d, fuel + 1, rest, t, h, enough, closed => by
    rw [indentedItems] at enough ⊢
    simp only [List.length_append, newLine, List.length_cons] at enough
    rw [List.append_assoc, readItems_congr (skipSpace_newLine d _)]
    exact readItems_last (readTree_indentedChars t h.1 (by omega)) closed
  | v, w :: r, d, fuel + 1, rest, t, h, enough, closed => by
    rw [indentedItems] at enough ⊢
    simp only [List.length_append, newLine, List.length_cons] at enough
    rw [List.append_assoc, List.append_assoc, readItems_congr (skipSpace_newLine d _)]
    exact readItems_more (readTree_indentedChars _ h.1 (by omega))
      (readItems_indentedItems h.2 (by omega) closed)

theorem readMembers_indentedMembers : ∀ {m : String × Json} {r : List (String × Json)}
    {d fuel : Nat} {rest t : List Char},
    NumberFreeMembers (m :: r) → (indentedMembers d (m :: r)).length ≤ fuel →
    skipSpace t = '}' :: rest →
    readMembers fuel (indentedMembers d (m :: r) ++ t) = some (memberTrees (m :: r), rest)
  | (k, v), [], d, fuel + 1, rest, t, h, enough, closed => by
    rw [indentedMembers] at enough ⊢
    simp only [List.length_append, newLine, List.length_cons] at enough
    simp only [List.append_assoc, List.cons_append]
    rw [readMembers_congr (skipSpace_newLine d _),
      readMembers_last _ (readTree_indentedChars t h.1 (by omega)) closed, String.ofList_toList]
    rfl
  | (k, v), m :: r, d, fuel + 1, rest, t, h, enough, closed => by
    rw [indentedMembers] at enough ⊢
    simp only [List.length_append, newLine, List.length_cons] at enough
    simp only [List.append_assoc, List.cons_append]
    have later : readMembers fuel (indentedMembers d (m :: r) ++ t) =
        some (memberTrees (m :: r), rest) :=
      readMembers_indentedMembers h.2 (by omega) closed
    rw [readMembers_congr (skipSpace_newLine d _),
      readMembers_more _ (readTree_indentedChars _ h.1 (by omega)) later, String.ofList_toList]
    rfl

end

/-- The indented text of a value without numbers is read back to the value, if no object in it
repeats a name and it is not nested too deep. -/
theorem read_writeIndented {v : Json} (plain : v.NumberFree) (distinct : v.Distinct)
    (within : v.depth ≤ nesting) : read (v.writeIndented ++ "\n") = some v := by
  have text : (v.writeIndented ++ "\n").toList = v.indentedChars 0 ++ ['\n'] := by
    simp [writeIndented]
  have tree : Tree.read (v.writeIndented ++ "\n") = some v.tree := by
    rw [Tree.read, text, readTree_indentedChars _ plain (by rw [List.length_append]; omega)]
    rfl
  rw [read, tree, Option.bind_some, value_tree distinct within]

end RequestCode.Json
