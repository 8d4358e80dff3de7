import RequestCode.Client.JavaScript
import RequestCode.Proofs.Json.Numeral
import RequestCode.Proofs.Literal.ReadBack
import RequestCode.Proofs.Script.Reader

/-!
# Members of a printed object

The pieces that print the members of an object are read back as these members. The invariant
between two members of the outermost object is `Adds`, what is written so far is a list of complete
members.
-/

namespace RequestCode.Script

open Text Piece Client.JavaScript

/-- From one state the pieces lead to the other, and no object ends at the outermost level. -/
def Parses (q : State) (ps : List Piece) (p : State) : Prop :=
  reader.Reads (.code, q) (ps.flatMap chars) [] (.code, p)

variable {q p o : State} {ps qs : List Piece} {s : List Char} {text key name : String}
  {done ms ns : Members} {outer : List Frame} {params : List Param}

namespace Parses

theorem nil : Parses q [] q := Scanner.Reads.nil

theorem append (h : Parses q ps p) (hr : Parses p qs o) : Parses q (ps ++ qs) o := by
  unfold Parses
  rw [List.flatMap_append]
  exact Scanner.Reads.append h hr

theorem code (h : reader.Reads (.code, q) text.toList [] (.code, p)) :
    Parses q [code text] p := by
  simpa [Parses, chars] using h

theorem fixed (h : reader.Reads (.code, q) s [] (.code, p)) : Parses q [.code (.ofList s)] p :=
  code (by rwa [String.toList_ofList])

theorem json (h : stepString text q = some ([], p)) : Parses q [json text] p := by
  have literal : (Literal.reader [.json]).Reads .code (Quote.json.write text.toList)
      [.literal (.ofList text.toList)] .code := Literal.reads_write rfl rfl text.toList
  rw [String.ofList_toList] at literal
  have read : feed q [.literal text] = some ([], p) := by simp [feed, advance, h]
  simpa [Parses, chars, Piece.json] using reads_of_tokens literal read

end Parses

def Names (key name : String) : Prop :=
  ∀ done, reader.Reads (.code, .key false done []) (name.toList ++ ": ".toList) []
    (.code, .value false (.member key done) [])

def Adds (ps : List Piece) (ms : Members) : Prop :=
  ∀ done, Parses (.members done []) ps (.members (done ++ ms) [])

namespace Adds

theorem nil : Adds [] [] := by
  intro done
  rw [List.append_nil]
  exact .nil

theorem append (h : Adds ps ms) (hr : Adds qs ns) : Adds (ps ++ qs) (ms ++ ns) := by
  intro done
  rw [← List.append_assoc]
  exact (h done).append (hr (done ++ ms))

theorem only (b : Bool) (h : Adds ps ms) : Adds (Piece.only b ps) (if b then ms else []) := by
  cases b with
  | false => exact nil
  | true => exact h

end Adds

theorem parses_textMember (h : Names key name) (text : String)
    (comma : reader.Reads (.code, q) ",\n  ".toList [] (.code, .key false done [])) :
    Parses q (textMember name text) (.members (done ++ [(key, .string text)]) []) := by
  have named : Parses q [.code (",\n  " ++ name ++ ": ")] (.value false (.member key done) []) := by
    apply Parses.code
    rw [String.toList_append, String.toList_append, List.append_assoc]
    exact comma.append (h done)
  exact named.append (.json rfl)

theorem Adds.textMember (h : Names key name) (text : String) :
    Adds (textMember name text) [(key, .string text)] :=
  fun _ => parses_textMember h text rfl

def members (params : List Param) : Members := params.map fun p => (p.name, .string p.value)

theorem parses_member (fresh : Bool) (p : Param) :
    Parses (.key fresh done outer) (member "    " .json p)
      (.members (done ++ [(p.name, .string p.value)]) outer) := by
  have line : Parses (.key fresh done outer) [.code ("\n" ++ "    ")] (.key fresh done outer) := by
    cases fresh <;> exact .code rfl
  have colon : Parses (.colon p.name done outer) [.code ": "]
      (.value false (.member p.name done) outer) := .code rfl
  exact line.append (.append (.json rfl) (.append colon (.json rfl)))

def inside (done : Members) (outer : List Frame) : State :=
  if done.isEmpty then .key true [] outer else .members done outer

theorem parses_members (params : List Param) (outer : List Frame) :
    Parses (.key true [] outer) (Piece.members "    " .json params)
      (inside (members params) outer) := by
  have listed : ∀ fresh done, params ≠ [] →
      Parses (.key fresh done outer) (Piece.members "    " .json params)
        (.members (done ++ members params) outer) := by
    unfold Piece.members
    induction params using eachWith.induct with
    | case1 => exact fun _ _ h => absurd rfl h
    | case2 p => exact fun fresh _ _ => parses_member fresh p
    | case3 p q params ih =>
      intro fresh done _
      have comma : Parses (.members (done ++ [(p.name, .string p.value)]) outer) [.code ","]
          (.key false (done ++ [(p.name, .string p.value)]) outer) := .code rfl
      have rest := ih false (done ++ [(p.name, .string p.value)]) (List.cons_ne_nil _ _)
      rw [List.append_assoc] at rest
      exact (parses_member fresh p).append (comma.append rest)
  cases params with
  | nil => exact .nil
  | cons p params => exact listed true [] (List.cons_ne_nil p params)

theorem reads_close (frame : Frame) :
    reader.Reads (.code, inside done (frame :: outer)) ['\n', ' ', ' ', '\x7d'] []
      (.code, frame.complete (.object done) outer) := by
  cases done with
  | nil => cases frame <;> rfl
  | cons m done => cases frame <;> rfl

theorem Adds.objectMember (h : Names key name) (params : List Param) :
    Adds (objectMember name params) [(key, .object (Script.members params))] := by
  intro done
  have comma : reader.Reads (.code, .members done []) ",\n  ".toList []
      (.code, .key false done []) := rfl
  have brace : reader.Reads (.code, .value false (.member key done) []) "\x7b".toList []
      (.code, .key true [] [.member key done]) := rfl
  have opened : Parses (.members done []) [.code (",\n  " ++ name ++ ": \x7b")]
      (.key true [] [.member key done]) := by
    apply Parses.code
    have split : ": \x7b" = ": " ++ "\x7b" := rfl
    rw [split, ← String.append_assoc, String.toList_append, String.toList_append,
      String.toList_append, List.append_assoc ",\n  ".toList]
    exact (comma.append (h done)).append brace
  exact (opened.append (parses_members params _)).append (.fixed (reads_close _))

def optionalObject (key : String) (params : List Param) : Members :=
  if params.isEmpty then [] else [(key, .object (members params))]

theorem Adds.optionalObject (h : Names key name) (params : List Param) :
    Adds (Piece.only (!params.isEmpty) (Client.JavaScript.objectMember name params))
      (optionalObject key params) := by
  cases params with
  | nil => exact nil
  | cons p params => exact objectMember h (p :: params)

section Words

variable {w : List Char} {frame : Frame} {fresh : Bool} {v : Json}

theorem step_code {c : Char} (h : c ≠ '"') {found : List Members}
    (hq : stepCode c q = some (found, p)) :
    reader.step (.code, q) c = some (found, .code, p) := by
  have plain : (Literal.reader [.json]).step .code c = some ([.code c], .code) := by
    have unopened : Literal.Form.json.quote ≠ c := h.symm
    simp [Literal.reader, unopened]
  simp [reader, plain, feed, advance, hq]

theorem isWordChar_of_isDecimal {c : Char} (h : isDecimal c = true) : isWordChar c = true := by
  simp [isWordChar, isAsciiAlphanumeric, h]

theorem unquoted_of_isDecimal {c : Char} (h : isDecimal c = true) : c ≠ '"' := by
  rintro rfl
  exact absurd h (by decide)

theorem reads_digits (digits : ∀ c ∈ s, isDecimal c = true) :
    reader.Reads (.code, .word w frame outer) s [] (.code, .word (w ++ s) frame outer) := by
  induction s generalizing w with
  | nil =>
    rw [List.append_nil]
    exact .nil
  | cons c s ih =>
    obtain ⟨digit, digits⟩ := List.forall_mem_cons.mp digits
    have longer : stepCode c (.word w frame outer) = some ([], .word (w ++ [c]) frame outer) := by
      rw [stepCode, if_pos (isWordChar_of_isDecimal digit)]
    have rest := ih (w := w ++ [c]) digits
    rw [List.append_assoc] at rest
    exact .cons (step_code (unquoted_of_isDecimal digit) longer) rest

theorem parses_number (n : Nat) :
    Parses (.value fresh frame outer) [bare (.ofList (decimal n))]
      (.word (decimal n) frame outer) := by
  have digits : ∀ c ∈ decimal n, isDecimal c = true := fun c => isDecimal_of_mem_decimal
  unfold Parses
  rw [List.flatMap_singleton, chars, String.toList_ofList]
  cases written : decimal n with
  | nil => exact absurd written (decimal_ne_nil n)
  | cons c s =>
    rw [written] at digits
    obtain ⟨digit, digits⟩ := List.forall_mem_cons.mp digits
    have first : stepCode c (.value fresh frame outer) = some ([], .word [c] frame outer) := by
      have other : c ≠ '\x7b' ∧ c ≠ '[' ∧ c ≠ ']' := by
        refine ⟨?_, ?_, ?_⟩ <;> rintro rfl <;> exact absurd digit (by decide)
      simp [stepCode, other, isWordChar_of_isDecimal digit]
    exact .cons (step_code (unquoted_of_isDecimal digit) first) (reads_digits digits)

theorem wordValue_decimal (n : Nat) : wordValue (decimal n) = some (.number (.integer n)) := by
  have digits : ∀ c ∈ decimal n, isDecimal c = true := fun c => isDecimal_of_mem_decimal
  unfold wordValue
  split
  · rename_i written
    exact absurd (digits 'n' (by simp [written])) (by decide)
  · rename_i written
    exact absurd (digits 't' (by simp [written])) (by decide)
  · rename_i written
    exact absurd (digits 'f' (by simp [written])) (by decide)
  · rw [Json.readNumeral_decimal]
    simp [numberOf, decimalValue_decimal]

theorem reads_comma (h : wordValue w = some v) :
    reader.Reads (.code, .word w (.member key done) outer) [','] []
      (.code, .key false (done ++ [(key, v)]) outer) := by
  have ended : stepCode ',' (.word w (.member key done) outer) =
      some ([], .key false (done ++ [(key, v)]) outer) := by
    have delimiter : isWordChar ',' = false := by decide
    simp [stepCode, delimiter, h, behind, Frame.complete]
  exact .cons (step_code (by decide) ended) .nil

end Words

end RequestCode.Script
