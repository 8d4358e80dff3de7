import RequestCode.Proofs.Target.Declaration

/-!
# Completed declarations

A declaration that breaks rules is refused with one line for each of them. Any other is completed:
what it leaves out is derived from its identifier. A target that was completed, declared in full,
is completed to itself. Main statement: `declaration_completed`.
-/

namespace RequestCode

/-- Neither null nor a string, with the name of the kind. -/
inductive Json.IsOther : Json → String → Prop
  | bool (b : Bool) : IsOther (.bool b) "boolean"
  | number (n : Number) : IsOther (.number n) "number"
  | array (items : List Json) : IsOther (.array items) "array"
  | object (members : List (String × Json)) : IsOther (.object members) "object"

def Violation.field : Violation → String
  | .targetNotText => "target"
  | .fieldNotText field _ => field

namespace Target

variable {raw : Json} {t : Target} {field line derived value : String} {v : Violation}

/-- The fields in which a declaration breaks a rule, with the line that tells of it. -/
inductive Breaks (raw : Json) : String → String → Prop
  | identifier : (∀ id, raw.member? "target" ≠ some (.string id)) →
      Breaks raw "target" "target must be string"
  | grammar {held kind} : raw.member? "syntax" = some held → held.IsOther kind →
      Breaks raw "syntax" ("syntax must be string or undefined :" ++ kind)
  | title {held kind} : raw.member? "title" = some held → held.IsOther kind →
      Breaks raw "title" ("title must be string or undefined :" ++ kind)

/-- A field with a text keeps it; a field that is missing, null or empty gets the derived text. -/
def Completes (raw : Json) (field derived value : String) : Prop :=
  raw.member? field = some (.string value) ∧ value ≠ "" ∨
    (raw.member? field = none ∨ raw.member? field = some .null ∨
      raw.member? field = some (.string "")) ∧ value = derived

theorem optionalText_eq_error_iff :
    optionalText raw field = .error v ↔
      ∃ held kind, raw.member? field = some held ∧ held.IsOther kind ∧
        v = .fieldNotText field kind := by
  unfold optionalText
  cases raw.member? field with
  | none => simp
  | some held =>
    constructor
    · intro refused
      cases held with
      | null | string => cases refused
      | bool b => cases refused; exact ⟨_, _, rfl, .bool b, rfl⟩
      | number n => cases refused; exact ⟨_, _, rfl, .number n, rfl⟩
      | array items => cases refused; exact ⟨_, _, rfl, .array items, rfl⟩
      | object members => cases refused; exact ⟨_, _, rfl, .object members, rfl⟩
    · rintro ⟨_, kind, ⟨⟩, other, rfl⟩
      cases other <;> rfl

theorem mem_violation?_toList_iff {α : Type} {x : Except Violation α} :
    v ∈ (violation? x).toList ↔ x = .error v := by
  cases x <;> simp [violation?, eq_comm]

theorem text?_bind_eq_some_iff {id : String} :
    (raw.member? "target").bind Json.text? = some id ↔
      raw.member? "target" = some (.string id) := by
  cases raw.member? "target" with
  | none => simp
  | some held => cases held <;> simp [Json.text?]

theorem mem_violations_iff :
    v ∈ violations raw ↔
      (v = .targetNotText ∧ ∀ id, raw.member? "target" ≠ some (.string id)) ∨
        optionalText raw "syntax" = .error v ∨ optionalText raw "title" = .error v := by
  have named : ((raw.member? "target").bind Json.text?).isSome = true ↔
      ∃ id, raw.member? "target" = some (.string id) := by
    simp only [Option.isSome_iff_exists, text?_bind_eq_some_iff]
  rw [violations, List.mem_append, List.mem_append, mem_violation?_toList_iff,
    mem_violation?_toList_iff, or_assoc]
  refine or_congr_left ?_
  split
  · rename_i isNamed
    obtain ⟨id, found⟩ := named.mp isNamed
    simp [found]
  · rename_i unnamed
    rw [named, not_exists] at unnamed
    simp [unnamed]

/-- What the violations of a declaration say is what it breaks. -/
theorem breaks_iff : Breaks raw field line ↔
    ∃ v ∈ violations raw, v.field = field ∧ v.message = line := by
  constructor
  · rintro (unnamed | ⟨found, other⟩ | ⟨found, other⟩)
    · exact ⟨_, mem_violations_iff.mpr (.inl ⟨rfl, unnamed⟩), rfl, rfl⟩
    · have refused := optionalText_eq_error_iff.mpr ⟨_, _, found, other, rfl⟩
      exact ⟨_, mem_violations_iff.mpr (.inr (.inl refused)), rfl, rfl⟩
    · have refused := optionalText_eq_error_iff.mpr ⟨_, _, found, other, rfl⟩
      exact ⟨_, mem_violations_iff.mpr (.inr (.inr refused)), rfl, rfl⟩
  · rintro ⟨v, mem, rfl, rfl⟩
    rcases mem_violations_iff.mp mem with ⟨rfl, unnamed⟩ | refused | refused
    · exact .identifier unnamed
    · obtain ⟨held, kind, found, other, rfl⟩ := optionalText_eq_error_iff.mp refused
      exact .grammar found other
    · obtain ⟨held, kind, found, other, rfl⟩ := optionalText_eq_error_iff.mp refused
      exact .title found other

theorem field_violation?_sublist (raw : Json) (field : String) :
    ((violation? (optionalText raw field)).toList.map Violation.field).Sublist [field] := by
  cases h : optionalText raw field with
  | ok s => exact List.nil_sublist _
  | error v =>
    obtain ⟨-, kind, -, -, rfl⟩ := optionalText_eq_error_iff.mp h
    exact List.Sublist.refl _

/-- Violations are reported in the order of the fields, at most one for each. -/
theorem fields_violations_sublist (raw : Json) :
    ((violations raw).map Violation.field).Sublist ["target", "syntax", "title"] := by
  have identifier : ((if ((raw.member? "target").bind Json.text?).isSome then []
      else [Violation.targetNotText]).map Violation.field).Sublist ["target"] := by
    split
    · exact List.nil_sublist _
    · exact List.Sublist.refl _
  rw [violations, List.map_append, List.map_append]
  exact (identifier.append (field_violation?_sublist raw "syntax")).append
    (field_violation?_sublist raw "title")

theorem ofJson_eq_ok_iff :
    ofJson raw = .ok t ↔ violations raw = [] ∧ raw.member? "target" = some (.string t.id) ∧
      t.title = textOr (optionalText raw "title") (derivedTitle t.id) ∧
      t.grammar = textOr (optionalText raw "syntax") (derivedGrammar t.id) := by
  cases broken : violations raw with
  | cons v vs =>
    have failed : ofJson raw = .error (.invalidDeclaration (violations raw)) :=
      ofJson_eq_error_iff.mpr ⟨broken ▸ List.cons_ne_nil v vs, rfl⟩
    simp [failed]
  | nil =>
    obtain ⟨id, named⟩ := id_of_violations_eq_nil broken
    have checked : ofJson raw = .ok ⟨id, textOr (optionalText raw "title") (derivedTitle id),
        textOr (optionalText raw "syntax") (derivedGrammar id)⟩ := by
      simp only [ofJson, named, broken]
    rw [checked, text?_bind_eq_some_iff.mp named]
    constructor
    · rintro ⟨⟩
      exact ⟨rfl, rfl, rfl, rfl⟩
    · rintro ⟨-, ⟨⟩, title, grammar⟩
      rw [← title, ← grammar]

theorem completes_textOr (h : ∀ v, optionalText raw field ≠ .error v) (derived : String) :
    Completes raw field derived (textOr (optionalText raw field) derived) := by
  unfold Completes
  cases found : raw.member? field with
  | none => simp [optionalText, textOr, found]
  | some held =>
    cases held with
    | null => simp [optionalText, textOr, found]
    | string s => by_cases empty : s = "" <;> simp [optionalText, textOr, found, empty]
    | bool | number | array | object => simp [optionalText, found] at h

theorem textOr_self (h : Completes raw field derived value) :
    textOr (.ok (some value)) derived = value := by
  rw [textOr]
  split
  · rename_i empty
    rcases h with ⟨-, nonempty⟩ | ⟨-, rfl⟩
    · exact absurd empty nonempty
    · rfl
  · rfl

theorem completes_of_ofJson (h : ofJson raw = .ok t) :
    Completes raw "title" (derivedTitle t.id) t.title ∧
      Completes raw "syntax" (derivedGrammar t.id) t.grammar := by
  obtain ⟨valid, -, title, grammar⟩ := ofJson_eq_ok_iff.mp h
  have accepted (v : Violation) : v ∉ violations raw := valid ▸ List.not_mem_nil
  rw [title, grammar]
  constructor
  · refine completes_textOr ?_ _
    intro v refused
    exact accepted v (mem_violations_iff.mpr (.inr (.inr refused)))
  · refine completes_textOr ?_ _
    intro v refused
    exact accepted v (mem_violations_iff.mpr (.inr (.inl refused)))

theorem derivedTitle_eq (t : Target) :
    derivedTitle t.id =
      match t.library? with
      | some library => t.language ++ " (" ++ library ++ ")"
      | none => t.language := by
  unfold derivedTitle language library?
  rcases splitTarget t.id with ⟨language, _ | library⟩ <;> rfl

/-- A target that was completed, declared in full, is completed to itself. -/
theorem ofJson_toJson (title : Completes raw "title" (derivedTitle t.id) t.title)
    (grammar : Completes raw "syntax" (derivedGrammar t.id) t.grammar) :
    ofJson t.toJson = .ok t := by
  have named : t.toJson.member? "target" = some (.string t.id) := rfl
  have titled : optionalText t.toJson "title" = .ok (some t.title) := rfl
  have highlighted : optionalText t.toJson "syntax" = .ok (some t.grammar) := rfl
  refine ofJson_eq_ok_iff.mpr ⟨?_, named, ?_, ?_⟩
  · rw [violations, named, titled, highlighted]
    rfl
  · rw [titled, textOr_self title]
  · rw [highlighted, textOr_self grammar]

/-- A declaration is refused exactly if it breaks a rule, and the message has one line for each
rule it breaks, in the order of the fields. Otherwise its target has the identifier as it stands,
the texts that are given, and derived ones in place of those that are not; declared in full, the
target is the same again. -/
theorem declaration_completed (raw : Json) :
    ((∃ e, ofJson raw = .error e) ↔ ∃ field line, Breaks raw field line) ∧
    (∀ e, ofJson raw = .error e →
      ∃ broken : List (String × String),
        (broken.map Prod.fst).Sublist ["target", "syntax", "title"] ∧
        (∀ field line, (field, line) ∈ broken ↔ Breaks raw field line) ∧
        e.message = "validation failed" ++ String.join (broken.map ("\n  " ++ ·.2))) ∧
    ∀ t, ofJson raw = .ok t →
      raw.member? "target" = some (.string t.id) ∧
      Completes raw "title"
        (match t.library? with
          | some library => t.language ++ " (" ++ library ++ ")"
          | none => t.language) t.title ∧
      Completes raw "syntax" (if t.language = "node" then "javascript" else t.language) t.grammar ∧
      ofJson t.toJson = .ok t := by
  refine ⟨?_, ?_, ?_⟩
  · constructor
    · rintro ⟨e, refused⟩
      obtain ⟨v, mem⟩ := List.exists_mem_of_ne_nil _ (ofJson_eq_error_iff.mp refused).1
      exact ⟨v.field, v.message, breaks_iff.mpr ⟨v, mem, rfl, rfl⟩⟩
    · rintro ⟨field, line, broken⟩
      obtain ⟨v, mem, -⟩ := breaks_iff.mp broken
      exact ⟨_, ofJson_eq_error_iff.mpr ⟨List.ne_nil_of_mem mem, rfl⟩⟩
  · intro e refused
    obtain ⟨-, rfl⟩ := ofJson_eq_error_iff.mp refused
    refine ⟨(violations raw).map fun v => (v.field, v.message), ?_, ?_, ?_⟩
    · rw [List.map_map]
      exact fields_violations_sublist raw
    · intro field line
      simp [breaks_iff]
    · rw [List.map_map]
      rfl
  · intro t completed
    obtain ⟨-, named, -⟩ := ofJson_eq_ok_iff.mp completed
    obtain ⟨title, grammar⟩ := completes_of_ofJson completed
    exact ⟨named, derivedTitle_eq t ▸ title, grammar, ofJson_toJson title grammar⟩

def sampleRefused : Json :=
  .object [("title", .array []), ("id", .null), ("syntax", .number (.integer 1))]

def sampleBlank : Json :=
  .object [("syntax", .string ""), ("target", .string "_"), ("title", .null)]

theorem declaration_completed_sample :
    (∃ e, ofJson sampleRefused = .error e ∧
      e.message = "validation failed\n  target must be string" ++
        "\n  syntax must be string or undefined :number" ++
        "\n  title must be string or undefined :array" ∧
      ∃ broken : List (String × String),
        (∀ field line, (field, line) ∈ broken ↔ Breaks sampleRefused field line) ∧
        e.message = "validation failed" ++ String.join (broken.map ("\n  " ++ ·.2))) ∧
    ofJson sampleBlank = .ok ⟨"_", "", ""⟩ ∧ Completes sampleBlank "title" "" "" ∧
      ofJson (toJson ⟨"_", "", ""⟩) = .ok ⟨"_", "", ""⟩ := by
  have refused : ofJson sampleRefused = .error (.invalidDeclaration
      [.targetNotText, .fieldNotText "syntax" "number", .fieldNotText "title" "array"]) := rfl
  have checked : ofJson sampleBlank = .ok ⟨"_", "", ""⟩ := rfl
  obtain ⟨broken, -, rules, message⟩ := (declaration_completed sampleRefused).2.1 _ refused
  obtain ⟨-, title, -, again⟩ := (declaration_completed sampleBlank).2.2 _ checked
  exact ⟨⟨_, refused, by decide, broken, rules, message⟩, checked, title, again⟩

end Target

end RequestCode
