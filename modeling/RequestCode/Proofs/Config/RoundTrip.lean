import RequestCode.Config.Write
import RequestCode.Proofs.Command.Selection
import RequestCode.Proofs.Yaml.Nodes

/-!
# Saved settings load

Settings are written as a YAML mapping of two fields, a sequence of declarations and a format. Where
the declarations hold nothing but texts, the written text is scanned, put together and read to the
same settings, whatever the texts are. Main statement: `saved_settings_load`.
-/

namespace RequestCode

open Yaml

/-- A declaration of a target by texts: its identifier and, if they are declared, its title and
grammar, in any order. -/
def Target.IsTextDeclaration (v : Json) : Prop :=
  ∃ ms : List (String × String), v = .object (texts ms) ∧ (ms.map Prod.fst).Nodup ∧
    "target" ∈ ms.map Prod.fst ∧ ∀ name ∈ ms.map Prod.fst, name ∈ ["target", "title", "syntax"]

namespace Config

variable {f : OutputFormat} {items : List (List (String × String))}

theorem isWord_fields : ∀ name ∈ ["target", "title", "syntax", "targets", "format"],
    IsWord name.toList := by
  intro name h
  simp only [List.mem_cons, List.not_mem_nil, or_false] at h
  rcases h with rfl | rfl | rfl | rfl | rfl <;>
    exact ⟨by decide, by decide, by decide, by decide, by decide⟩

def ofTexts (items : List (List (String × String))) (f : OutputFormat) : Config :=
  ⟨items.map fun ms => .object (texts ms), f⟩

/-- The written fields: the items of the first one stand at the column of its key. -/
theorem toList_write (hne : items ≠ []) :
    (write (ofTexts items f)).toList = "targets".toList ++ ':' :: '\n' ::
      (blockItems 0 (items.map fun ms => .object (texts ms)) ++
        (blockMembers 0 (texts [("format", f.name)]) ++ [])) := by
  obtain ⟨ms, items, rfl⟩ := List.exists_cons_of_ne_nil hne
  have word : IsWord "targets".toList := isWord_fields "targets" (by decide)
  have key : scalar 0 "targets".toList = "targets".toList := by
    unfold scalar
    rw [word.plain]
  have opened (v : Json) (r : List Json) :
      keyChars 0 "targets".toList (.array (v :: r)) = ("targets".toList ++ [':', '\n'], 0) := by
    rw [keyChars, if_pos word.simple, key]
    rfl
  rw [write, Yaml.write, String.toList_ofList]
  change (keyChars 0 "targets".toList (.array (_ :: _))).1 ++
    block (keyChars 0 "targets".toList (.array (_ :: _))).2
      (.array (.object (texts ms) :: items.map fun ms => .object (texts ms))) ++
    blockMembers 0 (texts [("format", f.name)]) = _
  rw [opened, List.map_cons, List.append_nil, List.append_assoc]
  rfl

/-- The tokens of a sequence under a key; an empty one is written in brackets. -/
def sequenceTokens (items : List (List (String × String))) : List Token :=
  if items = [] then [.flowSequenceStart, .flowSequenceEnd] else items.flatMap itemTokens

def fieldTokens (items : List (List (String × String))) (f : OutputFormat) : List Token :=
  .key :: .scalar "targets".toList true :: .value ::
    (sequenceTokens items ++ (memberTokens ("format", f.name) ++ [.blockEnd]))

def settingsTokens (items : List (List (String × String))) (f : OutputFormat) : List Token :=
  .blockMappingStart :: fieldTokens items f

theorem isWord_format : ∀ m ∈ [("format", f.name)], IsWord m.1.toList := by
  intro m hm
  rw [List.mem_singleton.mp hm]
  exact isWord_fields "format" (by decide)

theorem isAllowed_write (empty : items ≠ []) (hne : ∀ ms ∈ items, ms ≠ [])
    (hw : ∀ ms ∈ items, ∀ m ∈ ms, IsWord m.1.toList) :
    ∀ c ∈ (write (ofTexts items f)).toList, isAllowed c = true := by
  rw [toList_write empty, List.append_nil]
  simp only [List.forall_mem_append, List.forall_mem_cons]
  exact ⟨(isWord_fields "targets" (by decide)).isAllowed, by decide, by decide,
    isAllowed_blockItems hne hw, isAllowed_blockMembers isWord_format⟩

theorem tokens?_write (hne : ∀ ms ∈ items, ms ≠ [])
    (hw : ∀ ms ∈ items, ∀ m ∈ ms, IsWord m.1.toList) :
    tokens? (write (ofTexts items f)).toList = some (settingsTokens items f) := by
  by_cases empty : items = []
  · subst empty
    cases f <;> decide +kernel
  · have items := lines_items hne hw (lines_members (isWord_format (f := f)) lines_nil)
    obtain ⟨j, u, text, hj, opens, yields⟩ := items
    obtain rfl : j = 0 := Nat.le_zero.mp hj
    have whole := Scanner.yields_first_key (isWord_fields "targets" (by decide)) rfl (by decide)
      (Scanner.yields_newline opens yields)
    rw [← text, ← toList_write empty] at whole
    have mark : (write (ofTexts items f)).toList.head? ≠ some '\uFEFF' := by
      rw [toList_write empty]
      exact show some 't' ≠ some '\uFEFF' by decide
    rw [tokens?_of_yields whole (isAllowed_write empty hne hw) mark]
    simp [settingsTokens, fieldTokens, sequenceTokens, empty]

def settingsNode (items : List (List (String × String))) (f : OutputFormat) : Node :=
  .mapping none [(.scalar none "targets".toList true, .sequence none (items.map mappingNode)),
    memberNodes ("format", f.name)]

theorem document_settingsTokens (items : List (List (String × String))) (f : OutputFormat) :
    ∃ c, Compose.document ⟨settingsTokens items f, [], [], 0, []⟩ =
      some (some (settingsNode items f), c) ∧ c.anchored = [] := by
  by_cases empty : items = []
  · subst empty
    exact ⟨_, rfl, rfl⟩
  · let c : Composer := ⟨[], Compose.defaultHandles, [], 0, []⟩
    let n := (settingsTokens items f).length
    have size : (items.flatMap itemTokens).length + 1 ≤ n := by
      simp only [n, settingsTokens, fieldTokens, sequenceTokens, empty, if_false, List.length_cons,
        List.length_append]
      omega
    have format : Compose.blockEntries (2 * n + 5)
        { c with tokens := memberTokens ("format", f.name) ++ [.blockEnd] } =
          some ([memberNodes ("format", f.name)], c) :=
      Compose.blockEntries_member (c := c) (f := 2 * n + 2) rfl
    have entries : Compose.blockEntries (2 * n + 6) { c with tokens := fieldTokens items f } =
        some ([(.scalar none "targets".toList true, .sequence none (items.map mappingNode)),
          memberNodes ("format", f.name)], c) := by
      rw [fieldTokens, sequenceTokens, if_neg empty]
      exact Compose.blockEntries_sequence empty (by omega) format
    have root : Compose.node (2 * n + 8) true false { c with tokens := settingsTokens items f } =
        some (settingsNode items f, c) := by
      change ((Compose.blockEntries (2 * n + 6) { c with tokens := fieldTokens items f }).bind
        _).bind _ = _
      rw [entries]
      rfl
    refine ⟨c, ?_, rfl⟩
    change (Compose.node (2 * n + 8) true false { c with tokens := settingsTokens items f }).bind
      _ = _
    rw [root]
    rfl

theorem read_write (hne : ∀ ms ∈ items, ms ≠ [])
    (hw : ∀ ms ∈ items, ∀ m ∈ ms, IsWord m.1.toList) :
    Document.read (write (ofTexts items f)) = some ⟨some (settingsNode items f), []⟩ := by
  obtain ⟨c, composed, anchored⟩ := document_settingsTokens items f
  rw [Document.read, tokens?_write hne hw]
  simp only [Option.bind_eq_bind, Option.bind_some, StateT.run, composed, anchored]
  rfl

/-! ### Values -/

theorem readTargets_mappings (hd : ∀ ms ∈ items, (ms.map Prod.fst).Nodup) (d : Document) :
    readTargets d (.sequence none (items.map mappingNode)) =
      pure (items.map fun ms => .object (texts ms)) := by
  have values : (items.map mappingNode).mapM (d.json (Document.nesting - 1)) =
      pure (items.map fun ms => .object (texts ms)) := by
    rw [List.mapM_map]
    exact mapM_eq_pure fun ms hms => Document.json_mapping (hd ms hms)
  funext left
  change ((items.map mappingNode).mapM (d.json (Document.nesting - 1))) left = _
  rw [values]

theorem readFormat_name (d : Document) :
    readFormat d (memberNodes ("format", f.name)).2 = pure f := by
  cases f <;> rfl

theorem readField_targets {d : Document} {e : Node × Node} {values : List Json}
    (key : d.key e.1 = pure "targets") (value : readTargets d e.2 = pure values) :
    readField d ⟨none, none⟩ e = pure ⟨some values, none⟩ := by
  simp [readField, key, value]

theorem readField_format {d : Document} {e : Node × Node} {values : List Json}
    (key : d.key e.1 = pure "format") (value : readFormat d e.2 = pure f) :
    readField d ⟨some values, none⟩ e = pure ⟨some values, some f⟩ := by
  simp [readField, key, value]

theorem ofDocument_settingsNode (hd : ∀ ms ∈ items, (ms.map Prod.fst).Nodup) :
    ofDocument ⟨some (settingsNode items f), []⟩ = pure (ofTexts items f) := by
  let d : Document := ⟨some (settingsNode items f), []⟩
  have targets : readField d ⟨none, none⟩
      (.scalar none "targets".toList true, .sequence none (items.map mappingNode)) =
        pure ⟨some (items.map fun ms => .object (texts ms)), none⟩ :=
    readField_targets (Document.key_scalar ("targets", "")) (readTargets_mappings hd d)
  have format : readField d ⟨some (items.map fun ms => .object (texts ms)), none⟩
      (memberNodes ("format", f.name)) =
        pure ⟨some (items.map fun ms => .object (texts ms)), some f⟩ :=
    readField_format (Document.key_scalar ("format", f.name)) (readFormat_name d)
  have fields :
      [(Node.scalar none "targets".toList true, Node.sequence none (items.map mappingNode)),
        memberNodes ("format", f.name)].foldlM (readField d) ⟨none, none⟩ =
        pure ⟨some (items.map fun ms => .object (texts ms)), some f⟩ := by
    rw [List.foldlM_cons, targets, pure_bind, List.foldlM_cons, format, pure_bind, List.foldlM_nil]
  change (do
    let r ← [(Node.scalar none "targets".toList true, Node.sequence none (items.map mappingNode)),
      memberNodes ("format", f.name)].foldlM (readField d) ⟨none, none⟩
    return (⟨r.targets.getD [], r.format.getD .text⟩ : Config) : Follow Config) = _
  rw [fields]
  rfl

theorem read_write_ofTexts (hne : ∀ ms ∈ items, ms ≠ [])
    (hw : ∀ ms ∈ items, ∀ m ∈ ms, IsWord m.1.toList)
    (hd : ∀ ms ∈ items, (ms.map Prod.fst).Nodup) :
    read (write (ofTexts items f)) = .ok (ofTexts items f) := by
  rw [read, read_write hne hw, Option.bind_some, ofDocument_settingsNode hd]
  rfl

end Config

/-! ### Declarations -/

namespace Target

variable {ms : List (String × String)} {name : String}

theorem lookupEntry_texts : lookupEntry name (texts ms) = (lookupEntry name ms).map .string :=
  lookupEntry_map name Json.string ms

theorem violations_texts (h : "target" ∈ ms.map Prod.fst) :
    violations (.object (texts ms)) = [] := by
  obtain ⟨id, named⟩ := exists_lookupEntry h
  have optional (field : String) : violation? (optionalText (.object (texts ms)) field) = none := by
    rw [optionalText, Json.member?, lookupEntry_texts]
    cases lookupEntry field ms <;> rfl
  simp [violations, Json.member?, lookupEntry_texts, named, Json.text?, optional]

end Target

namespace Config

variable {c : Config}

theorem isWord_of_isTextDeclaration {ms : List (String × String)}
    (h : ∀ name ∈ ms.map Prod.fst, name ∈ ["target", "title", "syntax"]) :
    ∀ m ∈ ms, IsWord m.1.toList := by
  intro m hm
  apply isWord_fields
  have field := h m.1 (List.mem_map_of_mem hm)
  simp only [List.mem_cons, List.not_mem_nil, or_false] at field ⊢
  rcases field with field | field | field <;> simp [field]

theorem exists_ofTexts (declared : ∀ v ∈ c.targets, Target.IsTextDeclaration v) :
    ∃ items, c = ofTexts items c.format ∧
      ∀ ms ∈ items, Target.IsTextDeclaration (.object (texts ms)) ∧ ms ≠ [] ∧
        (∀ m ∈ ms, IsWord m.1.toList) ∧ (ms.map Prod.fst).Nodup := by
  obtain ⟨targets, format⟩ := c
  induction targets with
  | nil => exact ⟨[], rfl, by simp⟩
  | cons v targets ih =>
    rw [List.forall_mem_cons] at declared
    obtain ⟨items, same, each⟩ := ih declared.2
    obtain ⟨ms, rfl, distinct, target, fields⟩ := declared.1
    refine ⟨ms :: items, ?_, List.forall_mem_cons.mpr ⟨⟨declared.1, ?_,
      isWord_of_isTextDeclaration fields, distinct⟩, each⟩⟩
    · simp only [ofTexts, List.map_cons, Config.mk.injEq, List.cons.injEq, true_and,
        and_true] at same ⊢
      exact same
    · rintro rfl
      cases target

theorem checkedTargets_isOk (declared : ∀ v ∈ c.targets, Target.IsTextDeclaration v) :
    ∃ targets, c.checkedTargets = .ok targets := by
  cases checked : c.checkedTargets with
  | ok targets => exact ⟨targets, rfl⟩
  | error e =>
    obtain ⟨v, hv, e, refused⟩ := Target.ofJsonList_fails_iff.mp ⟨e, checked⟩
    obtain ⟨ms, rfl, -, target, -⟩ := declared v hv
    obtain ⟨t, valid⟩ := Target.ofJson_isOk_iff.mpr (Target.violations_texts target)
    rw [valid] at refused
    cases refused

/-- Settings that were saved load again, whatever texts declare their targets: reading what was
written gives the same settings, so the targets are checked with the same result, and a file with
that text is a settings file. -/
theorem saved_settings_load (declared : ∀ v ∈ c.targets, Target.IsTextDeclaration v) :
    read c.write = .ok c ∧
      (∃ targets, c.checkedTargets = .ok targets ∧
        (read c.write).bind checkedTargets = .ok targets) ∧
      ∀ (files : Files) (remarks : Remarks) (path : String), files path = some c.write →
        Command.loadConfig files remarks (some path) = .ok c := by
  obtain ⟨items, same, each⟩ := exists_ofTexts declared
  have loaded : read c.write = .ok c := by
    rw [same]
    exact read_write_ofTexts (fun ms hms => (each ms hms).2.1) (fun ms hms => (each ms hms).2.2.1)
      fun ms hms => (each ms hms).2.2.2
  refine ⟨loaded, ?_, ?_⟩
  · obtain ⟨targets, checked⟩ := checkedTargets_isOk declared
    refine ⟨targets, checked, ?_⟩
    rw [loaded]
    exact checked
  · intro files remarks path written
    exact Command.loadConfig_eq_ok_iff.mpr (.file written loaded)

def sampleSettings : Config :=
  ofTexts [[("target", "c"), ("title", "null")],
    [("title", " a\n- b: #\n"), ("target", "\u0007")]] .json

theorem isTextDeclaration_sampleSettings :
    ∀ v ∈ sampleSettings.targets, Target.IsTextDeclaration v := by
  simp only [sampleSettings, ofTexts, List.map_cons, List.map_nil, List.forall_mem_cons]
  refine ⟨⟨_, rfl, by decide, by decide, by decide⟩, ⟨_, rfl, by decide, by decide, by decide⟩,
    ?_⟩
  intro v hv
  cases hv

theorem saved_settings_load_sample :
    (∀ v ∈ sampleSettings.targets, Target.IsTextDeclaration v) ∧
      sampleSettings.write = "targets:\n- target: c\n  title: 'null'\n" ++
        "- title: |2\n     a\n    - b: #\n  target: \"\\a\"\nformat: json\n" ∧
      read sampleSettings.write = .ok sampleSettings :=
  ⟨isTextDeclaration_sampleSettings, by decide +kernel,
    (saved_settings_load isTextDeclaration_sampleSettings).1⟩

end Config

end RequestCode
