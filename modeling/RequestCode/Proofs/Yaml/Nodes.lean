import RequestCode.Proofs.Traversal
import RequestCode.Proofs.Yaml.Lines
import RequestCode.Yaml.Value

/-!
# Nodes of written text

The tokens of mappings of texts, and of a sequence of them under a key, are put together as nodes,
and the nodes are read as the texts that were written. Main statements: `Compose.node_mapping`,
`Compose.blockEntries_sequence` and `Document.json_mapping`.
-/

namespace RequestCode.Yaml

variable {f : Nat} {s : List Char} {p flush : Bool} {ts : List Token} {c : Composer}
variable {m : String × String} {ms : List (String × String)}

def memberNodes (m : String × String) : Node × Node :=
  (.scalar none m.1.toList true, .scalar none m.2.toList (styleOf m.2.toList = .plain))

def mappingNode (ms : List (String × String)) : Node := .mapping none (ms.map memberNodes)

namespace Compose

/-- The key and the value of a member take one node each. -/
theorem blockEntries_member {r : List (Node × Node)} {d : Composer}
    (h : blockEntries (f + 2) { c with tokens := ts } = some (r, d)) :
    blockEntries (f + 3) { c with tokens := memberTokens m ++ ts } =
      some (memberNodes m :: r, d) := by
  change (blockEntries (f + 2) { c with tokens := ts }).bind _ = _
  rw [h]
  rfl

theorem blockEntries_members (hf : ms.length + 2 ≤ f) :
    blockEntries f { c with tokens := ms.flatMap memberTokens ++ .blockEnd :: ts } =
      some (ms.map memberNodes, { c with tokens := ts }) := by
  induction ms generalizing f with
  | nil =>
    obtain ⟨f, rfl⟩ : ∃ m, f = m + 1 := ⟨f - 1, by omega⟩
    rfl
  | cons m ms ih =>
    simp only [List.length_cons] at hf
    obtain ⟨f, rfl⟩ : ∃ m, f = m + 3 := ⟨f - 3, by omega⟩
    rw [List.flatMap_cons, List.append_assoc]
    exact blockEntries_member (ih (by omega))

theorem node_mapping (hf : ms.length + 4 ≤ f) :
    node f true flush { c with tokens := mappingTokens ms ++ ts } =
      some (mappingNode ms, { c with tokens := ts }) := by
  obtain ⟨f, rfl⟩ : ∃ m, f = m + 2 := ⟨f - 2, by omega⟩
  have entries : blockEntries f { c with tokens := ms.flatMap memberTokens ++ .blockEnd :: ts } =
      some (ms.map memberNodes, { c with tokens := ts }) := blockEntries_members (by omega)
  rw [mappingTokens, List.append_assoc]
  change ((blockEntries f { c with tokens := ms.flatMap memberTokens ++ .blockEnd :: ts }).bind
    _).bind _ = _
  rw [entries]
  rfl

theorem flushItems_item {r : List Node} {d : Composer} (hf : ms.length + 4 ≤ f)
    (h : flushItems f { c with tokens := ts } = some (r, d)) :
    flushItems (f + 1) { c with tokens := itemTokens ms ++ ts } =
      some (mappingNode ms :: r, d) := by
  have item : node f true false { c with tokens := mappingTokens ms ++ ts } =
      some (mappingNode ms, { c with tokens := ts }) := node_mapping hf
  rw [itemTokens]
  change (node f true false { c with tokens := mappingTokens ms ++ ts }).bind _ = _
  rw [item]
  change (flushItems f { c with tokens := ts }).bind _ = _
  rw [h]
  rfl

theorem flushItems_items {items : List (List (String × String))}
    (hf : (items.flatMap itemTokens).length + 4 ≤ f) :
    flushItems f { c with tokens := items.flatMap itemTokens ++ .key :: ts } =
      some (items.map mappingNode, { c with tokens := .key :: ts }) := by
  induction items generalizing f with
  | nil =>
    obtain ⟨f, rfl⟩ : ∃ m, f = m + 1 := ⟨f - 1, by omega⟩
    rfl
  | cons ms items ih =>
    rw [List.flatMap_cons, List.length_append] at hf
    have size : (itemTokens ms).length = 4 * ms.length + 3 := length_itemTokens
    obtain ⟨f, rfl⟩ : ∃ m, f = m + 1 := ⟨f - 1, by omega⟩
    rw [List.flatMap_cons, List.append_assoc]
    exact flushItems_item (by omega) (ih (by omega))

variable {items : List (List (String × String))}

/-- A sequence at the column of its key is a node of its own. -/
theorem node_sequence (hne : items ≠ []) (hf : (items.flatMap itemTokens).length + 6 ≤ f) :
    node f true true { c with tokens := items.flatMap itemTokens ++ .key :: ts } =
      some (.sequence none (items.map mappingNode), { c with tokens := .key :: ts }) := by
  obtain ⟨f, rfl⟩ : ∃ m, f = m + 2 := ⟨f - 2, by omega⟩
  have sequence : flushItems f { c with tokens := items.flatMap itemTokens ++ .key :: ts } =
      some (items.map mappingNode, { c with tokens := .key :: ts }) := flushItems_items (by omega)
  obtain ⟨ms, items, rfl⟩ := List.exists_cons_of_ne_nil hne
  change ((flushItems f { c with tokens := (ms :: items).flatMap itemTokens ++ .key :: ts }).bind
    _).bind _ = _
  rw [sequence]
  rfl

theorem blockEntries_sequence {w : List Char} {r : List (Node × Node)} {d : Composer}
    (hne : items ≠ []) (hf : (items.flatMap itemTokens).length + 6 ≤ f)
    (h : blockEntries f { c with tokens := .key :: ts } = some (r, d)) :
    blockEntries (f + 1)
        { c with tokens := .key :: .scalar w true :: .value ::
          (items.flatMap itemTokens ++ .key :: ts) } =
      some ((.scalar none w true, .sequence none (items.map mappingNode)) :: r, d) := by
  have sequence : node f true true { c with tokens := items.flatMap itemTokens ++ .key :: ts } =
      some (.sequence none (items.map mappingNode), { c with tokens := .key :: ts }) :=
    node_sequence hne hf
  obtain ⟨f, rfl⟩ : ∃ m, f = m + 2 := ⟨f - 2, by omega⟩
  obtain ⟨ms, items, rfl⟩ := List.exists_cons_of_ne_nil hne
  change (node (f + 2) true true
    { c with tokens := (ms :: items).flatMap itemTokens ++ .key :: ts }).bind _ = _
  rw [sequence]
  change (blockEntries (f + 2) { c with tokens := .key :: ts }).bind _ = _
  rw [h]
  rfl

end Compose

/-! ### Values -/

namespace Document

variable {d : Document} {depth : Nat}

/-- Without a tag only a plain scalar may be something other than a text. -/
theorem scalarJson?_untagged :
    scalarJson? none s p = if p then plainValue? s else some (.string (.ofList s)) := by
  cases p <;> rfl

theorem json_scalar :
    d.json (depth + 1) (.scalar none s (styleOf s = .plain)) = pure (.string (.ofList s)) := by
  have value : scalarJson? none s (styleOf s = .plain) = some (.string (.ofList s)) := by
    rw [scalarJson?_untagged]
    by_cases plain : styleOf s = .plain
    · rw [if_pos (decide_eq_true plain), plainValue?_of_styleOf plain]
    · rw [if_neg (by simpa using plain)]
  funext left
  change (StateT.lift (scalarJson? none s (styleOf s = .plain)) : Follow Json) left = _
  rw [value]
  rfl

theorem key_scalar (m : String × String) : d.key (memberNodes m).1 = pure m.1 := by
  funext left
  change some (String.ofList m.1.toList, left) = some (m.1, left)
  rw [String.ofList_toList]

theorem json_mapping (h : (ms.map Prod.fst).Nodup) :
    d.json (depth + 2) (mappingNode ms) = pure (.object (texts ms)) := by
  have member (m : String × String) : (do
      let name ← d.key (memberNodes m).1
      let value ← d.json (depth + 1) (memberNodes m).2
      return (name, value) : Follow (String × Json)) = pure (m.1, .string m.2) := by
    rw [key_scalar, memberNodes, json_scalar, String.ofList_toList]
    rfl
  have members : ((ms.map memberNodes).mapM fun e => do
      return (← d.key e.1, ← d.json (depth + 1) e.2) : Follow (List (String × Json))) =
        pure (texts ms) := by
    rw [List.mapM_map]
    exact mapM_eq_pure fun m _ => member m
  have distinct : (([] ++ texts ms).map Prod.fst).Nodup := by
    simpa [texts, Function.comp_def] using h
  funext left
  change (((ms.map memberNodes).mapM fun e => do
      return (← d.key e.1, ← d.json (depth + 1) e.2) : Follow (List (String × Json))) left).bind
    _ = _
  rw [members]
  change some (Json.object ((texts ms).foldl (fun acc m => insertEntry m.1 m.2 acc) []), left) = _
  rw [foldl_insertEntry_of_nodup distinct]
  rfl

end Document

end RequestCode.Yaml
