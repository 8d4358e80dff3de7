import RequestCode.Json.Record
import RequestCode.Proofs.Traversal

/-!
# Values and their trees

A tree denotes the value it was made of if no object in the value repeats a name, and if as many
levels of nesting are allowed as the value takes up. Main statement: `value_tree`; the fields of a
record are the members of the value by `fields_tree`, and what is read from a text repeats no name
by `distinct_of_read`.
-/

namespace RequestCode.Json

mutual

def Distinct : Json → Prop
  | array items => DistinctItems items
  | object members => (members.map Prod.fst).Nodup ∧ DistinctMembers members
  | _ => True

def DistinctItems : List Json → Prop
  | [] => True
  | v :: r => v.Distinct ∧ DistinctItems r

def DistinctMembers : List (String × Json) → Prop
  | [] => True
  | (_, v) :: r => v.Distinct ∧ DistinctMembers r

end

theorem one_le_itemsDepth (items : List Json) : 1 ≤ itemsDepth items := by
  induction items with
  | nil => exact Nat.le_refl 1
  | cons v r ih => exact Nat.le_trans ih (Nat.le_max_right _ _)

theorem one_le_membersDepth (members : List (String × Json)) : 1 ≤ membersDepth members := by
  induction members with
  | nil => exact Nat.le_refl 1
  | cons m r ih => exact Nat.le_trans ih (Nat.le_max_right _ _)

mutual

theorem value_tree : ∀ {v : Json} {d : Nat}, v.Distinct → v.depth ≤ d → v.tree.value d = some v
  | .null, _, _, _ => rfl
  | .bool _, _, _, _ => rfl
  | .number _, _, _, _ => rfl
  | .string _, _, _, _ => rfl
  | .array items, d, distinct, within => by
    have inner : itemsDepth items + 1 ≤ d := within
    have deep : ¬ d ≤ 1 := by
      have := one_le_itemsDepth items
      omega
    rw [tree, Tree.value, if_neg deep, itemValues_itemTrees distinct (by omega)]
    rfl
  | .object members, d, distinct, within => by
    have inner : membersDepth members + 1 ≤ d := within
    have deep : ¬ d ≤ 1 := by
      have := one_le_membersDepth members
      omega
    rw [tree, Tree.value, if_neg deep, memberValues_memberTrees distinct.2 (by omega),
      Option.map_some, foldl_insertEntry_of_nodup distinct.1]
    rfl

theorem itemValues_itemTrees : ∀ {items : List Json} {d : Nat}, DistinctItems items →
    itemsDepth items ≤ d → itemValues d (itemTrees items) = some items
  | [], _, _, _ => rfl
  | v :: r, d, distinct, within => by
    obtain ⟨first, rest⟩ := Nat.max_le.mp within
    simp [itemTrees, itemValues, value_tree distinct.1 first, itemValues_itemTrees distinct.2 rest]

theorem memberValues_memberTrees : ∀ {members : List (String × Json)} {d : Nat},
    DistinctMembers members → membersDepth members ≤ d →
    memberValues d (memberTrees members) = some members
  | [], _, _, _ => rfl
  | (name, v) :: r, d, distinct, within => by
    obtain ⟨first, rest⟩ := Nat.max_le.mp within
    simp [memberTrees, memberValues, value_tree distinct.1 first,
      memberValues_memberTrees distinct.2 rest]

end

theorem distinctMembers_insertEntry {name : String} {v : Json} {members : List (String × Json)}
    (hv : v.Distinct) (h : DistinctMembers members) :
    DistinctMembers (insertEntry name v members) := by
  induction members with
  | nil => exact ⟨hv, trivial⟩
  | cons m r ih =>
    rw [insertEntry]
    split
    · exact ⟨hv, h.2⟩
    · exact ⟨h.1, ih h.2⟩

/-- Members are stored one by one, so that none of their names is repeated. -/
theorem distinct_foldl_insertEntry {members acc : List (String × Json)}
    (h : DistinctMembers members) (hacc : (object acc).Distinct) :
    (object (members.foldl (fun acc m => insertEntry m.1 m.2 acc) acc)).Distinct := by
  induction members generalizing acc with
  | nil => exact hacc
  | cons m r ih =>
    exact ih h.2 ⟨nodup_insertEntry m.1 m.2 hacc.1, distinctMembers_insertEntry h.1 hacc.2⟩

mutual

theorem distinct_value : ∀ {t : Tree} {d : Nat} {v : Json}, t.value d = some v → v.Distinct
  | .null, _, _, h => by cases h; trivial
  | .bool _, _, _, h => by cases h; trivial
  | .number _, _, _, h => by
    obtain ⟨n, -, rfl⟩ := Option.map_eq_some_iff.mp h
    trivial
  | .string _, _, _, h => by
    obtain ⟨s, -, rfl⟩ := Option.map_eq_some_iff.mp h
    trivial
  | .array items, d, _, h => by
    rw [Tree.value] at h
    split at h
    · cases h
    · obtain ⟨vs, hvs, rfl⟩ := Option.map_eq_some_iff.mp h
      exact distinctItems_itemValues hvs
  | .object members, d, _, h => by
    rw [Tree.value] at h
    split at h
    · cases h
    · obtain ⟨ms, hms, rfl⟩ := Option.map_eq_some_iff.mp h
      exact distinct_foldl_insertEntry (distinctMembers_memberValues hms) ⟨List.nodup_nil, trivial⟩

theorem distinctItems_itemValues : ∀ {ts : List Tree} {d : Nat} {vs : List Json},
    itemValues d ts = some vs → DistinctItems vs
  | [], _, _, h => by cases h; trivial
  | t :: ts, d, _, h => by
    simp only [itemValues, Option.bind_eq_bind, Option.bind_eq_some_iff, Option.pure_def,
      Option.some.injEq] at h
    obtain ⟨v, hv, vs, hvs, rfl⟩ := h
    exact ⟨distinct_value hv, distinctItems_itemValues hvs⟩

theorem distinctMembers_memberValues : ∀ {ts : List (Option String × Tree)} {d : Nat}
    {ms : List (String × Json)}, memberValues d ts = some ms → DistinctMembers ms
  | [], _, _, h => by cases h; trivial
  | (name, t) :: ts, d, _, h => by
    simp only [memberValues, Option.bind_eq_bind, Option.bind_eq_some_iff, Option.pure_def,
      Option.some.injEq] at h
    obtain ⟨k, -, v, hv, ms, hms, rfl⟩ := h
    exact ⟨distinct_value hv, distinctMembers_memberValues hms⟩

end

/-- Objects that were read from a text repeat no name, whatever the text repeats. -/
theorem distinct_of_read {text : String} {v : Json} (h : read text = some v) : v.Distinct := by
  obtain ⟨t, -, denotes⟩ := Option.bind_eq_some_iff.mp h
  exact distinct_value denotes

section Fields

variable {members : List (String × Json)} {name : String}

theorem mapM_memberTrees (members : List (String × Json)) :
    (memberTrees members).mapM (fun m => m.1.map fun name => (name, m.2)) =
      some (members.map fun m => (m.1, m.2.tree)) := by
  induction members with
  | nil => rfl
  | cons m r ih => simp [memberTrees, ih]

theorem single_tree (distinct : (members.map Prod.fst).Nodup) :
    Tree.single name (members.map fun m => (m.1, m.2.tree)) =
      some ((lookupEntry name members).map tree) := by
  induction members with
  | nil => rfl
  | cons m r ih =>
    rw [List.map_cons, List.nodup_cons] at distinct
    unfold Tree.single at ih ⊢
    rw [List.map_cons, List.filter_cons, lookupEntry]
    by_cases here : m.1 = name
    · have none_later : (r.map fun m => (m.1, m.2.tree)).filter (fun m => m.1 = name) = [] := by
        rw [List.filter_eq_nil_iff]
        rintro e he
        obtain ⟨n, hn, rfl⟩ := List.mem_map.mp he
        have other : n.1 ≠ name := by
          rintro rfl
          exact distinct.1 (here ▸ List.mem_map_of_mem hn)
        simpa using other
      simp [here, none_later]
    · simp [here, ih distinct.2]

theorem fields_tree (names : List String) (distinct : (members.map Prod.fst).Nodup) :
    (object members).tree.fields names =
      some (names.map fun name => ((object members).member? name).map tree) := by
  rw [tree, Tree.fields, mapM_memberTrees]
  exact mapM_eq_pure fun name _ => single_tree distinct

theorem depth_le_of_member? {v : Json} (h : lookupEntry name members = some v) :
    v.depth ≤ membersDepth members := by
  induction members with
  | nil => cases h
  | cons m r ih =>
    rw [lookupEntry] at h
    split at h
    · cases h
      exact Nat.le_max_left _ _
    · exact Nat.le_trans (ih h) (Nat.le_max_right _ _)

theorem distinct_of_member? {v : Json} (distinct : DistinctMembers members)
    (h : lookupEntry name members = some v) : v.Distinct := by
  induction members with
  | nil => cases h
  | cons m r ih =>
    rw [lookupEntry] at h
    split at h
    · cases h
      exact distinct.1
    · exact ih distinct.2 h

theorem text?_tree_eq_some_iff {v : Json} {s : String} :
    v.tree.text? = some s ↔ v = string s := by
  cases v <;> simp [tree, Tree.text?]

theorem params?_tree_eq_some_iff {v : Json} {d : Nat} {m : Params} (distinct : v.Distinct)
    (within : v.depth ≤ d + 1) : v.tree.params? d = some m ↔ v = object m.entries := by
  cases v with
  | object members =>
    rw [tree, Tree.params?, memberValues_memberTrees distinct.2 (Nat.le_of_succ_le_succ within),
      Option.map_some, Option.some.injEq, object.injEq]
    have entries := OrderedMap.entries_ofList_of_nodup distinct.1
    constructor
    · rintro rfl
      exact entries.symm
    · rintro rfl
      exact OrderedMap.ext entries
  | _ => simp [tree, Tree.params?]

/-- A field that may be missing or null, by what the member of its name is. -/
theorem orElse_optional_eq_some_iff {α : Type} {read : Tree → Option α} {member : Option Json}
    {value : Option α} :
    Tree.orElse none (Tree.optional read) (member.map tree) = some value ↔
      ((member = none ∨ member = some .null) ∧ none = value) ∨
        ∃ v a, member = some v ∧ v ≠ .null ∧ read v.tree = some a ∧ some a = value := by
  cases member with
  | none => simp [Tree.orElse]
  | some v => cases v <;> simp [Tree.orElse, Tree.optional, tree, Option.map_eq_some_iff]

end Fields

end RequestCode.Json
