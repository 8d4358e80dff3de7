import RequestCode.Generator.Collection

/-!
# The index of a collection

Whatever was added to a collection, and in what way, its entries are what was added, in order, and
its index leads from every key to the last entry of that key. Main statement:
`index_leads_to_last`.
-/

namespace RequestCode.Collection

def targetEntries (targets : List Target) : List (String × Generator) :=
  targets.map fun t => (t.id, ⟨t.title, t.grammar, (Generator.ofTarget t).run⟩)

/-- The collection comes about by adding the entries, in this order. -/
inductive MadeOf : Collection → List (String × Generator) → Prop where
  | empty : MadeOf ∅ []
  | push {c entries} (h : MadeOf c entries) (key : String) (g : Generator) :
      MadeOf (c.push key g) (entries ++ [(key, g)])
  | ofList (entries : List (String × Generator)) : MadeOf (ofList entries) entries
  | extend {c entries} (h : MadeOf c entries) (targets : List Target) :
      MadeOf (c.extend targets) (entries ++ targetEntries targets)

/-- The entry at the position has the key, and no later one has it. -/
def IsLast (c : Collection) (key : String) (i : Nat) : Prop :=
  c.keys[i]? = some key ∧ ∀ j, i < j → c.keys[j]? ≠ some key

/-- The index leads from each key to its last position, and from nothing else. -/
def Indexed (c : Collection) : Prop :=
  ∀ (key : String) (i : Nat), c.index[key]? = some i ↔ c.IsLast key i

variable {c : Collection} {key other : String} {g : Generator} {i j : Nat}
  {entries : List (String × Generator)}

@[simp] theorem keys_push (c : Collection) (key : String) (g : Generator) :
    (c.push key g).keys = c.keys ++ [key] := by
  simp [keys]

@[simp] theorem length_keys (c : Collection) : c.keys.length = c.size := by
  simp [keys, toList, size]

theorem isLast_push_self : (c.push key g).IsLast key i ↔ i = c.size := by
  have added : (c.keys ++ [key])[c.size]? = some key := by
    rw [← length_keys, List.getElem?_concat_length]
  have bound (j : Nat) (h : (c.keys ++ [key])[j]? = some key) : j ≤ c.size := by
    have inside := (List.getElem?_eq_some_iff.mp h).1
    rw [List.length_append, length_keys, List.length_singleton] at inside
    exact Nat.le_of_lt_succ inside
  unfold IsLast
  rw [keys_push]
  constructor
  · rintro ⟨here, later⟩
    refine Nat.le_antisymm (bound i here) (Nat.le_of_not_lt ?_)
    intro before
    exact later c.size before added
  · rintro rfl
    refine ⟨added, ?_⟩
    intro j behind here
    exact absurd (bound j here) (Nat.not_le_of_lt behind)

theorem getElem?_keys_push_of_ne (h : key ≠ other) :
    (c.push key g).keys[i]? = some other ↔ c.keys[i]? = some other := by
  rw [keys_push, List.getElem?_append]
  by_cases inside : i < c.keys.length
  · rw [if_pos inside]
  · rw [if_neg inside, List.getElem?_eq_none (Nat.le_of_not_lt inside), List.getElem?_singleton]
    split
    · simpa using h
    · exact Iff.rfl

theorem isLast_push_of_ne (h : key ≠ other) :
    (c.push key g).IsLast other i ↔ c.IsLast other i := by
  simp only [IsLast, ne_eq, getElem?_keys_push_of_ne h]

theorem exists_isLast (h : key ∈ c.keys) : ∃ i, c.IsLast key i := by
  obtain ⟨behind, before, split, fresh⟩ :=
    List.eq_append_cons_of_mem (List.mem_reverse.mpr h)
  have keys_eq : c.keys = before.reverse ++ key :: behind.reverse := by
    rw [← List.reverse_reverse c.keys, split]
    simp
  unfold IsLast
  rw [keys_eq]
  refine ⟨before.reverse.length, ?_, ?_⟩
  · rw [List.getElem?_append_right (Nat.le_refl _), Nat.sub_self]
    rfl
  · intro j later here
    obtain ⟨k, hk⟩ := Nat.exists_eq_add_of_lt later
    have inside : j - before.reverse.length = k + 1 := by omega
    rw [List.getElem?_append_right (Nat.le_of_lt later), inside, List.getElem?_cons_succ] at here
    exact fresh (List.mem_reverse.mp (List.mem_of_getElem? here))

theorem indexed_empty : Indexed ∅ := by
  intro key i
  have entries : (∅ : Collection).keys = [] := rfl
  have index : (∅ : Collection).index[key]? = none := Std.HashMap.getElem?_empty
  simp [IsLast, entries, index]

theorem Indexed.push (h : c.Indexed) (key : String) (g : Generator) : (c.push key g).Indexed := by
  intro other i
  rw [index_push]
  by_cases same : key = other
  · subst same
    rw [if_pos rfl, isLast_push_self, Option.some.injEq, eq_comm]
  · rw [if_neg same, isLast_push_of_ne same]
    exact h other i

theorem Indexed.append (h : c.Indexed) (entries : List (String × Generator)) :
    (c.append entries).Indexed := by
  induction entries generalizing c with
  | nil => exact h
  | cons e entries ih => exact ih (h.push e.1 e.2)

theorem extend_append (c : Collection) (targets more : List Target) :
    (c.extend targets).extend more = c.extend (targets ++ more) := by
  unfold extend append
  rw [List.map_append, List.foldl_append]

namespace MadeOf

theorem toList_eq (h : c.MadeOf entries) : c.toList = entries := by
  induction h with
  | empty => rfl
  | push h key g ih => rw [toList_push, ih]
  | ofList entries => exact toList_append ∅ entries
  | extend h targets ih => rw [Collection.extend, toList_append, ih]; rfl

theorem indexed (h : c.MadeOf entries) : c.Indexed := by
  induction h with
  | empty => exact indexed_empty
  | push h key g ih => exact ih.push key g
  | ofList entries => exact indexed_empty.append entries
  | extend h targets ih => exact ih.append _

end MadeOf

namespace Indexed

theorem lt_size (h : c.Indexed) (found : c.index[key]? = some i) : i < c.entries.size := by
  obtain ⟨here, -⟩ := (h key i).mp found
  have inside := (List.getElem?_eq_some_iff.mp here).1
  rwa [length_keys] at inside

theorem get?_eq_some_iff (h : c.Indexed) :
    c.get? key = some g ↔ ∃ i, c.IsLast key i ∧ c.toList[i]? = some (key, g) := by
  unfold get?
  rw [Option.bind_eq_some_iff]
  refine exists_congr fun i => ?_
  rw [h key i]
  refine and_congr_right fun last => ?_
  have keyed : (c.toList[i]?).map Prod.fst = some key := by
    rw [← List.getElem?_map]
    exact last.1
  rw [toList, Array.getElem?_toList] at *
  cases entry : c.entries[i]? with
  | none => simp
  | some e =>
    rw [entry] at keyed
    cases keyed
    simp [Prod.ext_iff]

theorem mem_index_iff (h : c.Indexed) : key ∈ c.index ↔ key ∈ c.keys := by
  rw [Std.HashMap.mem_iff_isSome_getElem?, Option.isSome_iff_exists]
  constructor
  · rintro ⟨i, found⟩
    exact List.mem_of_getElem? ((h key i).mp found).1
  · intro mem
    obtain ⟨i, last⟩ := exists_isLast mem
    exact ⟨i, (h key i).mpr last⟩

theorem get?_eq_none_iff (h : c.Indexed) : c.get? key = none ↔ key ∉ c.keys := by
  rw [← h.mem_index_iff, Std.HashMap.mem_iff_isSome_getElem?, get?]
  cases found : c.index[key]? with
  | none => simp
  | some i =>
    have inside := h.lt_size found
    simp [inside]

end Indexed

/-- After any additions the entries are those that were added, and the index holds their keys, each
with the position of its last entry, at which the generator of the key is found. Targets add one
entry each, all at once or in parts. -/
theorem index_leads_to_last (h : c.MadeOf entries) :
    c.toList = entries ∧
    (∀ key, key ∈ c.index ↔ key ∈ c.keys) ∧
    (∀ (key : String) (i : Nat), c.index[key]? = some i ↔ c.IsLast key i) ∧
    (∀ (key : String) (i : Nat), c.index[key]? = some i → i < c.entries.size) ∧
    (∀ key g, c.get? key = some g ↔ ∃ i, c.IsLast key i ∧ entries[i]? = some (key, g)) ∧
    (∀ key, c.get? key = none ↔ key ∉ c.keys) ∧
    (c.keys = entries.map Prod.fst ∧ c.firstKey? = entries.head?.map Prod.fst ∧
      c.lastKey? = entries.getLast?.map Prod.fst ∧ c.size = entries.length ∧
      (c.isEmpty = true ↔ entries = [])) ∧
    ∀ targets more,
      (c.extend targets).toList = c.toList ++ targetEntries targets ∧
      (c.extend targets).extend more = c.extend (targets ++ more) := by
  have listed := h.toList_eq
  have indexed := h.indexed
  refine ⟨listed, fun _ => indexed.mem_index_iff, indexed, fun _ _ found => indexed.lt_size found,
    ?_, fun _ => indexed.get?_eq_none_iff, ⟨?_, ?_, ?_, ?_, ?_⟩, ?_⟩
  · intro key g
    rw [indexed.get?_eq_some_iff, listed]
  · rw [keys, listed]
  · rw [firstKey?, keys, listed, List.head?_map]
  · rw [lastKey?, keys, listed, List.getLast?_map]
  · rw [← length_keys, keys, listed, List.length_map]
  · rw [← listed, isEmpty, toList, Array.isEmpty_iff, Array.toList_eq_nil_iff]
  · intro targets more
    exact ⟨toList_append c _, extend_append c targets more⟩

def sampleTargets : List Target := [⟨"shell_curl", "cURL", "bash"⟩, ⟨"node", "Node", "js"⟩]

def sampleCollection : Collection :=
  (ofList [("shell_curl", .fixed "Base" "sh" "curl")]).extend sampleTargets

theorem index_leads_to_last_sample :
    sampleCollection.keys = ["shell_curl", "shell_curl", "node"] ∧
      sampleCollection.index["shell_curl"]? = some 1 ∧
      sampleCollection.get? "shell_curl" =
        some ⟨"cURL", "bash", (Generator.ofTarget ⟨"shell_curl", "cURL", "bash"⟩).run⟩ ∧
      sampleCollection.get? "go" = none := by
  have made : sampleCollection.MadeOf _ := .extend (.ofList _) sampleTargets
  obtain ⟨-, -, indexed, -, found, absent, ⟨keys, -⟩, -⟩ := index_leads_to_last made
  have all : sampleCollection.keys = ["shell_curl", "shell_curl", "node"] := keys
  have last : sampleCollection.IsLast "shell_curl" 1 := by
    unfold IsLast
    rw [all]
    refine ⟨rfl, ?_⟩
    intro j later here
    have inside := (List.getElem?_eq_some_iff.mp here).1
    obtain rfl : j = 2 := by
      simp only [List.length_cons, List.length_nil] at inside
      omega
    exact absurd here (by decide)
  exact ⟨all, (indexed _ _).mpr last, (found _ _).mpr ⟨1, last, rfl⟩,
    (absent _).mpr (by rw [all]; decide)⟩

end RequestCode.Collection
