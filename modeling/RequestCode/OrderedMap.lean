/-!
# Maps in insertion order

A map from names to values that remembers the order in which names first came. Storing under a
name that is present replaces the value and keeps the place. Main statements: `get?_insert` and
`keys_insert` say what one insertion does to look-up and to the order of names.
-/

namespace RequestCode

variable {α β : Type}

/-- Put a value in the place of the entry of that name, or at the end. -/
def insertEntry (name : String) (value : α) : List (String × α) → List (String × α)
  | [] => [(name, value)]
  | e :: r => if e.1 = name then (name, value) :: r else e :: insertEntry name value r

theorem keys_insertEntry (name : String) (value : α) (s : List (String × α)) :
    (insertEntry name value s).map Prod.fst =
      if name ∈ s.map Prod.fst then s.map Prod.fst else s.map Prod.fst ++ [name] := by
  induction s with
  | nil => simp [insertEntry]
  | cons e r ih =>
    by_cases h : e.1 = name
    · simp [insertEntry, h]
    · simp only [insertEntry, h, if_false, List.map_cons, ih, List.mem_cons, Ne.symm h, false_or]
      split <;> simp

theorem nodup_insertEntry (name : String) (value : α) {s : List (String × α)}
    (h : (s.map Prod.fst).Nodup) : ((insertEntry name value s).map Prod.fst).Nodup := by
  rw [keys_insertEntry]
  split
  · exact h
  · rename_i hn
    rw [List.nodup_append]
    refine ⟨h, by simp, ?_⟩
    intro a ha b hb
    simp only [List.mem_singleton] at hb
    subst hb
    exact fun hab => hn (hab ▸ ha)

theorem insertEntry_of_not_mem {name : String} {s : List (String × α)}
    (h : name ∉ s.map Prod.fst) (value : α) : insertEntry name value s = s ++ [(name, value)] := by
  induction s with
  | nil => rfl
  | cons e s ih =>
    rw [List.map_cons, List.mem_cons, not_or] at h
    rw [insertEntry, if_neg (Ne.symm h.1), ih h.2, List.cons_append]

/-- Entries of distinct names are stored one behind the other. -/
theorem foldl_insertEntry_of_nodup {acc s : List (String × α)}
    (h : ((acc ++ s).map Prod.fst).Nodup) :
    s.foldl (fun acc e => insertEntry e.1 e.2 acc) acc = acc ++ s := by
  induction s generalizing acc with
  | nil => rw [List.foldl_nil, List.append_nil]
  | cons e s ih =>
    have fresh : e.1 ∉ acc.map Prod.fst := by
      rw [List.map_append, List.map_cons, List.nodup_append] at h
      intro mem
      exact h.2.2 e.1 mem e.1 List.mem_cons_self rfl
    rw [List.foldl_cons, insertEntry_of_not_mem fresh, ih (by simpa using h), List.append_assoc]
    rfl

/-- The value of the first entry of that name. -/
def lookupEntry (name : String) : List (String × α) → Option α
  | [] => none
  | e :: r => if e.1 = name then some e.2 else lookupEntry name r

theorem lookupEntry_insertEntry (name other : String) (value : α) (s : List (String × α)) :
    lookupEntry other (insertEntry name value s) =
      if name = other then some value else lookupEntry other s := by
  induction s with
  | nil => simp [insertEntry, lookupEntry]
  | cons e r ih =>
    by_cases h : e.1 = name
    · by_cases ho : name = other
      · simp [insertEntry, lookupEntry, h, ho]
      · simp [insertEntry, lookupEntry, h, ho]
    · by_cases ho : e.1 = other
      · have : ¬ name = other := fun hn => h (ho.trans hn.symm)
        rw [insertEntry, if_neg h, lookupEntry, if_pos ho, lookupEntry, if_pos ho, if_neg this]
      · simp [insertEntry, lookupEntry, h, ho, ih]

theorem lookupEntry_map (name : String) (f : α → β) (s : List (String × α)) :
    lookupEntry name (s.map fun e => (e.1, f e.2)) = (lookupEntry name s).map f := by
  induction s with
  | nil => rfl
  | cons e r ih =>
    rw [List.map_cons, lookupEntry, lookupEntry, ih]
    split <;> rfl

theorem exists_lookupEntry {name : String} {s : List (String × α)} (h : name ∈ s.map Prod.fst) :
    ∃ value, lookupEntry name s = some value := by
  induction s with
  | nil => cases h
  | cons e r ih =>
    rw [lookupEntry]
    split
    · exact ⟨e.2, rfl⟩
    · rename_i other
      rcases List.mem_cons.mp h with same | later
      · exact absurd same.symm other
      · exact ih later

structure OrderedMap (α : Type) where
  entries : List (String × α)
  nodup : (entries.map Prod.fst).Nodup

namespace OrderedMap

@[ext] theorem ext {m n : OrderedMap α} (h : m.entries = n.entries) : m = n := by
  cases m; cases n; simp_all

def empty : OrderedMap α := ⟨[], by simp⟩

instance : EmptyCollection (OrderedMap α) := ⟨empty⟩

instance : Inhabited (OrderedMap α) := ⟨empty⟩

def keys (m : OrderedMap α) : List String := m.entries.map Prod.fst

def get? (m : OrderedMap α) (name : String) : Option α := lookupEntry name m.entries

def insert (m : OrderedMap α) (name : String) (value : α) : OrderedMap α :=
  ⟨insertEntry name value m.entries, nodup_insertEntry name value m.nodup⟩

theorem keys_insert (m : OrderedMap α) (name : String) (value : α) :
    (m.insert name value).keys = if name ∈ m.keys then m.keys else m.keys ++ [name] :=
  keys_insertEntry name value m.entries

theorem get?_insert (m : OrderedMap α) (name other : String) (value : α) :
    (m.insert name value).get? other = if name = other then some value else m.get? other :=
  lookupEntry_insertEntry name other value m.entries

/-- Insert the entries in order; of a repeated name the last value counts, at the first place. -/
def ofList (s : List (String × α)) : OrderedMap α :=
  s.foldl (fun m e => m.insert e.1 e.2) ∅

theorem entries_ofList (s : List (String × α)) :
    (ofList s).entries = s.foldl (fun acc e => insertEntry e.1 e.2 acc) [] :=
  (List.foldl_hom entries fun _ _ => rfl).symm

theorem entries_ofList_of_nodup {s : List (String × α)} (h : (s.map Prod.fst).Nodup) :
    (ofList s).entries = s := by
  rw [entries_ofList, foldl_insertEntry_of_nodup h, List.nil_append]

theorem ofList_entries (m : OrderedMap α) : ofList m.entries = m :=
  ext (entries_ofList_of_nodup m.nodup)

instance [DecidableEq α] : DecidableEq (OrderedMap α) := fun m n =>
  decidable_of_iff (m.entries = n.entries) ⟨ext, fun h => h ▸ rfl⟩

end OrderedMap

end RequestCode
