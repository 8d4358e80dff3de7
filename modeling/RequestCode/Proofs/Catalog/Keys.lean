import RequestCode.Resolve

/-!
# Keys of the catalog

The keys of the languages differ, and so do the keys of the clients of a language, so an entry is
found again under its key. Main statement: `findClient_eq_ok_iff`.
-/

namespace RequestCode

theorem find?_key_of_nodup {α : Type} {key : α → String} {s : List α} (h : (s.map key).Nodup)
    {a : α} (ha : a ∈ s) : s.find? (fun b => key b = key a) = some a := by
  induction s with
  | nil => simp at ha
  | cons b s ih =>
    rw [List.map_cons, List.nodup_cons] at h
    rcases List.mem_cons.mp ha with rfl | ha
    · simp
    · have other : key b ≠ key a := fun hb => h.1 (hb ▸ List.mem_map_of_mem ha)
      rw [List.find?_cons_of_neg (by simpa using other)]
      exact ih h.2 ha

namespace Catalog

theorem nodup_languages : (languages.map (·.key)).Nodup := by decide

theorem nodup_clients {l : Language} (h : l ∈ languages) : (l.clients.map (·.key)).Nodup := by
  have all : ∀ keys ∈ languages.map fun l => l.clients.map (·.key), keys.Nodup := by decide
  exact all _ (List.mem_map_of_mem h)

theorem find?_key {l : Language} (h : l ∈ languages) : find? l.key = some l :=
  find?_key_of_nodup nodup_languages h

theorem client?_key {l : Language} (h : l ∈ languages) {c : Client} (hc : c ∈ l.clients) :
    l.client? c.key = some c :=
  find?_key_of_nodup (nodup_clients h) hc

theorem find?_eq_some {key : String} {l : Language} (h : find? key = some l) :
    l ∈ languages ∧ l.key = key :=
  ⟨List.mem_of_find?_eq_some h, by simpa using List.find?_some h⟩

end Catalog

theorem Language.client?_eq_some {l : Language} {key : String} {c : Client}
    (h : l.client? key = some c) : c ∈ l.clients ∧ c.key = key :=
  ⟨List.mem_of_find?_eq_some h, by simpa using List.find?_some h⟩

theorem findClient_key {l : Language} (h : l ∈ Catalog.languages) {c : Client}
    (hc : c ∈ l.clients) : findClient l.key (some c.key) = .ok c := by
  simp [findClient, Catalog.find?_key h, Catalog.client?_key h hc]

theorem findClient_eq_ok_iff {language : String} {library : Option String} {c : Client} :
    findClient language library = .ok c ↔
      ∃ l ∈ Catalog.languages, l.key = language ∧ c ∈ l.clients ∧
        (library = none ∧ c = l.default ∨ library = some c.key) := by
  constructor
  · intro h
    unfold findClient at h
    split at h
    · cases h
    · rename_i l found
      cases h
      obtain ⟨mem, key⟩ := Catalog.find?_eq_some found
      exact ⟨l, mem, key, List.mem_cons_self, .inl ⟨rfl, rfl⟩⟩
    · rename_i l key found
      split at h
      · rename_i d hd
        cases h
        obtain ⟨mem, named⟩ := Catalog.find?_eq_some found
        obtain ⟨offered, rfl⟩ := Language.client?_eq_some hd
        exact ⟨l, mem, named, offered, .inr rfl⟩
      · cases h
  · rintro ⟨l, mem, rfl, offered, ⟨rfl, rfl⟩ | rfl⟩
    · simp [findClient, Catalog.find?_key mem]
    · exact findClient_key mem offered

end RequestCode
