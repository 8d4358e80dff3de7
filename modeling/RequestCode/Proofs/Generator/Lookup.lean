import RequestCode.Generator.Collection

/-!
# Looking up generators

A key leads to the generator that was added under it last, whatever was added under other keys
since. Main statement: `get?_append_of_mem`.
-/

namespace RequestCode.Collection

def LeadsTo (c : Collection) (key : String) (g : Generator) : Prop :=
  ∃ i, c.index[key]? = some i ∧ c.entries[i]? = some (key, g)

variable {c : Collection} {key other : String} {g g' : Generator}
  {entries : List (String × Generator)}

theorem LeadsTo.get?_eq (h : c.LeadsTo key g) : c.get? key = some g := by
  obtain ⟨i, hi, hentry⟩ := h
  simp [get?, hi, hentry]

theorem leadsTo_push_self (c : Collection) (key : String) (g : Generator) :
    (c.push key g).LeadsTo key g := by
  refine ⟨c.size, ?_, ?_⟩
  · rw [index_push, if_pos rfl]
  · simp [push, size]

theorem LeadsTo.push (h : c.LeadsTo key g) (hne : other ≠ key) :
    (c.push other g').LeadsTo key g := by
  obtain ⟨i, hi, hentry⟩ := h
  have inside : i < c.entries.size := (Array.getElem?_eq_some_iff.mp hentry).1
  refine ⟨i, ?_, ?_⟩
  · rw [index_push, if_neg hne, hi]
  · simpa [Collection.push, Array.getElem?_push_lt inside] using
      (Array.getElem?_eq_some_iff.mp hentry).2

theorem LeadsTo.append (h : c.LeadsTo key g) (hne : key ∉ entries.map Prod.fst) :
    (c.append entries).LeadsTo key g := by
  induction entries generalizing c with
  | nil => exact h
  | cons e r ih =>
    rw [List.map_cons, List.mem_cons, not_or] at hne
    exact ih (h.push (Ne.symm hne.1)) hne.2

theorem leadsTo_append_of_mem (h : key ∈ entries.map Prod.fst) :
    ∃ g, (key, g) ∈ entries ∧ (c.append entries).LeadsTo key g := by
  induction entries generalizing c with
  | nil => simp at h
  | cons e r ih =>
    by_cases later : key ∈ r.map Prod.fst
    · obtain ⟨g, hg, leads⟩ := ih (c := c.push e.1 e.2) later
      exact ⟨g, List.mem_cons_of_mem e hg, leads⟩
    · obtain rfl : key = e.1 := by simpa [later] using h
      exact ⟨e.2, List.mem_cons_self, (leadsTo_push_self c e.1 e.2).append later⟩

theorem get?_append_of_mem (h : key ∈ entries.map Prod.fst) :
    ∃ g, (key, g) ∈ entries ∧ (c.append entries).get? key = some g := by
  obtain ⟨g, hg, leads⟩ := leadsTo_append_of_mem (c := c) h
  exact ⟨g, hg, leads.get?_eq⟩

end RequestCode.Collection
