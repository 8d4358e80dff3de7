import Mathlib.Data.List.Nodup
import RequestCode.Outgoing

/-!
# Repeated names of a merged query

Overrides leave each of their names once in a query, and other names as often as they were. Main
statement: `nodup_mergeQuery_iff`, no name is repeated exactly if every name that is repeated before
is overridden.
-/

namespace RequestCode

def occurrences (name : String) (ps : List Param) : Nat := ps.countP (·.name = name)

variable {name : String} {p q : Param} {ps pairs overrides : List Param}

theorem occurrences_cons (name : String) (p : Param) (ps : List Param) :
    occurrences name (p :: ps) = occurrences name ps + if p.name = name then 1 else 0 := by
  simp [occurrences, List.countP_cons]

theorem occurrences_eq_zero (h : ∀ p ∈ ps, p.name ≠ name) : occurrences name ps = 0 := by
  apply List.countP_eq_zero.mpr
  intro p hp
  simpa using h p hp

theorem occurrences_pos_iff : 0 < occurrences name ps ↔ name ∈ ps.map (·.name) := by
  simp [occurrences, List.countP_pos_iff]

theorem nodup_names_iff : (ps.map (·.name)).Nodup ↔ ∀ name, occurrences name ps ≤ 1 := by
  rw [List.nodup_iff_count]
  refine forall_congr' fun name => ?_
  rw [List.count_eq_countP, List.countP_map]
  rfl

theorem occurrences_filter_ne (name dropped : String) (ps : List Param) :
    occurrences name (ps.filter fun p => p.name ≠ dropped) =
      if dropped = name then 0 else occurrences name ps := by
  by_cases same : dropped = name
  · subst same
    rw [if_pos rfl]
    apply occurrences_eq_zero
    intro p hp
    simpa using (List.mem_filter.mp hp).2
  · rw [if_neg same, occurrences, List.countP_filter]
    apply List.countP_congr
    intro p _
    by_cases named : p.name = name
    · simp [named, Ne.symm same]
    · simp [named]

theorem occurrences_replaceParam (name : String) (p : Param) (ps : List Param) :
    occurrences name (replaceParam p ps) =
      if p.name = name then 1 else occurrences name ps := by
  induction ps with
  | nil => simp [replaceParam, occurrences, List.countP_cons]
  | cons q r ih =>
    rw [replaceParam]
    by_cases same : q.name = p.name
    · rw [if_pos same, occurrences_cons, occurrences_filter_ne, occurrences_cons, same]
      by_cases named : p.name = name
      · simp [named]
      · simp [named]
    · rw [if_neg same, occurrences_cons, ih, occurrences_cons]
      by_cases named : p.name = name
      · rw [named] at same
        simp [named, same]
      · simp [named]

/-- Every override occurs once in the merged query, and other names as often as before. -/
theorem occurrences_mergeQuery (name : String) (pairs overrides : List Param) :
    occurrences name (mergeQuery pairs overrides) =
      if name ∈ overrides.map (·.name) then 1 else occurrences name pairs := by
  induction overrides generalizing pairs with
  | nil => rfl
  | cons p overrides ih =>
    have first : mergeQuery pairs (p :: overrides) =
        mergeQuery (replaceParam p pairs) overrides := rfl
    rw [first, ih, occurrences_replaceParam, List.map_cons]
    by_cases later : name ∈ overrides.map (·.name)
    · rw [if_pos later, if_pos (List.mem_cons_of_mem _ later)]
    · rw [if_neg later]
      by_cases named : p.name = name
      · simp [named]
      · simp [named, Ne.symm named, later]

theorem nodup_mergeQuery_iff :
    ((mergeQuery pairs overrides).map (·.name)).Nodup ↔
      ∀ name, 1 < occurrences name pairs → name ∈ overrides.map (·.name) := by
  rw [nodup_names_iff]
  refine forall_congr' fun name => ?_
  rw [occurrences_mergeQuery]
  by_cases overridden : name ∈ overrides.map (·.name)
  · rw [if_pos overridden]
    exact ⟨fun _ _ => overridden, fun _ => Nat.le_refl 1⟩
  · rw [if_neg overridden]
    constructor
    · intro once twice
      exact absurd twice (Nat.not_lt_of_le once)
    · intro repeated
      by_contra twice
      exact overridden (repeated (Nat.lt_of_not_le twice))

end RequestCode
