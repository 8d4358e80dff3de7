import Mathlib.Data.List.Induction
import RequestCode.Proofs.Outgoing.Merge
import RequestCode.Proofs.Outgoing.Repeated

/-!
# Overrides

The merged query in one view, without storing the overrides one after the other: the pairs come
first, and those of an overridden name are drawn together in the first of them; the names that only
the overrides have follow. The invariant of the merge is that one more override changes this view
as it changes the list (`replaceParam_merged`). Main statement: `mergeQuery_exact`.
-/

namespace RequestCode

def lastNamed? (name : String) (ps : List Param) : Option Param :=
  ps.reverse.find? (·.name = name)

/-- The pairs as the overrides leave them. A pair of another name is kept; of the pairs of an
overridden name the first is kept, with the value of the override. -/
def overridden (overrides : List Param) : List Param → List Param
  | [] => []
  | p :: ps =>
    match lastNamed? p.name overrides with
    | none => p :: overridden overrides ps
    | some q => ⟨p.name, q.value⟩ :: overridden overrides (withoutName p.name ps)
termination_by ps => ps.length
decreasing_by
  · exact Nat.lt_succ_self _
  · exact Nat.lt_succ_of_le (List.length_filter_le _ ps)

def added (pairs overrides : List Param) : List Param :=
  (collected overrides).filter (·.name ∉ pairs.map (·.name))

variable {name : String} {p q : Param} {ps qs pairs overrides : List Param}

theorem lastNamed?_concat (name : String) (ps : List Param) (p : Param) :
    lastNamed? name (ps ++ [p]) = if p.name = name then some p else lastNamed? name ps := by
  rw [lastNamed?, List.reverse_append, List.reverse_singleton, List.singleton_append,
    List.find?_cons, lastNamed?]
  by_cases named : p.name = name <;> simp [named]

theorem lastNamed?_concat_of_ne (h : p.name ≠ name) :
    lastNamed? name (ps ++ [p]) = lastNamed? name ps := by
  rw [lastNamed?_concat, if_neg h]

theorem lastNamed?_eq_none_iff : lastNamed? name ps = none ↔ name ∉ ps.map (·.name) := by
  simp [lastNamed?]

theorem lastOfName_concat (p q : Param) (ps : List Param) :
    lastOfName q (ps ++ [p]) = if p.name = q.name then p else lastOfName q ps := by
  change (lastNamed? q.name (ps ++ [p])).getD q = _
  rw [lastNamed?_concat]
  split <;> rfl

theorem withoutName_append (name : String) (ps qs : List Param) :
    withoutName name (ps ++ qs) = withoutName name ps ++ withoutName name qs :=
  List.filter_append ps qs

theorem withoutName_cons_of_ne (h : p.name ≠ name) :
    withoutName name (p :: ps) = p :: withoutName name ps :=
  List.filter_cons_of_pos (by simpa using h)

theorem withoutName_cons_of_eq (h : p.name = name) :
    withoutName name (p :: ps) = withoutName name ps :=
  List.filter_cons_of_neg (by simpa using h)

theorem withoutName_comm (name other : String) (ps : List Param) :
    withoutName name (withoutName other ps) = withoutName other (withoutName name ps) := by
  simp only [withoutName, List.filter_filter, Bool.and_comm]

@[simp] theorem withoutName_withoutName (name : String) (ps : List Param) :
    withoutName name (withoutName name ps) = withoutName name ps := by
  simp [withoutName]

theorem mem_names_withoutName {other : String} :
    name ∈ (withoutName other ps).map (·.name) ↔ name ∈ ps.map (·.name) ∧ name ≠ other := by
  simp only [List.mem_map, mem_withoutName]
  constructor
  · rintro ⟨p, ⟨mem, ne⟩, rfl⟩
    exact ⟨⟨p, mem, rfl⟩, ne⟩
  · rintro ⟨⟨p, mem, rfl⟩, ne⟩
    exact ⟨p, ⟨mem, ne⟩, rfl⟩

theorem replaceParam_cons_of_eq (h : q.name = p.name) :
    replaceParam p (q :: ps) = p :: withoutName p.name ps := by
  rw [replaceParam, if_pos h, withoutName]

theorem replaceParam_cons_of_ne (h : q.name ≠ p.name) :
    replaceParam p (q :: ps) = q :: replaceParam p ps := by
  rw [replaceParam, if_neg h]

theorem replaceParam_append_of_mem (h : p.name ∈ ps.map (·.name)) :
    replaceParam p (ps ++ qs) = replaceParam p ps ++ withoutName p.name qs := by
  induction ps with
  | nil => cases h
  | cons q ps ih =>
    rw [List.cons_append]
    by_cases same : q.name = p.name
    · rw [replaceParam_cons_of_eq same, replaceParam_cons_of_eq same, withoutName_append]
      rfl
    · rw [replaceParam_cons_of_ne same, replaceParam_cons_of_ne same, List.cons_append, ih]
      rw [List.map_cons, List.mem_cons] at h
      exact h.resolve_left (Ne.symm same)

theorem replaceParam_append_of_not_mem (h : p.name ∉ ps.map (·.name)) :
    replaceParam p (ps ++ qs) = ps ++ replaceParam p qs := by
  induction ps with
  | nil => rfl
  | cons q ps ih =>
    rw [List.map_cons, List.mem_cons, not_or] at h
    rw [List.cons_append, replaceParam_cons_of_ne (Ne.symm h.1), ih h.2, List.cons_append]

section Class

variable {keep : Param → Bool} (hkeep : ∀ q : Param, q.name = p.name → keep q = keep p)
include hkeep

theorem filter_replaceParam_of_pos (h : keep p = true) :
    (replaceParam p ps).filter keep = replaceParam p (ps.filter keep) := by
  induction ps with
  | nil => simp [replaceParam, h]
  | cons q ps ih =>
    by_cases same : q.name = p.name
    · have kept : keep q = true := by rw [hkeep q same, h]
      rw [replaceParam_cons_of_eq same, List.filter_cons_of_pos h, List.filter_cons_of_pos kept,
        replaceParam_cons_of_eq same, withoutName, withoutName, List.filter_filter,
        List.filter_filter]
      simp only [Bool.and_comm]
    · rw [replaceParam_cons_of_ne same]
      by_cases kept : keep q = true
      · rw [List.filter_cons_of_pos kept, List.filter_cons_of_pos kept,
          replaceParam_cons_of_ne same, ih]
      · rw [List.filter_cons_of_neg kept, List.filter_cons_of_neg kept, ih]

theorem filter_replaceParam_of_neg (h : ¬keep p = true) :
    (replaceParam p ps).filter keep = ps.filter keep := by
  induction ps with
  | nil => simp [replaceParam, h]
  | cons q ps ih =>
    by_cases same : q.name = p.name
    · have dropped : ¬keep q = true := by rwa [hkeep q same]
      rw [replaceParam_cons_of_eq same, List.filter_cons_of_neg h,
        List.filter_cons_of_neg dropped, withoutName, List.filter_filter]
      apply List.filter_congr
      intro s _
      by_cases named : s.name = p.name
      · simp [named, hkeep s named, h]
      · simp [named]
    · rw [replaceParam_cons_of_ne same, List.filter_cons, List.filter_cons, ih]

end Class

theorem collected_concat (ps : List Param) (p : Param) :
    collected (ps ++ [p]) = replaceParam p (collected ps) := by
  fun_induction collected ps with
  | case1 => simp [collected, replaceParam, lastOfName, withoutName]
  | case2 q ps ih =>
    rw [List.cons_append, collected, lastOfName_concat, withoutName_append]
    by_cases same : p.name = q.name
    · have fresh : withoutName p.name (collected (withoutName q.name ps)) =
          collected (withoutName q.name ps) := by
        apply withoutName_eq_self
        intro mem
        obtain ⟨s, hs, named⟩ := List.mem_map.mp mem
        exact name_ne_of_mem_collected hs (named.trans same)
      rw [if_pos same, withoutName_cons_of_eq same, replaceParam_cons_of_eq (by simp [same]), fresh]
      simp [withoutName]
    · rw [if_neg same, withoutName_cons_of_ne same,
        replaceParam_cons_of_ne (by simpa using Ne.symm same)]
      exact congrArg _ ih

theorem overridden_cons_of_none (h : lastNamed? p.name overrides = none) :
    overridden overrides (p :: ps) = p :: overridden overrides ps := by
  rw [overridden, h]

theorem overridden_cons_of_some (h : lastNamed? p.name overrides = some q) :
    overridden overrides (p :: ps) =
      ⟨p.name, q.value⟩ :: overridden overrides (withoutName p.name ps) := by
  rw [overridden, h]

theorem mem_names_overridden :
    name ∈ (overridden overrides ps).map (·.name) ↔ name ∈ ps.map (·.name) := by
  fun_induction overridden overrides ps with
  | case1 => rfl
  | case2 p ps _ ih => rw [List.map_cons, List.map_cons, List.mem_cons, List.mem_cons, ih]
  | case3 p ps q _ ih =>
    rw [List.map_cons, List.map_cons, List.mem_cons, List.mem_cons, ih, mem_names_withoutName]
    by_cases first : name = p.name
    · simp [first]
    · simp [first]

theorem withoutName_overridden (name : String) (overrides ps : List Param) :
    withoutName name (overridden overrides ps) = overridden overrides (withoutName name ps) := by
  fun_induction overridden overrides ps with
  | case1 => simp [withoutName, overridden]
  | case2 p ps absent ih =>
    by_cases named : p.name = name
    · rw [withoutName_cons_of_eq named, withoutName_cons_of_eq named, ih]
    · rw [withoutName_cons_of_ne named, withoutName_cons_of_ne named,
        overridden_cons_of_none absent, ih]
  | case3 p ps q found ih =>
    by_cases named : p.name = name
    · rw [withoutName_cons_of_eq (by exact named), withoutName_cons_of_eq named, ih, ← named,
        withoutName_withoutName]
    · rw [withoutName_cons_of_ne (by exact named), withoutName_cons_of_ne named,
        overridden_cons_of_some found, ih, withoutName_comm]

theorem overridden_concat_of_not_mem (h : p.name ∉ ps.map (·.name)) :
    overridden (overrides ++ [p]) ps = overridden overrides ps := by
  fun_induction overridden overrides ps with
  | case1 => rw [overridden]
  | case2 q ps absent ih =>
    rw [List.map_cons, List.mem_cons, not_or] at h
    rw [overridden_cons_of_none (by rw [lastNamed?_concat_of_ne h.1, absent]), ih h.2]
  | case3 q ps r found ih =>
    rw [List.map_cons, List.mem_cons, not_or] at h
    rw [overridden_cons_of_some (by rw [lastNamed?_concat_of_ne h.1, found]), ih]
    rw [mem_names_withoutName]
    exact fun mem => h.2 mem.1

/-- One more override of a name that pairs have takes the place of the first of them. -/
theorem overridden_concat_of_mem (h : p.name ∈ ps.map (·.name)) :
    overridden (overrides ++ [p]) ps = replaceParam p (overridden overrides ps) := by
  have behind (qs : List Param) : overridden (overrides ++ [p]) (withoutName p.name qs) =
      withoutName p.name (overridden overrides qs) := by
    rw [withoutName_overridden]
    apply overridden_concat_of_not_mem
    rw [mem_names_withoutName]
    exact fun mem => mem.2 rfl
  have found : lastNamed? p.name (overrides ++ [p]) = some p := by
    rw [lastNamed?_concat, if_pos rfl]
  fun_induction overridden overrides ps with
  | case1 => cases h
  | case2 q ps absent ih =>
    by_cases same : q.name = p.name
    · rw [← same] at found
      rw [overridden_cons_of_some found, replaceParam_cons_of_eq same, same, behind]
    · rw [List.map_cons, List.mem_cons] at h
      rw [overridden_cons_of_none (by rw [lastNamed?_concat_of_ne (Ne.symm same), absent]),
        replaceParam_cons_of_ne same, ih (h.resolve_left (Ne.symm same))]
  | case3 q ps r overrides_q ih =>
    by_cases same : q.name = p.name
    · rw [← same] at found
      rw [overridden_cons_of_some found, replaceParam_cons_of_eq (by exact same), same, behind,
        withoutName_overridden, withoutName_overridden, withoutName_withoutName]
    · rw [List.map_cons, List.mem_cons] at h
      have later := h.resolve_left (Ne.symm same)
      rw [overridden_cons_of_some (by rw [lastNamed?_concat_of_ne (Ne.symm same), overrides_q]),
        replaceParam_cons_of_ne (by exact same),
        ih (mem_names_withoutName.mpr ⟨later, Ne.symm same⟩)]

theorem added_concat_of_mem (h : p.name ∈ pairs.map (·.name)) :
    added pairs (overrides ++ [p]) = added pairs overrides := by
  rw [added, collected_concat]
  exact filter_replaceParam_of_neg (fun q same => by rw [same]) (by simpa using h)

theorem added_concat_of_not_mem (h : p.name ∉ pairs.map (·.name)) :
    added pairs (overrides ++ [p]) = replaceParam p (added pairs overrides) := by
  rw [added, collected_concat]
  exact filter_replaceParam_of_pos (fun q same => by rw [same]) (by simpa using h)

/-- One more override changes the view as it changes the list. -/
theorem replaceParam_merged (p : Param) (pairs overrides : List Param) :
    replaceParam p (overridden overrides pairs ++ added pairs overrides) =
      overridden (overrides ++ [p]) pairs ++ added pairs (overrides ++ [p]) := by
  by_cases mem : p.name ∈ pairs.map (·.name)
  · have fresh : p.name ∉ (added pairs overrides).map (·.name) := by
      intro inAdded
      obtain ⟨q, hq, named⟩ := List.mem_map.mp inAdded
      have absent := (List.mem_filter.mp hq).2
      rw [named] at absent
      simp_all
    rw [replaceParam_append_of_mem (mem_names_overridden.mpr mem), overridden_concat_of_mem mem,
      added_concat_of_mem mem, withoutName_eq_self fresh]
  · rw [replaceParam_append_of_not_mem (fun inPairs => mem (mem_names_overridden.mp inPairs)),
      overridden_concat_of_not_mem mem, added_concat_of_not_mem mem]

theorem mergeQuery_concat (pairs overrides : List Param) (p : Param) :
    mergeQuery pairs (overrides ++ [p]) = replaceParam p (mergeQuery pairs overrides) := by
  rw [mergeQuery, List.foldl_append]
  rfl

theorem overridden_nil (ps : List Param) : overridden [] ps = ps := by
  induction ps with
  | nil => rw [overridden]
  | cons p ps ih => rw [overridden_cons_of_none (by rfl), ih]

theorem mergeQuery_eq (pairs overrides : List Param) :
    mergeQuery pairs overrides = overridden overrides pairs ++ added pairs overrides := by
  induction overrides using List.reverseRecOn with
  | nil =>
    rw [overridden_nil, added, collected, List.filter_nil, List.append_nil]
    rfl
  | append_singleton overrides p ih => rw [mergeQuery_concat, ih, replaceParam_merged]

theorem mem_replaceParam (h : q ∈ replaceParam p ps) : q = p ∨ q ∈ ps ∧ q.name ≠ p.name := by
  induction ps with
  | nil => exact .inl (List.mem_singleton.mp h)
  | cons r ps ih =>
    by_cases same : r.name = p.name
    · rw [replaceParam_cons_of_eq same, List.mem_cons, mem_withoutName] at h
      rcases h with rfl | ⟨mem, other⟩
      · exact .inl rfl
      · exact .inr ⟨List.mem_cons_of_mem r mem, other⟩
    · rw [replaceParam_cons_of_ne same, List.mem_cons] at h
      rcases h with rfl | mem
      · exact .inr ⟨List.mem_cons_self, same⟩
      · rcases ih mem with rfl | ⟨mem, other⟩
        · exact .inl rfl
        · exact .inr ⟨List.mem_cons_of_mem r mem, other⟩

theorem value_of_mem_mergeQuery (mem : q ∈ mergeQuery pairs overrides)
    (found : lastNamed? q.name overrides = some p) : q.value = p.value := by
  induction overrides using List.reverseRecOn with
  | nil => cases found
  | append_singleton overrides r ih =>
    rw [mergeQuery_concat] at mem
    rw [lastNamed?_concat] at found
    rcases mem_replaceParam mem with rfl | ⟨earlier, other⟩
    · rw [if_pos rfl] at found
      cases found
      rfl
    · rw [if_neg (Ne.symm other)] at found
      exact ih earlier found

theorem overridden_eq_self
    (values : ∀ q ∈ ps, ∀ r, lastNamed? q.name overrides = some r → q.value = r.value)
    (once : ∀ name ∈ overrides.map (·.name), occurrences name ps ≤ 1) :
    overridden overrides ps = ps := by
  fun_induction overridden overrides ps with
  | case1 => rfl
  | case2 p ps _ ih =>
    rw [List.forall_mem_cons] at values
    rw [ih values.2]
    intro name mem
    have atMost := once name mem
    rw [occurrences_cons] at atMost
    omega
  | case3 p ps r found ih =>
    rw [List.forall_mem_cons] at values
    have fresh : withoutName p.name ps = ps := by
      apply withoutName_eq_self
      intro mem
      have overridden_p : p.name ∈ overrides.map (·.name) := by
        by_contra absent
        rw [lastNamed?_eq_none_iff.mpr absent] at found
        cases found
      have atMost := once p.name overridden_p
      rw [occurrences_cons, if_pos rfl] at atMost
      have positive := occurrences_pos_iff.mpr mem
      omega
    rw [fresh] at ih ⊢
    rw [ih values.2, ← values.1 r found]
    intro name mem
    have atMost := once name mem
    rw [occurrences_cons] at atMost
    omega

theorem mergeQuery_mergeQuery (pairs overrides : List Param) :
    mergeQuery (mergeQuery pairs overrides) overrides = mergeQuery pairs overrides := by
  have nothing_added : added (mergeQuery pairs overrides) overrides = [] := by
    apply List.filter_eq_nil_iff.mpr
    intro p mem
    have named : p.name ∈ overrides.map (·.name) :=
      List.mem_map_of_mem (mem_of_mem_collected mem)
    have occurs : p.name ∈ (mergeQuery pairs overrides).map (·.name) := by
      rw [← occurrences_pos_iff, occurrences_mergeQuery, if_pos named]
      exact Nat.one_pos
    simpa using occurs
  rw [mergeQuery_eq, nothing_added, List.append_nil]
  apply overridden_eq_self
  · intro q mem r found
    exact value_of_mem_mergeQuery mem found
  · intro name mem
    have once := occurrences_mergeQuery name pairs overrides
    rw [if_pos mem] at once
    exact Nat.le_of_eq once

/-- The merged query has every pair of a name that is not overridden, the first of the pairs of an
overridden name with the last value that the overrides give it, and behind them the names that only
the overrides have. So every overridden name occurs once, and the same overrides change nothing any
more. -/
theorem mergeQuery_exact (pairs overrides : List Param) :
    mergeQuery pairs overrides = overridden overrides pairs ++ added pairs overrides ∧
      (∀ name, occurrences name (mergeQuery pairs overrides) =
        if name ∈ overrides.map (·.name) then 1 else occurrences name pairs) ∧
      mergeQuery (mergeQuery pairs overrides) overrides = mergeQuery pairs overrides := by
  refine ⟨mergeQuery_eq pairs overrides, ?_, mergeQuery_mergeQuery pairs overrides⟩
  intro name
  exact occurrences_mergeQuery name pairs overrides

/-- An override may hit a name that another one has added. -/
example :
    mergeQuery [⟨"x", "1"⟩, ⟨"z", "0"⟩, ⟨"x", "9"⟩, ⟨"z", "0"⟩]
      [⟨"y", "2"⟩, ⟨"x", "3"⟩, ⟨"y", "4"⟩, ⟨"x", "5"⟩] =
      [⟨"x", "5"⟩, ⟨"z", "0"⟩, ⟨"z", "0"⟩, ⟨"y", "4"⟩] := by decide

end RequestCode
