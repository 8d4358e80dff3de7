import Mathlib.Data.List.Nodup
import RequestCode.Outgoing

/-!
# Repeated names

A map holds each name once. Parameters that were collected in a map are listed with each name at
its first place and with its last value. Main statements: `toList_ofPairs`, which says so,
`collected_eq_self_iff`, nothing is lost exactly if no name is repeated, and
`query_of_collected`, a request that repeats the collected pairs of its URL is sent with just them.
-/

namespace RequestCode

def withoutName (name : String) (ps : List Param) : List Param := ps.filter (·.name ≠ name)

def lastOfName (p : Param) (ps : List Param) : Param :=
  (ps.reverse.find? (·.name = p.name)).getD p

/-- Each name once, at its first place and with its last value. -/
def collected : List Param → List Param
  | [] => []
  | p :: ps => lastOfName p ps :: collected (withoutName p.name ps)
termination_by ps => ps.length
decreasing_by exact Nat.lt_succ_of_le (List.length_filter_le _ ps)

variable {name : String} {p q : Param} {ps qs : List Param}

@[simp] theorem mem_withoutName : q ∈ withoutName name ps ↔ q ∈ ps ∧ q.name ≠ name := by
  simp [withoutName]

theorem withoutName_eq_self (h : name ∉ ps.map (·.name)) : withoutName name ps = ps := by
  apply List.filter_eq_self.mpr
  intro q hq
  have other : q.name ≠ name := fun same => h (same ▸ List.mem_map_of_mem hq)
  simpa using other

theorem lastOfName_mem (p : Param) (ps : List Param) : lastOfName p ps ∈ p :: ps := by
  unfold lastOfName
  cases found : ps.reverse.find? (·.name = p.name) with
  | none => exact List.mem_cons_self
  | some q =>
    apply List.mem_cons_of_mem
    exact List.mem_reverse.mp (List.mem_of_find?_eq_some found)

@[simp] theorem lastOfName_name (p : Param) (ps : List Param) :
    (lastOfName p ps).name = p.name := by
  unfold lastOfName
  cases found : ps.reverse.find? (·.name = p.name) with
  | none => rfl
  | some q => simpa using List.find?_some found

theorem lastOfName_eq_self (h : p.name ∉ ps.map (·.name)) : lastOfName p ps = p := by
  have absent : ps.reverse.find? (·.name = p.name) = none := by
    apply List.find?_eq_none.mpr
    intro q hq same
    apply h
    rw [← of_decide_eq_true same]
    exact List.mem_map_of_mem (List.mem_reverse.mp hq)
  simp [lastOfName, absent]

theorem lastOfName_cons_self (p : Param) (ps : List Param) :
    lastOfName p (p :: ps) = lastOfName p ps := by
  unfold lastOfName
  rw [List.reverse_cons, List.find?_append]
  cases ps.reverse.find? (·.name = p.name) <;> simp

theorem lastOfName_cons_of_ne (h : p.name ≠ q.name) : lastOfName q (p :: ps) = lastOfName q ps := by
  unfold lastOfName
  rw [List.reverse_cons, List.find?_append, List.find?_singleton, if_neg (by simpa using h),
    Option.or_none]

theorem find?_withoutName {P : Param → Bool} (h : ∀ q, P q = true → q.name ≠ name)
    (ps : List Param) : (withoutName name ps).find? P = ps.find? P := by
  unfold withoutName
  rw [List.find?_filter]
  congr 1
  funext q
  cases holds : P q with
  | false => simp
  | true => simp [h q holds]

theorem lastOfName_withoutName (h : q.name ≠ name) (ps : List Param) :
    lastOfName q (withoutName name ps) = lastOfName q ps := by
  have backwards : (withoutName name ps).reverse = withoutName name ps.reverse :=
    List.filter_reverse.symm
  unfold lastOfName
  rw [backwards, find?_withoutName]
  intro r same
  rwa [of_decide_eq_true same]

/-- The first parameter whose name has a property keeps its place, and takes the last value. -/
theorem find?_collected (P : String → Bool) (ps : List Param) :
    (collected ps).find? (fun q => P q.name) =
      (ps.find? fun q => P q.name).map (lastOfName · ps) := by
  fun_induction collected ps with
  | case1 => rfl
  | case2 p ps ih =>
    have last : P (lastOfName p ps).name = P p.name := by rw [lastOfName_name]
    rw [List.find?_cons, List.find?_cons, last]
    cases here : P p.name with
    | true => rw [Option.map_some, lastOfName_cons_self]
    | false =>
      have other : ∀ q : Param, P q.name = true → q.name ≠ p.name := by
        intro q holds same
        rw [same, here] at holds
        cases holds
      rw [find?_withoutName other] at ih
      simp only [ih]
      apply Option.map_congr
      intro q found
      have holds := List.find?_some found
      have apart := other q holds
      rw [lastOfName_withoutName apart, lastOfName_cons_of_ne (Ne.symm apart)]

theorem mem_of_mem_collected (h : q ∈ collected ps) : q ∈ ps := by
  fun_induction collected ps with
  | case1 => exact h
  | case2 p ps ih =>
    rcases List.mem_cons.mp h with rfl | h
    · exact lastOfName_mem p ps
    · exact List.mem_cons_of_mem p (mem_withoutName.mp (ih h)).1

theorem name_ne_of_mem_collected (h : q ∈ collected (withoutName name ps)) : q.name ≠ name :=
  (mem_withoutName.mp (mem_of_mem_collected h)).2

theorem collected_eq_self_iff : collected ps = ps ↔ (ps.map (·.name)).Nodup := by
  fun_induction collected ps with
  | case1 => simp
  | case2 p ps ih =>
    rw [List.cons.injEq, List.map_cons, List.nodup_cons]
    constructor
    · rintro ⟨-, rest⟩
      have fresh : p.name ∉ ps.map (·.name) := by
        rw [← rest]
        intro mem
        obtain ⟨q, hq, same⟩ := List.mem_map.mp mem
        exact name_ne_of_mem_collected hq same
      rw [withoutName_eq_self fresh] at ih rest
      exact ⟨fresh, ih.mp rest⟩
    · rintro ⟨fresh, distinct⟩
      rw [withoutName_eq_self fresh] at ih ⊢
      exact ⟨lastOfName_eq_self fresh, ih.mpr distinct⟩

section Entries

variable {α : Type} {e : String × α} {s acc : List (String × α)}

/-- Storing entries behind one: its value becomes the last of its name, and the others are stored
as if it were not there. -/
theorem foldl_insertEntry_cons :
    s.foldl (fun acc e => insertEntry e.1 e.2 acc) (e :: acc) =
      (e.1, ((s.reverse.find? (·.1 = e.1)).getD e).2) ::
        (s.filter (·.1 ≠ e.1)).foldl (fun acc e => insertEntry e.1 e.2 acc) acc := by
  induction s generalizing e acc with
  | nil => rfl
  | cons x s ih =>
    rw [List.foldl_cons, insertEntry]
    by_cases same : e.1 = x.1
    · rw [if_pos same, ih, List.reverse_cons, List.find?_append, same,
        List.filter_cons_of_neg (by simp)]
      cases s.reverse.find? (·.1 = x.1) <;> simp
    · rw [if_neg same, ih]
      simp [List.find?_append, Ne.symm same]

end Entries

theorem Params.entries_ofPairs (ps : List Param) :
    (Params.ofPairs ps).entries = (collected ps).map fun p => (p.name, Json.string p.value) := by
  unfold Params.ofPairs
  rw [OrderedMap.entries_ofList]
  fun_induction collected ps with
  | case1 => rfl
  | case2 p ps ih =>
    rw [List.map_cons, List.foldl_cons, insertEntry, foldl_insertEntry_cons, List.map_cons,
      List.cons.injEq]
    constructor
    · have last : (ps.reverse.map fun q => (q.name, Json.string q.value)).find? (·.1 = p.name) =
          (ps.reverse.find? (·.name = p.name)).map fun q => (q.name, Json.string q.value) :=
        List.find?_map
      rw [← List.map_reverse, last, lastOfName]
      cases found : ps.reverse.find? (·.name = p.name) with
      | none => rfl
      | some q =>
        have same : q.name = p.name := by simpa using List.find?_some found
        rw [← same]
        rfl
    · rw [List.filter_map]
      exact ih

theorem Params.toList_ofPairs (ps : List Param) : (Params.ofPairs ps).toList = collected ps := by
  rw [Params.toList, Params.entries_ofPairs, List.map_map]
  exact List.map_id _

theorem mergeQuery_cons_of_forall_ne (h : ∀ q ∈ qs, p.name ≠ q.name) :
    mergeQuery (p :: ps) qs = p :: mergeQuery ps qs := by
  induction qs generalizing ps with
  | nil => rfl
  | cons q qs ih =>
    rw [List.forall_mem_cons] at h
    have first : mergeQuery (p :: ps) (q :: qs) = mergeQuery (p :: replaceParam q ps) qs := by
      simp [mergeQuery, replaceParam, h.1]
    rw [first, ih h.2]
    rfl

theorem mergeQuery_collected (ps : List Param) : mergeQuery ps (collected ps) = collected ps := by
  fun_induction collected ps with
  | case1 => rfl
  | case2 p ps ih =>
    have first : mergeQuery (p :: ps) (lastOfName p ps :: collected (withoutName p.name ps)) =
        mergeQuery (lastOfName p ps :: withoutName p.name ps)
          (collected (withoutName p.name ps)) := by
      simp [mergeQuery, replaceParam, withoutName]
    rw [first, mergeQuery_cons_of_forall_ne, ih]
    intro q hq
    rw [lastOfName_name]
    exact (name_ne_of_mem_collected hq).symm

@[simp] theorem Url.pairs_withoutFragment (u : Url) : u.withoutFragment.pairs = u.pairs := by
  unfold Url.withoutFragment Url.settled
  split <;> rfl

namespace Outgoing

variable {request : Request} {u : Url}

theorem ofUrl_query (request : Request) (u : Url) :
    (ofUrl request u).query = mergeQuery u.pairs request.query := by
  simp [ofUrl]

theorem ofUrl_congr_query {overrides : List Param}
    (h : mergeQuery u.pairs overrides = mergeQuery u.pairs request.query) :
    ofUrl { request with query := overrides } u = ofUrl request u := by
  simp only [ofUrl, Request.hasBody, Url.pairs_withoutFragment, h]

theorem query_of_none (h : request.query = []) : (ofUrl request u).query = u.pairs := by
  rw [ofUrl_query, h]
  rfl

theorem query_of_collected (h : request.query = collected u.pairs) :
    (ofUrl request u).query = collected u.pairs := by
  rw [ofUrl_query, h, mergeQuery_collected]

end Outgoing

end RequestCode
