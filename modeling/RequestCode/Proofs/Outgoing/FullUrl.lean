import RequestCode.Proofs.Outgoing.Location
import RequestCode.Proofs.Outgoing.Repeated
import RequestCode.Proofs.Url.Scheme

/-!
# The query of the full URL

No part of a URL before its query holds a mark of a query or a fragment, so its text is cut where
it was put together. Main statements: `cutTail_text`, and `carriedPairs_fullUrl`, the full URL of an
outgoing request carries the merged query, whatever kind of URL it is.
-/

namespace RequestCode

open Text

namespace Url

variable {s : List Char} {u : Url} {scheme : String}

/-- No part of the URL before its query holds a mark of a query or a fragment. -/
structure Clean (u : Url) : Prop where
  scheme : Unmarked u.scheme.toList
  authority : ∀ a ∈ u.authority, Unmarked a.text.toList
  path : Unmarked u.pathText.toList

theorem unmarked_iff : Unmarked s ↔ '?' ∉ s ∧ '#' ∉ s := by
  constructor
  · intro h
    exact ⟨fun mem => (h _ mem).1 rfl, fun mem => (h _ mem).2 rfl⟩
  · rintro ⟨noQuery, noFragment⟩ c mem
    constructor
    · rintro rfl
      exact noQuery mem
    · rintro rfl
      exact noFragment mem

theorem unmarked_of_cutFirst {a b : List Char} (noSharp : '#' ∉ s)
    (cut : cutFirst '?' s = some (a, b)) : Unmarked a := by
  refine unmarked_iff.mpr ⟨not_mem_of_cutFirst cut, ?_⟩
  intro mem
  rw [eq_of_cutFirst cut] at noSharp
  exact noSharp (List.mem_append_left _ mem)

theorem unmarked_cutTail (s : List Char) : Unmarked (cutTail s).1 := by
  have beforeQuery (t : List Char) (noSharp : '#' ∉ t) :
      Unmarked (((cutFirst '?' t).map Prod.fst).getD t) := by
    cases cut : cutFirst '?' t with
    | none => exact unmarked_iff.mpr ⟨cutFirst_eq_none.mp cut, noSharp⟩
    | some p => exact unmarked_of_cutFirst noSharp cut
  unfold cutTail
  cases sharp : cutFirst '#' s with
  | none =>
    have before := beforeQuery s (cutFirst_eq_none.mp sharp)
    cases question : cutFirst '?' s <;> simpa [question] using before
  | some p =>
    have before := beforeQuery p.1 (not_mem_of_cutFirst sharp)
    cases question : cutFirst '?' p.1 <;> simpa [question] using before

theorem keepPath_of_keepUserinfo {c : Char} (h : keepUserinfo c = true) : keepPath c = true := by
  simp only [keepUserinfo, Bool.and_eq_true] at h
  tauto

theorem unmarked_readUserinfo (s : List Char) :
    Unmarked (readUserinfo s).1.toList ∧ Unmarked (readUserinfo s).2.toList := by
  have encoded (t : List Char) : Unmarked (readUserinfo.encode t).toList := by
    rw [readUserinfo.encode, String.toList_ofList]
    exact kept_unmarked.percentEncode fun c _ kept =>
      kept_unmarked.path c (keepPath_of_keepUserinfo kept)
  unfold readUserinfo
  split
  · exact ⟨encoded _, encoded _⟩
  · exact ⟨encoded _, List.forall_mem_nil _⟩

theorem unmarked_authorityText {a : Authority}
    (credentials : Unmarked a.username.toList ∧ Unmarked a.password.toList)
    (host : Unmarked a.hostText.toList) : Unmarked a.text.toList := by
  have slashes : Unmarked "//".toList := by simp [Unmarked]
  have sign : Unmarked "@".toList := by simp [Unmarked]
  have colon : Unmarked ":".toList := by simp [Unmarked]
  have userinfo : Unmarked a.userinfo.toList := by
    unfold Authority.userinfo
    split
    · exact List.forall_mem_nil _
    · split
      · rw [String.toList_append]
        exact credentials.1.append sign
      · simp only [String.toList_append]
        exact ((credentials.1.append colon).append credentials.2).append sign
  simp only [Authority.text, String.toList_append]
  exact (slashes.append userinfo).append (kept_unmarked.hostAndPort host)

theorem clean_of_readAuthority (h : readAuthority scheme s = .ok u)
    (hscheme : Unmarked scheme.toList) : u.Clean := by
  have rooted := (of_readAuthority h).2
  obtain ⟨userinfo, name, host, digits, port, path, named, -, rfl⟩ :=
    eq_of_readAuthority h
  refine ⟨hscheme, ?_, unmarked_pathText rooted.path⟩
  rintro _ ⟨⟩
  exact unmarked_authorityText (unmarked_readUserinfo userinfo)
    (forall_mem_hostText (kept_unmarked.readHost named))

theorem clean_of_readFile (h : readFile s = .ok u) : u.Clean := by
  have rooted := rooted_of_readFile h
  obtain ⟨host, path, read, rfl⟩ := eq_of_readFile h
  have noCredentials : Unmarked "".toList ∧ Unmarked "".toList := by simp [Unmarked]
  have file : Unmarked "file".toList := by simp [Unmarked]
  refine ⟨file, ?_, unmarked_pathText rooted.path⟩
  rintro _ ⟨⟩
  exact unmarked_authorityText noCredentials
    (forall_mem_hostText (kept_unmarked.readFileHost read))

theorem clean_readPlain (hscheme : Unmarked scheme.toList) : (readPlain scheme s).Clean := by
  have before := unmarked_cutTail s
  unfold readPlain
  split
  rename_i path query fragment cut
  rw [cut] at before
  split
  · refine ⟨hscheme, by simp [withTail], ?_⟩
    exact unmarked_pathText (within_rootedPath kept_unmarked.readSegments)
  · refine ⟨hscheme, by simp [withTail], ?_⟩
    simp only [withTail, pathText, Path.text, String.toList_ofList]
    exact kept_unmarked.percentEncode fun c mem _ => before c mem

theorem clean_of_read {text : String} (h : read text = .ok u) : u.Clean := by
  have allowed := isSchemeChar_of_read h
  have hscheme : Unmarked u.scheme.toList := by
    intro c mem
    constructor <;> rintro rfl <;> exact absurd (allowed _ mem) (by decide)
  unfold read at h
  split at h
  · cases h
  · split at h
    · exact clean_of_readFile h
    · split at h
      · rw [(of_readAuthority h).1] at hscheme
        exact clean_of_readAuthority h hscheme
      · split at h
        · rw [(of_readAuthority h).1] at hscheme
          exact clean_of_readAuthority h hscheme
        · cases h
          rw [scheme_readPlain] at hscheme
          exact clean_readPlain hscheme

theorem forall_mem_pathText_settled {P : Char → Prop} (h : ∀ c ∈ u.pathText.toList, P c) :
    ∀ c ∈ u.settled.pathText.toList, P c := by
  unfold Url.settled
  split
  · rename_i text path _ _
    rw [pathText, path, Path.text] at h
    intro c mem
    rw [pathText, Path.text, String.toList_ofList, List.mem_reverse] at mem
    exact h c (List.mem_reverse.mp ((List.dropWhile_sublist _).subset mem))
  · exact h

@[simp] theorem authority_settled (u : Url) : u.settled.authority = u.authority := by
  unfold Url.settled
  split <;> rfl

theorem Clean.settled (h : u.Clean) : u.settled.Clean := by
  refine ⟨?_, ?_, forall_mem_pathText_settled h.path⟩
  · rw [scheme_settled]
    exact h.scheme
  · rw [authority_settled]
    exact h.authority

theorem Clean.withoutFragment (h : u.Clean) : u.withoutFragment.Clean :=
  Clean.settled ⟨h.scheme, h.authority, h.path⟩

theorem Clean.withPairs (h : u.Clean) (ps : List Param) : (u.withPairs ps).Clean := by
  unfold Url.withPairs
  split
  · exact Clean.settled ⟨h.scheme, h.authority, h.path⟩
  · exact ⟨h.scheme, h.authority, h.path⟩

theorem Clean.unmarked_hierarchyText (h : u.Clean) : Unmarked u.hierarchyText.toList := by
  have mark : Unmarked "/.".toList := by simp [Unmarked]
  unfold hierarchyText
  split
  · rename_i a authority
    rw [String.toList_append]
    exact (h.authority a authority).append h.path
  · split
    · rw [String.toList_append]
      exact mark.append h.path
    · exact h.path

theorem cutFirst_append_left {sep : Char} (h : sep ∉ s) (t : List Char) :
    cutFirst sep (s ++ t) = (cutFirst sep t).map fun p => (s ++ p.1, p.2) := by
  cases cut : cutFirst sep t with
  | none =>
    rw [cutFirst_eq_none] at cut
    simp [cutFirst_eq_none, h, cut]
  | some p =>
    have front : sep ∉ s ++ p.1 := by simp [h, not_mem_of_cutFirst cut]
    rw [eq_of_cutFirst cut, ← List.append_assoc, cutFirst_append p.2 front]
    rfl

theorem cutTail_append (h : Unmarked s) (t : List Char) :
    cutTail (s ++ t) = (s ++ (cutTail t).1, (cutTail t).2) := by
  obtain ⟨noQuestion, noSharp⟩ := unmarked_iff.mp h
  rw [cutTail, cutTail, cutFirst_append_left noSharp]
  cases cutFirst '#' t with
  | none =>
    simp only [Option.map_none, cutFirst_append_left noQuestion]
    cases cutFirst '?' t <;> rfl
  | some p =>
    simp only [Option.map_some, cutFirst_append_left noQuestion]
    cases cutFirst '?' p.1 <;> rfl

theorem cutTail_tailText (h : ∀ q ∈ u.query, '#' ∉ q.toList) :
    cutTail (u.queryText ++ u.fragmentText).toList =
      ([], u.query.map (·.toList), u.fragment.map (·.toList)) := by
  have queryEnds (q : String) (noSharp : '#' ∉ q.toList) : '#' ∉ '?' :: q.toList := by
    simp [noSharp]
  unfold queryText fragmentText
  cases query : u.query with
  | none => cases u.fragment <;> simp [cutTail, cutFirst]
  | some q =>
    have noSharp := queryEnds q (h q query)
    cases u.fragment with
    | none => simp [cutTail, cutFirst_eq_none.mpr noSharp, cutFirst]
    | some f => simp [cutTail, cutFirst, cutFirst_append f.toList (h q query)]

/-- The text of a clean URL is cut where it was put together. -/
theorem Clean.cutTail_text (h : u.Clean) (hquery : ∀ q ∈ u.query, '#' ∉ q.toList) :
    cutTail u.text.toList =
      ((u.scheme ++ ":" ++ u.hierarchyText).toList, u.query.map (·.toList),
        u.fragment.map (·.toList)) := by
  have colon : Unmarked ":".toList := by simp [Unmarked]
  have front : Unmarked (u.scheme ++ ":" ++ u.hierarchyText).toList := by
    simp only [String.toList_append]
    exact (h.scheme.append colon).append h.unmarked_hierarchyText
  have parts : u.text.toList = (u.scheme ++ ":" ++ u.hierarchyText).toList ++
      (u.queryText ++ u.fragmentText).toList := by
    simp [Url.text]
  rw [parts, cutTail_append front, cutTail_tailText hquery, List.append_nil]

def carriedPairs (text : String) : List Param :=
  readQuery (((cutTail text.toList).2.1.map String.ofList).getD "")

@[simp] theorem query_settled (u : Url) : u.settled.query = u.query := by
  unfold Url.settled
  split <;> rfl

theorem query_withPairs (u : Url) (ps : List Param) :
    (u.withPairs ps).query = if ps = [] then none else some (writeQuery ps) := by
  cases ps with
  | nil => exact query_settled _
  | cons p ps => rfl

end Url

namespace Outgoing

open Url

variable {request : Request} {r : Outgoing}

theorem query_fullUrl (h : ofRequest request = .ok r) :
    (cutTail r.fullUrl.toList).2.1.getD [] = (writeQuery r.query).toList := by
  obtain ⟨u, read, rfl⟩ := ofRequest_eq_ok_iff.mp h
  simp only [ofUrl]
  generalize mergeQuery u.withoutFragment.pairs request.query = query
  have clean : (u.withoutFragment.withPairs query).Clean :=
    (clean_of_read read).withoutFragment.withPairs query
  have noSharp : ∀ q ∈ (u.withoutFragment.withPairs query).query, '#' ∉ q.toList := by
    rw [query_withPairs]
    split
    · simp
    · rintro _ ⟨⟩
      exact not_mem_writeQuery (by decide) (by decide) (by decide) query
  rw [clean.cutTail_text noSharp, query_withPairs]
  by_cases empty : query = []
  · rw [empty]
    rfl
  · simp [empty]

/-- The full URL carries the merged query. -/
theorem carriedPairs_fullUrl (h : ofRequest request = .ok r) :
    carriedPairs r.fullUrl = r.query := by
  have text : ((cutTail r.fullUrl.toList).2.1.map String.ofList).getD "" =
      .ofList ((cutTail r.fullUrl.toList).2.1.getD []) := by
    cases (cutTail r.fullUrl.toList).2.1 <;> rfl
  rw [carriedPairs, text, query_fullUrl h, String.ofList_toList, readQuery_writeQuery]

end Outgoing

end RequestCode
