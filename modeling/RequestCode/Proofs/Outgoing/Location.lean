import RequestCode.Proofs.Outgoing.Fields
import RequestCode.Proofs.Url.Reading

/-!
# Where an outgoing request goes

The URL of an outgoing request is given in several ways: as a whole, without its query, and as a
host with a path. For web addresses without credentials all of them describe one resource, and
their query says the parameters of the request. Main statement: `location_fields_agree`.
-/

namespace RequestCode

open Text

namespace Url

variable {u : Url}

/-- The port that the URL names, unless its scheme implies it. -/
def explicitPort? (u : Url) : Option Nat := u.authority.bind (·.port)

theorem Rooted.settled_eq (h : u.Rooted) (query fragment : Option String) :
    settled { u with query, fragment } = { u with query, fragment } := by
  obtain ⟨parts, path, -⟩ := h.path
  simp [settled, path]

/-- The URL of an outgoing request has the pairs in place of its query, and no fragment. -/
theorem Rooted.withPairs_eq (h : u.Rooted) (ps : List Param) :
    u.withoutFragment.withPairs ps =
      { u with query := if ps = [] then none else some (writeQuery ps), fragment := none } := by
  have fragment : u.withoutFragment = { u with fragment := none } := h.settled_eq u.query none
  rw [fragment]
  cases ps with
  | nil => exact h.settled_eq none none
  | cons p ps => rfl

theorem unmarked_pathText (h : u.path.Unmarked) : Unmarked u.pathText.toList :=
  Path.Within.text h (by decide)

theorem Kept.hostAndPort {P : Char → Prop} (hP : Kept P) {a : Authority}
    (h : ∀ c ∈ a.hostText.toList, P c) : ∀ c ∈ a.hostAndPort.toList, P c := by
  unfold Authority.hostAndPort
  split
  · rename_i port _
    have colon : ∀ c ∈ ":".toList, P c := List.forall_mem_singleton.mpr (hP.path _ (by decide))
    have digits : ∀ c ∈ (String.ofList (Text.decimal port)).toList, P c := by
      rw [String.toList_ofList]
      exact hP.decimal port
    rw [String.toList_append, String.toList_append]
    exact List.forall_mem_append.mpr ⟨List.forall_mem_append.mpr ⟨h, colon⟩, digits⟩
  · exact h

def location (u : Url) : String := u.scheme ++ "://" ++ u.hostAndPort ++ u.pathText

theorem unmarked_location (h : u.Rooted) (hscheme : Unmarked u.scheme.toList) :
    Unmarked u.location.toList := by
  obtain ⟨a, authority, host, -⟩ := h.authority
  have slashes : Unmarked "://".toList := by simp [Unmarked]
  have hostAndPort : Unmarked u.hostAndPort.toList := by
    have named : Unmarked a.hostAndPort.toList := kept_unmarked.hostAndPort host
    simpa [Url.hostAndPort, authority] using named
  simp only [location, String.toList_append]
  exact ((hscheme.append slashes).append hostAndPort).append (unmarked_pathText h.path)

theorem text_eq_location {a : Authority} (authority : u.authority = some a)
    (noCredentials : a.username = "" ∧ a.password = "") (query : Option String) :
    text { u with query := query, fragment := none } =
      u.location ++ queryText { u with query := query, fragment := none } := by
  have userinfo : a.userinfo = "" := by
    simp [Authority.userinfo, noCredentials.1, noCredentials.2]
  have slashes : "://" = ":" ++ "//" := rfl
  simp only [text, hierarchyText, fragmentText, location, Url.hostAndPort, pathText, authority,
    Authority.text, userinfo, slashes, Option.map_some, Option.getD_some, String.append_assoc,
    String.append_empty]

theorem hostAndPort_eq {a : Authority} (authority : u.authority = some a) :
    u.hostAndPort =
      match u.explicitPort? with
      | none => u.hostText
      | some port => u.hostText ++ ":" ++ .ofList (decimal port) := by
  simp only [Url.hostAndPort, Url.hostText, explicitPort?, authority, Option.map_some,
    Option.getD_some, Option.bind_some, Authority.hostAndPort]
  cases a.port <;> rfl

end Url

namespace Outgoing

open Url

variable {request : Request} {u : Url} {r : Outgoing}

def querySuffix (r : Outgoing) : String := if r.query = [] then "" else "?" ++ writeQuery r.query

/-- The fields that locate a request are put together from the same parts of its URL. -/
theorem fields_eq_location {a : Authority} (hread : Url.read request.url = .ok u)
    (rooted : u.Rooted) (authority : u.authority = some a)
    (noCredentials : a.username = "" ∧ a.password = "") (h : ofRequest request = .ok r) :
    r.url = u.location ∧ r.fullUrl = u.location ++ r.querySuffix ∧
      r.pathAndQuery = u.pathText ++ r.querySuffix ∧
      r.scheme = u.scheme ∧ r.host = u.hostAndPort ∧ r.hostname = u.hostText := by
  obtain ⟨v, hv, rfl⟩ := ofRequest_eq_ok_iff.mp h
  rw [hread] at hv
  cases hv
  have located := text_eq_location authority noCredentials
  unfold querySuffix
  simp only [ofUrl, rooted.withPairs_eq]
  generalize mergeQuery u.withoutFragment.pairs request.query = query
  have suffix :
      queryText { u with
        query := if query = [] then none else some (writeQuery query), fragment := none } =
        if query = [] then "" else "?" ++ writeQuery query := by
    by_cases empty : query = [] <;> simp [queryText, empty]
  refine ⟨?_, ?_, ?_, True.intro, rfl, rfl⟩
  · rw [Url.withoutQuery, rooted.settled_eq none none, located, queryText, String.append_empty]
  · rw [located, suffix]
  · rw [Url.pathAndQuery, suffix]
    rfl

/-- All fields that say where a request goes agree, and its query says the merged parameters. -/
theorem location_fields_agree (hread : Url.read request.url = .ok u)
    (web : u.scheme = "http" ∨ u.scheme = "https")
    (noCredentials : ∀ a ∈ u.authority, a.username = "" ∧ a.password = "")
    (h : ofRequest request = .ok r) :
    (r.fullUrl = r.scheme ++ "://" ++ r.host ++ r.pathAndQuery ∧
      match u.explicitPort? with
      | none => r.host = r.hostname
      | some port =>
        r.host = r.hostname ++ ":" ++ .ofList (decimal port) ∧
          impliedPort? r.scheme ≠ some port) ∧
    ('#' ∉ r.fullUrl.toList ∧ '#' ∉ r.url.toList ∧ '#' ∉ r.pathAndQuery.toList ∧
      '?' ∉ r.url.toList) ∧
    (r.query = [] → r.fullUrl = r.url ∧ '?' ∉ r.fullUrl.toList) ∧
    (r.query ≠ [] → ∃ q path, r.fullUrl = r.url ++ "?" ++ q ∧
      cutFirst '?' r.fullUrl.toList = some (r.url.toList, q.toList) ∧
      cutFirst '?' r.pathAndQuery.toList = some (path, q.toList) ∧ readQuery q = r.query) := by
  have rooted := rooted_of_read hread (by rcases web with web | web <;> rw [web] <;> decide)
  obtain ⟨a, authority, -, implied⟩ := rooted.authority
  obtain ⟨url, fullUrl, pathAndQuery, scheme, host, hostname⟩ :=
    fields_eq_location hread rooted authority (noCredentials a authority) h
  have location : Unmarked u.location.toList := by
    refine unmarked_location rooted ?_
    rcases web with web | web <;> rw [web] <;> simp [Unmarked]
  have path := unmarked_pathText rooted.path
  have noFragment : '#' ∉ r.querySuffix.toList := by
    unfold querySuffix
    split
    · exact List.not_mem_nil
    · rw [String.toList_append, List.mem_append, not_or]
      exact ⟨by decide, not_mem_writeQuery (by decide) (by decide) (by decide) r.query⟩
  refine ⟨⟨?_, ?_⟩, ⟨?_, ?_, ?_, ?_⟩, fun empty => ?_, fun nonempty => ?_⟩
  · rw [fullUrl, pathAndQuery, scheme, host, Url.location, String.append_assoc]
  · rw [host, hostname, scheme, hostAndPort_eq authority]
    cases hport : u.explicitPort? with
    | none => rfl
    | some port => exact ⟨rfl, implied port (by simpa [explicitPort?, authority] using hport)⟩
  · rw [fullUrl, String.toList_append, List.mem_append, not_or]
    exact ⟨fun mem => (location _ mem).2 rfl, noFragment⟩
  · rw [url]
    exact fun mem => (location _ mem).2 rfl
  · rw [pathAndQuery, String.toList_append, List.mem_append, not_or]
    exact ⟨fun mem => (path _ mem).2 rfl, noFragment⟩
  · rw [url]
    exact fun mem => (location _ mem).1 rfl
  · rw [fullUrl, url, querySuffix, if_pos empty, String.append_empty]
    exact ⟨rfl, fun mem => (location _ mem).1 rfl⟩
  · refine ⟨writeQuery r.query, u.pathText.toList, ?_, ?_, ?_, readQuery_writeQuery r.query⟩
    · rw [fullUrl, url, querySuffix, if_neg nonempty, String.append_assoc]
    · rw [fullUrl, url, querySuffix, if_neg nonempty, String.toList_append, String.toList_append]
      exact cutFirst_append _ fun mem => (location _ mem).1 rfl
    · rw [pathAndQuery, querySuffix, if_neg nonempty, String.toList_append, String.toList_append]
      exact cutFirst_append _ fun mem => (path _ mem).1 rfl

theorem location_fields_agree_sample :
    ∃ r, ofRequest sampleRequest = .ok r ∧ r.host = r.hostname ++ ":" ++ .ofList (decimal 8080) ∧
      ∃ q, r.fullUrl = r.url ++ "?" ++ q ∧
        readQuery q = [⟨"x", "it's"⟩, ⟨"x", ""⟩, ⟨"", "&=+ %#é"⟩] := by
  have agree := location_fields_agree read_sampleRequest (.inl rfl)
    (fun a ha => by cases ha; exact ⟨rfl, rfl⟩) ofRequest_sampleRequest
  obtain ⟨q, path, fullUrl, -, -, query⟩ := agree.2.2.2 (by decide +kernel)
  exact ⟨_, ofRequest_sampleRequest, agree.1.2.1, q, fullUrl, query.trans (by decide +kernel)⟩

end Outgoing

end RequestCode
