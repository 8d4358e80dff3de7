import RequestCode.Proofs.Generator.Failure
import RequestCode.Proofs.Json.Tree

/-!
# Records and JSON values as sources

A generator reads four fields of a live request, and of each of them only what counts: a text that
may be missing, or headers that may be no object. A record and the JSON object that it is read from
or written to show the same in all four, although the object tells a missing field from a null one
and the record does not. Main statement: `sources_interchangeable`.
-/

namespace RequestCode

open Json

namespace Generator

/-- What a generator reads is the same in both sources. -/
structure SameRequest (s s' : Source) : Prop where
  method : fieldText s "method" = fieldText s' "method"
  url : fieldText s "url" = fieldText s' "url"
  headers : liveHeaders s = liveHeaders s'
  body : fieldText s "body" = fieldText s' "body"

theorem SameRequest.run_eq {s s' : Source} (h : SameRequest s s') (t : Target) :
    (ofTarget t).run s = (ofTarget t).run s' := by
  simp only [ofTarget, liveSnippet, h.method, h.url, h.headers, h.body]

section Fields

variable {s : Source} {field : String}

theorem fieldText_of_absent (h : s field = none ∨ s field = some .null) :
    fieldText s field = "" := by
  rcases h with missing | null
  · simp only [fieldText, missing]
  · simp only [fieldText, null]

theorem fieldText_of_text {text : String} (h : s field = some (.string text)) :
    fieldText s field = text := by
  simp only [fieldText, h, asText]

theorem liveHeaders_of_absent (h : s "headers" = none ∨ s "headers" = some .null) :
    liveHeaders s = ∅ := by
  rcases h with missing | null
  · simp only [liveHeaders, missing]
  · simp only [liveHeaders, null]

theorem liveHeaders_of_entries {m : Params} (h : s "headers" = some (.object m.entries)) :
    liveHeaders s = m := by
  simp only [liveHeaders, h, OrderedMap.ofList_entries]

end Fields

end Generator

namespace Record

/-- How an object shows a record: a missing text is the empty one, and missing or null headers or
bodies are none. -/
structure ShownBy (r : Record) (v : Json) : Prop where
  method : (v.member? "method" = none ∧ "" = r.method) ∨
    v.member? "method" = some (.string r.method)
  url : (v.member? "url" = none ∧ "" = r.url) ∨ v.member? "url" = some (.string r.url)
  headers : ((v.member? "headers" = none ∨ v.member? "headers" = some .null) ∧ none = r.headers) ∨
    ∃ m, v.member? "headers" = some (.object m.entries) ∧ some m = r.headers
  body : ((v.member? "body" = none ∨ v.member? "body" = some .null) ∧ none = r.body) ∨
    ∃ text, v.member? "body" = some (.string text) ∧ some text = r.body

section OfJson

variable {v : Json} {members : List (String × Json)} {name : String}

theorem orElse_text_eq_some_iff {text : String} :
    Tree.orElse "" Tree.text? ((v.member? name).map tree) = some text ↔
      (v.member? name = none ∧ "" = text) ∨ v.member? name = some (.string text) := by
  cases v.member? name with
  | none => simp [Tree.orElse]
  | some w => simp [Tree.orElse, text?_tree_eq_some_iff]

theorem orElse_optional_text_eq_some_iff {body : Option String} :
    Tree.orElse none (Tree.optional Tree.text?) ((v.member? name).map tree) = some body ↔
      ((v.member? name = none ∨ v.member? name = some .null) ∧ none = body) ∨
        ∃ text, v.member? name = some (.string text) ∧ some text = body := by
  rw [orElse_optional_eq_some_iff]
  refine or_congr_right ⟨?_, ?_⟩
  · rintro ⟨w, text, found, -, reads, given⟩
    exact ⟨text, text?_tree_eq_some_iff.mp reads ▸ found, given⟩
  · rintro ⟨text, found, given⟩
    exact ⟨_, text, found, nofun, text?_tree_eq_some_iff.mpr rfl, given⟩

theorem orElse_optional_params_eq_some_iff {headers : Option Params}
    (distinct : (object members).Distinct) :
    Tree.orElse none (Tree.optional (Tree.params? ((object members).depth - 2)))
        (((object members).member? name).map tree) = some headers ↔
      (((object members).member? name = none ∨ (object members).member? name = some .null) ∧
          none = headers) ∨
        ∃ m, (object members).member? name = some (.object m.entries) ∧ some m = headers := by
  have readable {w : Json} {m : Params} (found : (object members).member? name = some w) :
      w.tree.params? ((object members).depth - 2) = some m ↔ w = .object m.entries := by
    have within : w.depth ≤ (object members).depth - 2 + 1 := by
      have inside := depth_le_of_member? found
      have level := one_le_membersDepth members
      have outer : (object members).depth = membersDepth members + 1 := rfl
      omega
    exact params?_tree_eq_some_iff (distinct_of_member? distinct.2 found) within
  rw [orElse_optional_eq_some_iff]
  refine or_congr_right ⟨?_, ?_⟩
  · rintro ⟨w, m, found, -, reads, given⟩
    exact ⟨m, (readable found).mp reads ▸ found, given⟩
  · rintro ⟨m, found, given⟩
    exact ⟨_, m, found, nofun, (readable found).mpr rfl, given⟩

/-- An object is read as exactly the record that it shows. -/
theorem ofJson?_object_eq_some_iff {r : Record} (distinct : (object members).Distinct) :
    ofJson? (object members) = some r ↔ r.ShownBy (object members) := by
  have fields := fields_tree ["method", "url", "headers", "body"] distinct.1
  simp only [List.map_cons, List.map_nil] at fields
  simp only [ofJson?, ofTree?, fields, Option.bind_eq_bind, Option.bind_some,
    Option.bind_eq_some_iff, Option.pure_def, Option.some.injEq]
  constructor
  · rintro ⟨method, hmethod, url, hurl, headers, hheaders, body, hbody, rfl⟩
    exact ⟨orElse_text_eq_some_iff.mp hmethod, orElse_text_eq_some_iff.mp hurl,
      (orElse_optional_params_eq_some_iff distinct).mp hheaders,
      orElse_optional_text_eq_some_iff.mp hbody⟩
  · intro shown
    exact ⟨_, orElse_text_eq_some_iff.mpr shown.method, _, orElse_text_eq_some_iff.mpr shown.url,
      _, (orElse_optional_params_eq_some_iff distinct).mpr shown.headers, _,
      orElse_optional_text_eq_some_iff.mpr shown.body, rfl⟩

end OfJson

theorem shownBy_toJson (r : Record) : r.ShownBy r.toJson := by
  refine ⟨.inr rfl, .inr rfl, ?_, ?_⟩
  · cases h : r.headers with
    | none => exact .inl ⟨.inr (by simp [toJson, member?, lookupEntry, h]), rfl⟩
    | some m => exact .inr ⟨m, by simp [toJson, member?, lookupEntry, h], rfl⟩
  · cases h : r.body with
    | none => exact .inl ⟨.inr (by simp [toJson, member?, lookupEntry, h]), rfl⟩
    | some text => exact .inr ⟨text, by simp [toJson, member?, lookupEntry, h], rfl⟩

end Record

namespace Generator

theorem sameRequest_of_shownBy {r : Record} {v : Json} (h : r.ShownBy v) :
    SameRequest v.source r.source := by
  have text {field text : String}
      (shown : (v.member? field = none ∧ "" = text) ∨ v.member? field = some (.string text)) :
      fieldText v.source field = text := by
    rcases shown with ⟨missing, rfl⟩ | found
    · exact fieldText_of_absent (.inl missing)
    · exact fieldText_of_text found
  refine ⟨text h.method, text h.url, ?_, ?_⟩
  · rcases h.headers with ⟨absent, none_given⟩ | ⟨m, found, given⟩
    · have missing : r.source "headers" = none := by simp [Record.source, ← none_given]
      rw [liveHeaders_of_absent (.inl missing)]
      exact liveHeaders_of_absent absent
    · have shown : r.source "headers" = some (.object m.entries) := by
        simp [Record.source, ← given]
      rw [liveHeaders_of_entries shown]
      exact liveHeaders_of_entries found
  · rcases h.body with ⟨absent, none_given⟩ | ⟨body, found, given⟩
    · have missing : r.source "body" = none := by simp [Record.source, ← none_given]
      rw [fieldText_of_absent (.inl missing)]
      exact fieldText_of_absent absent
    · have shown : r.source "body" = some (.string body) := by simp [Record.source, ← given]
      rw [fieldText_of_text shown]
      exact fieldText_of_text found

/-- Every generator gives one text for a record and for the object it was read from, whatever else
the object holds, and for the object it is written to. The sources still differ: what a record
lacks is missing from its source, and null in the object. -/
theorem sources_interchangeable (t : Target) :
    (∀ (members : List (String × Json)) (r : Record), (object members).Distinct →
      Record.ofJson? (object members) = some r →
        (ofTarget t).run (object members).source = (ofTarget t).run r.source) ∧
    (∀ r : Record, (ofTarget t).run r.source = (ofTarget t).run r.toJson.source) ∧
    (∀ r : Record, r.headers = none →
      r.source "headers" = none ∧ r.toJson.source "headers" = some .null) ∧
    ∀ r : Record, r.body = none →
      r.source "body" = none ∧ r.toJson.source "body" = some .null := by
  refine ⟨?_, ?_, ?_, ?_⟩
  · intro members r distinct read
    have shown := (Record.ofJson?_object_eq_some_iff distinct).mp read
    exact (sameRequest_of_shownBy shown).run_eq t
  · intro r
    exact ((sameRequest_of_shownBy r.shownBy_toJson).run_eq t).symm
  · intro r missing
    simp [Record.source, Record.toJson, source, member?, lookupEntry, missing]
  · intro r missing
    simp [Record.source, Record.toJson, source, member?, lookupEntry, missing]

def sampleMembers : List (String × Json) :=
  [("extra", .array [.null]), ("body", .null),
    ("headers", .object [("X-N", .number (.integer 1)), ("X-O", .object [("k", .bool true)])]),
    ("url", .string "http://[::1]/?a=1")]

def sampleShown : Record where
  method := ""
  url := "http://[::1]/?a=1"
  headers := some (.ofList [("X-N", .number (.integer 1)), ("X-O", .object [("k", .bool true)])])
  body := none

theorem sources_interchangeable_sample :
    (object sampleMembers).Distinct ∧ Record.ofJson? (object sampleMembers) = some sampleShown ∧
      (ofTarget ⟨"shell_curl", "", ""⟩).run (object sampleMembers).source =
        (ofTarget ⟨"shell_curl", "", ""⟩).run sampleShown.source := by
  have distinct : (object sampleMembers).Distinct := by
    simp [sampleMembers, Distinct, DistinctMembers, DistinctItems]
  have read : Record.ofJson? (object sampleMembers) = some sampleShown := by decide
  exact ⟨distinct, read, (sources_interchangeable _).1 _ _ distinct read⟩

end Generator

end RequestCode
