import RequestCode.Proofs.Bundle.Outcome

/-!
# Which client renders an identifier

Snippets are rendered for what an identifier resolves to, and a request can be converted for the
parts of a target. Both take the same client, except for a language with a single underscore behind
it, which does not resolve. Main statement: `splits_lead_to_one_client`.
-/

namespace RequestCode

namespace Outgoing

variable {r : Outgoing} {id language text : String} {library : Option String}

theorem convert_eq_ok_iff :
    r.convert language library = .ok text ↔
      ∃ c, findClient language library = .ok c ∧ Piece.render (c.printer r) = text :=
  map_eq_ok_iff

/-- The parts of an identifier are rendered with the client that it names, or with the default
client of the language in front of a trailing underscore. -/
theorem client_of_convert_splitTarget
    (h : r.convert (splitTarget id).1 (splitTarget id).2 = .ok text) :
    ∃ l c, (Names id l c ∨ l ∈ Catalog.languages ∧ id = l.key ++ "_" ∧ c = l.default) ∧
      text = Piece.render (c.printer r) := by
  obtain ⟨c, found, rfl⟩ := convert_eq_ok_iff.mp h
  obtain ⟨l, leads⟩ := findClient_splitTarget_eq_ok_iff.mp found
  exact ⟨l, c, leads, rfl⟩

/-- Parts that are rendered although nothing resolves come from a trailing underscore. -/
theorem trailing_of_unresolved (unresolved : resolve? id = none)
    (h : r.convert (splitTarget id).1 (splitTarget id).2 = .ok text) :
    ∃ l ∈ Catalog.languages, id = l.key ++ "_" := by
  obtain ⟨l, c, names | ⟨mem, trailing, -⟩, -⟩ := client_of_convert_splitTarget h
  · rw [resolve?_eq_some_iff.mpr ⟨l, c, names, rfl⟩] at unresolved
    cases unresolved
  · exact ⟨l, mem, trailing⟩

end Outgoing

/-- What an identifier resolves to is what its parts say, the default client where they say none,
and renders as the parts do. The parts of what does not resolve are refused, except exactly for a
language with a single underscore behind it. So an identifier is only ever rendered with a client
that it names, or with the default client of the language in front of that underscore. -/
theorem splits_lead_to_one_client (id : String) (r : Outgoing) :
    (∀ t, resolve? id = some t →
      t.language = (splitTarget id).1 ∧
      (match (splitTarget id).2 with
        | some library => t.library = library
        | none => ∃ l ∈ Catalog.languages, l.key = t.language ∧ t.library = l.default.key) ∧
      ∃ text, r.convert t.language (some t.library) = .ok text ∧
        r.convert (splitTarget id).1 (splitTarget id).2 = .ok text) ∧
    ((resolve? id = none ∧ ∃ text, r.convert (splitTarget id).1 (splitTarget id).2 = .ok text) ↔
      ∃ l ∈ Catalog.languages, id = l.key ++ "_") ∧
    (resolve? id = none → (∀ l ∈ Catalog.languages, id ≠ l.key ++ "_") →
      ∃ name, r.convert (splitTarget id).1 (splitTarget id).2 = .error (.unknownTarget name)) ∧
    (∀ text, r.convert (splitTarget id).1 (splitTarget id).2 = .ok text →
      ∃ l c, (Names id l c ∨ l ∈ Catalog.languages ∧ id = l.key ++ "_" ∧ c = l.default) ∧
        text = Piece.render (c.printer r)) ∧
    ∀ mimeType s, r.snippet mimeType id = .ok s →
      ∃ l c, Names id l c ∧ s.content = Piece.render (c.printer r) := by
  refine ⟨?_, ⟨?_, ?_⟩, ?_, fun text => Outgoing.client_of_convert_splitTarget, ?_⟩
  · intro t resolved
    obtain ⟨l, c, names, rfl⟩ := resolve?_eq_some_iff.mp resolved
    obtain ⟨mem, offered⟩ := names.offered
    have split := names.splitTarget_eq
    refine ⟨?_, ?_, Piece.render (c.printer r), r.convert_key mem offered, ?_⟩
    · rcases split with ⟨split, -⟩ | split <;> rw [split]
    · rcases split with ⟨split, rfl⟩ | split
      · rw [split]
        exact ⟨l, mem, rfl, rfl⟩
      · rw [split]
    · exact Outgoing.convert_eq_ok_iff.mpr ⟨c, names.findClient_splitTarget, rfl⟩
  · rintro ⟨unresolved, text, rendered⟩
    exact Outgoing.trailing_of_unresolved unresolved rendered
  · rintro ⟨l, mem, rfl⟩
    have found := findClient_splitTarget_eq_ok_iff.mpr ⟨l, .inr ⟨mem, rfl, rfl⟩⟩
    exact ⟨resolve?_of_trailing mem, _, Outgoing.convert_eq_ok_iff.mpr ⟨_, found, rfl⟩⟩
  · intro unresolved untrailed
    cases result : r.convert (splitTarget id).1 (splitTarget id).2 with
    | error e =>
      obtain ⟨name, rfl⟩ := findClient_eq_error (map_eq_error_iff.mp result)
      exact ⟨name, rfl⟩
    | ok text =>
      obtain ⟨l, mem, trailing⟩ := Outgoing.trailing_of_unresolved unresolved result
      exact absurd trailing (untrailed l mem)
  · intro mimeType s shown
    obtain ⟨-, t, resolved, -, content⟩ := (Outgoing.snippet_eq_ok_iff.mp shown).1
    obtain ⟨l, c, names, rfl⟩ := resolve?_eq_some_iff.mp resolved
    obtain ⟨mem, offered⟩ := names.offered
    rw [r.convert_key mem offered, Except.ok.injEq] at content
    exact ⟨l, c, names, content.symm⟩

/-- A key with an underscore, two underscores behind a language, and one. -/
theorem splits_lead_to_one_client_sample :
    (∃ r : Outgoing, ∃ text,
      resolve? "clojure_clj_http" = some ⟨"Clojure + Clj_http", "clojure", "clj_http"⟩ ∧
      r.convert "clojure" (some "clj_http") = .ok text ∧
      r.convert (splitTarget "clojure_clj_http").1 (splitTarget "clojure_clj_http").2 = .ok text) ∧
    (∃ r : Outgoing, ∃ name, resolve? "node__" = none ∧
      (∀ l ∈ Catalog.languages, "node__" ≠ l.key ++ "_") ∧
      r.convert (splitTarget "node__").1 (splitTarget "node__").2 = .error (.unknownTarget name)) ∧
    ∃ r : Outgoing, ∃ text, resolve? "node_" = none ∧
      r.convert (splitTarget "node_").1 (splitTarget "node_").2 = .ok text := by
  let r := Outgoing.ofUrl Outgoing.sampleRequest Outgoing.sampleUrl
  have resolved : resolve? "clojure_clj_http" =
      some ⟨"Clojure + Clj_http", "clojure", "clj_http"⟩ := by decide +kernel
  have unresolved : resolve? "node__" = none := by decide +kernel
  have untrailed : ∀ l ∈ Catalog.languages, "node__" ≠ l.key ++ "_" := by
    have keys : ∀ key ∈ Catalog.languages.map (·.key), "node__" ≠ key ++ "_" := by decide
    exact fun l mem => keys _ (List.mem_map_of_mem mem)
  have listed : Catalog.node ∈ Catalog.languages := by simp [Catalog.languages]
  obtain ⟨agree, -⟩ := splits_lead_to_one_client "clojure_clj_http" r
  obtain ⟨-, -, text, found, parts⟩ := agree _ resolved
  obtain ⟨-, -, refuse, -⟩ := splits_lead_to_one_client "node__" r
  obtain ⟨name, refused⟩ := refuse unresolved untrailed
  obtain ⟨-, trailing, -⟩ := splits_lead_to_one_client "node_" r
  obtain ⟨nameless, other, shown⟩ := trailing.mpr ⟨Catalog.node, listed, rfl⟩
  exact ⟨⟨r, text, resolved, found, parts⟩, ⟨r, name, unresolved, untrailed, refused⟩,
    r, other, nameless, shown⟩

end RequestCode
