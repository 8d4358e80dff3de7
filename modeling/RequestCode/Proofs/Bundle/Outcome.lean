import RequestCode.Bundle
import RequestCode.Proofs.Catalog.Identifiers
import RequestCode.Proofs.Outgoing.Fields
import RequestCode.Proofs.Traversal

/-!
# Outcomes of rendering

When a bundle is rendered, when rendering fails, and with which error. Main statements:
`bundle_eq_error_iff` and `bundle_eq_ok_iff` describe every outcome, `bundle_append` puts the
bundles of two lists of targets together.
-/

namespace RequestCode

/-- The snippet shows the request in the client that the identifier resolves to. -/
structure Snippet.Shows (r : Outgoing) (id : String) (s : Snippet) : Prop where
  id_eq : s.id = id
  rendered : ∃ t, resolve? id = some t ∧ s.title = t.title ∧
    r.convert t.language (some t.library) = .ok s.content

namespace Outgoing

theorem convert_key (r : Outgoing) {l : Language} (h : l ∈ Catalog.languages) {c : Client}
    (hc : c ∈ l.clients) :
    r.convert l.key (some c.key) = .ok (Piece.render (c.printer r)) := by
  rw [convert, findClient_key h hc]
  rfl

theorem convert_of_resolve? (r : Outgoing) {id : String} {t : Resolved} (h : resolve? id = some t) :
    ∃ content, r.convert t.language (some t.library) = .ok content := by
  obtain ⟨l, c, names, rfl⟩ := resolve?_eq_some_iff.mp h
  obtain ⟨mem, offered⟩ := names.offered
  exact ⟨_, r.convert_key mem offered⟩

variable {r : Outgoing} {mimeType : Option String} {id : String}

theorem snippet_eq_ok_iff {s : Snippet} :
    r.snippet mimeType id = .ok s ↔ s.Shows r id ∧ s.mimeType = mimeType := by
  unfold snippet resolve
  cases h : resolve? id with
  | none =>
    constructor
    · intro hs
      cases hs
    · rintro ⟨⟨-, t, ht, -⟩, -⟩
      simp [h] at ht
  | some t =>
    obtain ⟨content, hcontent⟩ := r.convert_of_resolve? h
    simp only [bind, Except.bind, pure, Except.pure, hcontent, Except.ok.injEq]
    constructor
    · rintro rfl
      exact ⟨⟨rfl, t, h, rfl, hcontent⟩, rfl⟩
    · rintro ⟨⟨hid, t', ht', htitle, hrender⟩, hmime⟩
      obtain rfl : t = t' := by simpa [h] using ht'
      obtain rfl : content = s.content := by simpa [hcontent] using hrender
      cases s
      simp_all

theorem snippet_eq_error_iff {e : Error} :
    r.snippet mimeType id = .error e ↔ resolve? id = none ∧ e = .unknownTarget id := by
  unfold snippet resolve
  cases h : resolve? id with
  | none => simp [bind, Except.bind, eq_comm]
  | some t =>
    obtain ⟨content, hcontent⟩ := r.convert_of_resolve? h
    simp [bind, Except.bind, pure, Except.pure, hcontent]

theorem snippets_eq_error_iff {targets : List String} {e : Error} :
    targets.mapM (r.snippet mimeType) = .error e ↔
      ∃ id, targets.find? (fun t => (resolve? t).isNone) = some id ∧ e = .unknownTarget id := by
  have fails (t : String) :
      (resolve? t).isNone = true ↔ ∃ e, r.snippet mimeType t = .error e := by
    simp [snippet_eq_error_iff]
  rw [mapM_eq_error_iff_find? fails]
  constructor
  · rintro ⟨id, found, failed⟩
    exact ⟨id, found, (snippet_eq_error_iff.mp failed).2⟩
  · rintro ⟨id, found, rfl⟩
    have unknown : resolve? id = none := by simpa using List.find?_some found
    exact ⟨id, found, snippet_eq_error_iff.mpr ⟨unknown, rfl⟩⟩

theorem snippets_eq_ok_iff {targets : List String} {snippets : List Snippet} :
    targets.mapM (r.snippet mimeType) = .ok snippets ↔
      List.Forall₂ (fun id s => s.Shows r id ∧ s.mimeType = mimeType) targets snippets := by
  simp only [mapM_eq_ok_iff, snippet_eq_ok_iff]

end Outgoing

def unresolved? (targets : List String) : Option String :=
  targets.find? fun t => (resolve? t).isNone

theorem unresolved?_eq_none_iff {targets : List String} :
    unresolved? targets = none ↔ ∀ t ∈ targets, (resolve? t).isSome = true := by
  simp [unresolved?, Option.isSome_iff_ne_none]

theorem unresolved?_eq_some {targets : List String} {id : String}
    (h : unresolved? targets = some id) : id ∈ targets ∧ resolve? id = none :=
  ⟨List.mem_of_find?_eq_some h, by simpa using List.find?_some h⟩

namespace Request

variable {request : Request} {targets : List String}

theorem bundle_of_read_error {cause : Url.Error} (h : Url.read request.url = .error cause) :
    request.bundle targets = .error (.url cause) := by
  simp [bundle, Outgoing.ofRequest, h, Except.map, bind, Except.bind]

theorem bundle_of_read_ok {u : Url} (h : Url.read request.url = .ok u) :
    request.bundle targets =
      (targets.mapM ((Outgoing.ofUrl request u).snippet request.mimeType?)).map fun snippets =>
        ⟨request.method, request.url, resourceName request.url, snippets⟩ := by
  simp only [bundle, Outgoing.ofRequest, h, Except.map, bind, Except.bind, pure, Except.pure]

theorem bundle_eq_error_iff {e : Error} :
    request.bundle targets = .error e ↔
      (∃ cause, Url.read request.url = .error cause ∧ e = .url cause) ∨
        ∃ u id, Url.read request.url = .ok u ∧
          targets.find? (fun t => (resolve? t).isNone) = some id ∧ e = .unknownTarget id := by
  cases h : Url.read request.url with
  | error cause => simp [bundle_of_read_error h, eq_comm]
  | ok u =>
    rw [bundle_of_read_ok h]
    have failed : targets.mapM ((Outgoing.ofUrl request u).snippet request.mimeType?) = .error e ↔
        _ := Outgoing.snippets_eq_error_iff
    cases hs : targets.mapM ((Outgoing.ofUrl request u).snippet request.mimeType?) with
    | error d =>
      rw [hs] at failed
      simpa [Except.map] using failed
    | ok snippets =>
      rw [hs] at failed
      simpa [Except.map] using failed

theorem bundle_eq_ok_iff {b : Bundle} :
    request.bundle targets = .ok b ↔
      ∃ r, Outgoing.ofRequest request = .ok r ∧ b.method = request.method ∧
        b.url = request.url ∧ b.resource = resourceName request.url ∧
        List.Forall₂ (fun id s => s.Shows r id ∧ s.mimeType = request.mimeType?)
          targets b.snippets := by
  cases h : Url.read request.url with
  | error cause => simp [bundle_of_read_error h, Outgoing.ofRequest, Except.map, h]
  | ok u =>
    rw [bundle_of_read_ok h]
    simp only [← Outgoing.snippets_eq_ok_iff, Outgoing.ofRequest, h, Except.map, Except.ok.injEq,
      exists_eq_left']
    cases targets.mapM ((Outgoing.ofUrl request u).snippet request.mimeType?) with
    | error d => simp
    | ok snippets =>
      cases b
      simp [eq_comm]

/-- A request is rendered exactly if its URL is absolute and the catalog has all its targets. -/
theorem bundle_isOk_iff :
    (∃ b, request.bundle targets = .ok b) ↔
      (∃ u, Url.read request.url = .ok u) ∧ ∀ id ∈ targets, (resolve? id).isSome = true := by
  rw [← unresolved?_eq_none_iff]
  constructor
  · rintro ⟨b, rendered⟩
    have fails {e : Error} : request.bundle targets ≠ .error e := by
      rw [rendered]
      exact nofun
    cases read : Url.read request.url with
    | error cause => exact absurd (bundle_eq_error_iff.mpr (.inl ⟨cause, read, rfl⟩)) fails
    | ok u =>
      refine ⟨⟨u, rfl⟩, ?_⟩
      cases missing : unresolved? targets with
      | none => rfl
      | some id =>
        exact absurd (bundle_eq_error_iff.mpr (.inr ⟨u, id, read, missing, rfl⟩)) fails
  · rintro ⟨⟨u, read⟩, resolved⟩
    cases rendered : request.bundle targets with
    | ok b => exact ⟨b, rfl⟩
    | error e =>
      rcases bundle_eq_error_iff.mp rendered with ⟨cause, failed, -⟩ | ⟨-, id, -, missing, -⟩
      · rw [read] at failed
        cases failed
      · rw [unresolved?, missing] at resolved
        cases resolved

/-- The targets of a bundle do not influence one another. -/
theorem bundle_append {first second : List String} {b : Bundle} :
    request.bundle (first ++ second) = .ok b ↔
      ∃ b₁ b₂, request.bundle first = .ok b₁ ∧ request.bundle second = .ok b₂ ∧
        b = { b₁ with snippets := b₁.snippets ++ b₂.snippets } := by
  cases h : Url.read request.url with
  | error cause => simp [bundle_of_read_error h]
  | ok u =>
    simp only [bundle_of_read_ok h, List.mapM_append]
    cases first.mapM ((Outgoing.ofUrl request u).snippet request.mimeType?) with
    | error d => simp [Except.map, bind, Except.bind]
    | ok snippets =>
      cases second.mapM ((Outgoing.ofUrl request u).snippet request.mimeType?) with
      | error d => simp [Except.map, bind, Except.bind]
      | ok others => simp [Except.map, bind, Except.bind, pure, Except.pure, eq_comm]

end Request

section Snippets

variable {r : Outgoing} {mimeType : Option String} {targets : List String} {snippets : List Snippet}

theorem shows_of_forall₂
    (h : List.Forall₂ (fun id s => s.Shows r id ∧ s.mimeType = mimeType) targets snippets) :
    snippets.map (·.id) = targets ∧ ∀ s ∈ snippets, s.Shows r s.id := by
  induction h with
  | nil => exact ⟨rfl, List.forall_mem_nil _⟩
  | cons first _ ih =>
    obtain ⟨shows, -⟩ := first
    refine ⟨?_, ?_⟩
    · rw [List.map_cons, shows.id_eq, ih.1]
    · rw [List.forall_mem_cons, shows.id_eq]
      exact ⟨shows, ih.2⟩

theorem mimeType_of_forall₂
    (h : List.Forall₂ (fun id s => s.Shows r id ∧ s.mimeType = mimeType) targets snippets) :
    ∀ s ∈ snippets, s.mimeType = mimeType := by
  induction h with
  | nil => exact List.forall_mem_nil _
  | cons first _ ih => exact List.forall_mem_cons.mpr ⟨first.2, ih⟩

end Snippets

/-- Every outcome of rendering. An invalid URL is the error whatever the targets are, then the
first target that does not resolve is; no client fails. A bundle has one snippet for each target,
which depends on the request and on that target alone. -/
theorem generate_outcome (url method : String) (query headers : Option Params)
    (body : Option String) :
    (∀ targets cause, generate url method targets query headers body = .error (.url cause) ↔
      Url.read url = .error cause) ∧
    (∀ targets id, generate url method targets query headers body = .error (.unknownTarget id) ↔
      (∃ u, Url.read url = .ok u) ∧
        targets.find? (fun t => (resolve? t).isNone) = some id) ∧
    (∀ targets, (∃ b, generate url method targets query headers body = .ok b) ∨
      (∃ cause, generate url method targets query headers body = .error (.url cause)) ∨
      ∃ id, generate url method targets query headers body = .error (.unknownTarget id)) ∧
    (∀ targets b, generate url method targets query headers body = .ok b ↔
      ∃ r, Outgoing.ofRequest (Request.build url method query headers body) = .ok r ∧
        b.method = (Request.build url method query headers body).method ∧ b.url = url ∧
        b.resource = resourceName url ∧
        List.Forall₂ (fun id s => s.Shows r id ∧
          s.mimeType = (Request.build url method query headers body).mimeType?)
          targets b.snippets) ∧
    (∀ first second b, generate url method (first ++ second) query headers body = .ok b ↔
      ∃ b₁ b₂, generate url method first query headers body = .ok b₁ ∧
        generate url method second query headers body = .ok b₂ ∧
        b = { b₁ with snippets := b₁.snippets ++ b₂.snippets }) ∧
    ∀ r : Outgoing, ∀ l ∈ Catalog.languages, ∀ c ∈ l.clients,
      ∃ text, r.convert l.key (some c.key) = .ok text := by
  have read_url : (Request.build url method query headers body).url = url := rfl
  refine ⟨?_, ?_, ?_, ?_, ?_, ?_⟩
  · intro targets cause
    simp [generate, Request.bundle_eq_error_iff, read_url]
  · intro targets id
    simp [generate, Request.bundle_eq_error_iff, read_url]
  · intro targets
    cases h : generate url method targets query headers body with
    | ok b => exact .inl ⟨b, rfl⟩
    | error e =>
      rcases Request.bundle_eq_error_iff.mp h with ⟨cause, -, rfl⟩ | ⟨-, id, -, -, rfl⟩
      · exact .inr (.inl ⟨cause, rfl⟩)
      · exact .inr (.inr ⟨id, rfl⟩)
  · intro targets b
    exact Request.bundle_eq_ok_iff
  · intro first second b
    exact Request.bundle_append
  · intro r l hl c hc
    exact ⟨_, r.convert_key hl hc⟩

theorem generate_outcome_sample :
    Catalog.shell ∈ Catalog.languages ∧ Catalog.shell.default ∈ Catalog.shell.clients ∧
      (∃ text, (Outgoing.ofUrl Outgoing.sampleRequest Outgoing.sampleUrl).convert
        Catalog.shell.key (some Catalog.shell.default.key) = .ok text) ∧
      generate Outgoing.sampleRequest.url "get" ["node", "node_", "bogus"] none none none =
        .error (.unknownTarget "node_") := by
  have outcome := generate_outcome Outgoing.sampleRequest.url "get" none none none
  have listed : Catalog.shell ∈ Catalog.languages := by simp [Catalog.languages]
  have offered : Catalog.shell.default ∈ Catalog.shell.clients := List.mem_cons_self
  refine ⟨listed, offered, outcome.2.2.2.2.2 _ _ listed _ offered, ?_⟩
  exact (outcome.2.1 _ _).mpr ⟨⟨_, Outgoing.read_sampleRequest⟩, rfl⟩

end RequestCode
