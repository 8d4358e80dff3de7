import RequestCode.Proofs.Archive.Output
import RequestCode.Proofs.Bundle.MimeType

/-!
# The type of a recorded body

A recorded request is assembled again from its parts, and the type that was recorded with its body
is not one of them. Main statements: `recorded_type_of_headers`, which type the snippets carry and
when it is the recorded one, and `recorded_type_lost`, that it need not be.
-/

namespace RequestCode

namespace Entry

variable {e : Entry}

/-- The type of the entry by its first content-type header, or else by what was recorded with the
body. -/
def recordedType (e : Entry) (data : PostData) : String :=
  (contentType? e.headers).getD data.mimeType

/-- The type by the headers alone, of which those of one name count as the last of them. -/
def replayedType (e : Entry) : String :=
  match e.headers.find? isContentType with
  | some p => (lastOfName p e.headers).value
  | none => defaultMimeType

theorem contentType?_collected (headers : List Param) :
    contentType? (collected headers) =
      (headers.find? isContentType).map fun p => (lastOfName p headers).value := by
  have found : (collected headers).find? isContentType =
      (headers.find? isContentType).map (lastOfName · headers) :=
    find?_collected (fun name => Text.sameIgnoringAsciiCase name "content-type") headers
  rw [contentType?, found, Option.map_map]
  rfl

theorem mimeType_request {data : PostData} {text : String} (sent : e.postData = some data)
    (body : data.text = some text) (nonempty : text ≠ "") :
    e.recorded.request.postData.mimeType = e.replayedType := by
  have data_eq : e.recorded.request.postData =
      Request.bodyOf e.recorded.request.headers ((e.postData.bind (·.text)).getD "") := rfl
  rw [data_eq, sent, Option.bind_some, body, Option.getD_some, Request.bodyOf_of_ne_empty nonempty,
    request_headers, contentType?_collected, replayedType]
  cases e.headers.find? isContentType <;> rfl

end Entry

namespace Command

variable {targets : List String} {format : OutputFormat} {e : Entry} {files : Files}
  {remarks : Remarks} {file : String} {s : Selection} {recording : Recording}

theorem snippets_of_recorded {b : Bundle} (rendered : recordedBundle targets e.recorded = .ok b) :
    b.snippets.map (·.id) = targets ∧
      ∀ snippet ∈ b.snippets, snippet.mimeType = e.recorded.request.mimeType? := by
  obtain ⟨r, -, -, -, -, shown⟩ :=
    Request.bundle_eq_ok_iff.mp (recordedBundle_eq_ok_iff.mp rendered)
  exact ⟨(shows_of_forall₂ shown).1, mimeType_of_forall₂ shown⟩

theorem output_of_listed (selected : select files remarks s = .ok (targets, format))
    (holds : Holds files file recording) (known : ∀ id ∈ targets, (resolve? id).isSome = true)
    (listed : e ∈ recording.entries) :
    ∃ before after, run files (.archive file s) remarks =
      .success (before ++ entryText targets format e ++ after) := by
  obtain ⟨before, after, split⟩ := List.append_of_mem listed
  refine ⟨entriesText targets format before, entriesText targets format after, ?_⟩
  rw [run_archive_of_resolved selected holds (unresolved?_eq_none_iff.mpr known), split]
  simp [entriesText, String.join_append, String.append_assoc]

/-- A recorded body is printed for every target, with a type that only the headers of its entry
decide: without a content type it is the default one, whatever was recorded. -/
theorem recorded_type_of_headers {u : Url} {data : PostData} {text : String}
    (selected : select files remarks s = .ok (targets, format)) (holds : Holds files file recording)
    (known : ∀ id ∈ targets, (resolve? id).isSome = true) (listed : e ∈ recording.entries)
    (read : Url.read e.url = .ok u) (sent : e.postData = some data) (body : data.text = some text)
    (nonempty : text ≠ "") :
    ∃ b before after, recordedBundle targets e.recorded = .ok b ∧
      run files (.archive file s) remarks =
        .success (before ++ (recordedHeading b format ++ bundleText b format) ++ after) ∧
      b.snippets.map (·.id) = targets ∧
      (∀ p, e.headers.find? isContentType = some p →
        e.replayedType = (lastOfName p e.headers).value) ∧
      (e.headers.find? isContentType = none → e.replayedType = defaultMimeType) ∧
      (∀ snippet ∈ b.snippets, snippet.mimeType = shownType e.replayedType) ∧
      ((∀ snippet ∈ b.snippets, snippet.mimeType = shownType (e.recordedType data)) ↔
        e.replayedType = e.recordedType data) := by
  have valid : e.hasUrl = true := Entry.hasUrl_iff.mpr ⟨u, read⟩
  obtain ⟨b, rendered⟩ :=
    recordedBundle_of_resolved valid (unresolved?_eq_none_iff.mpr known)
  obtain ⟨before, after, printed⟩ := output_of_listed selected holds known listed
  rw [entryText_of_ok valid rendered] at printed
  obtain ⟨ids, types⟩ := snippets_of_recorded rendered
  have carried (snippet : Snippet) (mem : snippet ∈ b.snippets) :
      snippet.mimeType = shownType e.replayedType := by
    rw [types snippet mem, Request.mimeType?, Entry.mimeType_request sent body nonempty]
    rfl
  have inhabited : ∃ snippet, snippet ∈ b.snippets := by
    apply List.exists_mem_of_ne_nil
    rintro none_shown
    rw [none_shown] at ids
    exact select_ne_nil selected ids.symm
  refine ⟨b, before, after, rendered, printed, ids, ?_, ?_, carried, ?_⟩
  · intro p found
    rw [Entry.replayedType, found]
  · intro missing
    rw [Entry.replayedType, missing]
  · constructor
    · intro same
      obtain ⟨snippet, mem⟩ := inhabited
      have types_eq := (carried snippet mem).symm.trans (same snippet mem)
      exact shownType_injective types_eq
    · intro same
      rwa [← same]

def untyped : Entry := ⟨"post", "http://[::1]/", [], [], some ⟨"a/b", some "c"⟩⟩

def untypedUrl : Url where
  scheme := "http"
  authority := some ⟨"", "", some (.ipv6 [0, 0, 0, 0, 0, 0, 0, 1]), none⟩
  path := .segments [""]
  query := none
  fragment := none

theorem read_untyped : Url.read untyped.url = .ok untypedUrl := by rfl

def untypedFiles : Files
  | "a.har" => some (Json.object [("log", .object [("entries", .array [.object [("request", .object
      [("method", .string "post"), ("url", .string "http://[::1]/"),
        ("postData", PostData.toJson ⟨"a/b", some "c"⟩)])]])])]).write
  | _ => none

theorem recorded_type_of_headers_sample :
    ∃ b before after, recordedBundle ["http"] untyped.recorded = .ok b ∧
      run untypedFiles (.archive "a.har" ⟨["http"], none, none⟩) =
        .success (before ++ (recordedHeading b .text ++ bundleText b .text) ++ after) ∧
      b.snippets.map (·.id) = ["http"] ∧
      ∀ snippet ∈ b.snippets, snippet.mimeType = some "application/octet-stream" := by
  have selected : select untypedFiles default ⟨["http"], none, none⟩ = .ok (["http"], .text) := rfl
  have holds : Holds untypedFiles "a.har" ⟨[untyped]⟩ := ⟨_, rfl, by decide +kernel⟩
  have listed : untyped ∈ (Recording.mk [untyped]).entries := List.mem_cons_self
  obtain ⟨b, before, after, rendered, printed, ids, -, -, carried, -⟩ :=
    recorded_type_of_headers selected holds (by decide) listed read_untyped rfl rfl (by decide)
  exact ⟨b, before, after, rendered, printed, ids, carried⟩

/-- The type that was recorded with a body, and nowhere else, is lost. -/
theorem recorded_type_lost :
    ¬ ∀ (recording : Recording) (e : Entry) (u : Url) (data : PostData) (text : String)
      (targets : List String), e ∈ recording.entries → Url.read e.url = .ok u →
      e.postData = some data → data.text = some text → text ≠ "" → data.mimeType ≠ "" →
      (∀ id ∈ targets, (resolve? id).isSome = true) →
      ∃ b, recordedBundle targets e.recorded = .ok b ∧
        ∀ snippet ∈ b.snippets, snippet.mimeType = shownType (e.recordedType data) := by
  intro kept
  obtain ⟨b, rendered, types⟩ := kept ⟨[untyped]⟩ untyped untypedUrl _ _ ["http"]
    List.mem_cons_self read_untyped rfl rfl (by decide) (by decide) (by decide)
  obtain ⟨ids, carried⟩ := snippets_of_recorded rendered
  obtain ⟨snippet, single, -⟩ := List.map_eq_singleton_iff.mp ids
  rw [single, List.forall_mem_singleton] at types carried
  exact absurd (carried.symm.trans types) (by decide +kernel)

end Command

end RequestCode
