import RequestCode.Proofs.Archive.Replay
import RequestCode.Proofs.Bundle.Outcome
import RequestCode.Proofs.Command.Output

/-!
# What rendering an archive prints

A run over a recording prints the blocks of its entries one after the other, or fails before it
has printed anything: whether the targets resolve does not depend on the entry, so that the first
entry with an absolute URL decides. Main statement: `archive_all_or_nothing`.
-/

namespace RequestCode

def Recorded.unknownTarget (r : Recorded) (id : String) : Failure :=
  ⟨"Failed to generate snippets for " ++ r.method ++ " " ++ r.url, ["Invalid target: " ++ id]⟩

namespace Entry

variable {e : Entry}

theorem hasUrl_iff : e.hasUrl = true ↔ ∃ u, Url.read e.url = .ok u := by
  unfold hasUrl
  cases Url.read e.url <;> simp [Except.toOption]

end Entry

namespace Command

variable {targets : List String} {format : OutputFormat} {e : Entry} {entries : List Entry}
  {files : Files} {remarks : Remarks} {file : String} {s : Selection} {recording : Recording}
  {id : String}

theorem recordedBundle_of_resolved (valid : e.hasUrl = true)
    (resolved : unresolved? targets = none) :
    ∃ b, recordedBundle targets e.recorded = .ok b := by
  have read := Entry.hasUrl_iff.mp valid
  obtain ⟨b, rendered⟩ : ∃ b, e.recorded.request.bundle targets = .ok b :=
    Request.bundle_isOk_iff.mpr ⟨read, unresolved?_eq_none_iff.mp resolved⟩
  exact ⟨b, recordedBundle_eq_ok_iff.mpr rendered⟩

theorem recordedBundle_of_unresolved (valid : e.hasUrl = true)
    (found : unresolved? targets = some id) :
    recordedBundle targets e.recorded = .error (e.recorded.unknownTarget id) := by
  obtain ⟨u, read⟩ := Entry.hasUrl_iff.mp valid
  have failed : e.recorded.request.bundle targets = .error (.unknownTarget id) :=
    Request.bundle_eq_error_iff.mpr (.inr ⟨u, id, read, found, rfl⟩)
  exact during_eq_error_iff.mpr ⟨_, failed, rfl⟩

def entryText (targets : List String) (format : OutputFormat) (e : Entry) : String :=
  match e.hasUrl, recordedBundle targets e.recorded with
  | true, .ok b => recordedHeading b format ++ bundleText b format
  | _, _ => ""

def entriesText (targets : List String) (format : OutputFormat) (entries : List Entry) : String :=
  String.join (entries.map (entryText targets format))

theorem entryText_of_ok {b : Bundle} (valid : e.hasUrl = true)
    (rendered : recordedBundle targets e.recorded = .ok b) :
    entryText targets format e = recordedHeading b format ++ bundleText b format := by
  simp [entryText, valid, rendered]

theorem entryText_of_invalid (invalid : ¬ e.hasUrl = true) : entryText targets format e = "" := by
  simp [entryText, Bool.eq_false_iff.mpr invalid]

theorem entriesText_of_invalid (invalid : ∀ e ∈ entries, ¬ e.hasUrl = true) :
    entriesText targets format entries = "" := by
  induction entries with
  | nil => rfl
  | cons e entries ih =>
    rw [List.forall_mem_cons] at invalid
    rw [entriesText, List.map_cons, String.join_cons, ← entriesText,
      entryText_of_invalid invalid.1, ih invalid.2, String.empty_append]

theorem requests_cons_of_valid (valid : e.hasUrl = true) :
    Recording.requests ⟨e :: entries⟩ = e.recorded :: Recording.requests ⟨entries⟩ := by
  simp [Recording.requests, valid]

theorem requests_cons_of_invalid (invalid : ¬ e.hasUrl = true) :
    Recording.requests ⟨e :: entries⟩ = Recording.requests ⟨entries⟩ := by
  simp [Recording.requests, invalid]

theorem printRecorded_of_resolved (resolved : unresolved? targets = none) (entries : List Entry) :
    printRecorded targets format (Recording.requests ⟨entries⟩) =
      .success (entriesText targets format entries) := by
  induction entries with
  | nil => rfl
  | cons e entries ih =>
    rw [entriesText, List.map_cons, String.join_cons, ← entriesText]
    by_cases valid : e.hasUrl = true
    · obtain ⟨b, rendered⟩ := recordedBundle_of_resolved valid resolved
      rw [requests_cons_of_valid valid, printRecorded, rendered, ih, entryText_of_ok valid rendered]
      rfl
    · rw [requests_cons_of_invalid valid, ih, entryText_of_invalid valid, String.empty_append]

theorem printRecorded_of_unresolved (found : unresolved? targets = some id) (entries : List Entry) :
    printRecorded targets format (Recording.requests ⟨entries⟩) =
      match entries.find? (·.hasUrl) with
      | some e => ⟨"", some (e.recorded.unknownTarget id)⟩
      | none => .success "" := by
  induction entries with
  | nil => rfl
  | cons e entries ih =>
    by_cases valid : e.hasUrl = true
    · rw [requests_cons_of_valid valid, printRecorded, recordedBundle_of_unresolved valid found,
        List.find?_cons_of_pos valid]
    · rw [requests_cons_of_invalid valid, ih, List.find?_cons_of_neg valid]

def Holds (files : Files) (file : String) (recording : Recording) : Prop :=
  ∃ text, files file = some text ∧ Recording.read text = .ok recording

theorem run_archive (selected : select files remarks s = .ok (targets, format))
    (holds : Holds files file recording) :
    run files (.archive file s) remarks = printRecorded targets format recording.requests := by
  obtain ⟨text, found, parsed⟩ := holds
  have loaded : loadRecording files remarks file = .ok recording :=
    loadFile_eq_ok_iff.mpr ⟨text, found, parsed⟩
  have ran : runArchive files remarks file s =
      .ok (printRecorded targets format recording.requests) :=
    bind_eq_ok_iff.mpr ⟨_, selected, bind_eq_ok_iff.mpr ⟨recording, loaded, rfl⟩⟩
  rw [run, ran]
  rfl

theorem run_archive_of_resolved (selected : select files remarks s = .ok (targets, format))
    (holds : Holds files file recording) (resolved : unresolved? targets = none) :
    run files (.archive file s) remarks =
      .success (entriesText targets format recording.entries) := by
  rw [run_archive selected holds]
  exact printRecorded_of_resolved resolved recording.entries

theorem run_archive_of_unresolved (selected : select files remarks s = .ok (targets, format))
    (holds : Holds files file recording) (found : unresolved? targets = some id) :
    run files (.archive file s) remarks =
      match recording.entries.find? (·.hasUrl) with
      | some e => ⟨"", some (e.recorded.unknownTarget id)⟩
      | none => .success "" := by
  rw [run_archive selected holds]
  exact printRecorded_of_unresolved found recording.entries

theorem printRecorded_failure (targets : List String) (format : OutputFormat)
    (recording : Recording)
    (failed : (printRecorded targets format recording.requests).failure.isSome) :
    (printRecorded targets format recording.requests).output = "" := by
  cases found : unresolved? targets with
  | none =>
    rw [printRecorded_of_resolved found recording.entries] at failed
    cases failed
  | some id =>
    rw [printRecorded_of_unresolved found recording.entries] at failed ⊢
    cases recording.entries.find? (·.hasUrl) <;> rfl

theorem output_of_failure (files : Files) (remarks : Remarks) (file : String) (s : Selection)
    (failed : (run files (.archive file s) remarks).failure.isSome) :
    (run files (.archive file s) remarks).output = "" := by
  change (Outcome.ofExcept (runArchive files remarks file s)).output = ""
  change (Outcome.ofExcept (runArchive files remarks file s)).failure.isSome at failed
  cases ran : runArchive files remarks file s with
  | error f => rfl
  | ok o =>
    rw [ran] at failed
    obtain ⟨⟨targets, format⟩, -, loaded⟩ := bind_eq_ok_iff.mp ran
    obtain ⟨recording, -, printed⟩ := bind_eq_ok_iff.mp loaded
    obtain rfl : printRecorded targets format recording.requests = o := Except.ok.inj printed
    exact printRecorded_failure targets format recording failed

theorem output_of_unresolved (selected : select files remarks s = .ok (targets, format))
    (holds : Holds files file recording) (found : unresolved? targets = some id) :
    (run files (.archive file s) remarks).output = "" := by
  rw [run_archive_of_unresolved selected holds found]
  cases recording.entries.find? (·.hasUrl) <;> rfl

/-- An entry with an absolute URL and an unknown target make the run fail with the first of each. -/
theorem run_archive_fails (selected : select files remarks s = .ok (targets, format))
    (holds : Holds files file recording) (valid : ∃ e ∈ recording.entries, e.hasUrl = true)
    (unknown : ∃ t ∈ targets, resolve? t = none) :
    ∃ e id, recording.entries.find? (·.hasUrl) = some e ∧ unresolved? targets = some id ∧
      run files (.archive file s) remarks = ⟨"", some (e.recorded.unknownTarget id)⟩ := by
  obtain ⟨e, first⟩ : ∃ e, recording.entries.find? (·.hasUrl) = some e := by
    rw [← Option.isSome_iff_exists, List.find?_isSome]
    exact valid
  obtain ⟨id, found⟩ : ∃ id, unresolved? targets = some id := by
    obtain ⟨t, asked, unresolved⟩ := unknown
    rw [← Option.isSome_iff_exists, unresolved?, List.find?_isSome]
    exact ⟨t, asked, by rw [unresolved]; rfl⟩
  refine ⟨e, id, first, found, ?_⟩
  rw [run_archive_of_unresolved selected holds found, first]

/-- Otherwise the run prints the blocks of all entries. -/
theorem run_archive_prints (selected : select files remarks s = .ok (targets, format))
    (holds : Holds files file recording)
    (harmless : ¬ ((∃ e ∈ recording.entries, e.hasUrl = true) ∧ ∃ t ∈ targets, resolve? t = none)) :
    run files (.archive file s) remarks =
      .success (entriesText targets format recording.entries) := by
  cases found : unresolved? targets with
  | none => exact run_archive_of_resolved selected holds found
  | some id =>
    have invalid : ∀ e ∈ recording.entries, ¬ e.hasUrl = true := by
      intro e mem valid
      obtain ⟨asked, unknown⟩ := unresolved?_eq_some found
      exact harmless ⟨⟨e, mem, valid⟩, id, asked, unknown⟩
    rw [run_archive_of_unresolved selected holds found, List.find?_eq_none.mpr invalid,
      entriesText_of_invalid invalid]

theorem output_append {file₁ file₂ : String} {recording₁ recording₂ : Recording}
    (selected : select files remarks s = .ok (targets, format)) (holds : Holds files file recording)
    (holds₁ : Holds files file₁ recording₁) (holds₂ : Holds files file₂ recording₂)
    (split : recording.entries = recording₁.entries ++ recording₂.entries) :
    (run files (.archive file s) remarks).output =
      (run files (.archive file₁ s) remarks).output ++
        (run files (.archive file₂ s) remarks).output := by
  cases found : unresolved? targets with
  | none =>
    rw [run_archive_of_resolved selected holds found,
      run_archive_of_resolved selected holds₁ found,
      run_archive_of_resolved selected holds₂ found, split]
    simp [Outcome.success, entriesText, String.join_append]
  | some id =>
    rw [output_of_unresolved selected holds found, output_of_unresolved selected holds₁ found,
      output_of_unresolved selected holds₂ found, String.empty_append]

/-- An archive is rendered whole or not at all. If the URL of an entry is absolute and a target
does not resolve, the run fails with the first of each and prints nothing; otherwise it prints a
block for every entry with an absolute URL, which depends on that entry alone: a heading and its
snippets. -/
theorem archive_all_or_nothing (files : Files) (remarks : Remarks) (s : Selection) :
    (∀ file, (run files (.archive file s) remarks).code ≠ 0 →
      (run files (.archive file s) remarks).code = 1 ∧
        (run files (.archive file s) remarks).output = "") ∧
    ∀ targets format, select files remarks s = .ok (targets, format) →
      targets ≠ [] ∧
      (∀ file recording, Holds files file recording →
        (∃ e ∈ recording.entries, e.hasUrl = true) → (∃ t ∈ targets, resolve? t = none) →
        ∃ e id, recording.entries.find? (·.hasUrl) = some e ∧ unresolved? targets = some id ∧
          (run files (.archive file s) remarks).code = 1 ∧
          (run files (.archive file s) remarks).output = "" ∧
          (run files (.archive file s) remarks).failure = some
            ⟨"Failed to generate snippets for " ++ String.ofList (Text.upper e.method.toList)
              ++ " " ++ e.url, ["Invalid target: " ++ id]⟩) ∧
      (∀ file recording, Holds files file recording →
        ¬ ((∃ e ∈ recording.entries, e.hasUrl = true) ∧ ∃ t ∈ targets, resolve? t = none) →
        (run files (.archive file s) remarks).code = 0 ∧
          (run files (.archive file s) remarks).output =
            String.join (recording.entries.map (entryText targets format))) ∧
      (∀ e : Entry, (∀ u, Url.read e.url ≠ .ok u) → entryText targets format e = "") ∧
      (∀ e : Entry, e.hasUrl = true → (∀ t ∈ targets, (resolve? t).isSome = true) →
        ∃ b, recordedBundle targets e.recorded = .ok b ∧
          entryText targets format e = recordedHeading b format ++ bundleText b format ∧
          Heads b format (recordedHeading b format) ∧ Prints b format (bundleText b format)) ∧
      ∀ file file₁ file₂ recording recording₁ recording₂, Holds files file recording →
        Holds files file₁ recording₁ → Holds files file₂ recording₂ →
        recording.entries = recording₁.entries ++ recording₂.entries →
        (run files (.archive file s) remarks).output =
          (run files (.archive file₁ s) remarks).output ++
            (run files (.archive file₂ s) remarks).output := by
  refine ⟨?_, ?_⟩
  · intro file nonzero
    cases failed : (run files (.archive file s) remarks).failure with
    | none => simp [Outcome.code, failed] at nonzero
    | some f =>
      refine ⟨by simp [Outcome.code, failed], output_of_failure files remarks file s ?_⟩
      rw [failed]
      rfl
  intro targets format selected
  refine ⟨select_ne_nil selected, ?_, ?_, ?_, ?_, ?_⟩
  · intro file recording holds valid unknown
    obtain ⟨e, id, first, found, failed⟩ := run_archive_fails selected holds valid unknown
    refine ⟨e, id, first, found, ?_⟩
    rw [failed]
    exact ⟨rfl, rfl, rfl⟩
  · intro file recording holds harmless
    rw [run_archive_prints selected holds harmless]
    exact ⟨rfl, rfl⟩
  · intro e invalid
    apply entryText_of_invalid
    rw [Entry.hasUrl_iff]
    rintro ⟨u, read⟩
    exact invalid u read
  · intro e valid resolved
    obtain ⟨b, rendered⟩ := recordedBundle_of_resolved valid (unresolved?_eq_none_iff.mpr resolved)
    exact ⟨b, rendered, entryText_of_ok valid rendered, heads_recordedHeading b format,
      prints_bundleText b format⟩
  · intro file file₁ file₂ recording recording₁ recording₂ holds holds₁ holds₂ split
    exact output_append selected holds holds₁ holds₂ split

def archiveText (urls : List String) : String :=
  (Json.object [("log", .object [("entries", .array (urls.map fun url =>
    .object [("request", .object [("method", .string "get"), ("url", .string url)])]))])]).write

def archiveOf (urls : List String) : Recording := ⟨urls.map fun url => ⟨"get", url, [], [], none⟩⟩

def sampleFiles : Files
  | "all.har" => some (archiveText ["/a", "http://[::1]/b", "http://[::1]/c"])
  | "first.har" => some (archiveText ["/a", "http://[::1]/b"])
  | "rest.har" => some (archiveText ["http://[::1]/c"])
  | _ => none

theorem archive_all_or_nothing_sample :
    (run sampleFiles (.archive "all.har" ⟨["shell", "node_", "bogus"], none, none⟩)).failure =
        some ⟨"Failed to generate snippets for GET http://[::1]/b", ["Invalid target: node_"]⟩ ∧
      (run sampleFiles (.archive "all.har" ⟨["shell"], none, none⟩)).code = 0 ∧
      (run sampleFiles (.archive "all.har" ⟨["shell"], none, none⟩)).output =
        (run sampleFiles (.archive "first.har" ⟨["shell"], none, none⟩)).output
          ++ (run sampleFiles (.archive "rest.har" ⟨["shell"], none, none⟩)).output := by
  have all : Holds sampleFiles "all.har" (archiveOf ["/a", "http://[::1]/b", "http://[::1]/c"]) :=
    ⟨_, rfl, by decide +kernel⟩
  have first : Holds sampleFiles "first.har" (archiveOf ["/a", "http://[::1]/b"]) :=
    ⟨_, rfl, by decide +kernel⟩
  have rest : Holds sampleFiles "rest.har" (archiveOf ["http://[::1]/c"]) :=
    ⟨_, rfl, by decide +kernel⟩
  refine ⟨?_, ?_⟩
  · obtain ⟨-, outcome⟩ := archive_all_or_nothing sampleFiles default
      ⟨["shell", "node_", "bogus"], none, none⟩
    obtain ⟨-, failing, -⟩ := outcome _ _ rfl
    obtain ⟨e, id, valid, unknown, -, -, failed⟩ :=
      failing _ _ all (by decide +kernel) (by decide +kernel)
    obtain rfl : id = "node_" := by
      have found : unresolved? ["shell", "node_", "bogus"] = some "node_" := by decide +kernel
      exact Option.some.inj (unknown.symm.trans found)
    obtain rfl : e = ⟨"get", "http://[::1]/b", [], [], none⟩ := by
      have found : (archiveOf ["/a", "http://[::1]/b", "http://[::1]/c"]).entries.find? (·.hasUrl) =
          some ⟨"get", "http://[::1]/b", [], [], none⟩ := by decide +kernel
      exact Option.some.inj (valid.symm.trans found)
    exact failed.trans (by decide +kernel)
  · obtain ⟨-, -, printing, -, -, joined⟩ :=
      (archive_all_or_nothing sampleFiles default ⟨["shell"], none, none⟩).2 _ _ rfl
    exact ⟨(printing _ _ all (by decide +kernel)).1, joined _ _ _ _ _ _ all first rest rfl⟩

end Command

end RequestCode
