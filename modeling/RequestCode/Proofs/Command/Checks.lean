import RequestCode.Proofs.Bundle.Outcome
import RequestCode.Proofs.Command.Arguments
import RequestCode.Proofs.Command.Output
import RequestCode.Proofs.Command.Selection
import RequestCode.Proofs.Outgoing.Repeated

/-!
# The checks of a command

A command that renders one request checks its settings, its targets, its headers and its URL in
this order, and each target last. Nothing is printed before all of them have passed. Main
statements: `passes_or_stops`, either all checks pass or one is the first to fail, and
`single_checks`, which says what a run prints and reports in either case.
-/

namespace RequestCode.Command

/-- The argument gives a header: the texts around its first colon, without blanks at their ends. -/
def ReadsHeader (s : String) (p : Param) : Prop :=
  ∃ name value, s.toList = name ++ ':' :: value ∧ ':' ∉ name ∧
    p = ⟨Text.trim (.ofList name), Text.trim (.ofList value)⟩

/-- The argument gives a parameter: the texts around its first equals sign, or all of it with no
value. -/
def ReadsParameter (s : String) (p : Param) : Prop :=
  (∃ name value, s.toList = name ++ '=' :: value ∧ '=' ∉ name ∧
    p = ⟨.ofList name, .ofList value⟩) ∨ '=' ∉ s.toList ∧ p = ⟨s, ""⟩

/-- What has to hold for a request to be rendered, with the settings and the targets that count. -/
structure Passes (files : Files) (r : Single) (c : Config) (ids : List String) : Prop where
  loads : Loads files r.selection.config c
  selects : Selects c r.selection.targets ids
  headers : ∀ s ∈ r.headers, ':' ∈ s.toList
  url : ∃ u, Url.read r.url = .ok u
  targets : ∀ id ∈ ids, (resolve? id).isSome

/-- The bundle shows the request with each header and each parameter at its first place and with
its last value. -/
def Renders (r : Single) (ids : List String) (b : Bundle) : Prop :=
  ∃ (ps qs : List Param) (headers query : Params),
    List.Forall₂ ReadsHeader r.headers ps ∧ List.Forall₂ ReadsParameter r.query qs ∧
    headers.entries = (collected ps).map (fun p => (p.name, .string p.value)) ∧
    query.entries = (collected qs).map (fun p => (p.name, .string p.value)) ∧
    generate r.url r.method ids (some query) (some headers) r.body = .ok b

/-- What is reported when a check fails and those before it have passed. -/
inductive Stops (files : Files) (remarks : Remarks) (r : Single) : Failure → Prop
  | config {path causes} : r.selection.config = some path →
      Unloadable files remarks path causes →
      Stops files remarks r ⟨"Failed to load config " ++ path, causes⟩
  | declaration {c raw} : Loads files r.selection.config c → r.selection.targets = [] →
      c.targets.find? (fun raw => Target.violations raw ≠ []) = some raw →
      Stops files remarks r ⟨"Invalid target in config file",
        [(Error.invalidDeclaration (Target.violations raw)).message]⟩
  | noTargets {c} : Loads files r.selection.config c → r.selection.targets = [] →
      c.targets = [] →
      Stops files remarks r ⟨"No targets given: pass --target or a config file with targets", []⟩
  | header {c ids s} : Loads files r.selection.config c → Selects c r.selection.targets ids →
      r.headers.find? (fun s => ':' ∉ s.toList) = some s →
      Stops files remarks r ⟨"Invalid header '" ++ s ++ "', expected 'Name: value'", []⟩
  | url {c ids cause} : Loads files r.selection.config c → Selects c r.selection.targets ids →
      (∀ s ∈ r.headers, ':' ∈ s.toList) → Url.read r.url = .error cause →
      Stops files remarks r ⟨"Failed to generate snippets for " ++ r.url,
        ["URL error: " ++ cause.message, cause.message]⟩
  | target {c ids u id} : Loads files r.selection.config c → Selects c r.selection.targets ids →
      (∀ s ∈ r.headers, ':' ∈ s.toList) → Url.read r.url = .ok u → unresolved? ids = some id →
      Stops files remarks r
        ⟨"Failed to generate snippets for " ++ r.url, ["Invalid target: " ++ id]⟩

variable {files : Files} {remarks : Remarks} {c : Config} {ids args : List String} {r : Single}
  {f : Failure} {o : Outcome} {s : String} {ss : List String} {m : Params}

theorem readHeader_eq_ok_iff {e : String × Json} :
    readHeader s = .ok e ↔ ∃ p, ReadsHeader s p ∧ e = (p.name, .string p.value) := by
  unfold readHeader
  cases cut : Text.cutFirst ':' s.toList with
  | none =>
    have absent := Text.cutFirst_eq_none.mp cut
    constructor
    · intro h
      cases h
    · rintro ⟨p, ⟨name, value, split, -, -⟩, -⟩
      rw [split] at absent
      exact absurd (List.mem_append_right _ List.mem_cons_self) absent
  | some parts =>
    constructor
    · intro h
      cases h
      exact ⟨_, ⟨_, _, Text.eq_of_cutFirst cut, Text.not_mem_of_cutFirst cut, rfl⟩, rfl⟩
    · rintro ⟨p, ⟨name, value, split, first, rfl⟩, rfl⟩
      rw [split, Text.cutFirst_append value first] at cut
      cases cut
      rfl

theorem readHeader_eq_error_iff :
    readHeader s = .error f ↔ ':' ∉ s.toList ∧
      f = ⟨"Invalid header '" ++ s ++ "', expected 'Name: value'", []⟩ := by
  unfold readHeader
  rw [← Text.cutFirst_eq_none]
  cases Text.cutFirst ':' s.toList <;> simp [eq_comm]

theorem readHeaders_eq_ok_iff :
    readHeaders ss = .ok m ↔ ∃ ps, List.Forall₂ ReadsHeader ss ps ∧ m = .ofPairs ps := by
  have read (entries : List (String × Json)) : ss.mapM readHeader = .ok entries ↔
      ∃ ps, List.Forall₂ ReadsHeader ss ps ∧
        entries = ps.map fun p => (p.name, Json.string p.value) := by
    rw [mapM_eq_ok_iff]
    exact forall₂_iff_exists_map fun s e => readHeader_eq_ok_iff (s := s) (e := e)
  rw [readHeaders, map_eq_ok_iff]
  constructor
  · rintro ⟨entries, all, rfl⟩
    obtain ⟨ps, reads, rfl⟩ := (read entries).mp all
    exact ⟨ps, reads, rfl⟩
  · rintro ⟨ps, reads, rfl⟩
    exact ⟨_, (read _).mpr ⟨ps, reads, rfl⟩, rfl⟩

theorem readHeaders_eq_error_iff :
    readHeaders ss = .error f ↔ ∃ s, ss.find? (fun s => ':' ∉ s.toList) = some s ∧
      f = ⟨"Invalid header '" ++ s ++ "', expected 'Name: value'", []⟩ := by
  have fails (s : String) : decide (':' ∉ s.toList) = true ↔ ∃ f, readHeader s = .error f := by
    simp [readHeader_eq_error_iff]
  rw [readHeaders, map_eq_error_iff, mapM_eq_error_iff_find? fails]
  constructor
  · rintro ⟨s, found, failed⟩
    exact ⟨s, found, (readHeader_eq_error_iff.mp failed).2⟩
  · rintro ⟨s, found, rfl⟩
    have absent : ':' ∉ s.toList := by simpa using List.find?_some found
    exact ⟨s, found, readHeader_eq_error_iff.mpr ⟨absent, rfl⟩⟩

theorem colons_of_readHeaders (h : readHeaders ss = .ok m) : ∀ s ∈ ss, ':' ∈ s.toList := by
  cases found : ss.find? (fun s => ':' ∉ s.toList) with
  | none => simpa using found
  | some s =>
    have failed := readHeaders_eq_error_iff.mpr ⟨s, found, rfl⟩
    rw [h] at failed
    cases failed

theorem exists_readsParameter (s : String) :
    ∃ p, ReadsParameter s p ∧ readParameter s = (p.name, .string p.value) := by
  unfold readParameter
  cases cut : Text.cutFirst '=' s.toList with
  | none => exact ⟨⟨s, ""⟩, .inr ⟨Text.cutFirst_eq_none.mp cut, rfl⟩, rfl⟩
  | some parts =>
    exact ⟨⟨.ofList parts.1, .ofList parts.2⟩,
      .inl ⟨_, _, Text.eq_of_cutFirst cut, Text.not_mem_of_cutFirst cut, rfl⟩, rfl⟩

theorem exists_readParameters (ss : List String) :
    ∃ ps, List.Forall₂ ReadsParameter ss ps ∧ readParameters ss = .ofPairs ps := by
  choose part reads part_eq using exists_readsParameter
  refine ⟨ss.map part, ?_, ?_⟩
  · exact List.forall₂_map_right_iff.mpr (List.forall₂_same.mpr fun s _ => reads s)
  · rw [readParameters, Params.ofPairs, List.map_map]
    congr 1
    exact List.map_congr_left fun s _ => part_eq s

theorem generate_eq_error_iff {url method : String} {query headers : Option Params}
    {body : Option String} {e : Error} :
    generate url method ids query headers body = .error e ↔
      (∃ cause, Url.read url = .error cause ∧ e = .url cause) ∨
        ∃ u id, Url.read url = .ok u ∧ unresolved? ids = some id ∧ e = .unknownTarget id :=
  Request.bundle_eq_error_iff

theorem generate_isOk_iff {url : String} (method : String) (query headers : Option Params)
    (body : Option String) :
    (∃ b, generate url method ids query headers body = .ok b) ↔
      (∃ u, Url.read url = .ok u) ∧ ∀ id ∈ ids, (resolve? id).isSome :=
  Request.bundle_isOk_iff

theorem exists_readHeaders (colons : ∀ s ∈ ss, ':' ∈ s.toList) :
    ∃ ps, List.Forall₂ ReadsHeader ss ps ∧ readHeaders ss = .ok (.ofPairs ps) := by
  cases split : readHeaders ss with
  | ok m =>
    obtain ⟨ps, reads, rfl⟩ := readHeaders_eq_ok_iff.mp split
    exact ⟨ps, reads, rfl⟩
  | error f =>
    obtain ⟨s, found, -⟩ := readHeaders_eq_error_iff.mp split
    have absent : ':' ∉ s.toList := by simpa using List.find?_some found
    exact absurd (colons s (List.mem_of_find?_eq_some found)) absent

theorem stops_of_runSingle (h : runSingle files remarks r = .error f) :
    Stops files remarks r f := by
  rcases bind_eq_error_iff.mp h with unselected | ⟨⟨ids, format⟩, selected, h⟩
  · rcases select_eq_error_iff.mp unselected with unloaded | ⟨c, loads, refused⟩
    · obtain ⟨path, causes, given, unloadable, rfl⟩ := loadConfig_eq_error_iff.mp unloaded
      exact .config given unloadable
    · obtain ⟨none_given, ⟨raw, found, rfl⟩ | ⟨none_declared, rfl⟩⟩ :=
        selectTargets_eq_error_iff.mp refused
      · exact .declaration loads none_given found
      · exact .noTargets loads none_given none_declared
  obtain ⟨c, loads, selects, -⟩ := select_eq_ok_iff.mp selected
  rcases bind_eq_error_iff.mp h with unsplit | ⟨headers, split, h⟩
  · obtain ⟨s, found, rfl⟩ := readHeaders_eq_error_iff.mp unsplit
    exact .header loads selects found
  have colons := colons_of_readHeaders split
  rcases bind_eq_error_iff.mp h with unrendered | ⟨b, -, impossible⟩
  · obtain ⟨e, refused, rfl⟩ := during_eq_error_iff.mp unrendered
    rcases generate_eq_error_iff.mp refused with
      ⟨cause, malformed, rfl⟩ | ⟨u, id, read, unknown, rfl⟩
    · exact .url loads selects colons malformed
    · exact .target loads selects colons read unknown
  · cases impossible

/-- A command whose settings, targets and headers are in order fails as the rendering does. -/
theorem runSingle_of_generate_error (e : Error) (loads : Loads files r.selection.config c)
    (selects : Selects c r.selection.targets ids) (colons : ∀ s ∈ r.headers, ':' ∈ s.toList)
    (refused : ∀ query headers,
      generate r.url r.method ids (some query) (some headers) r.body = .error e) :
    runSingle files remarks r = .error ⟨"Failed to generate snippets for " ++ r.url, e.chain⟩ := by
  obtain ⟨ps, -, split⟩ := exists_readHeaders colons
  refine bind_eq_error_iff.mpr (.inr ⟨_, select_of_selects loads selects, ?_⟩)
  refine bind_eq_error_iff.mpr (.inr ⟨_, split, ?_⟩)
  exact bind_eq_error_iff.mpr (.inl (during_eq_error_iff.mpr ⟨e, refused _ _, rfl⟩))

theorem runSingle_of_stops (h : Stops files remarks r f) :
    runSingle files remarks r = .error f := by
  cases h with
  | config given unloadable =>
    have unloaded := loadConfig_eq_error_iff.mpr ⟨_, _, given, unloadable, rfl⟩
    exact bind_eq_error_iff.mpr (.inl (select_eq_error_iff.mpr (.inl unloaded)))
  | declaration loads none_given found =>
    have refused := selectTargets_eq_error_iff.mpr ⟨none_given, .inl ⟨_, found, rfl⟩⟩
    exact bind_eq_error_iff.mpr (.inl (select_eq_error_iff.mpr (.inr ⟨_, loads, refused⟩)))
  | noTargets loads none_given none_declared =>
    have refused := selectTargets_eq_error_iff.mpr ⟨none_given, .inr ⟨none_declared, rfl⟩⟩
    exact bind_eq_error_iff.mpr (.inl (select_eq_error_iff.mpr (.inr ⟨_, loads, refused⟩)))
  | header loads selects found =>
    have unsplit := readHeaders_eq_error_iff.mpr ⟨_, found, rfl⟩
    refine bind_eq_error_iff.mpr (.inr ⟨_, select_of_selects loads selects, ?_⟩)
    exact bind_eq_error_iff.mpr (.inl unsplit)
  | @url c ids cause loads selects colons malformed =>
    apply runSingle_of_generate_error (.url cause) loads selects colons
    intro query headers
    exact generate_eq_error_iff.mpr (.inl ⟨cause, malformed, rfl⟩)
  | @target c ids u id loads selects colons read unknown =>
    apply runSingle_of_generate_error (.unknownTarget id) loads selects colons
    intro query headers
    exact generate_eq_error_iff.mpr (.inr ⟨u, id, read, unknown, rfl⟩)

theorem passes_of_runSingle (h : runSingle files remarks r = .ok o) :
    ∃ c ids, Passes files r c ids := by
  obtain ⟨⟨ids, format⟩, selected, h⟩ := bind_eq_ok_iff.mp h
  obtain ⟨headers, split, h⟩ := bind_eq_ok_iff.mp h
  obtain ⟨b, rendered, -⟩ := bind_eq_ok_iff.mp h
  obtain ⟨c, loads, selects, -⟩ := select_eq_ok_iff.mp selected
  obtain ⟨url, targets⟩ := (generate_isOk_iff _ _ _ _).mp ⟨b, during_eq_ok_iff.mp rendered⟩
  exact ⟨c, ids, loads, selects, colons_of_readHeaders split, url, targets⟩

/-- Either all checks pass, or one is the first that fails. -/
theorem passes_or_stops (files : Files) (remarks : Remarks) (r : Single) :
    (∃ c ids, Passes files r c ids) ∨ ∃ f, Stops files remarks r f := by
  cases ran : runSingle files remarks r with
  | ok o => exact .inl (passes_of_runSingle ran)
  | error f => exact .inr ⟨f, stops_of_runSingle ran⟩

theorem run_of_stops (h : Stops files remarks r f) :
    run files (.single r) remarks = ⟨"", some f⟩ := by
  rw [run, runSingle_of_stops h]
  rfl

/-- A run that passes prints the snippets of the request, in the format that was asked for or else
is set. -/
theorem run_of_passes (h : Passes files r c ids) :
    ∃ b out, Renders r ids b ∧ Prints b (r.selection.format.getD c.format) out ∧
      run files (.single r) remarks = .success out := by
  obtain ⟨ps, headers, split⟩ := exists_readHeaders h.headers
  obtain ⟨qs, parameters, parted⟩ := exists_readParameters r.query
  obtain ⟨b, rendered⟩ := (generate_isOk_iff r.method (some (.ofPairs qs)) (some (.ofPairs ps))
    r.body).mpr ⟨h.url, h.targets⟩
  have ran : runSingle files remarks r =
      .ok (.success (bundleText b (r.selection.format.getD c.format))) := by
    refine bind_eq_ok_iff.mpr ⟨_, select_of_selects h.loads h.selects, ?_⟩
    refine bind_eq_ok_iff.mpr ⟨_, split, ?_⟩
    rw [parted]
    exact bind_eq_ok_iff.mpr ⟨b, during_eq_ok_iff.mpr rendered, rfl⟩
  refine ⟨b, _, ⟨ps, qs, .ofPairs ps, .ofPairs qs, headers, parameters, Params.entries_ofPairs ps,
    Params.entries_ofPairs qs, rendered⟩, prints_bundleText b _, ?_⟩
  rw [run, ran]
  rfl

/-- The checks of a command that renders one request. It succeeds if all of them pass and then
prints the snippets of the request; otherwise it prints nothing, and reports the first that
fails. -/
theorem single_checks (files : Files) (remarks : Remarks)
    (accepted : read ("generate" :: args) = some (.single r)) :
    (∃ given, Spells args given ∧ given.first? "url" = some r.url ∧
      r.method = (given.first? "method").getD "GET" ∧ r.headers = given.all "header" ∧
      r.query = given.all "query" ∧ r.body = given.first? "body" ∧
      r.selection = given.selection) ∧
    ((run files (.single r) remarks).code = 0 ↔ ∃ c ids, Passes files r c ids) ∧
    ((run files (.single r) remarks).code ≠ 0 → (run files (.single r) remarks).code = 1 ∧
      (run files (.single r) remarks).output = "" ∧ ∃ f, Stops files remarks r f) ∧
    (∀ f, (run files (.single r) remarks).failure = some f ↔ Stops files remarks r f) ∧
    ∀ c ids, Passes files r c ids → ∃ b out, Renders r ids b ∧
      Prints b (r.selection.format.getD c.format) out ∧
      run files (.single r) remarks = .success out := by
  refine ⟨single_of_read accepted, ?_, ?_, ?_, fun c ids passes => run_of_passes passes⟩
  · constructor
    · intro code
      rcases passes_or_stops files remarks r with passes | ⟨f, stops⟩
      · exact passes
      · rw [run_of_stops stops] at code
        cases code
    · rintro ⟨c, ids, passes⟩
      obtain ⟨b, out, -, -, printed⟩ := run_of_passes passes
      rw [printed]
      rfl
  · intro code
    rcases passes_or_stops files remarks r with ⟨c, ids, passes⟩ | ⟨f, stops⟩
    · obtain ⟨b, out, -, -, printed⟩ := run_of_passes passes
      rw [printed] at code
      exact absurd rfl code
    · rw [run_of_stops stops]
      exact ⟨rfl, rfl, f, stops⟩
  · intro f
    constructor
    · intro failed
      rcases passes_or_stops files remarks r with ⟨c, ids, passes⟩ | ⟨g, stops⟩
      · obtain ⟨b, out, -, -, printed⟩ := run_of_passes passes
        rw [printed] at failed
        cases failed
      · rw [run_of_stops stops] at failed
        cases failed
        exact stops
    · intro stops
      rw [run_of_stops stops]

def manyFaults : Single := ⟨"/a", "GET", ["b: c", "x", "y"], [], none, ⟨["z"], none, none⟩⟩

def faultless : Single :=
  ⟨"http://[::1]/a", "get", ["b: c"], ["x=1", "x=2"], none, ⟨["http"], none, none⟩⟩

theorem single_checks_sample :
    read ["generate", "--url", "/a", "--header", "b: c", "--header=x", "--header", "y",
        "--target", "z"] = some (.single manyFaults) ∧
      (run (fun _ => none) (.single manyFaults)).failure =
        some ⟨"Invalid header 'x', expected 'Name: value'", []⟩ ∧
      (run (fun _ => none) (.single manyFaults)).output = "" ∧
      read ["generate", "--url", "http://[::1]/a", "--method", "get", "--header", "b: c", "--query",
        "x=1", "--query=x=2", "--target", "http"] = some (.single faultless) ∧
      run (fun _ => none) (.single faultless) =
        .success "# Http + Http1.1\nGET /a?x=2 HTTP/1.1\nHost: [::1]\nb: c\n\n\n" ∧
      ∃ b, Renders faultless ["http"] b ∧
        Prints b .text "# Http + Http1.1\nGET /a?x=2 HTTP/1.1\nHost: [::1]\nb: c\n\n\n" := by
  have accepted : read ["generate", "--url", "/a", "--header", "b: c", "--header=x", "--header",
      "y", "--target", "z"] = some (.single manyFaults) := by decide +kernel
  have accepted' : read ["generate", "--url", "http://[::1]/a", "--method", "get", "--header",
      "b: c", "--query", "x=1", "--query=x=2", "--target", "http"] = some (.single faultless) := by
    decide +kernel
  have stops : Stops (fun _ => none) default manyFaults
      ⟨"Invalid header '" ++ "x" ++ "', expected 'Name: value'", []⟩ :=
    .header .default (.given (List.cons_ne_nil "z" [])) (by decide)
  have passes : Passes (fun _ => none) faultless .default ["http"] :=
    ⟨.default, .given (List.cons_ne_nil "http" []), by decide, ⟨_, rfl⟩, by decide⟩
  obtain ⟨-, -, failing, reported, -⟩ := single_checks (fun _ => none) default accepted
  obtain ⟨-, -, -, -, printing⟩ := single_checks (fun _ => none) default accepted'
  have failed := (reported _).mpr stops
  obtain ⟨b, out, renders, prints, ran⟩ := printing _ _ passes
  have printed : (run (fun _ => none) (.single faultless)).output =
      "# Http + Http1.1\nGET /a?x=2 HTTP/1.1\nHost: [::1]\nb: c\n\n\n" := by decide +kernel
  obtain rfl : out = "# Http + Http1.1\nGET /a?x=2 HTTP/1.1\nHost: [::1]\nb: c\n\n\n" := by
    rwa [ran] at printed
  refine ⟨accepted, failed, (failing ?_).2.1, accepted', ran, b, renders, prints⟩
  rw [Outcome.code, failed]
  decide

end RequestCode.Command
