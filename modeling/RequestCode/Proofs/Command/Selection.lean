import RequestCode.Command.Run
import RequestCode.Proofs.Target.Declaration

/-!
# The settings and the targets of a command

A command first loads its settings and then selects its targets. Targets on the command line win,
and the settings are then left unchecked. Main statements: `select_eq_ok_iff` and
`select_eq_error_iff`.
-/

namespace RequestCode.Command

/-- A file gives settings, and without one the default settings count. -/
inductive Loads (files : Files) : Option String → Config → Prop
  | default : Loads files none .default
  | file {path text c} : files path = some text → Config.read text = .ok c →
      Loads files (some path) c

/-- What is reported of a file that gives no settings: why it cannot be read, or what is wrong with
its text. -/
inductive Unloadable (files : Files) (remarks : Remarks) : String → List String → Prop
  | missing {path} : files path = none →
      Unloadable files remarks path ["I/O error: " ++ remarks.file path, remarks.file path]
  | malformed {path text} : files path = some text → (∀ c, Config.read text ≠ .ok c) →
      Unloadable files remarks path
        ["YAML parsing error: " ++ remarks.yaml text, remarks.yaml text]

/-- The targets of the command line, which leave the settings unchecked, or else those that the
settings declare. -/
inductive Selects (c : Config) : List String → List String → Prop
  | given {ids} : ids ≠ [] → Selects c ids ids
  | declared {specs} : c.targets ≠ [] →
      List.Forall₂ (fun raw t => Target.ofJson raw = .ok t) c.targets specs →
      Selects c [] (specs.map (·.id))

variable {files : Files} {remarks : Remarks} {config : Option String} {c : Config}
  {given ids : List String} {format : OutputFormat} {s : Selection} {f : Failure}

theorem during_eq_ok_iff {α : Type} {context remark : String} {x : Except Error α} {a : α} :
    Failure.during context x remark = .ok a ↔ x = .ok a := by
  cases x <;> simp [Failure.during]

theorem during_eq_error_iff {α : Type} {context remark : String} {x : Except Error α} :
    Failure.during context x remark = .error f ↔
      ∃ e, x = .error e ∧ f = ⟨context, e.chain remark⟩ := by
  cases x <;> simp [Failure.during, eq_comm]

theorem read_ne_ok_iff {text : String} :
    (∀ c, Config.read text ≠ .ok c) ↔ Config.read text = .error .malformedYaml := by
  unfold Config.read
  split <;> simp

theorem loadFile_eq_ok_iff {α : Type} {context path : String} {read : String → Except Error α}
    {remark : String → String} {a : α} :
    loadFile files remarks context path read remark = .ok a ↔
      ∃ text, files path = some text ∧ read text = .ok a := by
  unfold loadFile
  cases files path with
  | none => simp [Failure.during]
  | some text => simp [during_eq_ok_iff]

theorem loadConfig_eq_ok_iff : loadConfig files remarks config = .ok c ↔ Loads files config c := by
  cases config with
  | none =>
    constructor
    · intro h
      cases h
      exact .default
    · rintro ⟨⟩
      rfl
  | some path =>
    rw [loadConfig, loadFile_eq_ok_iff]
    constructor
    · rintro ⟨text, found, loaded⟩
      exact .file found loaded
    · rintro (⟨⟩ | ⟨found, loaded⟩)
      exact ⟨_, found, loaded⟩

theorem loadConfig_eq_error_iff :
    loadConfig files remarks config = .error f ↔ ∃ path causes, config = some path ∧
      Unloadable files remarks path causes ∧ f = ⟨"Failed to load config " ++ path, causes⟩ := by
  cases config with
  | none => simp [loadConfig]
  | some path =>
    rw [loadConfig, loadFile]
    constructor
    · intro failed
      cases found : files path with
      | none =>
        rw [found] at failed
        cases failed
        exact ⟨path, _, rfl, .missing found, rfl⟩
      | some text =>
        rw [found] at failed
        obtain ⟨e, refused, rfl⟩ := during_eq_error_iff.mp failed
        have malformed : ∀ c, Config.read text ≠ .ok c := by simp [refused]
        cases refused.symm.trans (read_ne_ok_iff.mp malformed)
        exact ⟨path, _, rfl, .malformed found malformed, rfl⟩
    · rintro ⟨_, causes, ⟨⟩, unloadable, rfl⟩
      cases unloadable with
      | missing found =>
        rw [found]
        rfl
      | malformed found malformed =>
        rw [found]
        exact during_eq_error_iff.mpr ⟨_, read_ne_ok_iff.mp malformed, rfl⟩

theorem selectTargets_eq_ok_iff : selectTargets given c = .ok ids ↔ Selects c given ids := by
  cases given with
  | cons t ts =>
    constructor
    · intro h
      cases h
      exact .given (List.cons_ne_nil t ts)
    · rintro ⟨⟩
      rfl
  | nil =>
    constructor
    · intro h
      obtain ⟨checked, valid, h⟩ := bind_eq_ok_iff.mp h
      have specs := Target.ofJsonList_eq_ok_iff.mp (during_eq_ok_iff.mp valid)
      cases checked with
      | nil => cases h
      | cons t ts =>
        cases h
        refine .declared ?_ specs
        intro none_declared
        rw [none_declared] at specs
        cases specs
    · intro h
      cases h with
      | given nonempty => exact absurd rfl nonempty
      | @declared checked nonempty specs =>
        refine bind_eq_ok_iff.mpr
          ⟨checked, during_eq_ok_iff.mpr (Target.ofJsonList_eq_ok_iff.mpr specs), ?_⟩
        cases checked with
        | nil => exact absurd (List.forall₂_nil_right_iff.mp specs) nonempty
        | cons t ts => rfl

theorem selectTargets_eq_error_iff :
    selectTargets given c = .error f ↔ given = [] ∧
      ((∃ raw, c.targets.find? (fun raw => Target.violations raw ≠ []) = some raw ∧
        f = ⟨"Invalid target in config file",
          [(Error.invalidDeclaration (Target.violations raw)).message]⟩) ∨
      c.targets = [] ∧
        f = ⟨"No targets given: pass --target or a config file with targets", []⟩) := by
  cases given with
  | cons t ts =>
    constructor
    · intro h
      cases h
    · rintro ⟨⟨⟩, -⟩
  | nil =>
    constructor
    · intro h
      refine ⟨rfl, ?_⟩
      rcases bind_eq_error_iff.mp h with failed | ⟨checked, valid, h⟩
      · obtain ⟨e, refused, rfl⟩ := during_eq_error_iff.mp failed
        obtain ⟨raw, found, rfl⟩ := Target.ofJsonList_eq_error_iff_find?.mp refused
        exact .inl ⟨raw, found, rfl⟩
      · have specs := Target.ofJsonList_eq_ok_iff.mp (during_eq_ok_iff.mp valid)
        cases checked with
        | nil =>
          cases h
          exact .inr ⟨List.forall₂_nil_right_iff.mp specs, rfl⟩
        | cons t ts => cases h
    · rintro ⟨-, ⟨raw, found, rfl⟩ | ⟨none_declared, rfl⟩⟩
      · have refused := Target.ofJsonList_eq_error_iff_find?.mpr ⟨raw, found, rfl⟩
        exact bind_eq_error_iff.mpr (.inl (during_eq_error_iff.mpr ⟨_, refused, rfl⟩))
      · refine bind_eq_error_iff.mpr (.inr ⟨[], during_eq_ok_iff.mpr ?_, rfl⟩)
        rw [Config.checkedTargets, none_declared]
        rfl

theorem Selects.ne_nil (h : Selects c given ids) : ids ≠ [] := by
  cases h with
  | given nonempty => exact nonempty
  | declared nonempty specs =>
    intro none_selected
    rw [List.map_eq_nil_iff.mp none_selected] at specs
    exact nonempty (List.forall₂_nil_right_iff.mp specs)

theorem select_eq_ok_iff :
    select files remarks s = .ok (ids, format) ↔
      ∃ c, Loads files s.config c ∧ Selects c s.targets ids ∧ format = s.format.getD c.format := by
  constructor
  · intro h
    obtain ⟨c, loaded, h⟩ := bind_eq_ok_iff.mp h
    obtain ⟨ids, selected, h⟩ := bind_eq_ok_iff.mp h
    cases h
    exact ⟨c, loadConfig_eq_ok_iff.mp loaded, selectTargets_eq_ok_iff.mp selected, rfl⟩
  · rintro ⟨c, loads, selects, rfl⟩
    refine bind_eq_ok_iff.mpr ⟨c, loadConfig_eq_ok_iff.mpr loads, ?_⟩
    exact bind_eq_ok_iff.mpr ⟨ids, selectTargets_eq_ok_iff.mpr selects, rfl⟩

theorem select_of_selects (loads : Loads files s.config c) (selects : Selects c s.targets ids) :
    select files remarks s = .ok (ids, s.format.getD c.format) :=
  select_eq_ok_iff.mpr ⟨c, loads, selects, rfl⟩

theorem select_eq_error_iff :
    select files remarks s = .error f ↔ loadConfig files remarks s.config = .error f ∨
      ∃ c, Loads files s.config c ∧ selectTargets s.targets c = .error f := by
  constructor
  · intro h
    rcases bind_eq_error_iff.mp h with unloaded | ⟨c, loaded, h⟩
    · exact .inl unloaded
    · refine .inr ⟨c, loadConfig_eq_ok_iff.mp loaded, ?_⟩
      rcases bind_eq_error_iff.mp h with unselected | ⟨ids, -, impossible⟩
      · exact unselected
      · cases impossible
  · rintro (unloaded | ⟨c, loads, unselected⟩)
    · exact bind_eq_error_iff.mpr (.inl unloaded)
    · refine bind_eq_error_iff.mpr (.inr ⟨c, loadConfig_eq_ok_iff.mpr loads, ?_⟩)
      exact bind_eq_error_iff.mpr (.inl unselected)

theorem select_ne_nil (selected : select files remarks s = .ok (ids, format)) : ids ≠ [] := by
  obtain ⟨c, -, selects, -⟩ := select_eq_ok_iff.mp selected
  exact selects.ne_nil

end RequestCode.Command
