import RequestCode.Command.Arguments

/-!
# What arguments say

Arguments that are read as a command spell its options with their values, in order. Main
statements: `spells_of_readOptions`, and `single_of_read`, which says what becomes of the options of
a command that renders one request.
-/

namespace RequestCode.Command

/-- The arguments spell the options with their values, each as one argument or as two. Two hyphens
may stand at the end. -/
inductive Spells : List String → Values → Prop
  | nil : Spells [] []
  | ended : Spells ["--"] []
  | attached {name value args given} : '=' ∉ name.toList → Spells args given →
      Spells (("--" ++ name ++ "=" ++ value) :: args) ((name, value) :: given)
  | separate {name value args given} : '=' ∉ name.toList → isHyphenated value = false →
      Spells args given → Spells (("--" ++ name) :: value :: args) ((name, value) :: given)

variable {arg name value : String} {args : List String} {flags : List Flag} {seen vs : Values}

theorem eq_of_option?_attached (h : option? arg = some (name, some value)) :
    arg = "--" ++ name ++ "=" ++ value ∧ '=' ∉ name.toList := by
  unfold option? at h
  split at h
  · rename_i r hr
    cases cut : Text.cutFirst '=' r with
    | none => simp [cut] at h
    | some p =>
      obtain ⟨front, back⟩ := p
      simp only [cut, Option.some.injEq, Prod.mk.injEq] at h
      obtain ⟨rfl, rfl⟩ := h
      refine ⟨?_, by simpa using Text.not_mem_of_cutFirst cut⟩
      rw [← String.toList_inj, hr, Text.eq_of_cutFirst cut]
      simp
  · cases h

theorem eq_of_option?_plain (h : option? arg = some (name, none)) :
    arg = "--" ++ name ∧ '=' ∉ name.toList := by
  unfold option? at h
  split at h
  · rename_i r hr
    cases cut : Text.cutFirst '=' r with
    | none =>
      simp only [cut, Option.some.injEq, Prod.mk.injEq, and_true] at h
      subst h
      refine ⟨?_, by simpa using Text.cutFirst_eq_none.mp cut⟩
      rw [← String.toList_inj, hr]
      simp
    | some p => simp [cut] at h
  · cases h

theorem spells_of_readOptions (h : readOptions flags seen args = .done vs) :
    ∃ given, Spells args given ∧ vs = seen ++ given := by
  fun_induction readOptions flags seen args with
  | case1 seen =>
    cases h
    exact ⟨[], .nil, (List.append_nil _).symm⟩
  | case4 seen arg rest option last =>
    cases h
    obtain ⟨rfl, -⟩ := eq_of_option?_plain option
    rw [List.isEmpty_iff.mp last]
    exact ⟨[], .ended, (List.append_nil _).symm⟩
  | case9 seen arg name _ f value rest _ _ _ option ih =>
    obtain ⟨given, spelled, rfl⟩ := ih h
    obtain ⟨rfl, bare⟩ := eq_of_option?_attached option
    exact ⟨(name, value) :: given, .attached bare spelled, by simp⟩
  | case13 seen arg name _ f value rest _ admitted _ option ih =>
    obtain ⟨given, spelled, rfl⟩ := ih h
    obtain ⟨rfl, bare⟩ := eq_of_option?_plain option
    rw [Bool.not_eq_true, Bool.or_eq_false_iff] at admitted
    exact ⟨(name, value) :: given, .separate bare admitted.1 spelled, by simp⟩
  | _ => cases h

/-- What a command that renders one request takes from the options that its arguments spell. -/
theorem single_of_read {r : Single} (h : read ("generate" :: args) = some (.single r)) :
    ∃ given, Spells args given ∧ given.first? "url" = some r.url ∧
      r.method = (given.first? "method").getD "GET" ∧ r.headers = given.all "header" ∧
      r.query = given.all "query" ∧ r.body = given.first? "body" ∧
      r.selection = given.selection := by
  have options : finish (readOptions singleFlags [] args) single? = some (.single r) := h
  cases read_options : readOptions singleFlags [] args with
  | help =>
    rw [read_options] at options
    cases options
  | invalid =>
    rw [read_options] at options
    cases options
  | done vs =>
    obtain ⟨given, spelled, same⟩ := spells_of_readOptions read_options
    rw [read_options, same, List.nil_append] at options
    obtain ⟨url, url_given, made⟩ := Option.map_eq_some_iff.mp options
    cases made
    exact ⟨given, spelled, url_given, rfl, rfl, rfl, rfl, rfl⟩

end RequestCode.Command
