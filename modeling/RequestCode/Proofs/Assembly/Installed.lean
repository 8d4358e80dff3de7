import RequestCode.Proofs.Highlighting.History
import RequestCode.Proofs.Target.Declaration

/-!
# What a list of declarations installs

Declarations that are all valid give a host one generator each, behind the generators it has, and
after loading a highlighting that was offered the grammar of each. Main statement:
`installs_each_declaration`.
-/

namespace RequestCode

/-- The entry is kept under the identifier of the target, with its title and its grammar. -/
structure Target.Describes (t : Target) (entry : String × Generator) : Prop where
  key_eq : entry.1 = t.id
  title_eq : entry.2.title = t.title
  grammar_eq : entry.2.grammar = t.grammar

namespace Assembly

open Highlighting

variable {declared : List Json} {a : Assembly} {e : Error} {actions : List Action}

theorem ofJson_eq_ok_iff :
    ofJson declared = .ok a ↔
      List.Forall₂ (fun raw t => Target.ofJson raw = .ok t) declared a.targets := by
  rw [ofJson, map_eq_ok_iff, ← Target.ofJsonList_eq_ok_iff]
  constructor
  · rintro ⟨targets, checked, rfl⟩
    exact checked
  · intro checked
    exact ⟨a.targets, checked, rfl⟩

theorem ofJson_eq_error_iff :
    ofJson declared = .error e ↔ Target.ofJsonList declared = .error e := by
  unfold ofJson
  cases Target.ofJsonList declared <;> simp [Except.map]

def added (a : Assembly) : List (String × Generator) := a.targets.map fun t => (t.id, .ofTarget t)

theorem toList_generators (a : Assembly) (base : Collection) :
    (a.generators base).toList = base.toList ++ a.added :=
  base.toList_append _

theorem describes_added (checked : ofJson declared = .ok a) :
    List.Forall₂ (fun raw entry => ∃ t, Target.ofJson raw = .ok t ∧ t.Describes entry)
      declared a.added := by
  rw [added, List.forall₂_map_right_iff]
  refine (ofJson_eq_ok_iff.mp checked).imp ?_
  intro raw t valid
  exact ⟨t, valid, rfl, rfl, rfl⟩

theorem grammar_mem_of_mem_added {entry : String × Generator} (h : entry ∈ a.added) :
    entry.2.grammar ∈ a.targets.map (·.grammar) := by
  obtain ⟨t, mem, rfl⟩ := List.mem_map.mp h
  exact List.mem_map_of_mem mem

def loadedNames (a : Assembly) : List String := defaultNames ++ a.targets.map (·.grammar)

theorem afterLoad_eq_offerAll (a : Assembly) (h : Highlighting) :
    a.afterLoad h = h.offerAll a.loadedNames :=
  perform_eq_offerAll h (.afterLoad a)

theorem remembers_afterLoad (a : Assembly) (actions : List Action) :
    Remembers (a.afterLoad (run actions)) (offers actions ++ a.loadedNames) := by
  rw [afterLoad_eq_offerAll]
  exact (remembers_run actions).offerAll a.loadedNames

/-- Declarations are refused with the error of the first invalid one, whether they come alone or
with settings. If all are valid, each adds one entry behind those of the host, and loading leaves
the grammars of all entries registered, whatever the highlighting was offered before: those that
are known have been passed on, and no name twice. -/
theorem installs_each_declaration (declared : List Json) :
    (∀ e, ofJson declared = .error e ↔
      ∃ before raw after, declared = before ++ raw :: after ∧
        (∀ b ∈ before, ∃ t, Target.ofJson b = .ok t) ∧ Target.ofJson raw = .error e) ∧
    ((∃ e, ofJson declared = .error e) ↔
      ∃ raw ∈ declared, ∃ e, Target.ofJson raw = .error e) ∧
    (∀ raw e, Target.ofJson raw = .error e ↔
      Target.violations raw ≠ [] ∧ e = .invalidDeclaration (Target.violations raw)) ∧
    (∀ c : Config, c.targets = declared →
      ofConfig c = ofJson declared ∧ c.checkedTargets = (ofConfig c).map (·.targets)) ∧
    ∀ a, ofJson declared = .ok a →
      ∃ added, List.Forall₂
          (fun raw entry => ∃ t, Target.ofJson raw = .ok t ∧ t.Describes entry) declared added ∧
        (∀ base, (a.generators base).toList = base.toList ++ added) ∧
        ∀ actions,
          (∀ entry ∈ added,
            (a.afterLoad (run actions)).isOffered entry.2.grammar = true ∧
            ((∃ call ∈ (a.afterLoad (run actions)).calls, call.1 = entry.2.grammar) ↔
              isKnown entry.2.grammar = true)) ∧
          ((a.afterLoad (run actions)).calls.map Prod.fst).Nodup ∧
          (run actions).calls <+: (a.afterLoad (run actions)).calls := by
  refine ⟨?_, ?_, fun raw e => Target.ofJson_eq_error_iff, ?_, ?_⟩
  · intro e
    rw [ofJson_eq_error_iff, Target.ofJsonList_eq_error_iff]
  · simp only [ofJson_eq_error_iff]
    exact Target.ofJsonList_fails_iff
  · rintro c rfl
    refine ⟨rfl, ?_⟩
    unfold Config.checkedTargets ofConfig ofJson
    cases Target.ofJsonList c.targets <;> rfl
  · intro a checked
    refine ⟨a.added, describes_added checked, a.toList_generators, ?_⟩
    intro actions
    have r := a.remembers_afterLoad actions
    refine ⟨?_, r.nodup_calls, ?_⟩
    · intro entry mem
      have offered : entry.2.grammar ∈ offers actions ++ a.loadedNames :=
        List.mem_append_right _ (List.mem_append_right _ (grammar_mem_of_mem_added mem))
      refine ⟨(r.offered _).mpr offered, ?_⟩
      rw [r.told_iff]
      exact and_iff_right offered
    · rw [afterLoad_eq_offerAll]
      exact calls_offerAll (remembers_run actions) _

def sampleDeclared : List Json :=
  [.object [("target", .string "node_axios")],
    .object [("target", .string "shell_"), ("title", .null), ("syntax", .string "cobol")],
    .object [("target", .string "node_axios"), ("title", .string "")]]

def sampleAssembly : Assembly where
  targets := [⟨"node_axios", "node (axios)", "javascript"⟩, ⟨"shell_", "shell", "cobol"⟩,
    ⟨"node_axios", "node (axios)", "javascript"⟩]

theorem installs_each_declaration_sample :
    ofJson sampleDeclared = .ok sampleAssembly ∧
    ∃ added, (∀ base, (sampleAssembly.generators base).toList = base.toList ++ added) ∧
      added.length = 3 ∧
      ((sampleAssembly.afterLoad (run [.offer "js"])).calls.map Prod.fst).Nodup := by
  have checked : ofJson sampleDeclared = .ok sampleAssembly := by decide +kernel
  obtain ⟨-, -, -, -, installed⟩ := installs_each_declaration sampleDeclared
  obtain ⟨added, described, listed, loaded⟩ := installed sampleAssembly checked
  exact ⟨checked, added, listed, described.length_eq.symm, (loaded _).2.1⟩

end Assembly

end RequestCode
