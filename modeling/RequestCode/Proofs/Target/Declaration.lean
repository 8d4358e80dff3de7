import RequestCode.Proofs.Traversal
import RequestCode.Target

/-!
# Declared targets

When a declaration is a target, and what checking a list of declarations gives. Main statements:
`ofJson_eq_error_iff`, a declaration is refused for exactly the rules it breaks, and
`ofJsonList_eq_error_iff`, the first declaration that is refused gives the error of a list.
-/

namespace RequestCode.Target

variable {raw : Json} {declared : List Json} {targets : List Target} {e : Error}

theorem id_of_violations_eq_nil (h : violations raw = []) :
    ∃ id, (raw.member? "target").bind Json.text? = some id := by
  cases found : (raw.member? "target").bind Json.text? with
  | none => simp [violations, found] at h
  | some id => exact ⟨id, rfl⟩

theorem ofJson_eq_error_iff :
    ofJson raw = .error e ↔ violations raw ≠ [] ∧ e = .invalidDeclaration (violations raw) := by
  cases broken : violations raw with
  | nil =>
    obtain ⟨id, found⟩ := id_of_violations_eq_nil broken
    simp [ofJson, found, broken]
  | cons v vs =>
    cases found : (raw.member? "target").bind Json.text? <;>
      simp [ofJson, found, broken, eq_comm]

theorem ofJson_isOk_iff : (∃ t, ofJson raw = .ok t) ↔ violations raw = [] := by
  cases h : ofJson raw with
  | error e => simp [(ofJson_eq_error_iff.mp h).1]
  | ok t =>
    refine ⟨fun _ => Classical.byContradiction fun broken => ?_, fun _ => ⟨t, rfl⟩⟩
    rw [ofJson_eq_error_iff.mpr ⟨broken, rfl⟩] at h
    cases h

theorem ofJsonList_eq_ok_iff :
    ofJsonList declared = .ok targets ↔
      List.Forall₂ (fun raw t => ofJson raw = .ok t) declared targets :=
  mapM_eq_ok_iff

theorem ofJsonList_eq_error_iff :
    ofJsonList declared = .error e ↔
      ∃ before raw after, declared = before ++ raw :: after ∧
        (∀ b ∈ before, ∃ t, ofJson b = .ok t) ∧ ofJson raw = .error e :=
  mapM_eq_error_iff

/-- The first declaration that breaks a rule decides. -/
theorem ofJsonList_eq_error_iff_find? :
    ofJsonList declared = .error e ↔
      ∃ raw, declared.find? (fun raw => violations raw ≠ []) = some raw ∧
        e = .invalidDeclaration (violations raw) := by
  have fails (raw : Json) : decide (violations raw ≠ []) = true ↔ ∃ e, ofJson raw = .error e := by
    simp [ofJson_eq_error_iff]
  rw [ofJsonList, mapM_eq_error_iff_find? fails]
  constructor
  · rintro ⟨raw, found, failed⟩
    exact ⟨raw, found, (ofJson_eq_error_iff.mp failed).2⟩
  · rintro ⟨raw, found, rfl⟩
    have broken : violations raw ≠ [] := by simpa using List.find?_some found
    exact ⟨raw, found, ofJson_eq_error_iff.mpr ⟨broken, rfl⟩⟩

theorem ofJsonList_fails_iff :
    (∃ e, ofJsonList declared = .error e) ↔ ∃ raw ∈ declared, ∃ e, ofJson raw = .error e :=
  mapM_fails_iff

end RequestCode.Target
