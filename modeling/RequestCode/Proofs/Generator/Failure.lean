import RequestCode.Proofs.Catalog.LineBreak
import RequestCode.Proofs.Generator.Live
import RequestCode.Proofs.Generator.Lookup

/-!
# Failures of generators

A generator gives the failure text exactly for a request without an absolute URL and for a target
that does not resolve. No snippet is equal to that text, since a snippet ends with a line break.
-/

namespace RequestCode.Generator

variable {t : Target} {s : Source} {content : String}

theorem run_of_ok (h : liveSnippet t.id s = .ok content) : (ofTarget t).run s = content := by
  simp [ofTarget, h]

theorem run_of_error {e : Error} (h : liveSnippet t.id s = .error e) :
    (ofTarget t).run s = failureText := by
  simp [ofTarget, h]

theorem ne_failureText_of_liveSnippet {id : String} (h : liveSnippet id s = .ok content) :
    content ≠ failureText := by
  rintro rfl
  obtain ⟨u, r, target, -, -, -, rendered⟩ := liveSnippet_eq_ok_iff.mp h
  have broken := Outgoing.getLast?_of_convert_eq_ok rendered
  have unbroken : failureText.toList.getLast? = some 'e' := by decide
  rw [unbroken] at broken
  exact absurd broken (by decide)

theorem run_eq_failureText_iff :
    (ofTarget t).run s = failureText ↔ ∃ e, liveSnippet t.id s = .error e := by
  constructor
  · intro failed
    cases h : liveSnippet t.id s with
    | error e => exact ⟨e, rfl⟩
    | ok content =>
      rw [run_of_ok h] at failed
      exact absurd failed (ne_failureText_of_liveSnippet h)
  · rintro ⟨e, h⟩
    exact run_of_error h

/-- If the URL can be read again after it is written, nothing but the URL and the target decides
about failure. -/
theorem liveSnippet_fails_iff {id : String}
    (again : ∀ u, Url.read (fieldText s "url") = .ok u → ∃ v, Url.read u.text = .ok v) :
    (∃ e, liveSnippet id s = .error e) ↔
      (∃ cause, Url.read (fieldText s "url") = .error cause) ∨ resolve? id = none := by
  simp only [liveSnippet_eq_error_iff]
  constructor
  · rintro ⟨e, ⟨cause, h, -⟩ | ⟨u, h, ⟨cause, hcause, -⟩ | ⟨v, -, unknown, -⟩⟩⟩
    · exact .inl ⟨cause, h⟩
    · obtain ⟨v, hv⟩ := again u h
      rw [hv] at hcause
      cases hcause
    · exact .inr unknown
  · rintro (⟨cause, h⟩ | unknown)
    · exact ⟨_, .inl ⟨cause, h, rfl⟩⟩
    · cases h : Url.read (fieldText s "url") with
      | error cause => exact ⟨_, .inl ⟨cause, rfl, rfl⟩⟩
      | ok u =>
        obtain ⟨v, hv⟩ := again u h
        exact ⟨_, .inr ⟨u, rfl, .inr ⟨v, hv, unknown, rfl⟩⟩⟩

theorem run_congr {t' : Target} (h : t.id = t'.id) : (ofTarget t).run = (ofTarget t').run := by
  funext s
  simp only [ofTarget, h]

end RequestCode.Generator

namespace RequestCode.Collection

variable {t : Target} {targets : List Target}

theorem toList_extend (c : Collection) (targets : List Target) :
    (c.extend targets).toList = c.toList ++ targets.map fun t => (t.id, .ofTarget t) :=
  toList_append c _

/-- Under the identifier of a target stands a generator that renders what its own would. -/
theorem get?_extend_of_mem (c : Collection) (h : t ∈ targets) :
    ∃ g, (c.extend targets).get? t.id = some g ∧ g.run = (Generator.ofTarget t).run := by
  have keyed : t.id ∈ (targets.map fun t => (t.id, Generator.ofTarget t)).map Prod.fst :=
    List.mem_map_of_mem (List.mem_map_of_mem h)
  obtain ⟨g, hg, found⟩ := get?_append_of_mem (c := c) keyed
  obtain ⟨t', -, heq⟩ := List.mem_map.mp hg
  obtain ⟨same, rfl⟩ := Prod.mk.inj heq
  exact ⟨_, found, Generator.run_congr same⟩

end RequestCode.Collection

namespace RequestCode.Generator

/-- A generator downgrades exactly two failures to its fixed text, never gives that text
otherwise, and works the same in whatever collection it stands. -/
theorem failure_exact (t : Target) (s : Source)
    (again : ∀ u, Url.read (fieldText s "url") = .ok u → ∃ v, Url.read u.text = .ok v) :
    ((ofTarget t).run s = failureText ↔
      (∃ cause, Url.read (fieldText s "url") = .error cause) ∨ resolve? t.id = none) ∧
    (∀ content, liveSnippet t.id s = .ok content →
      (ofTarget t).run s = content ∧ content ≠ failureText) ∧
    ∀ (c : Collection) (targets : List Target),
      (c.extend targets).toList = c.toList ++ targets.map (fun t => (t.id, ofTarget t)) ∧
      (t ∈ targets → ∃ g, (c.extend targets).get? t.id = some g ∧
        g.run s = (ofTarget t).run s) := by
  refine ⟨?_, ?_, ?_⟩
  · rw [run_eq_failureText_iff, liveSnippet_fails_iff again]
  · intro content h
    exact ⟨run_of_ok h, ne_failureText_of_liveSnippet h⟩
  · intro c targets
    refine ⟨c.toList_extend targets, fun h => ?_⟩
    obtain ⟨g, found, same⟩ := c.get?_extend_of_mem h
    exact ⟨g, found, congrFun same s⟩

theorem failure_exact_sample :
    (∀ u, Url.read (fieldText sampleRecord.source "url") = .ok u →
      ∃ v, Url.read u.text = .ok v) ∧
    (ofTarget ⟨"shell_curl", "", ""⟩).run sampleRecord.source ≠ failureText ∧
    (ofTarget ⟨"shell_", "", ""⟩).run sampleRecord.source = failureText := by
  have again : ∀ u, Url.read (fieldText sampleRecord.source "url") = .ok u →
      ∃ v, Url.read u.text = .ok v := by
    intro u h
    rw [read_sampleRecord] at h
    cases h
    exact ⟨_, read_text_sampleLiveUrl⟩
  refine ⟨again, ?_, ?_⟩
  · intro failed
    rcases (failure_exact _ _ again).1.mp failed with ⟨cause, h⟩ | unknown
    · rw [read_sampleRecord] at h
      cases h
    · exact absurd unknown (by decide)
  · exact (failure_exact _ _ again).1.mpr (.inr (by decide))

end RequestCode.Generator
