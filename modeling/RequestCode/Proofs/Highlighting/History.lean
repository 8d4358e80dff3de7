import Mathlib.Data.List.Induction
import Mathlib.Data.List.Nodup
import RequestCode.Assembly

/-!
# What a highlighter is told

Names reach a highlighting one by one, in lists, and with the targets of assemblies. Whatever
happens to it, its highlighter has been told the distinct names that were offered and have a known
grammar, in the order in which they first came. Main statement: `highlighter_told_once`.
-/

namespace RequestCode.Highlighting

inductive Action where
  | offer (name : String)
  | load (names : List String)
  | afterLoad (a : Assembly)

def Action.names : Action → List String
  | offer name => [name]
  | load names => defaultNames ++ names
  | afterLoad a => defaultNames ++ a.targets.map (·.grammar)

def Action.perform (h : Highlighting) : Action → Highlighting
  | offer name => (h.offer name).2
  | load names => h.load names
  | afterLoad a => a.afterLoad h

def run (actions : List Action) : Highlighting := actions.foldl Action.perform ∅

def offers (actions : List Action) : List String := actions.flatMap Action.names

/-- The names whose grammar is known, each with its grammar. -/
def registrations (names : List String) : List (String × String) :=
  (names.filter isKnown).map fun name => (name, grammarFor name)

/-- What has become of a highlighting that was offered the names. -/
structure Remembers (h : Highlighting) (names : List String) : Prop where
  offered : ∀ name, h.isOffered name = true ↔ name ∈ names
  calls : h.calls = registrations names.eraseDups

variable {h : Highlighting} {name : String} {names more : List String} {actions : List Action}

theorem eraseDups_concat (names : List String) (name : String) :
    (names ++ [name]).eraseDups =
      if name ∈ names then names.eraseDups else names.eraseDups ++ [name] := by
  rw [List.eraseDups_append]
  by_cases old : name ∈ names
  · simp [old, List.removeAll]
  · simp [old, List.removeAll, List.eraseDups_cons]

theorem nodup_eraseDups (names : List String) : names.eraseDups.Nodup := by
  induction names using List.reverseRecOn with
  | nil => exact .nil
  | append_singleton names name ih =>
    rw [eraseDups_concat]
    by_cases old : name ∈ names
    · rwa [if_pos old]
    · rw [if_neg old, List.nodup_append]
      refine ⟨ih, List.nodup_singleton name, ?_⟩
      intro a ha b hb same
      obtain rfl := List.mem_singleton.mp hb
      rw [same, List.mem_eraseDups] at ha
      exact old ha

theorem registrations_concat (names : List String) (name : String) :
    registrations (names ++ [name]) =
      registrations names ++ if isKnown name then [(name, grammarFor name)] else [] := by
  by_cases known : isKnown name = true
  · simp [registrations, known]
  · simp [registrations, known]

theorem offer_of_isOffered (old : h.isOffered name = true) : h.offer name = (false, h) := by
  rw [offer, if_pos old]

theorem calls_offer_of_not_isOffered (fresh : ¬ h.isOffered name = true) :
    (h.offer name).2.calls =
      h.calls ++ if isKnown name then [(name, grammarFor name)] else [] := by
  rw [offer, if_neg fresh]
  by_cases known : isKnown name = true
  · rw [if_pos known, if_pos known]
  · rw [if_neg known, if_neg known, List.append_nil]

theorem told_offer_iff :
    (h.offer name).1 = true ↔ ¬ h.isOffered name = true ∧ isKnown name = true := by
  by_cases old : h.isOffered name = true
  · simp [offer_of_isOffered old, old]
  · rw [offer, if_neg old]
    by_cases known : isKnown name = true
    · simp [old, known]
    · simp [known]

theorem remembers_empty : Remembers ∅ [] := by
  refine ⟨?_, rfl⟩
  intro name
  simp [isOffered, EmptyCollection.emptyCollection, empty]

namespace Remembers

theorem offer (r : Remembers h names) (name : String) :
    Remembers (h.offer name).2 (names ++ [name]) := by
  refine ⟨?_, ?_⟩
  · intro other
    rw [isOffered_offer, Bool.or_eq_true, beq_iff_eq, r.offered, List.mem_append,
      List.mem_singleton, or_comm, eq_comm]
  · rw [eraseDups_concat]
    by_cases old : name ∈ names
    · rw [if_pos old, offer_of_isOffered ((r.offered name).mpr old), r.calls]
    · have fresh : ¬ h.isOffered name = true := fun offered => old ((r.offered name).mp offered)
      rw [if_neg old, calls_offer_of_not_isOffered fresh, r.calls, registrations_concat]

theorem offerAll (r : Remembers h names) (more : List String) :
    Remembers (h.offerAll more) (names ++ more) := by
  induction more generalizing h names with
  | nil => rwa [List.append_nil]
  | cons name more ih =>
    have rest := ih (r.offer name)
    rwa [List.append_assoc] at rest

theorem offerAll_eq_self (r : Remembers h names) (old : ∀ name ∈ more, name ∈ names) :
    h.offerAll more = h := by
  induction more with
  | nil => rfl
  | cons name more ih =>
    rw [List.forall_mem_cons] at old
    have unchanged : (h.offer name).2 = h := by
      rw [offer_of_isOffered ((r.offered name).mpr old.1)]
    have first : h.offerAll (name :: more) = (h.offer name).2.offerAll more := rfl
    rw [first, unchanged, ih old.2]

end Remembers

theorem offerAll_append (h : Highlighting) (names more : List String) :
    h.offerAll (names ++ more) = (h.offerAll names).offerAll more :=
  List.foldl_append

/-- An action does no more than offer its names. -/
theorem perform_eq_offerAll (h : Highlighting) (a : Action) : a.perform h = h.offerAll a.names := by
  cases a with
  | offer name => rfl
  | load names => exact (offerAll_append h defaultNames names).symm
  | afterLoad a => exact (offerAll_append h defaultNames _).symm

theorem remembers_run (actions : List Action) : Remembers (run actions) (offers actions) := by
  induction actions using List.reverseRecOn with
  | nil => exact remembers_empty
  | append_singleton actions a ih =>
    have last : run (actions ++ [a]) = (run actions).offerAll a.names := by
      rw [run, List.foldl_append]
      exact perform_eq_offerAll _ a
    have offered : offers (actions ++ [a]) = offers actions ++ a.names := by
      simp [offers]
    rw [last, offered]
    exact ih.offerAll a.names

theorem perform_eq_self_of_mem {a : Action} (ha : a ∈ actions) :
    a.perform (run actions) = run actions := by
  rw [perform_eq_offerAll]
  apply (remembers_run actions).offerAll_eq_self
  intro name hname
  exact List.mem_flatMap.mpr ⟨a, ha, hname⟩

theorem map_fst_registrations (names : List String) :
    (registrations names).map Prod.fst = names.filter isKnown := by
  simp [registrations, Function.comp_def]

theorem Remembers.nodup_calls (r : Remembers h names) : (h.calls.map Prod.fst).Nodup := by
  rw [r.calls, map_fst_registrations]
  exact (nodup_eraseDups names).filter _

/-- The highlighter was told of exactly those names that were offered and have a known grammar. -/
theorem Remembers.told_iff (r : Remembers h names) :
    (∃ call ∈ h.calls, call.1 = name) ↔ name ∈ names ∧ isKnown name = true := by
  rw [← List.mem_map, r.calls, map_fst_registrations, List.mem_filter, List.mem_eraseDups]

theorem calls_offerAll (r : Remembers h names) (more : List String) :
    h.calls <+: (h.offerAll more).calls := by
  rw [r.calls, (r.offerAll more).calls, List.eraseDups_append]
  exact ((List.prefix_append _ _).filter isKnown).map _

/-- After any actions the highlighter has been told each name once that was offered and has a known
grammar, in order of first offer. Every name that was offered is remembered, a further one is
passed on if it is new and known, and an action that is repeated changes nothing. -/
theorem highlighter_told_once (actions : List Action) :
    (run actions).calls = registrations (offers actions).eraseDups ∧
    ((run actions).calls.map Prod.fst).Nodup ∧
    (∀ name, (run actions).isOffered name = true ↔ name ∈ offers actions) ∧
    (∀ name, ((run actions).offer name).1 = true ↔
      name ∉ offers actions ∧ isKnown name = true) ∧
    ∀ a ∈ actions, a.perform (run actions) = run actions := by
  have r := remembers_run actions
  refine ⟨r.calls, ?_, r.offered, ?_, fun a => perform_eq_self_of_mem⟩
  · rw [r.calls, map_fst_registrations]
    exact (nodup_eraseDups _).filter _
  · intro name
    rw [told_offer_iff, r.offered]

def sampleActions : List Action :=
  [.offer "cobol", .load ["javascript", "go", "go"], .afterLoad ⟨[⟨"cobol", "", "cobol"⟩]⟩]

theorem highlighter_told_once_sample :
    (run sampleActions).calls =
      [("json", "json"), ("js", "javascript"), ("xml", "xml"), ("yaml", "yaml"), ("http", "http"),
        ("bash", "bash"), ("powershell", "powershell"), ("javascript", "javascript"),
        ("go", "go")] ∧
      (run sampleActions).isOffered "cobol" = true ∧
      (Action.offer "cobol").perform (run sampleActions) = run sampleActions := by
  obtain ⟨calls, -, offered, -, repeated⟩ := highlighter_told_once sampleActions
  refine ⟨calls.trans (by decide +kernel), (offered "cobol").mpr (by decide +kernel), ?_⟩
  exact repeated _ List.mem_cons_self

end RequestCode.Highlighting
