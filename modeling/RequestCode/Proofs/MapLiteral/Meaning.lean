import RequestCode.Proofs.Catalog.Keys
import RequestCode.Proofs.Outgoing.Merge

/-!
# What map literals denote

Languages differ in what a map literal with repeated keys denotes, and a literal may be refused.
Whatever the language, such a literal does not carry its pairs. Main statements:
`carries_dictionary_iff`, `carries_record_iff` and `carries_distinct_iff`.
-/

namespace RequestCode.MapLiteral

/-- What a literal with these entries denotes: the value of every key, unless it is refused. -/
abbrev Meaning := List Param → Option (String → Option String)

/-- The keys differ, and the map has exactly the pairs. -/
def Carries (meaning : Meaning) (ps : List Param) : Prop :=
  (ps.map (·.name)).Nodup ∧ ∃ m, meaning ps = some m ∧ ∀ p, p ∈ ps ↔ m p.name = some p.value

def lastValue? (ps : List Param) (name : String) : Option String :=
  (ps.reverse.find? (·.name = name)).map (·.value)

/-- Of a repeated key the last value counts. -/
def dictionary : Meaning := fun ps => some (lastValue? ps)

def prototypeKey : String := "__proto__"

def recordValue? (ps : List Param) (name : String) : Option String :=
  if name = prototypeKey then none else lastValue? ps name

/-- Of a repeated key the last value counts. A text is no prototype, so it is dropped under the key
for it, which must not be repeated. -/
def record : Meaning := fun ps =>
  if 1 < occurrences prototypeKey ps then none else some (recordValue? ps)

def distinct : Meaning := fun ps =>
  if (ps.map (·.name)).Nodup then some (lastValue? ps) else none

variable {p : Param} {ps : List Param}

theorem mem_iff_lastValue? (h : (ps.map (·.name)).Nodup) (p : Param) :
    p ∈ ps ↔ lastValue? ps p.name = some p.value := by
  constructor
  · intro mem
    have distinct : (ps.reverse.map (·.name)).Nodup := by
      rwa [List.map_reverse, List.nodup_reverse]
    rw [lastValue?, find?_key_of_nodup distinct (List.mem_reverse.mpr mem)]
    rfl
  · intro found
    obtain ⟨q, hq, value⟩ := Option.map_eq_some_iff.mp found
    have name : q.name = p.name := by simpa using List.find?_some hq
    have same : q = p := by
      cases p
      cases q
      simp_all
    rw [← same]
    exact List.mem_reverse.mp (List.mem_of_find?_eq_some hq)

theorem carries_dictionary_iff : Carries dictionary ps ↔ (ps.map (·.name)).Nodup := by
  constructor
  · exact fun carries => carries.1
  · intro distinct
    exact ⟨distinct, lastValue? ps, rfl, mem_iff_lastValue? distinct⟩

theorem carries_distinct_iff : Carries distinct ps ↔ (ps.map (·.name)).Nodup := by
  constructor
  · exact fun carries => carries.1
  · intro distinct
    exact ⟨distinct, lastValue? ps, if_pos distinct, mem_iff_lastValue? distinct⟩

theorem carries_record_iff :
    Carries record ps ↔ (ps.map (·.name)).Nodup ∧ ∀ p ∈ ps, p.name ≠ prototypeKey := by
  constructor
  · rintro ⟨distinct, m, denoted, pairs⟩
    refine ⟨distinct, ?_⟩
    intro p mem named
    have once := nodup_names_iff.mp distinct prototypeKey
    rw [record, if_neg (Nat.not_lt_of_le once)] at denoted
    cases denoted
    have value := (pairs p).mp mem
    rw [recordValue?, if_pos named] at value
    contradiction
  · rintro ⟨distinct, others⟩
    have once := nodup_names_iff.mp distinct prototypeKey
    refine ⟨distinct, _, if_neg (Nat.not_lt_of_le once), ?_⟩
    intro p
    unfold recordValue?
    by_cases named : p.name = prototypeKey
    · rw [if_pos named]
      constructor
      · intro mem
        exact absurd named (others p mem)
      · intro impossible
        contradiction
    · rw [if_neg named]
      exact mem_iff_lastValue? distinct p

end RequestCode.MapLiteral
