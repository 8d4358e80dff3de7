import RequestCode.Proofs.Catalog.Keys

/-!
# What identifiers name

An identifier is split at its first underscore in two ways: the resolver takes an empty rest for
the key of a client, while the parts of a target take it for none. Main statements:
`resolve?_eq_some_iff`, an identifier resolves exactly if it names a client of the catalog, and
`findClient_splitTarget_eq_ok_iff`, its parts lead to the same client, but they also do if it is a
language with a single underscore behind it.
-/

namespace RequestCode

open Text

/-- The identifier names the client: as the default one by the language alone, or by its key behind
the language and the first underscore. -/
inductive Names : String → Language → Client → Prop
  | default {l} : l ∈ Catalog.languages → Names l.key l l.default
  | client {l c} : l ∈ Catalog.languages → c ∈ l.clients → '_' ∉ l.key.toList →
      Names (l.key ++ "_" ++ c.key) l c

variable {id language rest : String} {library : Option String} {l : Language} {c : Client}

section Split

theorem cutTarget_append (first : '_' ∉ language.toList) (rest : String) :
    cutTarget (language ++ "_" ++ rest) = some (language, rest) := by
  have text : (language ++ "_" ++ rest).toList = language.toList ++ '_' :: rest.toList := by
    simp [String.toList_append]
  rw [cutTarget, text, cutFirst_append _ first]
  simp

theorem cutTarget_trailing (first : '_' ∉ language.toList) :
    cutTarget (language ++ "_") = some (language, "") := by
  simpa using cutTarget_append first ""

theorem cutTarget_eq_some_iff :
    cutTarget id = some (language, rest) ↔
      '_' ∉ language.toList ∧ id = language ++ "_" ++ rest := by
  constructor
  · intro h
    obtain ⟨⟨a, b⟩, cut, parts⟩ := Option.map_eq_some_iff.mp h
    cases parts
    refine ⟨by simpa using not_mem_of_cutFirst cut, ?_⟩
    rw [← String.toList_inj, eq_of_cutFirst cut]
    simp [String.toList_append]
  · rintro ⟨first, rfl⟩
    exact cutTarget_append first rest

theorem cutTarget_eq_none_iff : cutTarget id = none ↔ '_' ∉ id.toList := by
  rw [cutTarget, Option.map_eq_none_iff, cutFirst_eq_none]

/-- The language ends before the first underscore; behind it stands the library, if anything. -/
theorem splitTarget_eq_iff :
    splitTarget id = (language, library) ↔ '_' ∉ language.toList ∧
      (library = none ∧ (id = language ∨ id = language ++ "_") ∨
        ∃ named, library = some named ∧ named ≠ "" ∧ id = language ++ "_" ++ named) := by
  constructor
  · intro split
    cases cut : cutTarget id with
    | none =>
      rw [splitTarget, cut] at split
      cases split
      exact ⟨cutTarget_eq_none_iff.mp cut, .inl ⟨rfl, .inl rfl⟩⟩
    | some parts =>
      rw [splitTarget, cut] at split
      cases split
      obtain ⟨first, text⟩ := cutTarget_eq_some_iff.mp cut
      refine ⟨first, ?_⟩
      by_cases empty : parts.2 = ""
      · rw [empty, String.append_empty] at text
        exact .inl ⟨if_pos empty, .inr text⟩
      · exact .inr ⟨parts.2, if_neg empty, empty, text⟩
  · rintro ⟨first, ⟨rfl, rfl | rfl⟩ | ⟨named, rfl, nonempty, rfl⟩⟩
    · rw [splitTarget, cutTarget_eq_none_iff.mpr first]
    · rw [splitTarget, cutTarget_trailing first]
      rfl
    · rw [splitTarget, cutTarget_append first]
      exact congrArg _ (if_neg nonempty)

end Split

namespace Catalog

theorem underscore_not_mem_key (h : l ∈ languages) : '_' ∉ l.key.toList := by
  have all : ∀ key ∈ languages.map (·.key), '_' ∉ key.toList := by decide
  exact all _ (List.mem_map_of_mem h)

theorem client_key_ne_empty (h : l ∈ languages) (hc : c ∈ l.clients) : c.key ≠ "" := by
  have all : ∀ keys ∈ languages.map fun l => l.clients.map (·.key), "" ∉ keys := by decide
  intro empty
  exact all _ (List.mem_map_of_mem h) (empty ▸ List.mem_map_of_mem hc)

end Catalog

theorem resolveClient?_eq_some_iff :
    resolveClient? id = some (language, c) ↔ ∃ l, Names id l c ∧ l.key = language := by
  constructor
  · intro h
    unfold resolveClient? at h
    cases cut : cutTarget id with
    | none =>
      rw [cut] at h
      obtain ⟨l, found, same⟩ := Option.map_eq_some_iff.mp h
      cases same
      obtain ⟨mem, rfl⟩ := Catalog.find?_eq_some found
      exact ⟨l, .default mem, rfl⟩
    | some parts =>
      obtain ⟨first, rfl⟩ := cutTarget_eq_some_iff.mp cut
      simp only [cut, Option.bind_eq_bind, Option.bind_eq_some_iff, Option.pure_def,
        Option.some.injEq] at h
      obtain ⟨l, found, d, offered, same⟩ := h
      cases same
      obtain ⟨mem, key⟩ := Catalog.find?_eq_some found
      obtain ⟨hc, named⟩ := Language.client?_eq_some offered
      rw [← key] at first
      rw [← key, ← named]
      exact ⟨l, .client mem hc first, rfl⟩
  · rintro ⟨l, names, rfl⟩
    cases names with
    | default mem =>
      have uncut := cutTarget_eq_none_iff.mpr (Catalog.underscore_not_mem_key mem)
      simp [resolveClient?, uncut, Catalog.find?_key mem]
    | client mem offered first =>
      simp [resolveClient?, cutTarget_append first, Catalog.find?_key mem,
        Catalog.client?_key mem offered]

theorem findClient_eq_error {e : Error} (h : findClient language library = .error e) :
    ∃ name, e = .unknownTarget name := by
  unfold findClient at h
  split at h
  · cases h
    exact ⟨_, rfl⟩
  · cases h
  · split at h
    · cases h
    · cases h
      exact ⟨_, rfl⟩

theorem Names.offered (h : Names id l c) : l ∈ Catalog.languages ∧ c ∈ l.clients := by
  cases h with
  | default mem => exact ⟨mem, List.mem_cons_self⟩
  | client mem offered => exact ⟨mem, offered⟩

/-- The parts of an identifier that names a client are the keys by which it names it. -/
theorem Names.splitTarget_eq (h : Names id l c) :
    splitTarget id = (l.key, none) ∧ c = l.default ∨ splitTarget id = (l.key, some c.key) := by
  cases h with
  | default mem =>
    have first := Catalog.underscore_not_mem_key mem
    exact .inl ⟨splitTarget_eq_iff.mpr ⟨first, .inl ⟨rfl, .inl rfl⟩⟩, rfl⟩
  | client mem offered first =>
    have nonempty := Catalog.client_key_ne_empty mem offered
    exact .inr (splitTarget_eq_iff.mpr ⟨first, .inr ⟨c.key, rfl, nonempty, rfl⟩⟩)

theorem Names.findClient_splitTarget (h : Names id l c) :
    findClient (splitTarget id).1 (splitTarget id).2 = .ok c := by
  obtain ⟨mem, offered⟩ := h.offered
  rcases h.splitTarget_eq with ⟨split, rfl⟩ | split
  · rw [split]
    exact findClient_eq_ok_iff.mpr ⟨l, mem, rfl, offered, .inl ⟨rfl, rfl⟩⟩
  · rw [split]
    exact findClient_key mem offered

/-- The parts of an identifier lead to the client that it names, and those of a language with a
single underscore behind it to the default client. -/
theorem findClient_splitTarget_eq_ok_iff :
    findClient (splitTarget id).1 (splitTarget id).2 = .ok c ↔
      ∃ l, Names id l c ∨ l ∈ Catalog.languages ∧ id = l.key ++ "_" ∧ c = l.default := by
  constructor
  · rcases split : splitTarget id with ⟨language, library⟩
    rw [findClient_eq_ok_iff]
    rintro ⟨l, mem, rfl, offered, found⟩
    obtain ⟨first, parts⟩ := splitTarget_eq_iff.mp split
    refine ⟨l, ?_⟩
    rcases found with ⟨rfl, rfl⟩ | rfl
    · rcases parts with ⟨-, rfl | rfl⟩ | ⟨named, absent, -⟩
      · exact .inl (.default mem)
      · exact .inr ⟨mem, rfl, rfl⟩
      · cases absent
    · rcases parts with ⟨absent, -⟩ | ⟨named, ⟨⟩, -, rfl⟩
      · cases absent
      · exact .inl (.client mem offered first)
  · rintro ⟨l, names | ⟨mem, rfl, rfl⟩⟩
    · exact names.findClient_splitTarget
    · have split : splitTarget (l.key ++ "_") = (l.key, none) :=
        splitTarget_eq_iff.mpr ⟨Catalog.underscore_not_mem_key mem, .inl ⟨rfl, .inr rfl⟩⟩
      rw [split]
      exact findClient_eq_ok_iff.mpr ⟨l, mem, rfl, List.mem_cons_self, .inl ⟨rfl, rfl⟩⟩

theorem resolve?_eq_some_iff {t : Resolved} :
    resolve? id = some t ↔ ∃ l c, Names id l c ∧
      t = ⟨capitalize l.key ++ " + " ++ capitalize c.key, l.key, c.key⟩ := by
  rw [resolve?, Option.map_eq_some_iff]
  constructor
  · rintro ⟨⟨language, c⟩, found, rfl⟩
    obtain ⟨l, names, rfl⟩ := resolveClient?_eq_some_iff.mp found
    exact ⟨l, c, names, rfl⟩
  · rintro ⟨l, c, names, rfl⟩
    exact ⟨_, resolveClient?_eq_some_iff.mpr ⟨l, names, rfl⟩, rfl⟩

theorem resolve?_of_trailing (h : l ∈ Catalog.languages) : resolve? (l.key ++ "_") = none := by
  have nameless : l.client? "" = none := by
    cases offered : l.client? "" with
    | none => rfl
    | some c =>
      obtain ⟨hc, empty⟩ := Language.client?_eq_some offered
      exact absurd empty (Catalog.client_key_ne_empty h hc)
  have cut := cutTarget_trailing (Catalog.underscore_not_mem_key h)
  simp [resolve?, resolveClient?, cut, Catalog.find?_key h, nameless]

end RequestCode
