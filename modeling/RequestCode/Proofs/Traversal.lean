import Mathlib.Data.List.Forall2

/-!
# Traversals that may fail

What success and failure of a computation say about its steps. A list is traversed from the left,
and the first failure is the result. Main statements: `mapM_eq_ok_iff` and `mapM_eq_error_iff` say
when a traversal succeeds, when it fails, and how.
-/

namespace RequestCode

variable {α β ε : Type} {f : α → Except ε β} {s : List α}

theorem bind_eq_ok_iff {x : Except ε α} {b : β} :
    (x >>= f) = .ok b ↔ ∃ a, x = .ok a ∧ f a = .ok b := by
  cases x <;> simp [bind, Except.bind]

theorem bind_eq_error_iff {x : Except ε α} {e : ε} :
    (x >>= f) = .error e ↔ x = .error e ∨ ∃ a, x = .ok a ∧ f a = .error e := by
  cases x <;> simp [bind, Except.bind]

theorem map_eq_ok_iff {g : α → β} {x : Except ε α} {b : β} :
    x.map g = .ok b ↔ ∃ a, x = .ok a ∧ g a = b := by
  cases x <;> simp [Except.map]

theorem map_eq_error_iff {g : α → β} {x : Except ε α} {e : ε} :
    x.map g = .error e ↔ x = .error e := by
  cases x <;> simp [Except.map]

theorem mapM_eq_ok_iff {t : List β} :
    s.mapM f = .ok t ↔ List.Forall₂ (fun a b => f a = .ok b) s t := by
  induction s generalizing t with
  | nil => cases t <;> simp [pure, Except.pure]
  | cons a s ih =>
    rw [List.mapM_cons]
    cases h : f a with
    | error e => cases t <;> simp [bind, Except.bind, h]
    | ok b =>
      cases hs : s.mapM f with
      | error e => cases t <;> simp [bind, Except.bind, h, hs, ← ih]
      | ok bs => cases t <;> simp [bind, Except.bind, pure, Except.pure, h, hs, ← ih]

theorem mapM_eq_error_iff {e : ε} :
    s.mapM f = .error e ↔
      ∃ before a after, s = before ++ a :: after ∧ (∀ b ∈ before, ∃ c, f b = .ok c) ∧
        f a = .error e := by
  induction s with
  | nil => simp [pure, Except.pure]
  | cons a s ih =>
    rw [List.mapM_cons]
    cases h : f a with
    | error d =>
      constructor
      · intro heq
        exact ⟨[], a, s, rfl, by simp, by simpa [bind, Except.bind, h] using heq⟩
      · rintro ⟨before, b, after, heq, hok, hb⟩
        cases before with
        | nil => simp_all [bind, Except.bind]
        | cons c before =>
          obtain ⟨rfl, -⟩ := List.cons.inj heq
          simp [h] at hok
    | ok v =>
      have hrest : (do let b ← Except.ok v; let bs ← s.mapM f; pure (b :: bs) : Except ε (List β)) =
          .error e ↔ s.mapM f = .error e := by
        cases s.mapM f <;> simp [bind, Except.bind, pure, Except.pure]
      rw [hrest, ih]
      constructor
      · rintro ⟨before, b, after, rfl, hok, hb⟩
        exact ⟨a :: before, b, after, rfl, by simpa [h] using hok, hb⟩
      · rintro ⟨before, b, after, heq, hok, hb⟩
        cases before with
        | nil => simp_all
        | cons c before =>
          obtain ⟨rfl, rfl⟩ := List.cons.inj heq
          exact ⟨before, b, after, rfl, fun d hd => hok d (List.mem_cons_of_mem a hd), hb⟩

/-- Where it can be told which elements fail, the error is that of the first of them. -/
theorem mapM_eq_error_iff_find? {failing : α → Bool}
    (h : ∀ a, failing a = true ↔ ∃ e, f a = .error e) {e : ε} :
    s.mapM f = .error e ↔ ∃ a, s.find? failing = some a ∧ f a = .error e := by
  have succeeds (a : α) : (∃ c, f a = .ok c) ↔ failing a = false := by
    rw [← Bool.not_eq_true, h]
    cases f a <;> simp
  rw [mapM_eq_error_iff]
  constructor
  · rintro ⟨before, a, after, rfl, passed, failed⟩
    refine ⟨a, List.find?_eq_some_iff_append.mpr ⟨(h a).mpr ⟨e, failed⟩, before, after, rfl, ?_⟩,
      failed⟩
    intro b mem
    rw [(succeeds b).mp (passed b mem)]
    rfl
  · rintro ⟨a, found, failed⟩
    obtain ⟨-, before, after, rfl, passed⟩ := List.find?_eq_some_iff_append.mp found
    exact ⟨before, a, after, rfl, fun b mem => (succeeds b).mpr (by simpa using passed b mem),
      failed⟩

theorem mapM_fails_iff : (∃ e, s.mapM f = .error e) ↔ ∃ a ∈ s, ∃ e, f a = .error e := by
  constructor
  · rintro ⟨e, h⟩
    obtain ⟨before, a, after, rfl, -, failed⟩ := mapM_eq_error_iff.mp h
    exact ⟨a, by simp, e, failed⟩
  · rintro ⟨a, mem, e, failed⟩
    induction s with
    | nil => cases mem
    | cons b s ih =>
      rw [List.mapM_cons]
      cases hb : f b with
      | error d => exact ⟨d, rfl⟩
      | ok c =>
        have later : a ∈ s := by
          rcases List.mem_cons.mp mem with rfl | later
          · rw [failed] at hb
            cases hb
          · exact later
        obtain ⟨d, hd⟩ := ih later
        exact ⟨d, by rw [hd]; rfl⟩

/-- Where each step gives the image of something, the traversal gives the image of a list. -/
theorem forall₂_iff_exists_map {γ : Type} {R : α → β → Prop} {S : α → γ → Prop} {g : γ → β}
    (h : ∀ a b, R a b ↔ ∃ c, S a c ∧ b = g c) {t : List β} :
    List.Forall₂ R s t ↔ ∃ u, List.Forall₂ S s u ∧ t = u.map g := by
  constructor
  · intro all
    induction all with
    | nil => exact ⟨[], .nil, rfl⟩
    | cons first _ ih =>
      obtain ⟨c, hc, rfl⟩ := (h _ _).mp first
      obtain ⟨u, hu, rfl⟩ := ih
      exact ⟨c :: u, .cons hc hu, rfl⟩
  · rintro ⟨u, all, rfl⟩
    exact List.forall₂_map_right_iff.mpr (all.imp fun a c hc => (h a (g c)).mpr ⟨c, hc, rfl⟩)

theorem mapM_eq_pure {m : Type → Type} [Monad m] [LawfulMonad m] {f : α → m β} {g : α → β}
    (h : ∀ a ∈ s, f a = pure (g a)) : s.mapM f = pure (s.map g) := by
  induction s with
  | nil => rfl
  | cons a s ih =>
    rw [List.forall_mem_cons] at h
    rw [List.mapM_cons, h.1, ih h.2, pure_bind, pure_bind, List.map_cons]

end RequestCode
