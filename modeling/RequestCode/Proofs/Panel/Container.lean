import RequestCode.Proofs.Panel.Postorder

/-!
# The container of elements with a property

An element is a container if a child of it has the property, and neither it nor anything around it
has. The search stops at an element with the property, and remembers a child that has it until it
is known that no element further inside is a container. Main statement: `container_first`, the
search gives the first container in postorder.
-/

namespace RequestCode.Element

/-- Neither the element at the end of the way nor one around it has the property. -/
def IsReachable (e : Element) (p : Element → Bool) (way : List Nat) : Prop :=
  ∀ start, start <+: way → ∃ x, e.get? start = some x ∧ p x = false

/-- The way leads to an element that has a child with the property and is reachable. -/
def IsContainer (e : Element) (p : Element → Bool) (way : List Nat) : Prop :=
  e.IsReachable p way ∧ ∃ x, e.get? way = some x ∧ ∃ child ∈ x.children, p child = true

variable {p q : Element → Bool} {e x : Element} {children : List Element} {i : Nat}
  {way : List Nat} {direct : Bool}

theorem isReachable_nil : e.IsReachable p [] ↔ p e = false := by
  simp [IsReachable, get?]

theorem isReachable_cons :
    e.IsReachable p (i :: way) ↔
      p e = false ∧ ∃ child, e.children[i]? = some child ∧ child.IsReachable p way := by
  constructor
  · intro h
    obtain ⟨root, hroot, outside⟩ := h [] List.nil_prefix
    cases hroot
    obtain ⟨first, hfirst, -⟩ := h [i] ⟨way, rfl⟩
    obtain ⟨child, hchild, -⟩ := get?_cons_eq_some_iff.mp hfirst
    refine ⟨outside, child, hchild, ?_⟩
    intro start hstart
    obtain ⟨x, hx, lacks⟩ := h (i :: start) (List.cons_prefix_cons.mpr ⟨rfl, hstart⟩)
    obtain ⟨other, hother, hx⟩ := get?_cons_eq_some_iff.mp hx
    rw [hchild] at hother
    cases hother
    exact ⟨x, hx, lacks⟩
  · rintro ⟨outside, child, hchild, inside⟩ start hstart
    rcases List.prefix_cons_iff.mp hstart with rfl | ⟨rest, rfl, hrest⟩
    · exact ⟨e, rfl, outside⟩
    · obtain ⟨x, hx, lacks⟩ := inside rest hrest
      exact ⟨x, get?_cons_eq_some_iff.mpr ⟨child, hchild, hx⟩, lacks⟩

theorem isContainer_nil :
    e.IsContainer p [] ↔ p e = false ∧ ∃ child ∈ e.children, p child = true := by
  simp [IsContainer, isReachable_nil, get?]

theorem isContainer_cons :
    e.IsContainer p (i :: way) ↔
      p e = false ∧ ∃ child, e.children[i]? = some child ∧ child.IsContainer p way := by
  unfold IsContainer
  rw [isReachable_cons]
  constructor
  · rintro ⟨⟨outside, child, hchild, reachable⟩, x, hx, holds⟩
    obtain ⟨other, hother, hx⟩ := get?_cons_eq_some_iff.mp hx
    rw [hchild] at hother
    cases hother
    exact ⟨outside, child, hchild, reachable, x, hx, holds⟩
  · rintro ⟨outside, child, hchild, reachable, x, hx, holds⟩
    exact ⟨⟨outside, child, hchild, reachable⟩, x, get?_cons_eq_some_iff.mpr ⟨child, hchild, hx⟩,
      holds⟩

theorem not_isContainer (h : p e = true) (way : List Nat) : ¬ e.IsContainer p way := by
  intro container
  cases way with
  | nil => simp [isContainer_nil, h] at container
  | cons i way => simp [isContainer_cons, h] at container

theorem IsContainer.mem_postorder (h : e.IsContainer p way) : way ∈ e.postorder := by
  obtain ⟨-, x, hx, -⟩ := h
  exact Element.mem_postorder.mpr ⟨x, hx⟩

instance decidableIsContainer (p : Element → Bool) :
    (e : Element) → (way : List Nat) → Decidable (e.IsContainer p way)
  | _, [] => decidable_of_iff _ isContainer_nil.symm
  | e, i :: way =>
    have (child : Element) := decidableIsContainer p child way
    decidable_of_iff (p e = false ∧ ∃ child ∈ e.children[i]?, child.IsContainer p way)
      isContainer_cons.symm

def firstContainer? (e : Element) (p : Element → Bool) : Option (List Nat) :=
  e.postorder.find? fun way => e.IsContainer p way

theorem firstContainer?_eq_none (h : p e = true) : e.firstContainer? p = none := by
  apply List.find?_eq_none.mpr
  intro way _
  simpa using not_isContainer h way

/-- The search through children, if it finds the first container of each of them. -/
theorem searchChildren_eq {P : List Nat → Bool}
    (ih : ∀ child ∈ children, search p child =
      if p child then .found else (child.firstContainer? p).elim .missing .container)
    (h : ∀ k child way, children[k]? = some child →
      P ((i + k) :: way) = decide (child.IsContainer p way)) :
    searchChildren p children i direct =
      ((postorderFrom children i).find? P).elim
        (if direct || children.any p then .container [] else .missing) .container := by
  induction children generalizing i direct with
  | nil => simp [searchChildren, postorderFrom]
  | cons e r ihr =>
    rw [List.forall_mem_cons] at ih
    have rest (seen : Bool) : searchChildren p r (i + 1) seen =
        ((postorderFrom r (i + 1)).find? P).elim
          (if seen || r.any p then .container [] else .missing) .container := by
      apply ihr ih.2
      intro k child way hchild
      rw [← h (k + 1) child way hchild, Nat.add_assoc, Nat.add_comm 1]
    have first : ((postorder e).map (i :: ·)).find? P = (e.firstContainer? p).map (i :: ·) := by
      rw [List.find?_map]
      congr 2
      funext way
      exact h 0 e way rfl
    rw [searchChildren, ih.1, postorderFrom, List.find?_append, first]
    by_cases holds : p e = true
    · simp [holds, firstContainer?_eq_none holds, rest]
    · cases found : e.firstContainer? p with
      | some way => simp [holds]
      | none => simp [holds, rest]

/-- The search finds whether the element has the property, or else the first container. -/
theorem search_eq (p : Element → Bool) (e : Element) :
    search p e = if p e then .found else (e.firstContainer? p).elim .missing .container := by
  induction e with
  | node className style children ih =>
    rw [search]
    by_cases holds : p (node className style children) = true
    · rw [if_pos holds, if_pos holds]
    · have inside (k : Nat) (child : Element) (way : List Nat)
          (hchild : children[k]? = some child) :
          decide ((node className style children).IsContainer p ((0 + k) :: way)) =
            decide (child.IsContainer p way) := by
        simp [isContainer_cons, holds, Element.children, hchild]
      have root : decide ((node className style children).IsContainer p []) = children.any p := by
        rw [Bool.eq_iff_iff, decide_eq_true_iff, List.any_eq_true, isContainer_nil]
        simp [holds, Element.children]
      rw [if_neg holds, if_neg holds, firstContainer?, postorder, List.find?_append,
        searchChildren_eq (P := fun way => (node className style children).IsContainer p way) ih
          inside]
      cases (postorderFrom children 0).find? _ with
      | some way => simp
      | none =>
        by_cases direct : children.any p = true
        · simp [direct, root]
        · simp [direct, root]

theorem containerPath?_eq (p : Element → Bool) (e : Element) :
    e.containerPath? p = e.firstContainer? p := by
  unfold containerPath?
  rw [search_eq]
  by_cases holds : p e = true
  · rw [if_pos holds, firstContainer?_eq_none holds]
  · rw [if_neg holds]
    cases e.firstContainer? p <;> rfl

theorem firstContainer?_eq_some_iff :
    e.firstContainer? p = some way ↔
      ∃ before after, e.postorder = before ++ way :: after ∧ e.IsContainer p way ∧
        ∀ other ∈ before, ¬ e.IsContainer p other := by
  unfold firstContainer?
  rw [List.find?_eq_some_iff_append]
  constructor
  · rintro ⟨container, before, after, split, none_before⟩
    refine ⟨before, after, split, of_decide_eq_true container, ?_⟩
    intro other earlier
    simpa using none_before other earlier
  · rintro ⟨before, after, split, container, none_before⟩
    refine ⟨decide_eq_true container, before, after, split, ?_⟩
    intro other earlier
    simpa using none_before other earlier

theorem firstContainer?_eq_none_iff :
    e.firstContainer? p = none ↔ ∀ way, ¬ e.IsContainer p way := by
  unfold firstContainer?
  rw [List.find?_eq_none]
  constructor
  · intro none_listed way container
    exact none_listed way container.mem_postorder (decide_eq_true container)
  · intro none_holds way _ container
    exact none_holds way (of_decide_eq_true container)

/-- Around an element with the property, inside one without it, there is a container. -/
theorem exists_isContainer (outside : p e = false) (hx : e.get? way = some x) (holds : p x = true) :
    ∃ other, e.IsContainer p other := by
  induction way generalizing e with
  | nil =>
    cases hx
    rw [outside] at holds
    contradiction
  | cons i way ih =>
    obtain ⟨child, hchild, hx⟩ := get?_cons_eq_some_iff.mp hx
    by_cases direct : p child = true
    · exact ⟨[], isContainer_nil.mpr ⟨outside, child, List.mem_of_getElem? hchild, direct⟩⟩
    · rw [Bool.not_eq_true] at direct
      obtain ⟨other, inside⟩ := ih direct hx
      exact ⟨i :: other, isContainer_cons.mpr ⟨outside, child, hchild, inside⟩⟩

/-- There is no container exactly if the whole has the property or nothing in it has. -/
theorem forall_not_isContainer_iff :
    (∀ way, ¬ e.IsContainer p way) ↔
      p e = true ∨ ∀ way x, e.get? way = some x → p x = false := by
  constructor
  · intro none_holds
    cases outside : p e with
    | true => exact .inl rfl
    | false =>
      right
      intro way x hx
      cases holds : p x with
      | false => rfl
      | true =>
        obtain ⟨other, container⟩ := exists_isContainer outside hx holds
        exact absurd container (none_holds other)
  · rintro (holds | lacks) way container
    · exact not_isContainer holds way container
    · obtain ⟨-, x, hx, child, hchild, holds⟩ := container
      obtain ⟨k, hk⟩ := List.getElem?_of_mem hchild
      have inside : e.get? (way ++ [k]) = some child := by
        rw [get?_append, hx, Option.bind_some, get?_cons, hk]
        rfl
      rw [lacks _ _ inside] at holds
      contradiction

def IsVisited (e : Element) (p : Element → Bool) (way : List Nat) : Prop :=
  ∀ start, start <+: way → start ≠ way → ∀ x, e.get? start = some x → p x = false

theorem isVisited_nil : e.IsVisited p [] := by
  intro start hstart hne
  exact absurd (List.prefix_nil.mp hstart) hne

theorem IsVisited.cons {child : Element} (outside : p e = false)
    (hchild : e.children[i]? = some child) (h : child.IsVisited p way) :
    e.IsVisited p (i :: way) := by
  intro start hstart hne x hx
  rcases List.prefix_cons_iff.mp hstart with rfl | ⟨rest, rfl, hrest⟩
  · cases hx
    exact outside
  · obtain ⟨other, hother, hx⟩ := get?_cons_eq_some_iff.mp hx
    rw [hchild] at hother
    cases hother
    refine h rest hrest ?_ x hx
    rintro rfl
    exact hne rfl

theorem searchChildren_congr (h : ∀ child ∈ children, search q child = search p child) :
    searchChildren q children i direct = searchChildren p children i direct := by
  induction children generalizing i direct with
  | nil => rfl
  | cons e r ih =>
    rw [List.forall_mem_cons] at h
    rw [searchChildren, searchChildren, h.1]
    cases search p e with
    | missing => exact ih h.2
    | found => exact ih h.2
    | container way => rfl

theorem search_congr (h : ∀ way x, e.get? way = some x → e.IsVisited p way → q x = p x) :
    search q e = search p e := by
  induction e with
  | node className style children ih =>
    have root := h [] (node className style children) rfl isVisited_nil
    rw [search, search, root]
    cases outside : p (node className style children) with
    | true => rfl
    | false =>
      rw [if_neg Bool.false_ne_true, if_neg Bool.false_ne_true]
      apply searchChildren_congr
      intro child mem
      obtain ⟨k, hk⟩ := List.getElem?_of_mem mem
      refine ih child mem ?_
      intro way x hx visited
      exact h (k :: way) x (get?_cons_eq_some_iff.mpr ⟨child, hk, hx⟩) (visited.cons outside hk)

/-- Of all elements, listed children before parents and from left to right, the search gives the
first container, by a way that exists. It fails only if the whole has the property or nothing in it
has, and looks at nothing inside an element with the property. -/
theorem container_first (p : Element → Bool) (e : Element) :
    ((∀ way, way ∈ e.postorder ↔ ∃ x, e.get? way = some x) ∧ e.postorder.Pairwise Precedes) ∧
    (∀ way, e.containerPath? p = some way ↔
      ∃ before after, e.postorder = before ++ way :: after ∧ e.IsContainer p way ∧
        ∀ other ∈ before, ¬ e.IsContainer p other) ∧
    (∀ way, e.containerPath? p = some way → ∃ x, e.get? way = some x ∧ e.container? p = some x) ∧
    (e.container? p = none ↔ p e = true ∨ ∀ way x, e.get? way = some x → p x = false) ∧
    ∀ q : Element → Bool, (∀ way x, e.get? way = some x → e.IsVisited p way → q x = p x) →
      e.containerPath? q = e.containerPath? p := by
  have walked (way : List Nat) (found : e.containerPath? p = some way) :
      ∃ x, e.get? way = some x ∧ e.container? p = some x := by
    rw [containerPath?_eq] at found
    obtain ⟨-, -, -, ⟨-, x, hx, -⟩, -⟩ := firstContainer?_eq_some_iff.mp found
    exact ⟨x, hx, by rw [container?, containerPath?_eq, found, Option.bind_some, hx]⟩
  refine ⟨⟨fun way => mem_postorder, pairwise_postorder e⟩, ?_, walked, ?_, ?_⟩
  · intro way
    rw [containerPath?_eq, firstContainer?_eq_some_iff]
  · rw [← forall_not_isContainer_iff, ← firstContainer?_eq_none_iff, ← containerPath?_eq]
    cases found : e.containerPath? p with
    | none => simp [container?, found]
    | some way =>
      obtain ⟨x, -, container⟩ := walked way found
      simp [container]
  · intro q same
    unfold containerPath?
    rw [search_congr same]

def samplePanel : Element :=
  node none ∅ [node (some "btn btn-primary") ∅ [],
    node (some "inner") ∅ [node (some "btn") ∅ []]]

theorem container_first_sample :
    samplePanel.containerPath? (·.hasClass buttonClass) = some [1] ∧
      ∃ x, samplePanel.get? [1] = some x ∧
        samplePanel.container? (·.hasClass buttonClass) = some x := by
  obtain ⟨-, first, walked, -, -⟩ := container_first (·.hasClass buttonClass) samplePanel
  have found := (first [1]).mpr
    ⟨[[0], [1, 0]], [[]], by decide, by decide +kernel, by decide +kernel⟩
  exact ⟨found, walked [1] found⟩

end RequestCode.Element
