import RequestCode.Panel.Element

/-!
# Elements in postorder

The elements of a panel are listed by the ways that lead to them: what is inside an element before
the element itself, and children from left to right. Main statements: `mem_postorder`, every
element is listed, and `pairwise_postorder`, the list is in this order.
-/

namespace RequestCode.Element

/-- What holds of an element whenever it holds of its children, holds of every element. -/
@[induction_eliminator]
theorem induction {motive : Element → Prop}
    (node : ∀ className style children, (∀ e ∈ children, motive e) →
      motive (node className style children)) (e : Element) : motive e :=
  @Element.rec motive (fun children => ∀ e ∈ children, motive e) node
    (fun _ h => absurd h List.not_mem_nil)
    (fun _ _ first rest => List.forall_mem_cons.mpr ⟨first, rest⟩) e

mutual

def postorder : Element → List (List Nat)
  | node _ _ children => postorderFrom children 0 ++ [[]]

/-- The ways through children, the first of which has a position. -/
def postorderFrom : List Element → Nat → List (List Nat)
  | [], _ => []
  | e :: r, i => (postorder e).map (i :: ·) ++ postorderFrom r (i + 1)

end

/-- One way leads to what is inside the element of the other, or they part and it goes on to an
earlier child. -/
def Precedes (a b : List Nat) : Prop :=
  (b <+: a ∧ b ≠ a) ∨ ∃ common i j, i < j ∧ common ++ [i] <+: a ∧ common ++ [j] <+: b

variable {e x : Element} {children : List Element} {i j k : Nat} {a b way : List Nat}

theorem Precedes.cons (h : Precedes a b) (i : Nat) : Precedes (i :: a) (i :: b) := by
  rcases h with ⟨inside, other⟩ | ⟨common, j, k, earlier, ha, hb⟩
  · refine .inl ⟨List.cons_prefix_cons.mpr ⟨rfl, inside⟩, ?_⟩
    intro same
    exact other (List.tail_eq_of_cons_eq same)
  · refine .inr ⟨i :: common, j, k, earlier, ?_, ?_⟩
    · exact List.cons_prefix_cons.mpr ⟨rfl, ha⟩
    · exact List.cons_prefix_cons.mpr ⟨rfl, hb⟩

theorem precedes_of_lt (h : i < j) (a b : List Nat) : Precedes (i :: a) (j :: b) :=
  .inr ⟨[], i, j, h, ⟨a, rfl⟩, ⟨b, rfl⟩⟩

theorem precedes_root (i : Nat) (a : List Nat) : Precedes (i :: a) [] :=
  .inl ⟨List.nil_prefix, (List.cons_ne_nil i a).symm⟩

theorem mem_postorderFrom :
    way ∈ postorderFrom children i ↔
      ∃ k child rest, children[k]? = some child ∧ rest ∈ child.postorder ∧
        way = (i + k) :: rest := by
  induction children generalizing i with
  | nil => simp [postorderFrom]
  | cons e r ih =>
    rw [postorderFrom, List.mem_append, List.mem_map, ih]
    constructor
    · rintro (⟨rest, hrest, rfl⟩ | ⟨k, child, rest, hchild, hrest, rfl⟩)
      · exact ⟨0, e, rest, rfl, hrest, rfl⟩
      · exact ⟨k + 1, child, rest, hchild, hrest, by rw [Nat.add_assoc, Nat.add_comm 1]⟩
    · rintro ⟨k, child, rest, hchild, hrest, rfl⟩
      cases k with
      | zero =>
        cases hchild
        exact .inl ⟨rest, hrest, rfl⟩
      | succ k =>
        exact .inr ⟨k, child, rest, hchild, hrest, by rw [Nat.add_assoc, Nat.add_comm 1]⟩

theorem get?_cons : e.get? (i :: way) = e.children[i]?.bind (·.get? way) := rfl

theorem get?_cons_eq_some_iff :
    e.get? (i :: way) = some x ↔ ∃ child, e.children[i]? = some child ∧ child.get? way = some x :=
  Option.bind_eq_some_iff

theorem get?_append (e : Element) (a b : List Nat) :
    e.get? (a ++ b) = (e.get? a).bind (·.get? b) := by
  induction a generalizing e with
  | nil => rfl
  | cons i a ih =>
    rw [List.cons_append, get?_cons, get?_cons, Option.bind_assoc]
    exact Option.bind_congr fun child _ => ih child

theorem mem_postorder : way ∈ e.postorder ↔ ∃ x, e.get? way = some x := by
  induction e generalizing way with
  | node className style children ih =>
    rw [postorder, List.mem_append, mem_postorderFrom, List.mem_singleton]
    cases way with
    | nil => simp [get?]
    | cons i way =>
      simp only [get?_cons_eq_some_iff, Element.children, reduceCtorEq, or_false]
      constructor
      · rintro ⟨k, child, rest, hchild, hrest, heq⟩
        obtain ⟨rfl, rfl⟩ := List.cons.inj heq
        obtain ⟨x, hx⟩ := (ih child (List.mem_of_getElem? hchild)).mp hrest
        rw [Nat.zero_add]
        exact ⟨x, child, hchild, hx⟩
      · rintro ⟨x, child, hchild, hx⟩
        have listed := (ih child (List.mem_of_getElem? hchild)).mpr ⟨x, hx⟩
        exact ⟨i, child, way, hchild, listed, by rw [Nat.zero_add]⟩

theorem pairwise_postorderFrom (h : ∀ e ∈ children, e.postorder.Pairwise Precedes) :
    (postorderFrom children i).Pairwise Precedes := by
  induction children generalizing i with
  | nil => exact .nil
  | cons e r ih =>
    rw [List.forall_mem_cons] at h
    rw [postorderFrom, List.pairwise_append, List.pairwise_map]
    refine ⟨h.1.imp fun earlier => earlier.cons i, ih h.2, ?_⟩
    intro a ha b hb
    obtain ⟨a, -, rfl⟩ := List.mem_map.mp ha
    obtain ⟨k, child, b, -, -, rfl⟩ := mem_postorderFrom.mp hb
    exact precedes_of_lt (by omega) a b

/-- What is inside an element comes before it, and children come from left to right. -/
theorem pairwise_postorder (e : Element) : e.postorder.Pairwise Precedes := by
  induction e with
  | node className style children ih =>
    rw [postorder, List.pairwise_append]
    refine ⟨pairwise_postorderFrom ih, List.pairwise_singleton _ _, ?_⟩
    intro a ha b hb
    obtain ⟨k, child, a, -, -, rfl⟩ := mem_postorderFrom.mp ha
    obtain rfl := List.mem_singleton.mp hb
    exact precedes_root _ a

end RequestCode.Element
