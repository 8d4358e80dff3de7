import RequestCode.Proofs.Panel.Container

/-!
# Styling the container of the tab buttons

Styling stores a few entries in the style of one element. The search looks at classes and children
alone, so that a second run finds the same element, whose style holds the entries already. Main
statement: `styling_changes_one_style`.
-/

namespace RequestCode.Element

variable {p : Element → Bool} {f g : Element → Element} {e : Element} {children : List Element}
  {entries : List (String × String)} {i k : Nat} {w way : List Nat} {direct : Bool}

@[simp] theorem children_withStyle (entries : List (String × String)) (e : Element) :
    (withStyle entries e).children = e.children := by
  cases e
  rfl

theorem style_withStyle (entries : List (String × String)) (e : Element) :
    (withStyle entries e).style = e.style.insertMany entries := by
  cases e
  rfl

theorem withStyle_withStyle (entries : List (String × String)) (e : Element) :
    withStyle entries (withStyle entries e) = withStyle entries e := by
  cases e with
  | node className style children =>
    rw [withStyle, withStyle]
    congr 1
    apply Std.ExtTreeMap.ext_getElem?
    intro name
    rw [Std.ExtTreeMap.getElem?_insertMany_list, Std.ExtTreeMap.getElem?_insertMany_list,
      ← Option.or_assoc, Option.or_self]

/-- What becomes of the elements above the changed one, and of itself. -/
theorem get?_modify_append (f : Element → Element) (e : Element) (a b : List Nat) :
    (e.modify f (a ++ b)).get? a = (e.get? a).map (modify f b) := by
  induction a generalizing e with
  | nil => rfl
  | cons i a ih =>
    cases e with
    | node className style children =>
      rw [List.cons_append, modify, get?_cons, get?_cons, Element.children, Element.children,
        List.getElem?_modify_eq]
      cases children[i]? with
      | none => rfl
      | some child => exact ih child

/-- The elements beside and inside the changed one stay. -/
theorem get?_modify_of_apart (keeps : ∀ x, (f x).children = x.children) (h : ¬ w <+: way) :
    (e.modify f way).get? w = e.get? w := by
  induction way generalizing e w with
  | nil =>
    cases w with
    | nil => exact absurd List.nil_prefix h
    | cons i w => rw [modify, get?_cons, keeps, get?_cons]
  | cons k way ih =>
    cases e with
    | node className style children =>
      cases w with
      | nil => exact absurd List.nil_prefix h
      | cons i w =>
        rw [modify, get?_cons, get?_cons, Element.children, Element.children, List.getElem?_modify]
        by_cases same : k = i
        · subst same
          have parted : ¬ w <+: way := fun inside => h (List.cons_prefix_cons.mpr ⟨rfl, inside⟩)
          cases children[k]? with
          | none => rfl
          | some child => simpa using ih parted
        · simp [same]

theorem modify_modify (f g : Element → Element) (e : Element) (way : List Nat) :
    (e.modify f way).modify g way = e.modify (g ∘ f) way := by
  induction way generalizing e with
  | nil => rfl
  | cons i way ih =>
    cases e with
    | node className style children =>
      rw [modify, modify, modify, List.modify_modify_eq]
      congr 2
      funext child
      exact ih child

/-- A property that two elements of the same classes have both or neither. -/
def IsOfClasses (p : Element → Bool) : Prop := ∀ x y, x.className = y.className → p x = p y

theorem isOfClasses_hasClass (name : String) : IsOfClasses (·.hasClass name) := by
  intro x y same
  simp only [hasClass, same]

theorem search_node_congr (classes : IsOfClasses p) {className : Option String}
    {style other : Style} {changed : List Element}
    (h : searchChildren p changed 0 false = searchChildren p children 0 false) :
    search p (node className other changed) = search p (node className style children) := by
  have same : p (node className other changed) = p (node className style children) :=
    classes _ _ rfl
  rw [search, search, same, h]

theorem searchChildren_modify (h : ∀ x, search p (g x) = search p x) :
    searchChildren p (children.modify k g) i direct = searchChildren p children i direct := by
  induction children generalizing k i direct with
  | nil => rw [List.modify_nil]
  | cons e r ih =>
    cases k with
    | zero => rw [List.modify_zero_cons, searchChildren, searchChildren, h]
    | succ k =>
      rw [List.modify_succ_cons, searchChildren, searchChildren]
      cases search p e with
      | missing => exact ih
      | found => exact ih
      | container path => rfl

theorem search_modify_withStyle (classes : IsOfClasses p) (entries : List (String × String))
    (e : Element) (way : List Nat) : search p (e.modify (withStyle entries) way) = search p e := by
  induction way generalizing e with
  | nil =>
    cases e with
    | node className style children => exact search_node_congr classes rfl
  | cons i way ih =>
    cases e with
    | node className style children =>
      exact search_node_congr classes (searchChildren_modify ih)

theorem containerPath?_modify_withStyle (classes : IsOfClasses p)
    (entries : List (String × String)) (e : Element) (way : List Nat) :
    (e.modify (withStyle entries) way).containerPath? p = e.containerPath? p := by
  rw [containerPath?, search_modify_withStyle classes, containerPath?]

theorem containerPath?_eq_none_iff :
    e.containerPath? p = none ↔ p e = true ∨ ∀ way x, e.get? way = some x → p x = false := by
  rw [containerPath?_eq, firstContainer?_eq_none_iff, forall_not_isContainer_iff]

theorem exists_get?_of_containerPath? (found : e.containerPath? p = some way) :
    ∃ x, e.get? way = some x := by
  rw [containerPath?_eq] at found
  obtain ⟨-, -, -, ⟨-, x, hx, -⟩, -⟩ := firstContainer?_eq_some_iff.mp found
  exact ⟨x, hx⟩

theorem className_modify_withStyle (x : Element) (rest : List Nat) :
    (x.modify (withStyle entries) rest).className = x.className := by
  cases x
  cases rest <;> rfl

theorem length_children_modify_withStyle (x : Element) (rest : List Nat) :
    (x.modify (withStyle entries) rest).children.length = x.children.length := by
  cases x
  cases rest with
  | nil => rfl
  | cons i rest => exact List.length_modify _ _ _

/-- A view of the element at the end of a way stays if it stays wherever the way to the styled
element goes on from there. -/
theorem map_get?_modify_withStyle {β : Type} (view : Element → β)
    (h : ∀ rest x, w ++ rest = way → view (x.modify (withStyle entries) rest) = view x) :
    ((e.modify (withStyle entries) way).get? w).map view = (e.get? w).map view := by
  by_cases above : w <+: way
  · obtain ⟨rest, rfl⟩ := above
    rw [get?_modify_append, Option.map_map]
    congr 1
    funext x
    exact h rest x rfl
  · rw [get?_modify_of_apart (children_withStyle entries) above]

/-- Two elements differ in the style of the element at the end of the way only, and there in the
entries of the container style only. -/
structure RestyledAt (way : List Nat) (e styled : Element) : Prop where
  same_class : ∀ w, (styled.get? w).map (·.className) = (e.get? w).map (·.className)
  same_shape : ∀ w, (styled.get? w).map (·.children.length) = (e.get? w).map (·.children.length)
  same_style : ∀ w, w ≠ way → (styled.get? w).map (·.style) = (e.get? w).map (·.style)
  same_inside : (styled.get? way).map (·.children) = (e.get? way).map (·.children)
  kept : ∀ name, name ∉ containerStyle.map Prod.fst →
    (styled.get? way).map (·.style[name]?) = (e.get? way).map (·.style[name]?)
  stored : ∀ x, styled.get? way = some x →
    ∀ entry ∈ containerStyle, x.style[entry.1]? = some entry.2

theorem distinct_containerStyle :
    containerStyle.Pairwise fun a b => ¬compare a.1 b.1 = .eq := by decide

theorem restyledAt_modify (e : Element) (way : List Nat) :
    RestyledAt way e (e.modify (withStyle containerStyle) way) := by
  have styled : (e.modify (withStyle containerStyle) way).get? way =
      (e.get? way).map (withStyle containerStyle) := by
    have here := get?_modify_append (withStyle containerStyle) e way []
    rw [List.append_nil] at here
    exact here
  refine ⟨?_, ?_, ?_, ?_, ?_, ?_⟩
  · intro w
    exact map_get?_modify_withStyle _ fun rest x _ => className_modify_withStyle x rest
  · intro w
    exact map_get?_modify_withStyle _ fun rest x _ => length_children_modify_withStyle x rest
  · intro w other
    apply map_get?_modify_withStyle
    rintro rest x rfl
    cases x
    cases rest with
    | nil => exact absurd (List.append_nil w).symm other
    | cons i rest => rfl
  · rw [styled, Option.map_map]
    congr 1
    funext x
    exact children_withStyle _ x
  · intro name other
    rw [styled, Option.map_map]
    congr 1
    funext x
    rw [Function.comp_apply, style_withStyle]
    exact Std.ExtTreeMap.getElem?_insertMany_list_of_contains_eq_false (by simpa using other)
  · intro x hx entry mem
    rw [styled] at hx
    obtain ⟨y, -, rfl⟩ := Option.map_eq_some_iff.mp hx
    rw [style_withStyle]
    exact Std.ExtTreeMap.getElem?_insertMany_list_of_mem Std.ReflCmp.compare_self
      distinct_containerStyle mem

theorem modify_withStyle_twice (e : Element) (way : List Nat) :
    (e.modify (withStyle containerStyle) way).modify (withStyle containerStyle) way =
      e.modify (withStyle containerStyle) way := by
  have once : withStyle containerStyle ∘ withStyle containerStyle = withStyle containerStyle :=
    funext (withStyle_withStyle containerStyle)
  rw [modify_modify, once]

theorem styleButtons_of_none (h : e.containerPath? (·.hasClass buttonClass) = none) :
    e.styleButtons = (false, e) := by
  rw [styleButtons, h]

theorem styleButtons_of_some (h : e.containerPath? (·.hasClass buttonClass) = some way) :
    e.styleButtons = (true, e.modify (withStyle containerStyle) way) := by
  rw [styleButtons, h]

/-- Styling fails exactly if the whole panel is a button or holds none, and then changes nothing.
Otherwise it stores the container style in the element that the search finds, and changes nothing
else. A second run gives the same result again. -/
theorem styling_changes_one_style (e : Element) :
    (e.styleButtons.1 = false ↔ e.hasClass buttonClass = true ∨
      ∀ way x, e.get? way = some x → x.hasClass buttonClass = false) ∧
    (e.styleButtons.1 = false → e.styleButtons.2 = e) ∧
    (e.styleButtons.1 = true → ∃ way x, e.containerPath? (·.hasClass buttonClass) = some way ∧
      e.get? way = some x ∧ e.container? (·.hasClass buttonClass) = some x ∧
      RestyledAt way e e.styleButtons.2) ∧
    e.styleButtons.2.styleButtons = e.styleButtons := by
  have classes := isOfClasses_hasClass buttonClass
  have fails : e.containerPath? (·.hasClass buttonClass) = none ↔
      e.hasClass buttonClass = true ∨
        ∀ way x, e.get? way = some x → x.hasClass buttonClass = false :=
    containerPath?_eq_none_iff
  cases found : e.containerPath? (·.hasClass buttonClass) with
  | none =>
    have unchanged := styleButtons_of_none found
    rw [unchanged]
    refine ⟨iff_of_true rfl (fails.mp found), fun _ => rfl, ?_, unchanged⟩
    intro styled
    cases styled
  | some way =>
    obtain ⟨x, hx⟩ := exists_get?_of_containerPath? found
    have again := containerPath?_modify_withStyle classes containerStyle e way
    rw [found] at again
    rw [styleButtons_of_some found]
    refine ⟨?_, ?_, ?_, ?_⟩
    · rw [← fails, found]
      exact iff_of_false Bool.noConfusion (Option.some_ne_none way)
    · intro failed
      cases failed
    · intro _
      refine ⟨way, x, rfl, hx, ?_, restyledAt_modify e way⟩
      rw [container?, found, Option.bind_some, hx]
    · rw [styleButtons_of_some again, modify_withStyle_twice]

def tabbedPanel : Element :=
  node none ∅
    [node (some "tabs") (.ofList [("color", "red"), ("overflow", "hidden")])
      [node (some "btn") ∅ [], node (some "small btn") ∅ []],
    node (some "btn") ∅ []]

theorem styling_changes_one_style_sample :
    tabbedPanel.styleButtons.1 = true ∧
    (∃ tabs, tabbedPanel.styleButtons.2.get? [0] = some tabs ∧
      tabs.style["paddingLeft"]? = some "15px" ∧ tabs.style["paddingRight"]? = some "15px" ∧
      tabs.style["paddingTop"]? = some "5px" ∧ tabs.style["overflow"]? = some "auto" ∧
      tabs.style["color"]? = some "red") ∧
    ∀ w, w ≠ [0] → (tabbedPanel.styleButtons.2.get? w).map (·.style) =
      (tabbedPanel.get? w).map (·.style) := by
  obtain ⟨-, -, succeeds, -⟩ := styling_changes_one_style tabbedPanel
  have container : tabbedPanel.containerPath? (·.hasClass buttonClass) = some [0] := by decide
  have styled : tabbedPanel.styleButtons.1 = true := by
    rw [styleButtons_of_some container]
  obtain ⟨way, -, found, -, -, restyled⟩ := succeeds styled
  obtain rfl : [0] = way := Option.some.inj (container.symm.trans found)
  have color : (tabbedPanel.get? [0]).map (·.style["color"]?) = some (some "red") := by
    decide +kernel
  rw [← restyled.kept "color" (by decide)] at color
  obtain ⟨tabs, at_way, red⟩ := Option.map_eq_some_iff.mp color
  have stored := restyled.stored tabs at_way
  simp only [containerStyle, List.forall_mem_cons] at stored
  obtain ⟨left, right, top, overflow, -⟩ := stored
  exact ⟨styled, ⟨tabs, at_way, left, right, top, overflow, red⟩, restyled.same_style⟩

end RequestCode.Element
