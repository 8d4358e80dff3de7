import RequestCode.Proofs.Yaml.Tokens

/-!
# Lines of a block

A block is written line by line, and its lines are scanned from the last one on: what follows a
member only has to stand no further right than its key. Main statements: `lines_members` for the
members of a mapping of texts, and `lines_items` for a sequence of such mappings under a key.
-/

namespace RequestCode.Yaml

variable {t w : List Char} {k n : Nat} {indent : Int} {outer : List Int} {ts : List Token}
variable {m : String × String} {ms : List (String × String)}

def texts (ms : List (String × String)) : List (String × Json) :=
  ms.map fun m => (m.1, .string m.2)

/-- A member is announced by its key; its value may be plain. -/
def memberTokens (m : String × String) : List Token :=
  [.key, .scalar m.1.toList true, .value, .scalar m.2.toList (styleOf m.2.toList = .plain)]

def mappingTokens (ms : List (String × String)) : List Token :=
  .blockMappingStart :: ms.flatMap memberTokens ++ [.blockEnd]

def itemTokens (ms : List (String × String)) : List Token := .blockEntry :: mappingTokens ms

theorem length_itemTokens : (itemTokens ms).length = 4 * ms.length + 3 := by
  have members : (ms.flatMap memberTokens).length = 4 * ms.length := by
    induction ms with
    | nil => rfl
    | cons m ms ih =>
      simp only [List.flatMap_cons, memberTokens, List.length_append, List.length_cons,
        List.length_nil, ih]
      omega
  simp [itemTokens, mappingTokens, members]

def memberLines (k : Nat) (m : String × String) : List Char :=
  m.1.toList ++ ':' :: ' ' :: endLine (scalar (k + 2) m.2.toList)

theorem keyChars_string (hw : IsWord w) (s : String) :
    keyChars k w (.string s) = (w ++ [':', ' '], k + 2) := by
  have written : scalar k w = w := by
    unfold scalar
    rw [hw.plain]
  simp [keyChars, hw.simple, written]

theorem block_string (s : String) : block k (.string s) = endLine (scalar k s.toList) := rfl

/-- The lines of a mapping of texts from a column on, without the indentation of the first one. -/
theorem block_texts (hw : IsWord m.1.toList) :
    block k (.object (texts (m :: ms))) = memberLines k m ++ blockMembers k (texts ms) := by
  change (keyChars k m.1.toList (.string m.2)).1 ++
    block (keyChars k m.1.toList (.string m.2)).2 (.string m.2) ++ blockMembers k (texts ms) = _
  rw [keyChars_string hw, block_string]
  simp [memberLines]

theorem blockMembers_texts_cons (hw : IsWord m.1.toList) :
    blockMembers k (texts (m :: ms)) =
      spaces k ++ (memberLines k m ++ blockMembers k (texts ms)) := by
  change spaces k ++ (keyChars k m.1.toList (.string m.2)).1 ++
    block (keyChars k m.1.toList (.string m.2)).2 (.string m.2) ++ blockMembers k (texts ms) = _
  rw [keyChars_string hw, block_string]
  simp [memberLines]

/-! ### Characters of lines -/

theorem isAllowed_spaces : ∀ c ∈ spaces k, isAllowed c = true := by
  intro c hc
  rw [List.eq_of_mem_replicate hc]
  decide

theorem isAllowed_endLine_scalar {s : List Char} :
    ∀ c ∈ endLine (scalar k s), isAllowed c = true := by
  unfold endLine
  split
  · intro c hc
    exact isAllowed_of_mem_scalar hc
  · rw [List.forall_mem_append]
    exact ⟨fun c hc => isAllowed_of_mem_scalar hc, List.forall_mem_singleton.mpr (by decide)⟩

theorem IsWord.isAllowed (hw : IsWord w) : ∀ c ∈ w, isAllowed c = true := fun c hc =>
  isAllowed_of_isPrintable ((bare_of_canBePlain (of_styleOf_plain hw.plain).2).printable c hc)

theorem isAllowed_memberLines (hw : IsWord m.1.toList) :
    ∀ c ∈ memberLines k m, isAllowed c = true := by
  simp only [memberLines, List.forall_mem_append, List.forall_mem_cons]
  exact ⟨hw.isAllowed, by decide, by decide, isAllowed_endLine_scalar⟩

theorem isAllowed_blockMembers (hw : ∀ m ∈ ms, IsWord m.1.toList) :
    ∀ c ∈ blockMembers k (texts ms), isAllowed c = true := by
  induction ms with
  | nil => intro c hc; cases hc
  | cons m ms ih =>
    rw [List.forall_mem_cons] at hw
    rw [blockMembers_texts_cons hw.1, List.forall_mem_append, List.forall_mem_append]
    exact ⟨isAllowed_spaces, isAllowed_memberLines hw.1, ih hw.2⟩

theorem isAllowed_blockItems {items : List (List (String × String))} (hne : ∀ ms ∈ items, ms ≠ [])
    (hw : ∀ ms ∈ items, ∀ m ∈ ms, IsWord m.1.toList) :
    ∀ c ∈ blockItems k (items.map fun ms => .object (texts ms)), isAllowed c = true := by
  induction items with
  | nil => intro c hc; cases hc
  | cons ms items ih =>
    rw [List.forall_mem_cons] at hne hw
    obtain ⟨m, ms, rfl⟩ := List.exists_cons_of_ne_nil hne.1
    have words := List.forall_mem_cons.mp hw.1
    rw [List.map_cons, blockItems, block_texts words.1]
    simp only [List.forall_mem_append, List.forall_mem_cons]
    exact ⟨⟨isAllowed_spaces, by decide, by decide, isAllowed_memberLines words.1,
      isAllowed_blockMembers words.2⟩, ih hne.2 hw.2⟩

/-! ### Tokens of lines -/

/-- Lines that go on with a block at a column, or end it, and what they yield. -/
def Lines (t : List Char) (k : Nat) (outer : List Int) (ts : List Token) : Prop :=
  ∃ j u, t = spaces j ++ u ∧ j ≤ k ∧ Opens u ∧ Scanner.Yields true u j k outer ts

theorem lines_nil : Lines [] 0 [-1] [.blockEnd] :=
  ⟨0, [], rfl, Nat.le_refl 0, opens_nil, Scanner.yields_end⟩

/-- Lines of a block end the blocks inside it. -/
theorem Lines.inner (h : Lines t k outer ts) (hn : k < n) :
    Lines t n (k :: outer) (.blockEnd :: ts) := by
  obtain ⟨j, u, text, hj, opens, yields⟩ := h
  exact ⟨j, u, text, by omega, opens, Scanner.yields_blockEnd opens (by omega) yields⟩

theorem IsWord.opens (hw : IsWord w) : Opens (w ++ t) := by
  obtain ⟨d, r, rfl⟩ := List.exists_cons_of_ne_nil (ne_nil_of_styleOf_plain hw.plain)
  exact opens_of_canBePlain (of_styleOf_plain hw.plain).2

/-- A value in front of lines that go on with its mapping or end it. -/
theorem Lines.value (h : Lines t k outer ts) {s : List Char} {n : Nat} (hn : k ≤ n) :
    Scanner.Yields false (' ' :: (endLine (scalar (k + 2) s) ++ t)) n k outer
      (.scalar s (styleOf s = .plain) :: ts) := by
  obtain ⟨j, u, rfl, hj, opens, yields⟩ := h
  exact Scanner.yields_spaces (j := 1) opens_endLine_scalar
    (Scanner.yields_scalar opens hj (Nat.lt_succ_of_le hn) yields)

theorem memberLines_append :
    memberLines k m ++ t =
      m.1.toList ++ ':' :: ' ' :: (endLine (scalar (k + 2) m.2.toList) ++ t) := by
  simp [memberLines]

theorem Lines.first_member (h : Lines t k (indent :: outer) ts) (hw : IsWord m.1.toList)
    (hi : indent < k) :
    Scanner.Yields true (memberLines k m ++ t) k indent outer
      (.blockMappingStart :: (memberTokens m ++ ts)) := by
  rw [memberLines_append]
  exact Scanner.yields_first_key hw rfl hi (h.value (by omega))

theorem Lines.next_member (h : Lines t k outer ts) (hw : IsWord m.1.toList) :
    Scanner.Yields true (memberLines k m ++ t) k k outer (memberTokens m ++ ts) := by
  rw [memberLines_append]
  exact Scanner.yields_next_key hw rfl (h.value (by omega))

theorem lines_members (hw : ∀ m ∈ ms, IsWord m.1.toList) (h : Lines t k outer ts) :
    Lines (blockMembers k (texts ms) ++ t) k outer (ms.flatMap memberTokens ++ ts) := by
  induction ms with
  | nil => exact h
  | cons m ms ih =>
    have word := hw m List.mem_cons_self
    have rest := ih fun m hm => hw m (List.mem_cons_of_mem _ hm)
    refine ⟨k, memberLines k m ++ (blockMembers k (texts ms) ++ t), ?_, Nat.le_refl k, ?_, ?_⟩
    · rw [blockMembers_texts_cons word, List.append_assoc, List.append_assoc]
    · rw [memberLines_append]
      exact word.opens
    · rw [List.flatMap_cons, List.append_assoc]
      exact rest.next_member word

theorem lines_item (hne : ms ≠ []) (hw : ∀ m ∈ ms, IsWord m.1.toList) (h : Lines t k outer ts) :
    Lines (spaces k ++ '-' :: ' ' :: block (k + 2) (.object (texts ms)) ++ t) k outer
      (itemTokens ms ++ ts) := by
  obtain ⟨m, ms, rfl⟩ := List.exists_cons_of_ne_nil hne
  have word := hw m List.mem_cons_self
  have closed : Lines t (k + 2) (k :: outer) (.blockEnd :: ts) := h.inner (by omega)
  have rest := lines_members (fun m hm => hw m (List.mem_cons_of_mem _ hm)) closed
  have mapping : Scanner.Yields true
      (memberLines (k + 2) m ++ (blockMembers (k + 2) (texts ms) ++ t)) (k + 1 + 1) k outer
      (mappingTokens (m :: ms) ++ ts) := by
    have opened := rest.first_member word (by omega)
    simpa [mappingTokens] using opened
  have opens : Opens (memberLines (k + 2) m ++ (blockMembers (k + 2) (texts ms) ++ t)) := by
    rw [memberLines_append]
    exact word.opens
  have item := Scanner.yields_blockEntry (Scanner.yields_spaces (j := 1) opens mapping)
  refine ⟨k, _, ?_, Nat.le_refl k, opens_cons (by decide), item⟩
  rw [block_texts word]
  simp [spaces]

theorem lines_items {items : List (List (String × String))} (hne : ∀ ms ∈ items, ms ≠ [])
    (hw : ∀ ms ∈ items, ∀ m ∈ ms, IsWord m.1.toList) (h : Lines t k outer ts) :
    Lines (blockItems k (items.map fun ms => .object (texts ms)) ++ t) k outer
      (items.flatMap itemTokens ++ ts) := by
  induction items with
  | nil => exact h
  | cons ms items ih =>
    have rest := ih (fun ms hms => hne ms (List.mem_cons_of_mem _ hms))
      (fun ms hms => hw ms (List.mem_cons_of_mem _ hms))
    have item := lines_item (hne ms List.mem_cons_self) (hw ms List.mem_cons_self) rest
    rw [List.map_cons, blockItems, List.flatMap_cons]
    simpa using item

end RequestCode.Yaml
