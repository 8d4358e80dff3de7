import RequestCode.Quote

/-!
# Verbatim strings

PowerShell takes five characters for a single quote, the straight one and four typographic ones.
Inside a verbatim string two of them in a row stand for the second, and one alone ends the string.
Texts are written with their straight quotes doubled and all else as it is. Main statement:
`read?_write_iff`, a text is read back from its literal exactly if it holds no typographic quote.
-/

namespace RequestCode.PowerShell

def isTypographic (c : Char) : Bool := 0x2018 ≤ c.toNat && c.toNat ≤ 0x201B

def isQuote (c : Char) : Bool := c = '\'' || isTypographic c

/-- What a verbatim string says and what follows it, given the text after its opening quote. -/
def readRest : List Char → Option (List Char × List Char)
  | [] => none
  | c :: r =>
    if isQuote c then
      match r with
      | [] => some ([], [])
      | d :: r => if isQuote d then (readRest r).map fun p => (d :: p.1, p.2) else some ([], d :: r)
    else (readRest r).map fun p => (c :: p.1, p.2)

def read? : List Char → Option (List Char × List Char)
  | [] => none
  | c :: r => if isQuote c then readRest r else none

def Unquoted (s : List Char) : Prop := ∀ c ∈ s.head?, isQuote c = false

/-- The text holds no quote but the straight one. -/
def Straight (s : List Char) : Prop := ∀ c ∈ s, isTypographic c = false

variable {c d : Char} {s t v : List Char}

theorem unquoted_cons : Unquoted (c :: s) ↔ isQuote c = false := by
  simp [Unquoted]

theorem isQuote_straight : isQuote '\'' = true := rfl

theorem readRest_char (h : isQuote c = false) :
    readRest (c :: s) = (readRest s).map fun p => (c :: p.1, p.2) := by
  rw [readRest.eq_def]
  simp [h]

theorem readRest_doubled (hc : isQuote c = true) (hd : isQuote d = true) :
    readRest (c :: d :: s) = (readRest s).map fun p => (d :: p.1, p.2) := by
  rw [readRest, if_pos hc, if_pos hd]

theorem readRest_close (hc : isQuote c = true) (h : Unquoted s) :
    readRest (c :: s) = some ([], s) := by
  cases s with
  | nil => rw [readRest, if_pos hc]
  | cons d s => rw [readRest, if_pos hc, if_neg (by simp [unquoted_cons.mp h])]

theorem readRest_write (straight : Straight s) (h : Unquoted t) :
    readRest (s.flatMap Quote.verbatimChar ++ '\'' :: t) = some (s, t) := by
  induction s with
  | nil => exact readRest_close isQuote_straight h
  | cons c s ih =>
    obtain ⟨plain, rest⟩ := List.forall_mem_cons.mp straight
    rw [List.flatMap_cons, List.append_assoc, Quote.verbatimChar]
    split
    · rename_i quote
      subst quote
      rw [List.cons_append, List.singleton_append,
        readRest_doubled isQuote_straight isQuote_straight, ih rest]
      rfl
    · rename_i other
      have unquoted : isQuote c = false := by simp [isQuote, other, plain]
      rw [List.singleton_append, readRest_char unquoted, ih rest]
      rfl

theorem length_of_readRest (h : readRest s = some (v, t)) :
    t.length < s.length := by
  fun_induction readRest s generalizing v t with
  | case1 => cases h
  | case2 c hc => cases h; simp
  | case3 c hc d r hd ih =>
    obtain ⟨⟨w, u⟩, rest, eq⟩ := Option.map_eq_some_iff.mp h
    cases eq
    exact Nat.lt_succ_of_lt (Nat.lt_succ_of_lt (ih rest))
  | case4 c hc d r hd => cases h; simp
  | case5 c r hc ih =>
    obtain ⟨⟨w, u⟩, rest, eq⟩ := Option.map_eq_some_iff.mp h
    cases eq
    exact Nat.lt_succ_of_lt (ih rest)

/-- Every quote that a string says takes two of its text, and one more ends it. -/
theorem countP_of_readRest (h : readRest s = some (v, t)) :
    s.countP isQuote = 2 * v.countP isQuote + 1 + t.countP isQuote := by
  fun_induction readRest s generalizing v t with
  | case1 => cases h
  | case2 c hc =>
    cases h
    simp [hc]
  | case3 c hc d r hd ih =>
    obtain ⟨⟨w, u⟩, rest, eq⟩ := Option.map_eq_some_iff.mp h
    cases eq
    dsimp only
    rw [List.countP_cons_of_pos hc, List.countP_cons_of_pos hd, List.countP_cons_of_pos hd, ih rest]
    omega
  | case4 c hc d r hd =>
    cases h
    rw [List.countP_cons_of_pos hc]
    simp [Nat.add_comm]
  | case5 c r hc ih =>
    obtain ⟨⟨w, u⟩, rest, eq⟩ := Option.map_eq_some_iff.mp h
    cases eq
    dsimp only
    rw [List.countP_cons_of_neg hc, List.countP_cons_of_neg hc, ih rest]

/-- Writing doubles every quote but the typographic ones. -/
theorem countP_verbatim (s : List Char) :
    (s.flatMap Quote.verbatimChar).countP isQuote + s.countP isTypographic =
      2 * s.countP isQuote := by
  induction s with
  | nil => rfl
  | cons c s ih =>
    rw [List.flatMap_cons, List.countP_append, Quote.verbatimChar]
    by_cases quote : c = '\''
    · subst quote
      have straight : ¬ isTypographic '\'' = true := by decide
      rw [if_pos rfl, List.countP_cons_of_neg straight]
      simp only [List.countP_cons, List.countP_nil, isQuote_straight, if_true]
      omega
    · have same : isQuote c = isTypographic c := by simp [isQuote, quote]
      rw [if_neg quote]
      simp only [List.countP_cons, List.countP_nil, same]
      split <;> omega

theorem read?_write (s t : List Char) :
    read? (Quote.verbatim.write s ++ t) =
      readRest (s.flatMap Quote.verbatimChar ++ '\'' :: t) := by
  simp [Quote.write, Quote.between, read?, isQuote_straight]

/-- A text is read back from its literal exactly if it holds no typographic quote. -/
theorem read?_write_iff (h : Unquoted t) :
    read? (Quote.verbatim.write s ++ t) = some (s, t) ↔ Straight s := by
  rw [read?_write]
  refine ⟨fun back => ?_, fun straight => readRest_write straight h⟩
  have said := countP_of_readRest back
  have written := countP_verbatim s
  rw [List.countP_append, List.countP_cons, isQuote_straight, if_pos rfl] at said
  have none_left : s.countP isTypographic = 0 := by omega
  intro c mem
  simpa using List.countP_eq_zero.mp none_left c mem

end RequestCode.PowerShell
