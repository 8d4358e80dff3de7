/-!
# Scanners

A scanner reads a text one character at a time and gives a token as soon as it is complete. Main
statements: reading composes along the parts of a text (`Reads.append`), and a text whose
characters are each written and read back apart is read back as a whole (`Reads.flatMap`). A text
can be read up to its first token only (`Reads.first?_append`).
-/

namespace RequestCode.Text

/-- A step gives the tokens that the character completes and the next state, or refuses. -/
structure Scanner (State Token : Type) where
  step : State → Char → Option (List Token × State)

namespace Scanner

variable {State Token : Type}

def run (m : Scanner State Token) : State → List Char → Option (List Token × State)
  | q, [] => some ([], q)
  | q, c :: r => do
    let (ts, q) ← m.step q c
    let (us, q) ← run m q r
    return (ts ++ us, q)

/-- From one state the text gives the tokens and leads to the other state. -/
def Reads (m : Scanner State Token) (q : State) (s : List Char) (ts : List Token)
    (p : State) : Prop :=
  m.run q s = some (ts, p)

variable {m : Scanner State Token} {q p o : State} {s r : List Char} {ts us : List Token}

theorem Reads.nil : m.Reads q [] [] q := rfl

theorem Reads.cons {c : Char} (h : m.step q c = some (ts, p)) (hr : m.Reads p r us o) :
    m.Reads q (c :: r) (ts ++ us) o := by
  unfold Reads at hr
  simp [Reads, run, h, hr]

theorem Reads.append (h : m.Reads q s ts p) (hr : m.Reads p r us o) :
    m.Reads q (s ++ r) (ts ++ us) o := by
  induction s generalizing q ts with
  | nil =>
    cases h
    exact hr
  | cons c s ih =>
    simp only [Reads, run, Option.bind_eq_bind, Option.bind_eq_some_iff] at h
    obtain ⟨⟨vs, q'⟩, hstep, ⟨ws, p'⟩, hrun, heq⟩ := h
    cases heq
    rw [List.append_assoc]
    exact .cons hstep (ih hrun)

/-- If the written form of every character adds the character to what is read so far, the
written form of a text adds the text. -/
theorem Reads.flatMap (state : List Char → State) {write : Char → List Char}
    (h : ∀ c ∈ s, ∀ done, m.Reads (state done) (write c) [] (state (done ++ [c])))
    (done : List Char) : m.Reads (state done) (s.flatMap write) [] (state (done ++ s)) := by
  induction s generalizing done with
  | nil => simpa using Reads.nil
  | cons c s ih =>
    have hs := ih (fun d hd => h d (List.mem_cons_of_mem c hd)) (done ++ [c])
    rw [List.append_assoc] at hs
    exact (h c List.mem_cons_self done).append hs

def first? (m : Scanner State Token) : State → List Char → Option (Token × List Char)
  | _, [] => none
  | q, c :: r =>
    match m.step q c with
    | none => none
    | some (t :: _, _) => some (t, r)
    | some ([], q) => first? m q r

/-- A text without tokens stands before the first one. -/
theorem Reads.first?_append (h : m.Reads q s [] p) (r : List Char) :
    m.first? q (s ++ r) = m.first? p r := by
  induction s generalizing q with
  | nil =>
    cases h
    rfl
  | cons c s ih =>
    simp only [Reads, run, Option.bind_eq_bind, Option.bind_eq_some_iff] at h
    obtain ⟨⟨vs, q'⟩, hstep, ⟨ws, p'⟩, hrun, heq⟩ := h
    obtain ⟨none_before, rfl⟩ := Prod.mk.inj (Option.some.inj heq)
    obtain ⟨rfl, rfl⟩ := List.append_eq_nil_iff.mp none_before
    rw [List.cons_append, first?, hstep]
    exact ih hrun

theorem first?_append {t : Token} (h : m.first? q s = some (t, r)) (more : List Char) :
    m.first? q (s ++ more) = some (t, r ++ more) := by
  induction s generalizing q with
  | nil => cases h
  | cons c s ih =>
    rw [List.cons_append, first?]
    rw [first?] at h
    split at h
    · cases h
    · cases h
      rfl
    · exact ih h

end Scanner

end RequestCode.Text
