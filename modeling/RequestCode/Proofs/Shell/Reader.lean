import RequestCode.Proofs.Text.Scanner
import RequestCode.Quote

/-!
# Reading shell commands

The words and commands that a POSIX shell finds in a line. Blanks end a word, a backslash takes
the next character as it is and vanishes together with a line break, and nothing between single
quotes has a meaning. A bar ends a command, a line break the line. What would start an expansion,
a redirection or any other construct is refused. Main statements: `reads_shell` and
`reads_shellWord`, quoted texts are read back.
-/

namespace RequestCode.Shell

open Text

inductive Token where
  | word (text : String)
  | pipe
  | newline
  deriving DecidableEq

inductive Mode where
  | plain
  | escaped
  | quoted
  deriving DecidableEq

/-- The word that is being read, if one has begun, and how the next character counts. -/
structure State where
  word : Option (List Char)
  mode : Mode
  deriving DecidableEq

namespace State

def between : State := ⟨none, .plain⟩

def after (word : List Char) : State := ⟨some word, .plain⟩

def add (q : State) (c : Char) (mode : Mode) : State := ⟨some (q.word.getD [] ++ [c]), mode⟩

def pending (q : State) : List Token := (q.word.map fun w => Token.word (.ofList w)).toList

@[simp] theorem pending_between : between.pending = [] := rfl

@[simp] theorem pending_after (w : List Char) : (after w).pending = [.word (.ofList w)] := rfl

end State

/-- The characters that mean more than themselves outside quotes, apart from those that are read
here. -/
def specials : List Char :=
  ['"', '$', Char.ofNat 0x60, '&', ';', '<', '>', '(', ')', '*', '?', '[', '#', '~']

def reader : Scanner State Token where
  step q c :=
    match q.mode with
    | .quoted => some ([], if c = '\'' then { q with mode := .plain } else q.add c .quoted)
    | .escaped => some ([], if c = '\n' then { q with mode := .plain } else q.add c .plain)
    | .plain =>
      if c = '\'' then some ([], ⟨some (q.word.getD []), .quoted⟩)
      else if c = '\\' then some ([], { q with mode := .escaped })
      else if c = ' ' || c = '\t' then some (q.pending, .between)
      else if c = '\n' then some (q.pending ++ [.newline], .between)
      else if c = '|' then some (q.pending ++ [.pipe], .between)
      else if c ∈ specials then none
      else some ([], q.add c .plain)

def consWord (word : String) : List (List String) → List (List String)
  | [] => [[word]]
  | command :: commands => (word :: command) :: commands

def commands : List Token → Option (List (List String))
  | [] => some [[]]
  | .word text :: r => (commands r).map (consWord text)
  | .pipe :: r => (commands r).map ([] :: ·)
  | .newline :: r => if r.isEmpty then some [[]] else none

/-- The piped commands of a line, each as the list of its words. -/
def read (text : String) : Option (List (List String)) :=
  match reader.run .between text.toList with
  | some (ts, ⟨word, .plain⟩) => commands (ts ++ State.pending ⟨word, .plain⟩)
  | _ => none

theorem commands_newline : commands [.newline] = some [[]] := rfl

theorem commands_words (ws : List String) {ts : List Token} {c : List String}
    {cs : List (List String)} (h : commands ts = some (c :: cs)) :
    commands (ws.map .word ++ ts) = some ((ws ++ c) :: cs) := by
  induction ws with
  | nil => exact h
  | cons w ws ih => simp [commands, ih, consWord]

theorem reads_shellChar (c : Char) (w : List Char) :
    reader.Reads ⟨some w, .quoted⟩ (Quote.shellChar c) [] ⟨some (w ++ [c]), .quoted⟩ := by
  unfold Quote.shellChar
  split
  · rename_i h
    subst h
    rfl
  · rename_i h
    simp [Scanner.Reads, Scanner.run, reader, State.add, h]

/-- A quoted text is one word, whatever its characters are. -/
theorem reads_shell (s : List Char) :
    reader.Reads .between (Quote.shell.write s) [] (.after s) := by
  have opened : reader.Reads .between ['\''] [] ⟨some [], .quoted⟩ := rfl
  have inside := Scanner.Reads.flatMap (fun w => State.mk (some w) .quoted) (s := s)
    (fun c _ w => reads_shellChar c w) []
  have closed : reader.Reads ⟨some s, .quoted⟩ ['\''] [] (.after s) := rfl
  simpa [Quote.write, Quote.between] using (opened.append inside).append closed

theorem isShellPlain_eq_false :
    ∀ c ∈ ['\'', '\\', ' ', '\t', '\n', '|'] ++ specials, Quote.isShellPlain c = false := by
  have quoted : (['\'', '\\', ' ', '\t', '\n', '|'] ++ specials).all
      (!Quote.isShellPlain ·) = true := by decide
  intro c mem
  simpa using List.all_eq_true.mp quoted c mem

theorem reads_plainChar {c : Char} (h : Quote.isShellPlain c = true) (q : State)
    (hq : q.mode = .plain) : reader.Reads q [c] [] (q.add c .plain) := by
  have other : ∀ d ∈ ['\'', '\\', ' ', '\t', '\n', '|'] ++ specials, c ≠ d := by
    rintro d hd rfl
    simp [isShellPlain_eq_false c hd] at h
  have ordinary : c ∉ specials := fun hc => other c (List.mem_append_right _ hc) rfl
  simp only [List.mem_append, List.mem_cons, List.not_mem_nil, or_false] at other
  simp [Scanner.Reads, Scanner.run, reader, hq, other, ordinary]

/-- A text is one word also where it is written without quotes. -/
theorem reads_shellWord (s : List Char) :
    reader.Reads .between (Quote.shellWord.write s) [] (.after s) := by
  simp only [Quote.write]
  split
  · rename_i h
    simp only [Bool.and_eq_true, Bool.not_eq_true', List.isEmpty_eq_false_iff,
      List.all_eq_true] at h
    obtain ⟨nonempty, plain⟩ := h
    cases s with
    | nil => exact absurd rfl nonempty
    | cons c r =>
      have first := reads_plainChar (plain c List.mem_cons_self) .between rfl
      have rest := Scanner.Reads.flatMap State.after
        (fun d hd w => reads_plainChar (plain d (List.mem_cons_of_mem c hd)) (.after w) rfl) [c]
      simpa using first.append rest
  · exact reads_shell s

end RequestCode.Shell
