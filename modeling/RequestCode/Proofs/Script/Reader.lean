import RequestCode.Json.Tree
import RequestCode.Proofs.Literal.Reader

/-!
# Reading object literals

A script may declare a constant by an object literal. Such a literal follows the grammar of JSON,
and names of members may also stand without quotes. Its strings are read as literals, and a stack
holds what is still open around them. Reading ends with the brace that closes the object; members
keep their order, and repeated names stay.
-/

namespace RequestCode.Script

open Text

abbrev Members := List (String × Json)

/-- What is open around a value. -/
inductive Frame where
  | items (done : List Json)
  | member (key : String) (done : Members)

/-- Where the reader is, with what is complete of the innermost object or array, and what is open
around it. A `fresh` place is one where the brace or bracket may be closed at once. -/
inductive State where
  | start
  | key (fresh : Bool) (done : Members) (outer : List Frame)
  | name (w : List Char) (done : Members) (outer : List Frame)
  | colon (key : String) (done : Members) (outer : List Frame)
  | value (fresh : Bool) (frame : Frame) (outer : List Frame)
  | word (w : List Char) (frame : Frame) (outer : List Frame)
  | members (done : Members) (outer : List Frame)
  | items (done : List Json) (outer : List Frame)
  | finished

def isNameStart (c : Char) : Bool := isAsciiAlpha c || c = '_' || c = '$'

def isNameChar (c : Char) : Bool := isNameStart c || isDecimal c

def isWordChar (c : Char) : Bool := isAsciiAlphanumeric c || c = '+' || c = '-' || c = '.'

/-- The number that a numeral stands for. Without a fraction and an exponent it is an integer, of
whatever size. -/
def numberOf (n : Json.Numeral) : Option Number :=
  if n.fraction = none ∧ n.exponent = none then
    let size : Int := decimalValue n.whole
    some (.integer (if n.negative then -size else size))
  else n.value

def wordValue : List Char → Option Json
  | ['n', 'u', 'l', 'l'] => some .null
  | ['t', 'r', 'u', 'e'] => some (.bool true)
  | ['f', 'a', 'l', 's', 'e'] => some (.bool false)
  | w => match Json.readNumeral w with
    | some (n, []) => (numberOf n).map .number
    | _ => none

def Frame.complete (v : Json) (outer : List Frame) : Frame → State
  | items done => .items (done ++ [v]) outer
  | member key done => .members (done ++ [(key, v)]) outer

def closeObject (done : Members) : List Frame → Option (List Members × State)
  | [] => some ([done], .finished)
  | frame :: outer => some ([], frame.complete (.object done) outer)

def closeArray (done : List Json) : List Frame → Option (List Members × State)
  | [] => none
  | frame :: outer => some ([], frame.complete (.array done) outer)

def behind (c : Char) : State → Option (List Members × State)
  | .members done outer =>
    if c = ',' then some ([], .key false done outer)
    else if c = '\x7d' then closeObject done outer
    else if Json.isSpace c then some ([], .members done outer)
    else none
  | .items done outer =>
    if c = ',' then some ([], .value false (.items done) outer)
    else if c = ']' then closeArray done outer
    else if Json.isSpace c then some ([], .items done outer)
    else none
  | _ => none

def stepCode (c : Char) : State → Option (List Members × State)
  | .start => if c = '\x7b' then some ([], .key true [] []) else none
  | .key fresh done outer =>
    if c = '\x7d' && fresh then closeObject done outer
    else if isNameStart c then some ([], .name [c] done outer)
    else if Json.isSpace c then some ([], .key fresh done outer)
    else none
  | .name w done outer =>
    if c = ':' then some ([], .value false (.member (.ofList w) done) outer)
    else if isNameChar c then some ([], .name (w ++ [c]) done outer)
    else if Json.isSpace c then some ([], .colon (.ofList w) done outer)
    else none
  | .colon key done outer =>
    if c = ':' then some ([], .value false (.member key done) outer)
    else if Json.isSpace c then some ([], .colon key done outer)
    else none
  | .value fresh frame outer =>
    if c = '\x7b' then some ([], .key true [] (frame :: outer))
    else if c = '[' then some ([], .value true (.items []) (frame :: outer))
    else if c = ']' && fresh then closeArray [] outer
    else if isWordChar c then some ([], .word [c] frame outer)
    else if Json.isSpace c then some ([], .value fresh frame outer)
    else none
  | .word w frame outer =>
    if isWordChar c then some ([], .word (w ++ [c]) frame outer)
    else (wordValue w).bind fun v => behind c (frame.complete v outer)
  | .members done outer => behind c (.members done outer)
  | .items done outer => behind c (.items done outer)
  | .finished => none

def stepString (text : String) : State → Option (List Members × State)
  | .key _ done outer => some ([], .colon text done outer)
  | .value _ frame outer => some ([], frame.complete (.string text) outer)
  | _ => none

def advance (q : State) : Literal.Token → Option (List Members × State)
  | .code c => stepCode c q
  | .literal text => stepString text q

def feed : State → List Literal.Token → Option (List Members × State)
  | q, [] => some ([], q)
  | q, t :: ts => do
    let (found, q) ← advance q t
    let (more, q) ← feed q ts
    return (found ++ more, q)

/-- Reads the characters of an object literal; the members are its only token. -/
def reader : Scanner (Literal.State × State) Members where
  step q c := do
    let (ts, l) ← (Literal.reader [.json]).step q.1 c
    let (found, p) ← feed q.2 ts
    return (found, l, p)

def readObject (s : List Char) : Option (Members × List Char) := reader.first? (.code, .start) s

/-- Looks for a line that starts with a text. The state is what is missing of that text, as long as
the line may be the one. -/
def lineWith (opening : List Char) : Scanner (Option (List Char)) Unit where
  step
    | some (d :: missing), c =>
      if c = d then
        match missing with
        | [] => some ([()], none)
        | missing => some ([], some missing)
      else some ([], if c = '\n' then some opening else none)
    | _, c => some ([], if c = '\n' then some opening else none)

def opening (name : String) : List Char := ("const " ++ name ++ " = ").toList

def declared (name : String) (text : List Char) : Option (List Char) :=
  ((lineWith (opening name)).first? (some (opening name)) text).map (·.2)

theorem feed_append (q : State) (ts us : List Literal.Token) :
    feed q (ts ++ us) = do
      let (found, p) ← feed q ts
      let (more, o) ← feed p us
      return (found ++ more, o) := by
  induction ts generalizing q with
  | nil => cases h : feed q us <;> simp [feed, h]
  | cons t ts ih =>
    rw [List.cons_append, feed, feed]
    cases advance q t with
    | none => rfl
    | some first =>
      simp only [Option.bind_eq_bind, Option.bind_some, ih, Option.pure_def, Option.bind_assoc]
      refine Option.bind_congr fun rest _ => ?_
      cases feed rest.2 us <;> simp

/-- What the strings and the characters between them lead to, the text leads to. -/
theorem reads_of_tokens {l l' : Literal.State} {q p : State} {s : List Char}
    {ts : List Literal.Token} {found : List Members}
    (h : (Literal.reader [.json]).Reads l s ts l') (hf : feed q ts = some (found, p)) :
    reader.Reads (l, q) s found (l', p) := by
  induction s generalizing l q ts found with
  | nil =>
    cases h
    cases hf
    exact .nil
  | cons c s ih =>
    simp only [Scanner.Reads, Scanner.run, Option.bind_eq_bind, Option.bind_eq_some_iff] at h
    obtain ⟨⟨first, l₁⟩, hstep, ⟨rest, l₂⟩, hrun, heq⟩ := h
    cases heq
    rw [feed_append] at hf
    simp only [Option.bind_eq_bind, Option.bind_eq_some_iff] at hf
    obtain ⟨⟨found₁, q₁⟩, hfirst, ⟨found₂, q₂⟩, hrest, heq⟩ := hf
    cases heq
    refine .cons ?_ (ih hrun hrest)
    simp [reader, hstep, hfirst]

end RequestCode.Script
