import RequestCode.Text.Digits
import RequestCode.Yaml.Cursor

/-!
# Scalars in a YAML text

Texts are written plainly, in quotes, or as indented blocks. Line breaks inside plain and quoted
texts are folded: one break becomes a blank, and of several the first is dropped.
-/

namespace RequestCode.Yaml

open Text

/-- Blanks and line breaks that wait for the next character of a text. -/
structure Gap where
  blanks : List Char
  /-- Whether a line has ended. -/
  folding : Bool
  first : List Char
  more : List Char

namespace Gap

def empty : Gap := ⟨[], false, [], []⟩

def isEmpty (g : Gap) : Bool := g.blanks.isEmpty && !g.folding

/-- The text a gap stands for. -/
def text (g : Gap) : List Char :=
  if g.folding then
    if g.first = ['\n'] then (if g.more.isEmpty then [' '] else g.more) else g.first ++ g.more
  else g.blanks

def addBlank (g : Gap) (c : Char) : Gap :=
  if g.folding then g else { g with blanks := g.blanks ++ [c] }

def addBreak (g : Gap) (s : List Char) : Gap :=
  if g.folding then { g with more := g.more ++ s } else ⟨[], true, s, []⟩

end Gap

/-- The character of an escape without a number. -/
def simpleEscape? : Char → Option Char
  | '0' => some '\x00'
  | 'a' => some '\x07'
  | 'b' => some '\x08'
  | 't' => some '\t'
  | '\t' => some '\t'
  | 'n' => some '\n'
  | 'v' => some '\x0b'
  | 'f' => some '\x0c'
  | 'r' => some '\r'
  | 'e' => some '\x1b'
  | ' ' => some ' '
  | '"' => some '"'
  | '/' => some '/'
  | '\\' => some '\\'
  | 'N' => some '\u0085'
  | '_' => some '\u00a0'
  | 'L' => some '\u2028'
  | 'P' => some '\u2029'
  | _ => none

/-- The number of digits of an escape with a number. -/
def escapeWidth? : Char → Option Nat
  | 'x' => some 2
  | 'u' => some 4
  | 'U' => some 8
  | _ => none

def scalarValue? (n : Nat) : Option Char :=
  if n < 0xD800 || (0xDFFF < n && n < 0x110000) then some (.ofNat n) else none

/-- Read an escape after its backslash: the character, and the number of characters it takes. -/
def readEscape : List Char → Option (Char × Nat)
  | [] => none
  | c :: r =>
    match escapeWidth? c with
    | some width => do
      let ds := r.take width
      if ds.length < width then none
      let d ← (numeral? 16 ds) >>= scalarValue?
      return (d, width + 1)
    | none => (simpleEscape? c).map (·, 1)

/-- Read a quoted text after its opening quote. -/
def readQuoted (quote : Char) : Nat → Cursor → Gap → List Char → Option (List Char × Cursor)
  | 0, _, _, _ => none
  | fuel + 1, c, gap, out =>
    match c.rest with
    | [] => none
    | d :: r =>
      if isBlank d then readQuoted quote fuel (c.skip 1) (gap.addBlank d) out
      else if isBreak d then
        let (s, c) := c.takeBreak
        readQuoted quote fuel c (gap.addBreak s) out
      else if c.atDocumentMark then none
      else
        let out := out ++ gap.text
        if d = quote then
          if quote = '\'' && r.head? = some '\'' then
            readQuoted quote fuel (c.skip 2) .empty (out ++ ['\''])
          else some (out, c.skip 1)
        else if quote = '"' && d = '\\' then
          if r.head?.any isBreak then
            readQuoted quote fuel (c.skip 1).takeBreak.2 ⟨[], true, [], []⟩ out
          else do
            let (e, n) ← readEscape r
            readQuoted quote fuel (c.skip (n + 1)) .empty (out ++ [e])
        else readQuoted quote fuel (c.skip 1) .empty (out ++ [d])

def isFlowIndicator (c : Char) : Bool :=
  c = ',' || c = '[' || c = ']' || c = '\x7b' || c = '\x7d'

/-- Read a plain text; `indent` is the least column of its further lines. The result tells whether
the text is followed by a line break. -/
def readPlain (flow : Bool) (indent : Nat) :
    Nat → Cursor → Gap → List Char → Option (List Char × Bool × Cursor)
  | 0, _, _, _ => none
  | fuel + 1, c, gap, out =>
    match c.rest with
    | [] => some (out, gap.folding, c)
    | d :: r =>
      if isBlank d then
        if gap.folding && c.column < indent && d = '\t' then none
        else readPlain flow indent fuel (c.skip 1) (gap.addBlank d) out
      else if isBreak d then
        let (s, c) := c.takeBreak
        readPlain flow indent fuel c (gap.addBreak s) out
      else if (!gap.isEmpty && !flow && c.column < indent) || c.atDocumentMark
          || (!gap.isEmpty && d = '#') then
        some (out, gap.folding, c)
      else if flow && d = ':' && r.head?.any (fun e => isFlowIndicator e || e = '?') then none
      else if (d = ':' && c.gapAt 1) || (flow && isFlowIndicator d) then
        some (out, gap.folding, c)
      else readPlain flow indent fuel (c.skip 1) .empty (out ++ gap.text ++ [d])

/-- How the line breaks at the end of a block are kept. -/
inductive Chomp where
  | strip
  | clip
  | keep
  deriving DecidableEq

def chomp? : Char → Option Chomp
  | '-' => some .strip
  | '+' => some .keep
  | _ => none

/-- An indentation of one to nine columns; zero is an error. -/
def indentDigit? (c : Char) : Option (Option Nat) :=
  if isDecimal c then (if c = '0' then none else some (some (c.toNat - 48))) else some none

/-- Read the marks after the sign of a block, in either order. -/
def readBlockHeader (c : Cursor) : Option (Chomp × Option Nat × Cursor) :=
  match c.rest with
  | [] => some (.clip, none, c)
  | a :: r =>
    match chomp? a with
    | some chomp => do
      let b := r.head?.getD ' '
      let indent ← indentDigit? b
      return (chomp, indent, c.skip (if indent.isSome then 2 else 1))
    | none => do
      match ← indentDigit? a with
      | none => return (.clip, none, c)
      | some n =>
        match r.head?.bind chomp? with
        | some chomp => return (chomp, some n, c.skip 2)
        | none => return (.clip, some n, c.skip 1)

/-- Skip empty lines and indentation in a block: the line breaks, and the greatest column seen.
Without a known indentation every blank counts as indentation. -/
def readBlockBreaks (indent : Option Nat) :
    Nat → Cursor → List Char → Nat → Option (List Char × Nat × Cursor)
  | 0, _, _, _ => none
  | fuel + 1, c, breaks, greatest =>
    let width := (c.rest.takeWhile (· = ' ')).length
    let c := c.skip (match indent with
      | none => width
      | some n => min width (n - c.column))
    let greatest := max greatest c.column
    if (match indent with
        | none => true
        | some n => decide (c.column < n)) && c.isAt '\t' then none
    else if c.atBreak then
      let (s, c) := c.takeBreak
      readBlockBreaks indent fuel c (breaks ++ s) greatest
    else some (breaks, greatest, c)

/-- Read the lines of a block at a known indentation. `first` is the break that ended the line
before and `more` the breaks after it; `blank` tells whether that line started with a blank. -/
def readBlockLines (literal : Bool) (indent : Nat) :
    Nat → Cursor → (first more : List Char) → (blank : Bool) → List Char →
      Option (List Char × List Char × List Char × Cursor)
  | 0, _, _, _, _, _ => none
  | fuel + 1, c, first, more, blank, out =>
    if c.column = indent && !c.rest.isEmpty then
      let startsBlank := c.atBlank
      let joint :=
        if !literal && first = ['\n'] && !blank && !startsBlank then
          (if more.isEmpty then [' '] else more)
        else first ++ more
      let line := c.rest.takeWhile (!isBreak ·)
      let (s, c) := (c.skip line.length).takeBreak
      match readBlockBreaks (some indent) (c.rest.length + 1) c [] 0 with
      | none => none
      | some (breaks, _, c) =>
        readBlockLines literal indent fuel c s breaks startsBlank (out ++ joint ++ line)
    else some (out, first, more, c)

/-- Read a block after its sign; `parent` is the indentation of what it stands in. -/
def readBlock (literal : Bool) (parent : Int) (c : Cursor) : Option (List Char × Cursor) := do
  let (chomp, increment, c) ← readBlockHeader c
  let c := (c.skipWhile isBlank).skipComment
  if !c.atLineEnd then none
  let c := c.takeBreak.2
  let known := increment.map fun (n : Nat) => if 0 ≤ parent then (parent + n).toNat else n
  let (breaks, greatest, c) ← readBlockBreaks known (c.rest.length + 1) c [] 0
  let indent := known.getD (max greatest (max (parent + 1).toNat 1))
  let (out, first, more, c) ← readBlockLines literal indent (c.rest.length + 1) c [] breaks false []
  return (match chomp with
    | .strip => out
    | .clip => out ++ first
    | .keep => out ++ first ++ more, c)

end RequestCode.Yaml
