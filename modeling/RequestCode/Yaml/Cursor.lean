/-!
# Places in a YAML text

What is left of the text, and where it stands. A line ends in a line feed, a carriage return or
both, or in one of three other characters; the last two of those keep their identity.
-/

namespace RequestCode.Yaml

def isBreak (c : Char) : Bool :=
  c = '\n' || c = '\r' || c = '\u0085' || c = '\u2028' || c = '\u2029'

def isBlank (c : Char) : Bool := c = ' ' || c = '\t'

/-- Letters, digits, hyphen and underscore. -/
def isWordChar (c : Char) : Bool := c.isAlphanum || c = '-' || c = '_'

structure Cursor where
  rest : List Char
  index : Nat
  line : Nat
  column : Nat

namespace Cursor

def start (s : List Char) : Cursor := ⟨s, 0, 0, 0⟩

/-- Go forward on the line. -/
def skip (c : Cursor) (n : Nat) : Cursor :=
  { c with rest := c.rest.drop n, index := c.index + n, column := c.column + n }

def nextLine (c : Cursor) (n : Nat) : Cursor :=
  ⟨c.rest.drop n, c.index + n, c.line + 1, 0⟩

/-- Take a line break: the text it stands for, and the start of the next line. -/
def takeBreak (c : Cursor) : List Char × Cursor :=
  match c.rest with
  | '\r' :: '\n' :: _ => (['\n'], c.nextLine 2)
  | d :: _ =>
    if d = '\n' || d = '\r' || d = '\u0085' then (['\n'], c.nextLine 1)
    else if isBreak d then ([d], c.nextLine 1)
    else ([], c)
  | [] => ([], c)

/-- The character `n` places ahead. -/
def peek (c : Cursor) (n : Nat) : Option Char := c.rest[n]?

def isAt (c : Cursor) (d : Char) : Bool := c.rest.head? = some d

def atBreak (c : Cursor) : Bool := c.rest.head?.any isBreak

def atBlank (c : Cursor) : Bool := c.rest.head?.any isBlank

/-- Whether a blank, a line break or the end stands `n` places ahead. -/
def gapAt (c : Cursor) (n : Nat) : Bool :=
  match c.peek n with
  | none => true
  | some d => isBlank d || isBreak d

def atLineEnd (c : Cursor) : Bool := c.rest.isEmpty || c.atBreak

/-- Go forward while the characters are in the class. -/
def skipWhile (p : Char → Bool) (c : Cursor) : Cursor := c.skip (c.rest.takeWhile p).length

/-- Three hyphens or three dots alone at the start of a line. -/
def atDocumentMark (c : Cursor) : Bool :=
  c.column = 0 && (c.rest.take 3 = ['-', '-', '-'] || c.rest.take 3 = ['.', '.', '.']) && c.gapAt 3

def skipComment (c : Cursor) : Cursor :=
  if c.isAt '#' then c.skipWhile (!isBreak ·) else c

end Cursor

end RequestCode.Yaml
