import RequestCode.Yaml.Cursor
import RequestCode.Yaml.Plain

/-!
# Styles of YAML scalars

A text is written plainly if it reads as that text and nothing else; otherwise in single quotes,
or in double quotes if some of its characters need an escape. A text of several lines is written
as a literal block where one can stand.
-/

namespace RequestCode.Yaml

open Text

inductive Style where
  | plain
  | single
  | double
  | literal
  deriving DecidableEq

/-- Characters that need no escape. -/
def isPrintable (c : Char) : Bool :=
  c = '\n' || (' ' ≤ c && c ≤ '~') || ('\u00a0' ≤ c && c ≤ '\ufffd' && c ≠ '\ufeff')
    || '\uffff' < c

/-- Whether two neighbours have the properties. -/
def hasPair (p q : Char → Bool) (s : List Char) : Bool :=
  (s.zip (s.drop 1)).any fun e => p e.1 && q e.2

def isSpace (c : Char) : Bool := c = ' '

def isGap (c : Char) : Bool := isBlank c || isBreak c || c = '\x00'

/-- Characters that no plain text starts with. -/
def startMarks : List Char :=
  ['#', ',', '[', ']', '\x7b', '\x7d', '&', '*', '!', '|', '>', '\'', '"', '%', '@',
    Char.ofNat 0x60]

/-- Whether the text holds a mark of YAML where one counts. -/
def hasMark (s : List Char) : Bool :=
  s.take 3 = ['-', '-', '-'] || s.take 3 = ['.', '.', '.']
    || s.head?.any startMarks.contains
    || (s.head?.any (fun c => c = '?' || c = '-') && (s.drop 1).head?.all isGap)
    || s.getLast? = some ':' || hasPair (· = ':') isGap s || hasPair isGap (· = '#') s

def isEdge (c : Char) : Bool := isSpace c || isBreak c

/-- Whether a text of one line can stand without quotes. -/
def canBePlain (s : List Char) : Bool :=
  s.all (fun c => isPrintable c && !isBreak c) && !s.head?.any isEdge && !s.getLast?.any isEdge
    && !hasMark s

/-- Whether a text can stand in single quotes. -/
def canBeSingle (s : List Char) : Bool :=
  s.all isPrintable && !hasPair isBreak isSpace s && !hasPair isSpace isBreak s

/-- Whether a text can stand as a block. -/
def canBeBlock (s : List Char) : Bool :=
  s.all isPrintable && !hasPair isSpace isBreak s && !s.getLast?.any isSpace

/-- Whether a plain text would stand for something else, or nearly so. -/
def isAmbiguous (s : List Char) : Bool :=
  match plainValue? s with
  | some (.string _) => isPadded s
  | _ => true

def styleOf (s : List Char) : Style :=
  if s.contains '\n' then (if canBeBlock s then .literal else .double)
  else if !isAmbiguous s && canBePlain s then .plain
  else if canBeSingle s then .single
  else .double

/-- The letter of an escape without a number. -/
def escapeLetter? (c : Char) : Option Char :=
  match c with
  | '\x00' => some '0'
  | '\x07' => some 'a'
  | '\x08' => some 'b'
  | '\t' => some 't'
  | '\n' => some 'n'
  | '\x0b' => some 'v'
  | '\x0c' => some 'f'
  | '\r' => some 'r'
  | '\x1b' => some 'e'
  | '"' => some '"'
  | '\\' => some '\\'
  | '\u0085' => some 'N'
  | '\u2028' => some 'L'
  | '\u2029' => some 'P'
  | _ => none

/-- A character in double quotes. -/
def escaped (c : Char) : List Char :=
  match escapeLetter? c with
  | some e => ['\\', e]
  | none =>
    if isPrintable c then [c]
    else if c.toNat ≤ 0xff then ['\\', 'x'] ++ digitsOfWidth upperHexDigit 16 2 c.toNat
    else ['\\', 'u'] ++ digitsOfWidth upperHexDigit 16 4 c.toNat

def spaces (n : Nat) : List Char := List.replicate n ' '

/-- The text of several lines with an indentation before every line that is not empty; `fresh`
tells whether a line starts here. -/
def indented (indent : Nat) : Bool → List Char → List Char
  | _, [] => []
  | fresh, c :: r =>
    if isBreak c then c :: indented indent true r
    else (if fresh then spaces indent else []) ++ c :: indented indent false r

/-- A text in single quotes; `indent` is the column of its further lines. -/
def singleQuoted (indent : Nat) (s : List Char) : List Char :=
  let body := indented indent false (s.flatMap fun c => if c = '\'' then [c, c] else [c])
  '\'' :: body ++ (if s.getLast?.any isBreak then spaces indent else []) ++ ['\'']

/-- The marks of a literal block: one if its indentation does not show, and one unless it ends in
exactly one line break. -/
def blockHints (s : List Char) : List Char :=
  (if s.head?.any isEdge then ['2'] else [])
    ++ match s.reverse with
      | a :: r =>
        if !isBreak a then ['-'] else if r.head?.all isBreak then ['+'] else []
      | [] => ['-']

def literalBlock (indent : Nat) (s : List Char) : List Char :=
  '|' :: blockHints s ++ '\n' :: indented indent true s

/-- A text as a scalar whose further lines stand at a column. -/
def scalar (indent : Nat) (s : List Char) : List Char :=
  match styleOf s with
  | .plain => s
  | .single => singleQuoted indent s
  | .double => '"' :: s.flatMap escaped ++ ['"']
  | .literal => literalBlock indent s

end RequestCode.Yaml
