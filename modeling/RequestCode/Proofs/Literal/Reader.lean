import RequestCode.Proofs.Text.Scanner
import RequestCode.Quote

/-!
# Reading string literals

A program text is cut into its string literals and the characters between them, by the forms that
literals have in its language. A literal that is not closed, or holds an escape that its form does
not have, makes the text unreadable.
-/

namespace RequestCode.Literal

open Text

/-- What a backslash and the character after it stand for. -/
inductive Escape where
  | text (s : List Char)
  /-- Four hexadecimal digits of a character number follow. -/
  | number
  /-- A character number in braces follows. -/
  | braced
  | refused

/-- How a language writes literals between one kind of quotes. -/
structure Form where
  quote : Char
  escape : Char → Escape
  /-- The characters that may stand for themselves, quote and backslash apart. -/
  raw : Char → Bool

inductive Mode where
  | plain
  | escaped
  /-- Some digits of a character number are to come. -/
  | number (left value : Nat)
  | opening
  /-- The digits in braces so far. -/
  | braced (value : Option Nat)

inductive State where
  | code
  | literal (form : Form) (text : List Char) (mode : Mode)

inductive Token where
  | code (c : Char)
  | literal (text : String)
  deriving DecidableEq

/-- Go on after a character number; a surrogate is no character. -/
def numbered (form : Form) (text : List Char) (n : Nat) : Option (List Token × State) :=
  if n.isValidChar then some ([], .literal form (text ++ [Char.ofNat n]) .plain) else none

def readMode (form : Form) (text : List Char) : Mode → Char → Option (List Token × State)
  | .plain, c =>
    if c = form.quote then some ([.literal (.ofList text)], .code)
    else if c = '\\' then some ([], .literal form text .escaped)
    else if form.raw c then some ([], .literal form (text ++ [c]) .plain)
    else none
  | .escaped, c => match form.escape c with
    | .text s => some ([], .literal form (text ++ s) .plain)
    | .number => some ([], .literal form text (.number 4 0))
    | .braced => some ([], .literal form text .opening)
    | .refused => none
  | .number left value, c => do
    let d ← hexValue? c
    if left = 1 then numbered form text (value * 16 + d)
    else some ([], .literal form text (.number (left - 1) (value * 16 + d)))
  | .opening, c => if c = '\x7b' then some ([], .literal form text (.braced none)) else none
  | .braced value, c =>
    if c = '\x7d' then value.bind (numbered form text)
    else do
      let d ← hexValue? c
      return ([], .literal form text (.braced (some (value.getD 0 * 16 + d))))

/-- The forms of a language; a literal has the form of the quote that opens it. -/
def reader (forms : List Form) : Scanner State Token where
  step
    | .code, c => match forms.find? (·.quote = c) with
      | some form => some ([], .literal form [] .plain)
      | none => some ([.code c], .code)
    | .literal form text mode, c => readMode form text mode c

/-- The literals of a text and the characters between them, if every literal is closed. -/
def cut (forms : List Form) (text : String) : Option (List Token) :=
  match (reader forms).run .code text.toList with
  | some (ts, .code) => some ts
  | _ => none

def texts (ts : List Token) : List String :=
  ts.filterMap fun
    | .code _ => none
    | .literal text => some text

/-- The text between the literals, with a hole for each of them. -/
def frame (ts : List Token) : List (Option Char) :=
  ts.map fun
    | .code c => some c
    | .literal _ => none

@[simp] theorem texts_append (ts us : List Token) : texts (ts ++ us) = texts ts ++ texts us :=
  List.filterMap_append

@[simp] theorem frame_append (ts us : List Token) : frame (ts ++ us) = frame ts ++ frame us :=
  List.map_append

namespace Form

/-- Single quotes in which a backslash escapes the quote and itself, and stands for itself before
any other character. -/
def apostrophe : Form where
  quote := '\''
  escape c := .text (if c = '\'' || c = '\\' then [c] else ['\\', c])
  raw _ := true

def commonEscape : Char → Escape
  | '"' => .text ['"']
  | '\\' => .text ['\\']
  | 'n' => .text ['\n']
  | 'r' => .text ['\r']
  | 't' => .text ['\t']
  | _ => .refused

/-- Double quotes in which a bare dollar sign would start a template. -/
def template : Form where
  quote := '"'
  escape
    | '$' => .text ['$']
    | 'u' => .number
    | c => commonEscape c
  raw c := c ≠ '$' && c ≠ '\n' && c ≠ '\r'

/-- Double quotes with character numbers in braces. -/
def braced : Form where
  quote := '"'
  escape
    | 'u' => .braced
    | c => commonEscape c
  raw c := c ≠ '\n' && c ≠ '\r'

def json : Form where
  quote := '"'
  escape
    | '/' => .text ['/']
    | 'b' => .text ['\x08']
    | 'f' => .text ['\x0c']
    | 'u' => .number
    | c => commonEscape c
  raw c := 0x20 ≤ c.toNat

/-- Double quotes around a text without escapes, in which one character would start an
interpolation. -/
def constant (interpolation : Char) : Form where
  quote := '"'
  escape _ := .refused
  raw c := c ≠ interpolation

end Form

end RequestCode.Literal
