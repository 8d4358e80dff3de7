import RequestCode.Json.Writer
import RequestCode.Text.Blank

/-!
# Quotation

How a text is written as a literal of the languages that clients are written in.
-/

namespace RequestCode

inductive Quote where
  /-- Single quotes of the POSIX shell; a single quote is written outside them. -/
  | shell
  /-- A word of the shell, quoted only if it has to be. -/
  | shellWord
  /-- Single quotes in which a doubled one stands for itself. -/
  | verbatim
  /-- Single quotes in which the quote and the backslash are escaped. -/
  | apostrophe
  /-- Double quotes in which a dollar sign would start a template. -/
  | template
  /-- Double quotes with character numbers in braces. -/
  | braced
  /-- A JSON string. -/
  | json
  deriving DecidableEq

namespace Quote

open Text

def between (quote : Char) (s : List Char) : List Char := quote :: s ++ [quote]

def shellChar (c : Char) : List Char := if c = '\'' then ['\'', '\\', '\'', '\''] else [c]

/-- The characters of a word that need no quotes. -/
def isShellPlain (c : Char) : Bool :=
  isAsciiAlphanumeric c || c = '.' || c = '_' || c = '-'

def verbatimChar (c : Char) : List Char := if c = '\'' then ['\'', '\''] else [c]

def apostropheChar (c : Char) : List Char :=
  if c = '\'' || c = '\\' then ['\\', c] else [c]

/-- The escapes that double-quoted literals have in common. -/
def commonEscape? : Char → Option (List Char)
  | '"' => some ['\\', '"']
  | '\\' => some ['\\', '\\']
  | '\n' => some ['\\', 'n']
  | '\r' => some ['\\', 'r']
  | '\t' => some ['\\', 't']
  | _ => none

def templateChar (c : Char) : List Char :=
  match commonEscape? c with
  | some e => e
  | none =>
    if c = '$' then ['\\', '$']
    else if isControl c then ['\\', 'u'] ++ digitsOfWidth lowerHexDigit 16 4 c.toNat
    else [c]

def bracedChar (c : Char) : List Char :=
  match commonEscape? c with
  | some e => e
  | none =>
    if isControl c then ['\\', 'u', '\x7b'] ++ lowerHex c.toNat ++ ['\x7d'] else [c]

/-- The literal of a text. -/
def write : Quote → List Char → List Char
  | shell, s => between '\'' (s.flatMap shellChar)
  | shellWord, s =>
    if !s.isEmpty && s.all isShellPlain then s else between '\'' (s.flatMap shellChar)
  | verbatim, s => between '\'' (s.flatMap verbatimChar)
  | apostrophe, s => between '\'' (s.flatMap apostropheChar)
  | template, s => between '"' (s.flatMap templateChar)
  | braced, s => between '"' (s.flatMap bracedChar)
  | json, s => Json.quote s

end Quote

end RequestCode
