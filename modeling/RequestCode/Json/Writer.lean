import RequestCode.Json.Value
import RequestCode.Decimal.Layout

/-!
# Writing JSON

The compact form, without blanks, and the indented form, one item a line. Only quotes, backslashes
and characters below U+0020 are escaped.
-/

namespace RequestCode.Json

open Text

/-- Points are written down to 0.00001 and up to sixteen digits before them. -/
def realLayout : Decimal.Layout := ⟨-4, 16, true⟩

def escapeChar (c : Char) : List Char :=
  match c with
  | '"' => ['\\', '"']
  | '\\' => ['\\', '\\']
  | '\x08' => ['\\', 'b']
  | '\x0c' => ['\\', 'f']
  | '\n' => ['\\', 'n']
  | '\r' => ['\\', 'r']
  | '\t' => ['\\', 't']
  | c => if c.toNat < 0x20 then ['\\', 'u'] ++ digitsOfWidth lowerHexDigit 16 4 c.toNat else [c]

/-- A string literal. -/
def quote (s : List Char) : List Char := '"' :: s.flatMap escapeChar ++ ['"']

def writeNumber : Number → List Char
  | .integer n => signedDecimal n
  | .real x => realLayout.write x

mutual

def chars : Json → List Char
  | .null => ['n', 'u', 'l', 'l']
  | .bool true => ['t', 'r', 'u', 'e']
  | .bool false => ['f', 'a', 'l', 's', 'e']
  | .number n => writeNumber n
  | .string s => quote s.toList
  | .array items => '[' :: itemChars items ++ [']']
  | .object members => '{' :: memberChars members ++ ['}']

def itemChars : List Json → List Char
  | [] => []
  | [v] => chars v
  | v :: w :: r => chars v ++ ',' :: itemChars (w :: r)

def memberChars : List (String × Json) → List Char
  | [] => []
  | [(k, v)] => quote k.toList ++ ':' :: chars v
  | (k, v) :: m :: r => quote k.toList ++ ':' :: chars v ++ ',' :: memberChars (m :: r)

end

/-- The compact form. -/
def write (v : Json) : String := .ofList v.chars

/-- A line break and the blanks of a nesting depth. -/
def newLine (depth : Nat) : List Char := '\n' :: List.replicate (2 * depth) ' '

mutual

def indentedChars (depth : Nat) : Json → List Char
  | .array (v :: r) =>
    '[' :: indentedItems (depth + 1) (v :: r) ++ newLine depth ++ [']']
  | .object (m :: r) =>
    '{' :: indentedMembers (depth + 1) (m :: r) ++ newLine depth ++ ['}']
  | v => v.chars

def indentedItems (depth : Nat) : List Json → List Char
  | [] => []
  | [v] => newLine depth ++ indentedChars depth v
  | v :: w :: r => newLine depth ++ indentedChars depth v ++ ',' :: indentedItems depth (w :: r)

def indentedMembers (depth : Nat) : List (String × Json) → List Char
  | [] => []
  | [(k, v)] => newLine depth ++ quote k.toList ++ ':' :: ' ' :: indentedChars depth v
  | (k, v) :: m :: r =>
    newLine depth ++ quote k.toList ++ ':' :: ' ' :: indentedChars depth v
      ++ ',' :: indentedMembers depth (m :: r)

end

/-- The indented form. -/
def writeIndented (v : Json) : String := .ofList (v.indentedChars 0)

end RequestCode.Json
