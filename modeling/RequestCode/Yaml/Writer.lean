import RequestCode.Json.Writer
import RequestCode.Text.Utf8
import RequestCode.Yaml.Style

/-!
# Writing YAML

Values in block form: nested blocks are indented by two columns, except for sequences under a key,
which stand at the column of the key. Empty collections are written in brackets.
-/

namespace RequestCode.Yaml

open Text

/-- Points are written down to 0.00001 and up to sixteen digits before them. -/
def realLayout : Decimal.Layout := ⟨-4, 16, false⟩

def numberChars : Number → List Char
  | .integer n => signedDecimal n
  | .real x => realLayout.write x

/-- End the line unless it has ended. -/
def endLine (s : List Char) : List Char :=
  if s.getLast?.any isBreak then s else s ++ ['\n']

/-- Longer keys, and those of several lines, are announced by a mark of their own. -/
def isSimpleKey (s : List Char) : Bool := !s.any isBreak && (Utf8.encode s).length ≤ 128

/-- A key from a column on, with what stands between it and its value, and the column at which the
value starts. -/
def keyChars (column : Nat) (key : List Char) (value : Json) : List Char × Nat :=
  if isSimpleKey key then
    match value with
    | .array (_ :: _) => (scalar column key ++ ':' :: '\n' :: spaces column, column)
    | .object (_ :: _) => (scalar column key ++ ':' :: '\n' :: spaces (column + 2), column + 2)
    | _ => (scalar column key ++ [':', ' '], column + 2)
  else
    ('?' :: ' ' :: endLine (scalar (column + 2) key) ++ spaces column ++ [':', ' '], column + 2)

mutual

/-- A value from a column on, to the end of its last line. -/
def block (column : Nat) : Json → List Char
  | .null => "null\n".toList
  | .bool true => "true\n".toList
  | .bool false => "false\n".toList
  | .number n => endLine (numberChars n)
  | .string s => endLine (scalar column s.toList)
  | .array [] => "[]\n".toList
  | .array (v :: r) => '-' :: ' ' :: block (column + 2) v ++ blockItems column r
  | .object [] => "\x7b\x7d\n".toList
  | .object ((k, v) :: r) =>
    let key := keyChars column k.toList v
    key.1 ++ block key.2 v ++ blockMembers column r

/-- Items after the first. -/
def blockItems (column : Nat) : List Json → List Char
  | [] => []
  | v :: r => spaces column ++ '-' :: ' ' :: block (column + 2) v ++ blockItems column r

/-- Members after the first. -/
def blockMembers (column : Nat) : List (String × Json) → List Char
  | [] => []
  | (k, v) :: r =>
    let key := keyChars column k.toList v
    spaces column ++ key.1 ++ block key.2 v ++ blockMembers column r

end

/-- A value as a document. -/
def write (v : Json) : String := .ofList (block 0 v)

end RequestCode.Yaml
