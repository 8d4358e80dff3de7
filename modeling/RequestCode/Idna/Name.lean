import RequestCode.Idna.Label
import RequestCode.Idna.Punycode

/-!
# Internationalised host names

The ASCII form of a host name: characters are mapped, the text is put in normal form, and every
label is checked and written in ASCII.
-/

namespace RequestCode.Idna

open Text

/-- The characters that stand for one in a mapped name; `none` if it is not allowed. -/
def mapChar (c : Char) : Option (List Char) :=
  if validSet.contains c then some [c]
  else if ignoredSet.contains c then some []
  else mapping.image? c

def mapAll : List Char → Option (List Char)
  | [] => some []
  | c :: r => do return (← mapChar c) ++ (← mapAll r)

def acePrefixed? : List Char → Option (List Char)
  | 'x' :: 'n' :: '-' :: '-' :: r => some r
  | _ => none

def isAsciiText (s : List Char) : Bool := s.all (·.toNat < 0x80)

/-- The label that a written one denotes: a label with the ASCII mark is decoded, and must need
it. -/
def readLabel (s : List Char) : Option (List Char) :=
  match acePrefixed? s with
  | some r => do
    if !isAsciiText r then none
    let label ← Punycode.decode r
    if isAsciiText label || !labelIsValid label then none
    return label
  | none => if isAsciiText s || labelIsValid s then some s else none

def writeLabel (s : List Char) : List Char :=
  if isAsciiText s then s else ['x', 'n', '-', '-'] ++ Punycode.encode s

/-- The ASCII characters that no host name holds. -/
def isForbidden (c : Char) : Bool :=
  c.toNat ≤ 0x20 || c.toNat = 0x7F
    || c = '%' || c = '#' || c = '/' || c = ':' || c = '<' || c = '>' || c = '?' || c = '@'
    || c = '[' || c = '\\' || c = ']' || c = '^' || c = '|'

/-- The ASCII form of a name, if it is one. -/
def toAscii (s : List Char) : Option (List Char) := do
  let mapped ← mapAll s
  let labels ← (pieces '.' (normal mapped)).mapM readLabel
  if !bidirectionalFits labels then none
  let name := joined '.' (labels.map writeLabel)
  if name.any isForbidden then none
  return name

end RequestCode.Idna
