import RequestCode.Text.CaseTable

/-!
# Letter case

Full case mapping of texts: a character may become several, and a capital sigma at the end of a
word becomes the final form.
-/

namespace RequestCode.Text

def isAscii (c : Char) : Bool := c.toNat < 0x80

def upperChar (c : Char) : List Char :=
  if isAsciiLower c then [Char.ofNat (c.toNat - 32)]
  else if isAscii c then [c]
  else (upperMap.image? c).getD [c]

def lowerChar (c : Char) : List Char :=
  if isAsciiUpper c then [Char.ofNat (c.toNat + 32)]
  else if isAscii c then [c]
  else (lowerMap.image? c).getD [c]

def upper (s : List Char) : List Char := s.flatMap upperChar

/-- Whether the next character that is not ignored for case is a cased one. -/
def meetsCased (s : List Char) : Bool :=
  match s.dropWhile caseIgnorableSet.contains with
  | [] => false
  | c :: _ => casedSet.contains c

/-- A capital sigma is final when a cased character precedes it and none follows. -/
def sigmaIsFinal (before after : List Char) : Bool :=
  meetsCased before && !meetsCased after

/-- Lower-case the rest of a text, given the part before it from back to front. -/
def lowerAfter (before : List Char) : List Char → List Char
  | [] => []
  | c :: r =>
    (if c = 'Σ' then [if sigmaIsFinal before r then 'ς' else 'σ'] else lowerChar c)
      ++ lowerAfter (c :: before) r

def lower (s : List Char) : List Char := lowerAfter [] s

/-- Upper-case the first character and keep the rest. -/
def capitalize : List Char → List Char
  | [] => []
  | c :: r => upperChar c ++ r

/-- Lower-case ASCII letters only. -/
def asciiLowerChar (c : Char) : Char :=
  if isAsciiUpper c then Char.ofNat (c.toNat + 32) else c

def asciiLower (s : List Char) : List Char := s.map asciiLowerChar

/-- Equality up to the case of ASCII letters. -/
def sameIgnoringAsciiCase (a b : String) : Bool :=
  asciiLower a.toList = asciiLower b.toList

end RequestCode.Text
