import RequestCode.Param
import RequestCode.Text.Cut
import RequestCode.Url.Percent

/-!
# Form encoding of queries

A query is a list of pairs joined by `&`, name and value separated by `=`. A blank is written `+`,
and all but letters, digits and `*-._` is percent-encoded.
-/

namespace RequestCode.Url

open Text

def keepForm (c : Char) : Bool :=
  isAsciiAlphanumeric c || c = '*' || c = '-' || c = '.' || c = '_'

def formChar (c : Char) : List Char :=
  if keepForm c then [c] else if c = ' ' then ['+'] else percentChar c

def formEncode (s : List Char) : List Char := s.flatMap formChar

/-- One pair. -/
def writePair (p : Param) : List Char :=
  formEncode p.name.toList ++ '=' :: formEncode p.value.toList

/-- The query text of the pairs. -/
def writeQuery (ps : List Param) : String :=
  .ofList (joined '&' (ps.map writePair))

def plusToBlank (c : Char) : Char := if c = '+' then ' ' else c

/-- The octets that a name or value in a query stands for. -/
def formOctets (s : List Char) : List Nat := percentDecode (Utf8.encode (s.map plusToBlank))

def formDecode (s : List Char) : List Char := Utf8.decode (formOctets s)

/-- One pair; without `=` the value is empty. -/
def readPair (s : List Char) : Param :=
  match cutFirst '=' s with
  | some (a, b) => ⟨.ofList (formDecode a), .ofList (formDecode b)⟩
  | none => ⟨.ofList (formDecode s), ""⟩

/-- The pairs of a query text; empty pieces count for nothing. -/
def readQuery (s : String) : List Param :=
  ((pieces '&' s.toList).filter (!·.isEmpty)).map readPair

end RequestCode.Url
