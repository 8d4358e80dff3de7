import RequestCode.Outgoing
import RequestCode.Quote

/-!
# Pieces of a snippet

A snippet is put together from the fixed text of its client, literals that hold texts of the
request, and texts of the request that stand outside literals.
-/

namespace RequestCode

inductive Piece where
  | code (text : String)
  | quoted (style : Quote) (text : String)
  | bare (text : String)

namespace Piece

def chars : Piece → List Char
  | code text => text.toList
  | quoted style text => style.write text.toList
  | bare text => text.toList

def json (text : String) : Piece := quoted .json text

/-- The text of a snippet. -/
def render (ps : List Piece) : String := .ofList (ps.flatMap chars)

/-- Pieces for every parameter. -/
def each (ps : List Param) (f : Param → List Piece) : List Piece := ps.flatMap f

/-- Pieces for every parameter, with a separator between. -/
def eachWith (sep : Piece) (f : Param → List Piece) : List Param → List Piece
  | [] => []
  | [p] => f p
  | p :: q :: r => f p ++ sep :: eachWith sep f (q :: r)

/-- Pieces that are there only under a condition. -/
def only (b : Bool) (ps : List Piece) : List Piece := if b then ps else []

/-- One member of an object literal, on a line of its own. -/
def member (indent : String) (style : Quote) (p : Param) : List Piece :=
  [code ("\n" ++ indent), quoted style p.name, code ": ", quoted style p.value]

/-- The members of an object literal, one a line, with commas between. -/
def members (indent : String) (style : Quote) (ps : List Param) : List Piece :=
  eachWith (code ",") (member indent style) ps

/-- A header as one text. -/
def headerLine (p : Param) : String := p.name ++ ": " ++ p.value

end Piece

/-- A way to print requests. -/
abbrev Printer := Outgoing → List Piece

end RequestCode
