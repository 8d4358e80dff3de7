import RequestCode.Text.Cut
import Std.Data.ExtTreeMap

/-!
# Snippet panels

A rendered panel is a tree of elements with classes and styles. The element that holds the tab
buttons is found by looking at every element after those inside it; elements inside a button are
not looked at. Styling changes that element alone.
-/

namespace RequestCode

/-- Style properties, in the order of their names. -/
abbrev Style := Std.ExtTreeMap String String

inductive Element where
  | node (className : Option String) (style : Style) (children : List Element)

namespace Element

instance : Inhabited Element := ⟨node none ∅ []⟩

def className : Element → Option String
  | node c _ _ => c

def style : Element → Style
  | node _ s _ => s

def children : Element → List Element
  | node _ _ cs => cs

/-- Whether the class list, separated by blanks, has the class. -/
def hasClass (e : Element) (name : String) : Bool :=
  match e.className with
  | none => false
  | some names => (Text.pieces ' ' names.toList).any (· = name.toList)

/-- What the search finds in an element. -/
inductive Search where
  | missing
  /-- The element itself has the property. -/
  | found
  /-- A container, by the child positions on the way to it. -/
  | container (path : List Nat)
  deriving DecidableEq

mutual

def search (p : Element → Bool) : Element → Search
  | node c s children =>
    if p (node c s children) then .found else searchChildren p children 0 false

/-- Search the children from a position on; `direct` tells whether one before has the property. -/
def searchChildren (p : Element → Bool) : List Element → Nat → Bool → Search
  | [], _, direct => if direct then .container [] else .missing
  | e :: r, i, direct =>
    match search p e with
    | .container path => .container (i :: path)
    | .found => searchChildren p r (i + 1) true
    | .missing => searchChildren p r (i + 1) direct

end

/-- The way to the container of elements with the property. -/
def containerPath? (p : Element → Bool) (e : Element) : Option (List Nat) :=
  match search p e with
  | .container path => some path
  | _ => none

/-- The element at the end of a path. -/
def get? (e : Element) : List Nat → Option Element
  | [] => some e
  | i :: path => (e.children[i]?).bind (·.get? path)

/-- Change the element at the end of a path. -/
def modify (f : Element → Element) : List Nat → Element → Element
  | [], e => f e
  | i :: path, node c s children => node c s (children.modify i (modify f path))

def container? (p : Element → Bool) (e : Element) : Option Element :=
  (e.containerPath? p).bind e.get?

/-- The class of tab buttons. -/
def buttonClass : String := "btn"

/-- The style of the element that holds the tab buttons. -/
def containerStyle : List (String × String) :=
  [("paddingLeft", "15px"), ("paddingRight", "15px"), ("paddingTop", "5px"), ("overflow", "auto")]

def withStyle (entries : List (String × String)) : Element → Element
  | node c s children => node c (s.insertMany entries) children

/-- Style the container of the tab buttons, if the panel has one. -/
def styleButtons (e : Element) : Bool × Element :=
  match e.containerPath? (·.hasClass buttonClass) with
  | none => (false, e)
  | some path => (true, e.modify (withStyle containerStyle) path)

end Element

end RequestCode
