import RequestCode.Json.Tree
import RequestCode.Param

/-!
# Records in JSON

A record is written as an object, by field names, or as an array, by field positions. Unknown
members are ignored, whatever they hold; a field that comes twice is an error.
-/

namespace RequestCode.Json

mutual

/-- The tree of a value. -/
def tree : Json → Tree
  | .null => .null
  | .bool b => .bool b
  | .number n => .number (some n)
  | .string s => .string (some s)
  | .array items => .array (itemTrees items)
  | .object members => .object (memberTrees members)

def itemTrees : List Json → List Tree
  | [] => []
  | v :: r => tree v :: itemTrees r

def memberTrees : List (String × Json) → List (Option String × Tree)
  | [] => []
  | (name, v) :: r => (some name, tree v) :: memberTrees r

end

mutual

/-- The levels of nesting that a value takes up, itself included. -/
def depth : Json → Nat
  | .array items => itemsDepth items + 1
  | .object members => membersDepth members + 1
  | _ => 1

def itemsDepth : List Json → Nat
  | [] => 1
  | v :: r => max (depth v) (itemsDepth r)

def membersDepth : List (String × Json) → Nat
  | [] => 1
  | (_, v) :: r => max (depth v) (membersDepth r)

end

namespace Tree

/-- The one member of that name; `none` inside if there is none, and no result for several. -/
def single (name : String) (members : List (String × Tree)) : Option (Option Tree) :=
  match members.filter (·.1 = name) with
  | [] => some none
  | [m] => some (some m.2)
  | _ => none

/-- The fields of a record in the order of their names. -/
def fields (names : List String) : Tree → Option (List (Option Tree))
  | .object members => do
    let members ← members.mapM fun m => m.1.map fun name => (name, m.2)
    names.mapM (single · members)
  | .array items =>
    if items.length ≤ names.length then
      some (items.map some ++ List.replicate (names.length - items.length) none)
    else none
  | _ => none

def text? : Tree → Option String
  | .string s => s
  | _ => none

/-- Null stands for a missing value. -/
def optional {α : Type} (read : Tree → Option α) : Tree → Option (Option α)
  | .null => some none
  | t => (read t).map some

/-- A field with a value for when it is missing. -/
def orElse {α : Type} (default : α) (read : Tree → Option α) : Option Tree → Option α
  | none => some default
  | some t => read t

/-- A field that has to be there. -/
def required {α : Type} (read : Tree → Option α) : Option Tree → Option α
  | none => none
  | some t => read t

def list {α : Type} (read : Tree → Option α) : Tree → Option (List α)
  | .array items => items.mapM read
  | _ => none

/-- An integer of 64 bits with its sign. -/
def word? : Tree → Option Int
  | .number (some (.integer n)) =>
    if -0x8000000000000000 ≤ n ∧ n < 0x8000000000000000 then some n else none
  | _ => none

/-- A map from names to values; of a repeated name the last value counts. -/
def params? (depth : Nat) : Tree → Option Params
  | .object members => (memberValues depth members).map OrderedMap.ofList
  | _ => none

end Tree

end RequestCode.Json
