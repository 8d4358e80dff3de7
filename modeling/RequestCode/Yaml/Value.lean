import RequestCode.Yaml.Node
import RequestCode.Yaml.Plain

/-!
# The values of YAML nodes

A node of a document has a JSON value if its tags are those of JSON, its keys are texts, it is not
nested too deep and does not follow too many aliases. Following an alias takes one from a budget
that the size of the document sets, so that even nodes which contain themselves have an end.
-/

namespace RequestCode.Yaml

/-- Tags of an application, which no value can carry. -/
def isLocalTag (tag : Option (List Char)) : Bool := (tag.bind List.head?) = some '!'

/-- The name of a tag of the core schema. -/
def coreTag? (tag : Option (List Char)) : Option String :=
  (tag.bind fun t => "tag:yaml.org,2002:".toList.isPrefixOf? t).map .ofList

def scalarJson? (tag : Option (List Char)) (text : List Char) (plain : Bool) : Option Json :=
  if isLocalTag tag then none
  else match coreTag? tag with
    | some "bool" => (bool? text).map .bool
    | some "int" => (integer? text).bind wordNumber?
    | some "float" => (real? text).map realNumber
    | some "null" => if isNull text then some .null else none
    | _ => if tag.isNone && plain then plainValue? text else some (.string (.ofList text))

namespace Node

mutual

/-- The size of a node: two for a collection and one for anything else, with what is inside. -/
def size : Node → Nat
  | .scalar _ _ _ => 1
  | .alias _ => 1
  | .sequence _ items => sizeItems items + 2
  | .mapping _ entries => sizeEntries entries + 2

def sizeItems : List Node → Nat
  | [] => 0
  | n :: r => size n + sizeItems r

def sizeEntries : List (Node × Node) → Nat
  | [] => 0
  | (k, n) :: r => size k + size n + sizeEntries r

end

/-- Whether a value is left out where the node stands. -/
def isNothing : Node → Bool
  | .scalar _ text plain => text.isEmpty && plain
  | _ => false

end Node

/-- A computation that follows aliases, as long as some are left of the budget. -/
abbrev Follow := StateT Nat Option

namespace Document

/-- Collections may be nested this deep. -/
def nesting : Nat := 128

/-- How many aliases may be followed. -/
def budget (d : Document) : Nat := 100 * (d.root.map Node.size).getD 1

/-- The node that an alias stands for; any other node stands for itself. -/
def follow (d : Document) : Node → Follow Node
  | .alias id => do
    match ← get with
    | 0 => failure
    | left + 1 =>
      set left
      match d.anchored? id with
      | some n => return n
      | none => failure
  | n => return n

/-- The text of a key. -/
def key (d : Document) (n : Node) : Follow String := do
  match ← d.follow n with
  | .scalar _ text _ => return .ofList text
  | _ => failure

/-- The value of a node inside which collections may be nested less than `depth` levels. -/
def json (d : Document) : Nat → Node → Follow Json
  | 0, _ => failure
  | depth + 1, n => do
    match ← d.follow n with
    | .scalar tag text plain => StateT.lift (scalarJson? tag text plain)
    | .sequence tag items =>
      if depth = 0 || isLocalTag tag then failure
      return .array (← items.mapM (d.json depth))
    | .mapping tag entries =>
      if depth = 0 || isLocalTag tag then failure
      let members ← entries.mapM fun e => do return (← d.key e.1, ← d.json depth e.2)
      return .object (members.foldl (fun acc m => insertEntry m.1 m.2 acc) [])
    | .alias _ => failure

end Document

end RequestCode.Yaml
