import RequestCode.Error
import RequestCode.Json.Record
import RequestCode.Panel.Element

/-!
# Panels in JSON

An element is a record of its class list, its style and its children, each of which may be missing.
-/

namespace RequestCode.Element

open Json

def styleOfTree? : Tree → Option Style
  | .object members => do
    let entries ← members.mapM fun m => do return (← m.1, ← m.2.text?)
    return .ofList entries
  | _ => none

/-- Read an element whose children are nested less than `depth` levels. -/
def ofTree? : Nat → Tree → Option Element
  | 0, _ => none
  | depth + 1, t => do
    let [className, style, children] ← t.fields ["className", "style", "children"] | none
    return node (← Tree.orElse none (Tree.optional Tree.text?) className)
      (← Tree.orElse ∅ styleOfTree? style)
      (← Tree.orElse [] (Tree.list (ofTree? depth)) children)

def ofJson (v : Json) : Except Error Element :=
  match ofTree? nesting v.tree with
  | some e => .ok e
  | none => .error .malformedJson

mutual

def toJson : Element → Json
  | node c s children =>
    .object
      [("className", match c with
          | some name => .string name
          | none => .null),
        ("style", .object (s.toList.map fun e => (e.1, .string e.2))),
        ("children", .array (childrenJson children))]

def childrenJson : List Element → List Json
  | [] => []
  | e :: r => toJson e :: childrenJson r

end

end RequestCode.Element
