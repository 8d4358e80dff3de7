import RequestCode.Config.Basic
import RequestCode.Yaml.Value

/-!
# Reading settings

Settings are a YAML mapping of two fields, each of which may be missing and none of which may
come twice. Other fields are ignored, whatever they hold. A text without a document stands for the
default settings.
-/

namespace RequestCode.Config

open Yaml

/-- The fields that have been read. -/
structure Fields where
  targets : Option (List Json)
  format : Option OutputFormat

/-- A list of values; nothing stands for the empty list. -/
def readTargets (d : Document) (n : Node) : Follow (List Json) := do
  match ← d.follow n with
  | .sequence _ items => items.mapM (d.json (Document.nesting - 1))
  | n => if n.isNothing then return [] else failure

/-- A format by name, or by a tag in front of nothing. -/
def readFormat (d : Document) (n : Node) : Follow OutputFormat := do
  match ← d.follow n with
  | .scalar tag text plain =>
    match tag with
    | some ('!' :: name) =>
      if plain && (text.isEmpty || isNull text) then
        StateT.lift (OutputFormat.ofName? (.ofList name))
      else failure
    | _ => StateT.lift (OutputFormat.ofName? (.ofList text))
  | _ => failure

def readField (d : Document) (f : Fields) (e : Node × Node) : Follow Fields := do
  match ← d.key e.1 with
  | "targets" =>
    if f.targets.isSome then failure
    return { f with targets := some (← readTargets d e.2) }
  | "format" =>
    if f.format.isSome then failure
    return { f with format := some (← readFormat d e.2) }
  | _ => return f

def ofDocument (d : Document) : Follow Config := do
  match d.root with
  | none => return default
  | some root =>
    match ← d.follow root with
    | .mapping _ entries =>
      let f ← entries.foldlM (readField d) ⟨none, none⟩
      return ⟨f.targets.getD [], f.format.getD .text⟩
    | n => if n.isNothing then return default else failure

/-- Read the text of a settings file. -/
def read (text : String) : Except Error Config :=
  match (Document.read text).bind fun d => (ofDocument d).run' d.budget with
  | some c => .ok c
  | none => .error .malformedYaml

end RequestCode.Config
