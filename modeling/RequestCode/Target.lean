import RequestCode.Error
import RequestCode.Json.Value
import RequestCode.Text.Cut

/-!
# Targets

A target names a language and perhaps a client library, as `language` or `language_library`. It is
declared as a JSON value with an identifier and, if they are not to be derived from it, a title and
a grammar for highlighting.
-/

namespace RequestCode

/-- The parts around the first underscore. -/
def cutTarget (id : String) : Option (String × String) :=
  (Text.cutFirst '_' id.toList).map fun p => (.ofList p.1, .ofList p.2)

/-- The language and the library of an identifier; an empty library counts as none. -/
def splitTarget (id : String) : String × Option String :=
  match cutTarget id with
  | some (language, library) => (language, if library = "" then none else some library)
  | none => (id, none)

/-- A declared target, checked and completed. -/
structure Target where
  id : String
  title : String
  /-- The grammar that highlights its snippets. -/
  grammar : String
  deriving DecidableEq

namespace Target

def language (t : Target) : String := (splitTarget t.id).1

def library? (t : Target) : Option String := (splitTarget t.id).2

def derivedTitle (id : String) : String :=
  match splitTarget id with
  | (language, some library) => language ++ " (" ++ library ++ ")"
  | (language, none) => language

/-- Snippets are highlighted as their language, those for Node.js as JavaScript. -/
def derivedGrammar (id : String) : String :=
  let language := (splitTarget id).1
  if language = "node" then "javascript" else language

/-- A field that may be missing or null; any other value has to be a string. -/
def optionalText (declared : Json) (field : String) : Except Violation (Option String) :=
  match declared.member? field with
  | none => .ok none
  | some .null => .ok none
  | some (.string s) => .ok (some s)
  | some v => .error (.fieldNotText field v.kind)

/-- An empty text is as good as none. -/
def textOr (text : Except Violation (Option String)) (derived : String) : String :=
  match text with
  | .ok (some s) => if s = "" then derived else s
  | _ => derived

def violation? {α : Type} : Except Violation α → Option Violation
  | .ok _ => none
  | .error v => some v

/-- Every broken rule, in the order identifier, grammar, title. -/
def violations (declared : Json) : List Violation :=
  (if ((declared.member? "target").bind Json.text?).isSome then [] else [.targetNotText])
    ++ (violation? (optionalText declared "syntax")).toList
    ++ (violation? (optionalText declared "title")).toList

/-- Check a declaration and derive what it leaves out. -/
def ofJson (declared : Json) : Except Error Target :=
  match (declared.member? "target").bind Json.text?, violations declared with
  | some id, [] =>
    .ok
      { id := id
        title := textOr (optionalText declared "title") (derivedTitle id)
        grammar := textOr (optionalText declared "syntax") (derivedGrammar id) }
  | _, vs => .error (.invalidDeclaration vs)

/-- The declaration that says everything about a target. -/
def toJson (t : Target) : Json :=
  .object [("target", .string t.id), ("title", .string t.title), ("syntax", .string t.grammar)]

/-- Check declarations in order; the first invalid one is the error. -/
def ofJsonList (declared : List Json) : Except Error (List Target) := declared.mapM ofJson

end Target

end RequestCode
