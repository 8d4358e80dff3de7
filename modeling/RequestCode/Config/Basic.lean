import RequestCode.Target
import RequestCode.Text.Case

/-!
# Settings

The targets to render unless others are asked for, as they were declared, and the format to print.
-/

namespace RequestCode

inductive OutputFormat where
  /-- Every snippet under a title line. -/
  | text
  /-- The bundle as JSON. -/
  | json
  deriving DecidableEq

namespace OutputFormat

def name : OutputFormat → String
  | text => "text"
  | json => "json"

def ofName? : String → Option OutputFormat
  | "text" => some text
  | "json" => some json
  | _ => none

/-- Read a format; case does not matter. -/
def read (s : String) : Except Error OutputFormat :=
  match ofName? (.ofList (Text.lower s.toList)) with
  | some f => .ok f
  | none => .error (.unknownFormat s)

end OutputFormat

structure Config where
  targets : List Json
  format : OutputFormat
  deriving DecidableEq

namespace Config

def default : Config := ⟨[], .text⟩

instance : Inhabited Config := ⟨default⟩

/-- Check the declared targets. -/
def checkedTargets (c : Config) : Except Error (List Target) := Target.ofJsonList c.targets

end Config

end RequestCode
