import RequestCode.Url.Basic

/-!
# Errors

Why an operation fails, as a cause, and the wording of every cause.
-/

namespace RequestCode

/-- A rule that a declared target breaks. -/
inductive Violation where
  /-- The identifier is not a string. -/
  | targetNotText
  /-- A field is present, and neither null nor a string. -/
  | fieldNotText (field kind : String)
  deriving DecidableEq

def Violation.message : Violation → String
  | .targetNotText => "target must be string"
  | .fieldNotText field kind => field ++ " must be string or undefined :" ++ kind

inductive Error where
  /-- A declared target breaks one or more rules. -/
  | invalidDeclaration (violations : List Violation)
  /-- The catalog has no such target. -/
  | unknownTarget (id : String)
  | url (cause : Url.Error)
  | unknownFormat (name : String)
  | missingFile
  | malformedYaml
  | malformedJson
  /-- A recording is not JSON of the expected shape. -/
  | malformedRecording
  deriving DecidableEq

/-- The wording of a cause. Of files, and of texts that a reader refuses, it is the remark of the
system or of the reader that says why. -/
def Error.message (e : Error) (remark : String := "") : String :=
  match e with
  | .invalidDeclaration vs => "validation failed" ++ String.join (vs.map ("\n  " ++ ·.message))
  | .unknownTarget id => "Invalid target: " ++ id
  | .url cause => "URL error: " ++ cause.message
  | .unknownFormat name => "Configuration error: Unknown output format: " ++ name
  | .missingFile => "I/O error: " ++ remark
  | .malformedYaml => "YAML parsing error: " ++ remark
  | .malformedJson => "JSON parsing error: " ++ remark
  | .malformedRecording => "Configuration error: Failed to parse HAR " ++ remark

end RequestCode
