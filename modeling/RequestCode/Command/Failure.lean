import RequestCode.Error
import RequestCode.Text.Cut

/-!
# Reports of failure

A failed command reports what it tried to do, and then the causes. A single cause is indented;
several are numbered. Further lines of a cause stand under its first.
-/

namespace RequestCode

structure Failure where
  context : String
  causes : List String
  deriving DecidableEq

/-- The messages of an error, from the outermost to the innermost. A remark is a message of its
own, unless it has become part of the wording. -/
def Error.chain (e : Error) (remark : String := "") : List String :=
  match e with
  | .url cause => [e.message, cause.message]
  | .missingFile | .malformedYaml | .malformedJson => [e.message remark, remark]
  | e => [e.message remark]

namespace Failure

/-- Put a margin in front of the lines after the first. -/
def withMargin (margin : String) (s : String) : List Char :=
  s.toList.flatMap fun c => if c = '\n' then c :: margin.toList else [c]

def causeLines : List String → List (List Char)
  | [cause] => ["    ".toList ++ withMargin "    " cause]
  | causes => causes.zipIdx.map fun (cause, i) =>
    "    ".toList ++ Text.decimal i ++ ": ".toList ++ withMargin "       " cause

/-- The report, without a line break at its end. -/
def report (f : Failure) : String :=
  let head := "Error: " ++ f.context
  if f.causes.isEmpty then head
  else head ++ "\n\nCaused by:\n" ++ .ofList (Text.joined '\n' (causeLines f.causes))

end Failure

end RequestCode
