import RequestCode.Command.Arguments
import RequestCode.Command.Run

/-!
# The program

Reads the files that a command names, runs it, and prints what it gives.
-/

namespace RequestCode.Command

def usage : String :=
  String.intercalate "\n"
    ["Usage: request-snippets generate --url URL [--method METHOD] [--target TARGET]...",
      "           [--header 'Name: value']... [--query name=value]... [--body BODY]",
      "           [--config FILE] [--format text|json]",
      "       request-snippets targets",
      "       request-snippets har --file FILE [--target TARGET]... [--config FILE]",
      "           [--format text|json]", ""]

/-- The files that can be read, and what the system says of the others. -/
def readFiles (paths : List String) : IO (Files × Remarks) := do
  let mut texts := []
  let mut refused := []
  for path in paths do
    try
      texts := (path, ← IO.FS.readFile path) :: texts
    catch e =>
      refused := (path, toString e) :: refused
  let unexpected (_ : String) := "unexpected content"
  return ((texts.lookup ·), ⟨fun path => (refused.lookup path).getD "", unexpected, unexpected⟩)

end RequestCode.Command

open RequestCode

def main (args : List String) : IO UInt32 := do
  match Command.read args with
  | none =>
    IO.eprint Command.usage
    return 2
  | some .help =>
    IO.print Command.usage
    return 0
  | some command =>
    let (files, remarks) ← Command.readFiles command.paths
    let o := command.run files remarks
    IO.print o.output
    match o.failure with
    | some f => IO.eprintln f.report
    | none => pure ()
    return o.code.toUInt32
