import RequestCode.Archive.Recording
import RequestCode.Bundle
import RequestCode.Command.Basic
import RequestCode.Command.Failure
import RequestCode.Config.Read
import RequestCode.Text.Blank

/-!
# Running commands

A command reads files, prints text, and succeeds or fails. Its checks have a fixed order: settings,
targets, then the rest. The first that fails ends the command.
-/

namespace RequestCode

/-- The text of a file, if it can be read. -/
abbrev Files := String → Option String

/-- What is said in words of their own, by the system of a file that it cannot read, and by the
readers of YAML and of JSON of a text that they refuse. -/
structure Remarks where
  file : String → String
  yaml : String → String
  json : String → String
  deriving Inhabited

/-- What a command prints, and how it fails if it does. -/
structure Outcome where
  output : String
  failure : Option Failure
  deriving DecidableEq

namespace Outcome

def success (output : String) : Outcome := ⟨output, none⟩

/-- Print a text first. -/
def after (text : String) (o : Outcome) : Outcome := { o with output := text ++ o.output }

def ofExcept : Except Failure Outcome → Outcome
  | .ok o => o
  | .error f => ⟨"", some f⟩

end Outcome

/-- Say what failed. -/
def Failure.during {α : Type} (context : String) (x : Except Error α) (remark : String := "") :
    Except Failure α :=
  match x with
  | .ok a => .ok a
  | .error e => .error ⟨context, e.chain remark⟩

namespace Command

/-- Read a file, and then its text. -/
def loadFile {α : Type} (files : Files) (remarks : Remarks) (context path : String)
    (read : String → Except Error α) (remark : String → String) : Except Failure α :=
  match files path with
  | none => Failure.during context (.error .missingFile) (remarks.file path)
  | some text => Failure.during context (read text) (remark text)

def loadConfig (files : Files) (remarks : Remarks) : Option String → Except Failure Config
  | none => .ok .default
  | some path =>
    loadFile files remarks ("Failed to load config " ++ path) path Config.read remarks.yaml

/-- A refused recording is reported with its path in front of the remark. -/
def loadRecording (files : Files) (remarks : Remarks) (path : String) :
    Except Failure Recording :=
  loadFile files remarks ("Failed to load HAR file " ++ path) path Recording.read
    fun text => path ++ ": " ++ remarks.json text

/-- Targets on the command line win over those of the settings. -/
def selectTargets (targets : List String) (c : Config) : Except Failure (List String) :=
  if !targets.isEmpty then .ok targets
  else do
    let checked ← Failure.during "Invalid target in config file" c.checkedTargets
    if checked.isEmpty then
      .error ⟨"No targets given: pass --target or a config file with targets", []⟩
    return checked.map (·.id)

/-- The targets and the format of a command. -/
def select (files : Files) (remarks : Remarks) (s : Selection) :
    Except Failure (List String × OutputFormat) := do
  let c ← loadConfig files remarks s.config
  let targets ← selectTargets s.targets c
  return (targets, s.format.getD c.format)

/-- A header is split at its first colon; blanks around the two parts do not count. -/
def readHeader (s : String) : Except Failure (String × Json) :=
  match Text.cutFirst ':' s.toList with
  | some (name, value) =>
    .ok (Text.trim (.ofList name), .string (Text.trim (.ofList value)))
  | none => .error ⟨"Invalid header '" ++ s ++ "', expected 'Name: value'", []⟩

def readHeaders (ss : List String) : Except Failure Params :=
  (ss.mapM readHeader).map OrderedMap.ofList

/-- A parameter is split at its first equals sign. -/
def readParameter (s : String) : String × Json :=
  match Text.cutFirst '=' s.toList with
  | some (name, value) => (.ofList name, .string (.ofList value))
  | none => (s, .string "")

def readParameters (ss : List String) : Params := OrderedMap.ofList (ss.map readParameter)

def snippetText (s : Snippet) : String := "# " ++ s.title ++ "\n" ++ s.content ++ "\n\n"

/-- A bundle as it is printed. -/
def bundleText (b : Bundle) : OutputFormat → String
  | .text => String.join (b.snippets.map snippetText)
  | .json => b.toJson.writeIndented ++ "\n"

def runSingle (files : Files) (remarks : Remarks) (r : Single) : Except Failure Outcome := do
  let (targets, format) ← select files remarks r.selection
  let headers ← readHeaders r.headers
  let bundle ← Failure.during ("Failed to generate snippets for " ++ r.url)
    (generate r.url r.method targets (some (readParameters r.query)) (some headers) r.body)
  return .success (bundleText bundle format)

/-- The line over the snippets of a recorded request. -/
def recordedHeading (b : Bundle) : OutputFormat → String
  | .text => "## " ++ b.method ++ " " ++ b.url ++ "\n\n"
  | .json => ""

def recordedBundle (targets : List String) (r : Recorded) : Except Failure Bundle :=
  Failure.during ("Failed to generate snippets for " ++ r.method ++ " " ++ r.url)
    (generate r.url r.method targets (some r.query) (some r.headers) (some r.body))

/-- Print recorded requests one after the other, up to the first that fails. -/
def printRecorded (targets : List String) (format : OutputFormat) : List Recorded → Outcome
  | [] => .success ""
  | r :: rs =>
    match recordedBundle targets r with
    | .error f => ⟨"", some f⟩
    | .ok b =>
      (printRecorded targets format rs).after (recordedHeading b format ++ bundleText b format)

def runArchive (files : Files) (remarks : Remarks) (file : String) (s : Selection) :
    Except Failure Outcome := do
  let (targets, format) ← select files remarks s
  let recording ← loadRecording files remarks file
  return printRecorded targets format recording.requests

/-- The catalog, a line for each language and each client. -/
def catalogText : String :=
  String.join (Catalog.languages.map fun l =>
    l.key ++ " (" ++ l.title ++ "), default: " ++ l.default.key ++ "\n"
      ++ String.join (l.clients.map fun c =>
        "  " ++ l.key ++ "_" ++ c.key ++ "  " ++ c.title ++ "\n"))

def versionText : String := "request-snippets 0.1.0\n"

def run (files : Files) (command : Command) (remarks : Remarks := default) : Outcome :=
  match command with
  | .single r => .ofExcept (runSingle files remarks r)
  | .catalog => .success catalogText
  | .archive file s => .ofExcept (runArchive files remarks file s)
  | .help => .success ""
  | .version => .success versionText

/-- The files that a command may read. -/
def paths : Command → List String
  | .single r => r.selection.config.toList
  | .archive file s => s.config.toList ++ [file]
  | _ => []

end Command

/-- Zero for success, and one for failure. -/
def Outcome.code (o : Outcome) : Nat := if o.failure.isNone then 0 else 1

end RequestCode
