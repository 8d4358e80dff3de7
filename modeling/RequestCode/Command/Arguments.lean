import RequestCode.Command.Basic

/-!
# Reading the command line

Options take one value, which follows as the next argument or after an equals sign. Only some of
them may come more than once. What is wrong with other arguments is not told apart. Asking for help
ends the reading; what stands behind is not looked at.
-/

namespace RequestCode

/-- What a command line holds: values, a question for help, or arguments that make no sense. -/
inductive Reading (α : Type) where
  | done (value : α)
  | help
  | invalid
  deriving DecidableEq

namespace Command

/-- An option, by its name without the two hyphens. -/
structure Flag where
  name : String
  repeatable : Bool
  accepts : String → Bool

/-- Options with their values, in order. -/
abbrev Values := List (String × String)

namespace Values

def all (vs : Values) (name : String) : List String := (vs.filter (·.1 = name)).map (·.2)

def first? (vs : Values) (name : String) : Option String := (vs.all name).head?

end Values

/-- The name and the attached value of an argument that starts with two hyphens. -/
def option? (arg : String) : Option (String × Option String) :=
  match arg.toList with
  | '-' :: '-' :: r =>
    some (match Text.cutFirst '=' r with
      | some (name, value) => (.ofList name, some (.ofList value))
      | none => (.ofList r, none))
  | _ => none

/-- Whether an argument starts with one hyphen and a letter. -/
def startsWithLetter (letter : Char) (arg : String) : Bool :=
  match arg.toList with
  | '-' :: c :: _ => c = letter
  | _ => false

/-- Arguments that cannot be the value of the option before them. A lone hyphen can. -/
def isHyphenated (arg : String) : Bool :=
  match arg.toList with
  | '-' :: _ :: _ => true
  | _ => false

/-- Whether an option may take a value after those before it. -/
def Flag.admits (f : Flag) (seen : Values) (value : String) : Bool :=
  f.accepts value && (f.repeatable || (seen.first? f.name).isNone)

/-- Read the options of a command. Two hyphens may stand at the end. -/
def readOptions (flags : List Flag) (seen : Values) : List String → Reading Values
  | [] => .done seen
  | arg :: rest =>
    match option? arg with
    | none => if startsWithLetter 'h' arg then .help else .invalid
    | some ("", none) => if rest.isEmpty then .done seen else .invalid
    | some ("help", attached) => if attached.isNone then .help else .invalid
    | some (name, attached) =>
      match flags.find? (·.name = name), attached, rest with
      | none, _, _ => .invalid
      | some f, some value, rest =>
        if f.admits seen value then readOptions flags (seen ++ [(name, value)]) rest else .invalid
      | some _, none, [] => .invalid
      | some f, none, value :: rest =>
        if isHyphenated value || !f.admits seen value then .invalid
        else readOptions flags (seen ++ [(name, value)]) rest

def anyText (_ : String) : Bool := true

/-- Paths are not empty. -/
def path (s : String) : Bool := s ≠ ""

def selectionFlags : List Flag :=
  [⟨"target", true, anyText⟩, ⟨"config", false, path⟩,
    ⟨"format", false, fun s => (OutputFormat.read s).toOption.isSome⟩]

def singleFlags : List Flag :=
  [⟨"url", false, anyText⟩, ⟨"method", false, anyText⟩, ⟨"header", true, anyText⟩,
    ⟨"query", true, anyText⟩, ⟨"body", false, anyText⟩] ++ selectionFlags

def archiveFlags : List Flag := ⟨"file", false, path⟩ :: selectionFlags

def Values.selection (vs : Values) : Selection where
  targets := vs.all "target"
  config := vs.first? "config"
  format := (vs.first? "format").bind fun s => (OutputFormat.read s).toOption

/-- The command of its options; one that has to be there may be missing. -/
def finish (r : Reading Values) (command? : Values → Option Command) : Option Command :=
  match r with
  | .done vs => command? vs
  | .help => some .help
  | .invalid => none

def single? (vs : Values) : Option Command :=
  (vs.first? "url").map fun url => .single
    { url := url
      method := (vs.first? "method").getD "GET"
      headers := vs.all "header"
      query := vs.all "query"
      body := vs.first? "body"
      selection := vs.selection }

def archive? (vs : Values) : Option Command :=
  (vs.first? "file").map fun file => .archive file vs.selection

def names : List String := ["generate", "targets", "har", "help"]

/-- The command that the arguments ask for, if they make sense. -/
def read : List String → Option Command
  | [] => none
  | arg :: rest =>
    if arg = "generate" then finish (readOptions singleFlags [] rest) single?
    else if arg = "targets" then finish (readOptions [] [] rest) fun _ => some .catalog
    else if arg = "har" then finish (readOptions archiveFlags [] rest) archive?
    else if arg = "help" then
      match rest with
      | [] => some .help
      | [name] => if names.contains name then some .help else none
      | _ => none
    else if arg = "--help" || startsWithLetter 'h' arg then some .help
    else if arg = "--version" || startsWithLetter 'V' arg then some .version
    else none

end Command

end RequestCode
