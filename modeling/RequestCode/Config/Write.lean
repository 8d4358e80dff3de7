import RequestCode.Config.Basic
import RequestCode.Yaml.Writer

/-!
# Writing settings
-/

namespace RequestCode.Config

def toJson (c : Config) : Json :=
  .object [("targets", .array c.targets), ("format", .string c.format.name)]

/-- The text of a settings file. -/
def write (c : Config) : String := Yaml.write c.toJson

end RequestCode.Config
