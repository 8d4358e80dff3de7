import RequestCode.Config.Basic
import RequestCode.Generator.Collection
import RequestCode.Highlighting
import RequestCode.Panel.Element

/-!
# Assembly for a host

What a host installs for a list of declared targets: generators for its collection, grammars for
its highlighter, and a style for its panel.
-/

namespace RequestCode

/-- Targets that have been checked. -/
structure Assembly where
  targets : List Target
  deriving DecidableEq

namespace Assembly

/-- Check the declared targets; the first invalid one is the error. -/
def ofJson (declared : List Json) : Except Error Assembly := (Target.ofJsonList declared).map (⟨·⟩)

/-- Check the targets that settings declare. -/
def ofConfig (c : Config) : Except Error Assembly := ofJson c.targets

/-- The generators of the host, followed by one for each target. -/
def generators (a : Assembly) (base : Collection) : Collection := base.extend a.targets

/-- Offer the default grammars and those of the targets. -/
def afterLoad (a : Assembly) (h : Highlighting) : Highlighting := h.load (a.targets.map (·.grammar))

end Assembly

end RequestCode
