import RequestCode.Json.Writer

/-!
# Parameters

Headers and query parameters: pairs of a name and a text. Callers give them as maps from names to
JSON values, which are turned into text.
-/

namespace RequestCode

structure Param where
  name : String
  value : String
  deriving DecidableEq

/-- Parameters as callers give them. -/
abbrev Params := OrderedMap Json

/-- A value as text; a string is taken verbatim. -/
def Json.asText : Json → String
  | .string s => s
  | v => v.write

/-- The parameters in order, with their values as text. -/
def Params.toList (m : Params) : List Param := m.entries.map fun e => ⟨e.1, e.2.asText⟩

/-- Collect pairs; of a repeated name the last value counts, at the first place. -/
def Params.ofPairs (ps : List Param) : Params :=
  OrderedMap.ofList (ps.map fun p => (p.name, Json.string p.value))

end RequestCode
