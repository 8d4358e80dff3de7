import RequestCode.Config.Basic

/-!
# Commands

What the command line can ask for.
-/

namespace RequestCode

/-- Which targets to render, and in which format to print them. -/
structure Selection where
  /-- Targets given on the command line. -/
  targets : List String
  /-- The path of a settings file. -/
  config : Option String
  format : Option OutputFormat
  deriving DecidableEq

/-- One request from loose parts; headers and parameters are split later. -/
structure Single where
  url : String
  method : String
  headers : List String
  query : List String
  body : Option String
  selection : Selection
  deriving DecidableEq

inductive Command where
  /-- Render one request. -/
  | single (request : Single)
  /-- List the catalog. -/
  | catalog
  /-- Render every request of an HTTP archive. -/
  | archive (file : String) (selection : Selection)
  | help
  | version
  deriving DecidableEq

end RequestCode
