import Std.Data.HashSet

/-!
# Highlighting

A highlighter learns grammars under names, and must not be told the same name twice. Names are
offered to it in any number; each is passed on at most once, and only if its grammar is known.
-/

namespace RequestCode

/-- What a host has been offered, and what its highlighter was told, in order. -/
structure Highlighting where
  offered : Std.HashSet String
  calls : List (String × String)

namespace Highlighting

def empty : Highlighting := ⟨∅, []⟩

instance : EmptyCollection Highlighting := ⟨empty⟩

instance : Inhabited Highlighting := ⟨empty⟩

/-- The names every host is offered, before those of its targets. -/
def defaultNames : List String :=
  ["json", "js", "xml", "yaml", "http", "bash", "powershell", "javascript"]

/-- The grammars that highlighters bring along. -/
def knownGrammars : List String :=
  ["json", "xml", "bash", "yaml", "http", "powershell", "javascript", "java", "python", "go", "php",
    "typescript", "cpp", "rust"]

/-- The grammar that a name stands for. -/
def grammarFor (name : String) : String := if name = "js" then "javascript" else name

def isKnown (name : String) : Bool := knownGrammars.contains (grammarFor name)

def isOffered (h : Highlighting) (name : String) : Bool := h.offered.contains name

/-- Offer a name; whether the highlighter is told. A name without a known grammar is remembered. -/
def offer (h : Highlighting) (name : String) : Bool × Highlighting :=
  if h.isOffered name then (false, h)
  else if isKnown name then
    (true, ⟨h.offered.insert name, h.calls ++ [(name, grammarFor name)]⟩)
  else (false, ⟨h.offered.insert name, h.calls⟩)

theorem isOffered_offer (h : Highlighting) (name other : String) :
    (h.offer name).2.isOffered other = (name == other || h.isOffered other) := by
  by_cases hn : h.isOffered name
  · by_cases ho : name = other
    · subst ho; simp [offer, hn]
    · simp [offer, hn, ho]
  · rw [offer, if_neg hn]
    split <;> simp [isOffered, Std.HashSet.contains_insert]

/-- Offer names in order. -/
def offerAll (h : Highlighting) (names : List String) : Highlighting :=
  names.foldl (fun h name => (h.offer name).2) h

/-- Offer the default names, then others. -/
def load (h : Highlighting) (names : List String) : Highlighting :=
  (h.offerAll defaultNames).offerAll names

end Highlighting

end RequestCode
