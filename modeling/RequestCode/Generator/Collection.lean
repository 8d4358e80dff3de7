import RequestCode.Generator.Basic
import Std.Data.HashMap

/-!
# Collections of generators

Generators in the order they were added, under keys that may repeat. Looking up a key gives the
generator that was added last under it. Main statement: `index_push` says that the index leads to
last positions.
-/

namespace RequestCode

/-- Entries, and for every key the position of its last entry. -/
structure Collection where
  entries : Array (String × Generator)
  index : Std.HashMap String Nat

namespace Collection

def empty : Collection := ⟨#[], ∅⟩

instance : EmptyCollection Collection := ⟨empty⟩

instance : Inhabited Collection := ⟨empty⟩

def push (c : Collection) (key : String) (g : Generator) : Collection :=
  ⟨c.entries.push (key, g), c.index.insert key c.entries.size⟩

def get? (c : Collection) (key : String) : Option Generator :=
  c.index[key]?.bind fun i => c.entries[i]?.map Prod.snd

def toList (c : Collection) : List (String × Generator) := c.entries.toList

def keys (c : Collection) : List String := c.toList.map Prod.fst

def firstKey? (c : Collection) : Option String := c.keys.head?

def lastKey? (c : Collection) : Option String := c.keys.getLast?

def size (c : Collection) : Nat := c.entries.size

def isEmpty (c : Collection) : Bool := c.entries.isEmpty

@[simp] theorem toList_push (c : Collection) (key : String) (g : Generator) :
    (c.push key g).toList = c.toList ++ [(key, g)] := by
  simp [toList, push]

theorem index_push (c : Collection) (key other : String) (g : Generator) :
    (c.push key g).index[other]? = if key = other then some c.size else c.index[other]? := by
  simp [push, size, Std.HashMap.getElem?_insert]

/-- Add entries in order. -/
def append (c : Collection) (entries : List (String × Generator)) : Collection :=
  entries.foldl (fun c e => c.push e.1 e.2) c

def ofList (entries : List (String × Generator)) : Collection := append ∅ entries

@[simp] theorem toList_append (c : Collection) (entries : List (String × Generator)) :
    (c.append entries).toList = c.toList ++ entries := by
  induction entries generalizing c with
  | nil => simp [append]
  | cons e r ih =>
    have : c.append (e :: r) = (c.push e.1 e.2).append r := rfl
    simp [this, ih]

/-- Add the generators of targets, under their identifiers. -/
def extend (c : Collection) (targets : List Target) : Collection :=
  c.append (targets.map fun t => (t.id, .ofTarget t))

end Collection

end RequestCode
