import RequestCode.Yaml.Token

/-!
# YAML nodes

The second step of reading YAML: tokens are put together to the tree of a document. An alias stands
for the node that was anchored under its name.
-/

namespace RequestCode.Yaml

inductive Node where
  | scalar (tag : Option (List Char)) (text : List Char) (plain : Bool)
  | sequence (tag : Option (List Char)) (items : List Node)
  | mapping (tag : Option (List Char)) (entries : List (Node × Node))
  | alias (anchor : Nat)

instance : Inhabited Node := ⟨.scalar none [] true⟩

/-- An empty plain text, which stands where a node is left out. -/
def Node.nothing : Node := .scalar none [] true

/-- A node under an anchor. `order` counts the anchored nodes in front of it. -/
structure Anchored where
  anchor : Nat
  order : Nat
  node : Node

structure Composer where
  tokens : List Token
  /-- What the handles of tags stand for. -/
  handles : List (List Char × List Char)
  /-- The numbers of anchors, the last one of a name first. -/
  names : List (List Char × Nat)
  order : Nat
  anchored : List Anchored

abbrev Compose := StateT Composer Option

namespace Compose

def peek : Compose (Option Token) := do return (← get).tokens.head?

def next : Compose Unit := modify fun s => { s with tokens := s.tokens.drop 1 }

/-- Number an anchor; the number is that of distinct names so far. -/
def define (name : List Char) : Compose (Nat × Nat) := do
  let s ← get
  let id := (s.names.map Prod.fst).eraseDups.length
  set { s with names := (name, id) :: s.names, order := s.order + 1 }
  return (id, s.order)

def record (place : Option (Nat × Nat)) (n : Node) : Compose Node := do
  match place with
  | some (id, order) =>
    modify fun s => { s with anchored := ⟨id, order, n⟩ :: s.anchored }
  | none => pure ()
  return n

def resolveAlias (name : List Char) : Compose Node := do
  match (← get).names.lookup name with
  | some id => return .alias id
  | none => failure

/-- The full tag of a handle and a suffix. -/
def resolveTag (handle suffix : List Char) : Compose (List Char) := do
  if handle.isEmpty then return suffix
  match (← get).handles.lookup handle with
  | some start => return start ++ suffix
  | none => failure

/-- An anchor and a tag in front of a node, in either order. -/
def properties : Compose (Option (List Char) × Option (List Char)) := do
  match ← peek with
  | some (.anchor a) =>
    next
    match ← peek with
    | some (.tag h s) => next; return (some a, some (← resolveTag h s))
    | _ => return (some a, none)
  | some (.tag h s) =>
    next
    match ← peek with
    | some (.anchor a) => next; return (some a, some (← resolveTag h s))
    | _ => return (none, some (← resolveTag h s))
  | _ => return (none, none)

/-- Take a token if it is the next one. -/
def accept (t : Token) : Compose Bool := do
  if (← peek) = some t then
    next
    return true
  return false

/-- Whether the next token is one of these. -/
def follows (ts : List Token) : Compose Bool := do
  match ← peek with
  | some t => return ts.contains t
  | none => return false

mutual

/-- Compose one node. `block` allows blocks, and `flush` a sequence at the column of its key. -/
def node : Nat → (block flush : Bool) → Compose Node
  | 0, _, _ => failure
  | fuel + 1, block, flush => do
    match ← peek with
    | some (.alias name) => next; resolveAlias name
    | _ =>
      let (anchor, tag) ← properties
      let place ← match anchor with
        | some name => do pure (some (← define name))
        | none => pure none
      record place (← content fuel block flush (anchor.isSome || tag.isSome) tag)

/-- Compose a node after its properties. -/
def content : Nat → (block flush named : Bool) → Option (List Char) → Compose Node
  | 0, _, _, _, _ => failure
  | fuel + 1, block, flush, named, tag => do
    match ← peek with
    | some .blockEntry =>
      if flush then return .sequence tag (← flushItems fuel)
      else if named then return .scalar tag [] true
      else failure
    | some (.scalar text plain) =>
      next
      return .scalar (if tag = some ['!'] then none else tag) text plain
    | some .flowSequenceStart => next; return .sequence tag (← flowItems fuel true)
    | some .flowMappingStart => next; return .mapping tag (← flowEntries fuel true)
    | some .blockSequenceStart =>
      if block then
        next
        return .sequence tag (← blockItems fuel)
      else if named then return .scalar tag [] true
      else failure
    | some .blockMappingStart =>
      if block then
        next
        return .mapping tag (← blockEntries fuel)
      else if named then return .scalar tag [] true
      else failure
    | _ => if named then return .scalar tag [] true else failure

/-- The items of a block sequence. -/
def blockItems : Nat → Compose (List Node)
  | 0 => failure
  | fuel + 1 => do
    if ← accept .blockEntry then
      let item ← if ← follows [.blockEntry, .blockEnd] then pure .nothing
        else node fuel true false
      return item :: (← blockItems fuel)
    else if ← accept .blockEnd then return []
    else failure

/-- The items of a block sequence at the column of its key. -/
def flushItems : Nat → Compose (List Node)
  | 0 => failure
  | fuel + 1 => do
    if ← accept .blockEntry then
      let item ← if ← follows [.blockEntry, .key, .value, .blockEnd] then pure .nothing
        else node fuel true false
      return item :: (← flushItems fuel)
    else return []

/-- The entries of a block mapping. -/
def blockEntries : Nat → Compose (List (Node × Node))
  | 0 => failure
  | fuel + 1 => do
    if ← accept .key then
      let key ← if ← follows [.key, .value, .blockEnd] then pure .nothing else node fuel true true
      let value ←
        if ← accept .value then
          if ← follows [.key, .value, .blockEnd] then pure .nothing else node fuel true true
        else pure .nothing
      return (key, value) :: (← blockEntries fuel)
    else if ← accept .blockEnd then return []
    else failure

/-- The items of a flow sequence; a key in it makes a mapping of one entry. -/
def flowItems : Nat → (first : Bool) → Compose (List Node)
  | 0, _ => failure
  | fuel + 1, first => do
    if ← accept .flowSequenceEnd then return []
    if !first then
      if !(← accept .flowEntry) then failure
      if ← accept .flowSequenceEnd then return []
    if ← accept .key then
      let key ←
        if ← follows [.value, .flowEntry, .flowSequenceEnd] then
          next
          pure .nothing
        else node fuel false false
      let value ←
        if ← accept .value then
          if ← follows [.flowEntry, .flowSequenceEnd] then pure .nothing
          else node fuel false false
        else pure .nothing
      return .mapping none [(key, value)] :: (← flowItems fuel false)
    else
      let item ← node fuel false false
      return item :: (← flowItems fuel false)

/-- The entries of a flow mapping. -/
def flowEntries : Nat → (first : Bool) → Compose (List (Node × Node))
  | 0, _ => failure
  | fuel + 1, first => do
    if ← accept .flowMappingEnd then return []
    if !first then
      if !(← accept .flowEntry) then failure
      if ← accept .flowMappingEnd then return []
    if ← accept .key then
      let key ← if ← follows [.value, .flowEntry, .flowMappingEnd] then pure .nothing
        else node fuel false false
      let value ←
        if ← accept .value then
          if ← follows [.flowEntry, .flowMappingEnd] then pure .nothing
          else node fuel false false
        else pure .nothing
      return (key, value) :: (← flowEntries fuel false)
    else
      let key ← node fuel false false
      return (key, .nothing) :: (← flowEntries fuel false)

end

/-- The directives in front of a document; those of one handle, and two versions, are errors. -/
def directives : Nat → (versioned : Bool) → Compose Unit
  | 0, _ => failure
  | fuel + 1, versioned => do
    match ← peek with
    | some (.versionDirective major minor) =>
      if versioned || major ≠ 1 || (minor ≠ 1 && minor ≠ 2) then failure
      next
      directives fuel true
    | some (.tagDirective handle start) =>
      let s ← get
      if (s.handles.lookup handle).isSome then failure
      set { s with handles := s.handles ++ [(handle, start)] }
      next
      directives fuel versioned
    | _ => return ()

/-- What handles stand for unless a directive says otherwise. -/
def defaultHandles : List (List Char × List Char) :=
  [(['!'], ['!']), (['!', '!'], "tag:yaml.org,2002:".toList)]

def startsExplicitly : Token → Bool
  | .versionDirective _ _ | .tagDirective _ _ | .documentStart => true
  | _ => false

/-- The one document of a text, if there is any. -/
def document : Compose (Option Node) := do
  let fuel := 2 * (← get).tokens.length + 8
  match ← peek with
  | none => return none
  | some t =>
    let root ←
      if startsExplicitly t then do
        directives fuel false
        modify fun s => { s with handles := s.handles ++ defaultHandles }
        if !(← accept .documentStart) then failure
        match ← peek with
        | none => pure .nothing
        | some t =>
          if startsExplicitly t || t = .documentEnd then pure .nothing else node fuel true false
      else do
        modify fun s => { s with handles := defaultHandles }
        node fuel true false
    modify fun s => { s with tokens := s.tokens.dropWhile (· = .documentEnd) }
    match ← peek with
    | none => return some root
    | some _ => failure

end Compose

/-- A document: its root, if it has one, and its anchored nodes. -/
structure Document where
  root : Option Node
  anchored : List Anchored

namespace Document

def read (text : String) : Option Document := do
  let tokens ← tokens? text.toList
  let (root, s) ← Compose.document.run ⟨tokens, [], [], 0, []⟩
  return ⟨root, s.anchored⟩

/-- The node that an anchor number stands for, the last one that bears it. -/
def anchored? (d : Document) (id : Nat) : Option Node :=
  let candidates := d.anchored.filter (·.anchor = id)
  let last := candidates.foldl (fun n a => max n a.order) 0
  (candidates.find? (·.order = last)).map (·.node)

end Document

end RequestCode.Yaml
