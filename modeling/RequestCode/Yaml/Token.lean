import RequestCode.Text.Utf8
import RequestCode.Yaml.Scalar

/-!
# YAML tokens

The first step of reading YAML. Indentation becomes explicit tokens, and the key of a mapping is
announced by a token in front of it, which is put in when its colon is met: a simple key is at most
1024 characters before its colon and on the same line.
-/

namespace RequestCode.Yaml

open Text

inductive Token where
  | versionDirective (major minor : Nat)
  | tagDirective (handle start : List Char)
  | documentStart
  | documentEnd
  | blockSequenceStart
  | blockMappingStart
  | blockEnd
  | flowSequenceStart
  | flowSequenceEnd
  | flowMappingStart
  | flowMappingEnd
  | blockEntry
  | flowEntry
  | key
  | value
  | alias (name : List Char)
  | anchor (name : List Char)
  | tag (handle suffix : List Char)
  | scalar (text : List Char) (plain : Bool)
  deriving DecidableEq

/-- A place where a key may have started. -/
structure SimpleKey where
  /-- Nothing but a key can stand there. -/
  required : Bool
  /-- The number of tokens in front of it. -/
  token : Nat
  index : Nat
  line : Nat
  column : Nat

structure Scanner where
  cursor : Cursor
  tokens : Array Token
  /-- The column of the innermost block, or -1. -/
  indent : Int
  outer : List Int
  simpleKeyAllowed : Bool
  /-- The possible key of the block context and of every flow collection, innermost first. -/
  keys : List (Option SimpleKey)

namespace Scanner

def start (s : List Char) : Scanner := ⟨.start s, #[], -1, [], true, [none]⟩

def inFlow (s : Scanner) : Bool := 1 < s.keys.length

def emit (s : Scanner) (t : Token) : Scanner := { s with tokens := s.tokens.push t }

def insert (s : Scanner) (i : Nat) (t : Token) : Scanner :=
  { s with tokens := s.tokens.extract 0 i ++ (#[t] ++ s.tokens.extract i s.tokens.size) }

def skip (s : Scanner) (n : Nat) : Scanner := { s with cursor := s.cursor.skip n }

def allowKey (s : Scanner) (b : Bool) : Scanner := { s with simpleKeyAllowed := b }

/-- Skip blanks, comments and line breaks. Tabs count as blanks where no simple key may start. -/
def toNextToken : Nat → Scanner → Scanner
  | 0, s => s
  | fuel + 1, s =>
    let c := s.cursor
    let c := if c.column = 0 && c.isAt '\uFEFF' then c.skip 1 else c
    let tabs := s.inFlow || !s.simpleKeyAllowed
    let c := (c.skipWhile fun d => d = ' ' || (tabs && d = '\t')).skipComment
    if c.atBreak then
      toNextToken fuel
        { s with
          cursor := c.takeBreak.2
          simpleKeyAllowed := s.simpleKeyAllowed || !s.inFlow }
    else { s with cursor := c }

/-- Give up on keys that are too far back; one that is required is an error. -/
def dropStaleKeys (s : Scanner) : Option Scanner := do
  let keys ← s.keys.mapM fun k =>
    match k with
    | none => some none
    | some k =>
      if k.line < s.cursor.line || k.index + 1024 < s.cursor.index then
        (if k.required then none else some none)
      else some (some k)
  return { s with keys := keys }

/-- Give up on the innermost key. -/
def removeKey (s : Scanner) : Option Scanner :=
  match s.keys with
  | some k :: r => if k.required then none else some { s with keys := none :: r }
  | _ => some s

/-- Note that a key may start here. -/
def saveKey (s : Scanner) : Option Scanner :=
  if s.simpleKeyAllowed then do
    let c := s.cursor
    let key : SimpleKey :=
      ⟨!s.inFlow && s.indent = c.column, s.tokens.size, c.index, c.line, c.column⟩
    let s ← s.removeKey
    return { s with keys := some key :: s.keys.drop 1 }
  else some s

/-- Close the blocks to the right of a column. -/
def unroll (column : Int) (s : Scanner) : Scanner :=
  if s.inFlow then s else go s.outer s
where
  go : List Int → Scanner → Scanner
    | i :: r, s =>
      if column < s.indent then go r { s.emit .blockEnd with indent := i, outer := r } else s
    | [], s => s

/-- Open a block at a column, unless there is one already; its token goes to position `i`. -/
def roll (column : Nat) (i : Nat) (t : Token) (s : Scanner) : Scanner :=
  if !s.inFlow && s.indent < column then
    { s.insert i t with indent := column, outer := s.indent :: s.outer }
  else s

def scanEnd (s : Scanner) : Option Scanner := (s.unroll (-1)).removeKey

/-- A decimal number of at most nine digits. -/
def versionNumber? (c : Cursor) : Option (Nat × Cursor) :=
  let ds := c.rest.takeWhile isDecimal
  if ds.isEmpty || 9 < ds.length then none else some (decimalValue ds, c.skip ds.length)

/-- A handle of a tag: word characters between exclamation marks, the second of which may be
missing. -/
def readHandle (c : Cursor) : Option (List Char × Cursor) :=
  match c.rest with
  | '!' :: r =>
    let word := r.takeWhile isWordChar
    let handle := '!' :: word
    if (r.drop word.length).head? = some '!' then
      some (handle ++ ['!'], c.skip (handle.length + 1))
    else some (handle, c.skip handle.length)
  | _ => none

def isUriChar (verbatim : Bool) (c : Char) : Bool :=
  isWordChar c || [';', '/', '?', ':', '@', '&', '=', '+', '$', '.', '%', '!', '~', '*', '\'', '(',
    ')'].contains c || (verbatim && (c = ',' || c = '[' || c = ']'))

/-- Replace the escapes of a tag; they have to spell whole characters. -/
def decodeUri : Nat → List Char → Option (List Char)
  | 0, _ => none
  | _, [] => some []
  | fuel + 1, '%' :: r => do
    let octet := fun (s : List Char) => match s with
      | '%' :: a :: b :: _ => numeral? 16 [a, b]
      | _ => none
    let first ← octet ('%' :: r)
    let more ← if first < 0x80 then some 0 else (Utf8.lead? first).map (·.more)
    let octets ← (List.range (more + 1)).mapM fun i => octet (('%' :: r).drop (3 * i))
    let [d] := Utf8.decode octets | none
    if Utf8.encodeChar d ≠ octets then none
    return d :: (← decodeUri fuel (('%' :: r).drop (3 * (more + 1))))
  | fuel + 1, d :: r => do return d :: (← decodeUri fuel r)

/-- A part of a tag. -/
def readUri (verbatim : Bool) (c : Cursor) : Option (List Char × Cursor) := do
  let raw := c.rest.takeWhile (isUriChar verbatim)
  let text ← decodeUri (raw.length + 1) raw
  return (text, c.skip raw.length)

/-- The rest of a line after a directive. -/
def finishDirective (c : Cursor) : Option Cursor :=
  let c := (c.skipWhile isBlank).skipComment
  if c.atLineEnd then some c.takeBreak.2 else none

def scanDirective (s : Scanner) : Option Scanner := do
  let s ← (s.unroll (-1)).removeKey
  let c := s.cursor.skip 1
  let name := c.rest.takeWhile isWordChar
  let c := c.skip name.length
  if !c.gapAt 0 then none
  let (t, c) ←
    if name = ['Y', 'A', 'M', 'L'] then do
      let (major, c) ← versionNumber? (c.skipWhile isBlank)
      if !c.isAt '.' then none
      let (minor, c) ← versionNumber? (c.skip 1)
      pure (Token.versionDirective major minor, c)
    else if name = ['T', 'A', 'G'] then do
      let (handle, c) ← readHandle (c.skipWhile isBlank)
      if handle ≠ ['!'] && handle.getLast? ≠ some '!' then none
      if !c.atBlank then none
      let (start, c) ← readUri true (c.skipWhile isBlank)
      if start.isEmpty || !c.gapAt 0 then none
      pure (Token.tagDirective handle start, c)
    else none
  let c ← finishDirective c
  return ({ s with cursor := c }.allowKey false).emit t

def scanDocumentMark (s : Scanner) : Option Scanner := do
  let s ← (s.unroll (-1)).removeKey
  let t := if s.cursor.isAt '-' then Token.documentStart else .documentEnd
  return ((s.allowKey false).skip 3).emit t

def scanFlowStart (t : Token) (s : Scanner) : Option Scanner := do
  let s ← s.saveKey
  return (({ s with keys := none :: s.keys }.allowKey true).skip 1).emit t

def scanFlowEnd (t : Token) (s : Scanner) : Option Scanner := do
  let s ← s.removeKey
  let keys := if s.inFlow then s.keys.drop 1 else s.keys
  return (({ s with keys := keys }.allowKey false).skip 1).emit t

def scanFlowEntry (s : Scanner) : Option Scanner := do
  let s ← s.removeKey
  return ((s.allowKey true).skip 1).emit .flowEntry

def scanBlockEntry (s : Scanner) : Option Scanner := do
  if !s.inFlow && !s.simpleKeyAllowed then none
  let s := s.roll s.cursor.column s.tokens.size .blockSequenceStart
  let s ← s.removeKey
  return ((s.allowKey true).skip 1).emit .blockEntry

def scanKey (s : Scanner) : Option Scanner := do
  if !s.inFlow && !s.simpleKeyAllowed then none
  let s := s.roll s.cursor.column s.tokens.size .blockMappingStart
  let s ← s.removeKey
  return ((s.allowKey (!s.inFlow)).skip 1).emit .key

def scanValue (s : Scanner) : Option Scanner :=
  match s.keys with
  | some k :: r =>
    let s := (s.insert k.token .key).roll k.column k.token .blockMappingStart
    some ((({ s with keys := none :: r }.allowKey false).skip 1).emit .value)
  | _ =>
    if !s.inFlow && !s.simpleKeyAllowed then none
    else
      let s := s.roll s.cursor.column s.tokens.size .blockMappingStart
      some (((s.allowKey (!s.inFlow)).skip 1).emit .value)

def endsAnchor (c : Cursor) : Bool :=
  c.gapAt 0 || c.rest.head?.any fun d =>
    ['?', ':', ',', ']', '\x7d', '%', '@', Char.ofNat 0x60].contains d

def scanAnchor (t : List Char → Token) (s : Scanner) : Option Scanner := do
  let s ← s.saveKey
  let c := s.cursor.skip 1
  let name := c.rest.takeWhile isWordChar
  let c := c.skip name.length
  if name.isEmpty || !endsAnchor c then none
  return ({ s with cursor := c }.allowKey false).emit (t name)

/-- The handle and the suffix of a tag. -/
def readTag (c : Cursor) : Option (List Char × List Char × Cursor) :=
  match c.rest with
  | '!' :: '<' :: _ => do
    let (suffix, c) ← readUri true (c.skip 2)
    if suffix.isEmpty || !c.isAt '>' then none
    return ([], suffix, c.skip 1)
  | _ => do
    let (handle, c) ← readHandle c
    if 1 < handle.length && handle.getLast? = some '!' then
      let (suffix, c) ← readUri false c
      if suffix.isEmpty then none
      return (handle, suffix, c)
    else
      let (rest, c) ← readUri false c
      let suffix := handle.drop 1 ++ rest
      return if suffix.isEmpty then ([], ['!'], c) else (['!'], suffix, c)

def scanTag (s : Scanner) : Option Scanner := do
  let s ← s.saveKey
  let (handle, suffix, c) ← readTag s.cursor
  if !c.gapAt 0 && !(s.inFlow && c.isAt ',') then none
  return ({ s with cursor := c }.allowKey false).emit (.tag handle suffix)

def scanBlock (literal : Bool) (s : Scanner) : Option Scanner := do
  let s ← s.removeKey
  let (text, c) ← readBlock literal s.indent (s.cursor.skip 1)
  return ({ s with cursor := c }.allowKey true).emit (.scalar text false)

def scanQuoted (quote : Char) (s : Scanner) : Option Scanner := do
  let s ← s.saveKey
  let c := s.cursor.skip 1
  let (text, c) ← readQuoted quote (c.rest.length + 1) c .empty []
  return ({ s with cursor := c }.allowKey false).emit (.scalar text false)

def scanPlain (s : Scanner) : Option Scanner := do
  let s ← s.saveKey
  let c := s.cursor
  let (text, newLine, c) ←
    readPlain s.inFlow (s.indent + 1).toNat (c.rest.length + 1) c .empty []
  return ({ s with cursor := c }.allowKey newLine).emit (.scalar text true)

/-- The characters that never start a plain text. -/
def isIndicator (c : Char) : Bool :=
  isFlowIndicator c || ['-', '?', ':', '#', '&', '*', '!', '|', '>', '\'', '"', '%', '@',
    Char.ofNat 0x60].contains c

def startsPlain (flow : Bool) (c : Cursor) (d : Char) : Bool :=
  (!isIndicator d && !isBlank d)
    || (d = '-' && !(c.peek 1).any isBlank)
    || (!flow && (d = '?' || d = ':') && !c.gapAt 1)

/-- Scan the token that starts with this character. -/
def scanToken (d : Char) (s : Scanner) : Option Scanner :=
  let c := s.cursor
  if c.column = 0 && d = '%' then s.scanDirective
  else if c.atDocumentMark then s.scanDocumentMark
  else if d = '[' then s.scanFlowStart .flowSequenceStart
  else if d = '\x7b' then s.scanFlowStart .flowMappingStart
  else if d = ']' then s.scanFlowEnd .flowSequenceEnd
  else if d = '\x7d' then s.scanFlowEnd .flowMappingEnd
  else if d = ',' then s.scanFlowEntry
  else if d = '-' && c.gapAt 1 then s.scanBlockEntry
  else if d = '?' && (s.inFlow || c.gapAt 1) then s.scanKey
  else if d = ':' && (s.inFlow || c.gapAt 1) then s.scanValue
  else if d = '*' then s.scanAnchor .alias
  else if d = '&' then s.scanAnchor .anchor
  else if d = '!' then s.scanTag
  else if d = '|' && !s.inFlow then s.scanBlock true
  else if d = '>' && !s.inFlow then s.scanBlock false
  else if d = '\'' || d = '"' then s.scanQuoted d
  else if startsPlain s.inFlow c d then s.scanPlain
  else none

/-- Scan one token; `none` inside at the end of the text. -/
def step (s : Scanner) : Option (Option Scanner) := do
  let s := s.toNextToken (s.cursor.rest.length + 1)
  let s ← s.dropStaleKeys
  let s := s.unroll s.cursor.column
  match s.cursor.rest with
  | [] => return none
  | d :: _ => return some (← s.scanToken d)

/-- Scan to the end. -/
def run : Nat → Scanner → Option Scanner
  | 0, _ => none
  | fuel + 1, s => do
    match ← s.step with
    | some next => run fuel next
    | none => (s.toNextToken (s.cursor.rest.length + 1)).scanEnd

end Scanner

/-- The characters a YAML text may hold. -/
def isAllowed (c : Char) : Bool :=
  let n := c.toNat
  n = 9 || n = 10 || n = 13 || (0x20 ≤ n && n ≤ 0x7E) || n = 0x85 || (0xA0 ≤ n && n ≤ 0xFFFD)
    || 0x10000 ≤ n

/-- The tokens of a text. -/
def tokens? (s : List Char) : Option (List Token) :=
  let s := if s.head? = some '\uFEFF' then s.drop 1 else s
  if s.all isAllowed then
    (Scanner.run (s.length + 1) (.start s)).map (·.tokens.toList)
  else none

end RequestCode.Yaml
