import RequestCode.Idna.Name
import RequestCode.Url.Basic

/-!
# Reading URLs

The parts of an absolute URL are cut off the text from the left: scheme, credentials, host, port,
path, query and fragment. Special schemes have a host, read a backslash as a slash, and always
have a path. Main function: `Url.read`.
-/

namespace RequestCode.Url

open Text

/-- Blanks and controls around a URL do not belong to it; tabs and line breaks count nowhere. -/
def cleaned (s : List Char) : List Char :=
  (strip (· ≤ ' ') s).filter fun c => c ≠ '\t' && c ≠ '\n' && c ≠ '\r'

def isSchemeChar (c : Char) : Bool :=
  isAsciiAlphanumeric c || c = '+' || c = '-' || c = '.'

/-- The scheme in lower case, and what follows its colon. -/
def cutScheme (s : List Char) : Option (String × List Char) :=
  match cutFirst ':' s with
  | some (scheme, r) =>
    if (scheme.head?.any isAsciiAlpha) && scheme.all isSchemeChar then
      some (.ofList (asciiLower scheme), r)
    else none
  | none => none
where
  asciiLower (s : List Char) : List Char :=
    s.map fun c => if isAsciiUpper c then Char.ofNat (c.toNat + 32) else c

/-- Whether a character ends the authority. -/
def endsAuthority (special : Bool) (c : Char) : Bool :=
  c = '/' || c = '?' || c = '#' || (special && c = '\\')

/-- The parts around the last `@`. -/
def cutLastAt (s : List Char) : Option (List Char × List Char) :=
  let after := (s.reverse.takeWhile (· ≠ '@')).reverse
  if after.length = s.length then none else some (s.take (s.length - after.length - 1), after)

/-- The credentials in front of a host. -/
def readUserinfo (s : List Char) : String × String :=
  match cutFirst ':' s with
  | some (a, b) => (encode a, encode b)
  | none => (encode s, "")
where
  encode (s : List Char) : String := .ofList (percentEncode keepUserinfo s)

/-- A host up to its port: a colon in brackets does not end it. -/
def takeHost (inside : Bool) : List Char → List Char × List Char
  | [] => ([], [])
  | c :: r =>
    if c = ':' && !inside then ([], c :: r)
    else
      let inside := if c = '[' then true else if c = ']' then false else inside
      let (h, r) := takeHost inside r
      (c :: h, r)

def readIpv6 (s : List Char) : Except Error Host :=
  match s.getLast?, ipv6? s.dropLast with
  | some ']', some ns => .ok (.ipv6 ns)
  | _, _ => .error .invalidIpv6

/-- The host of a special URL. -/
def readSpecialHost (s : List Char) : Except Error Host :=
  match s with
  | '[' :: r => readIpv6 r
  | s =>
    match Idna.toAscii (Utf8.decode (percentDecode (Utf8.encode s))) with
    | none => .error .invalidName
    | some [] => .error .emptyHost
    | some name =>
      if endsInNumber name then
        match ipv4? name with
        | some address => .ok (.ipv4 address)
        | none => .error .invalidIpv4
      else .ok (.domain (.ofList name))

def isForbiddenInHost (c : Char) : Bool :=
  c = '\x00' || c = '\t' || c = '\n' || c = '\r' || c = ' ' || c = '#' || c = '/' || c = ':'
    || c = '<' || c = '>' || c = '?' || c = '@' || c = '[' || c = '\\' || c = ']' || c = '^'
    || c = '|'

/-- The host of a URL that is not special; it may be missing. -/
def readOtherHost (s : List Char) : Except Error (Option Host) :=
  match s with
  | [] => .ok none
  | '[' :: r => (readIpv6 r).map some
  | s =>
    if s.any isForbiddenInHost then .error .invalidHostCharacter
    else .ok (some (.domain (.ofList (percentEncode keepOpaque s))))

/-- The port after a host; the one the scheme implies is not kept. -/
def readPort (scheme : String) : List Char → Except Error (Option Nat)
  | [] => .ok none
  | _ :: digits =>
    if digits.all isDecimal then
      if digits.isEmpty then .ok none
      else
        let port := decimalValue digits
        if 65535 < port then .error .invalidPort
        else if impliedPort? scheme = some port then .ok none
        else .ok (some port)
    else .error .invalidPort

/-- Cut the path of a URL from what follows: the path, the query and the fragment. -/
def cutTail (s : List Char) : List Char × Option (List Char) × Option (List Char) :=
  let (s, fragment) := match cutFirst '#' s with
    | some (a, b) => (a, some b)
    | none => (s, none)
  match cutFirst '?' s with
  | some (a, b) => (a, some b, fragment)
  | none => (s, none, fragment)

def isDriveLetter : List Char → Bool
  | [a, b] => isAsciiAlpha a && (b = ':' || b = '|')
  | _ => false

def isSingleDot (s : List Char) : Bool := s = ['.'] || foldDots s = ['.']
where
  /-- Write escaped dots as dots. -/
  foldDots : List Char → List Char
    | '%' :: '2' :: e :: r => if e = 'e' || e = 'E' then '.' :: foldDots r else '%' :: '2' :: e :: r
    | c :: r => c :: foldDots r
    | [] => []

def isDoubleDot (s : List Char) : Bool := isSingleDot.foldDots s = ['.', '.']

/-- The parent of a path kept from back to front; a drive letter is not left. -/
def parent : List (List Char) → List (List Char)
  | [] => []
  | s :: r => if isDriveLetter s then s :: r else r

/-- The segments after one more, from back to front. The first segment of a file may be a drive
letter, which is followed by a colon. -/
def child (file : Bool) (s : List Char) (done : List (List Char)) : List (List Char) :=
  match s, done with
  | [a, _], [] => (if file && isDriveLetter s then [a, ':'] else s) :: done
  | s, done => s :: done

/-- Resolve the dot segments of a path; `done` is the part before, from back to front. -/
def resolveDots (file : Bool) (done : List (List Char)) : List (List Char) → List (List Char)
  | [] => done.reverse
  | [s] =>
    if isDoubleDot s then ([] :: parent done).reverse
    else if isSingleDot s then ([] :: done).reverse
    else (child file s done).reverse
  | s :: r =>
    if isDoubleDot s then resolveDots file (parent done) r
    else if isSingleDot s then resolveDots file done r
    else resolveDots file (child file s done) r

/-- Replace backslashes by slashes. -/
def slashed (s : List Char) : List Char := s.map fun c => if c = '\\' then '/' else c

/-- The segments of a path after its first slash. -/
def readSegments (file special : Bool) (s : List Char) : List (List Char) :=
  let s := if special then slashed s else s
  resolveDots file [] ((pieces '/' s).map (percentEncode keepPath))

/-- Empty segments at the start of a file's path are dropped. -/
def withoutLeadingEmpty (segments : List (List Char)) : List (List Char) :=
  match segments.dropWhile (·.isEmpty) with
  | [] => [[]]
  | segments => segments

def rootedPath (segments : List (List Char)) : Path := .segments (segments.map .ofList)

/-- The path after an authority. -/
def readPath (special : Bool) (s : List Char) : Path :=
  match s with
  | [] => if special then rootedPath [[]] else .segments []
  | c :: r =>
    if c = '/' || (special && c = '\\') then rootedPath (readSegments false special r)
    else rootedPath (readSegments false special (c :: r))

def withTail (scheme : String) (authority : Option Authority) (path : Path)
    (query fragment : Option (List Char)) : Url where
  scheme := scheme
  authority := authority
  path := path
  query := query.map fun q =>
    .ofList (percentEncode (if isSpecial scheme then keepSpecialQuery else keepQuery) q)
  fragment := fragment.map fun f => .ofList (percentEncode keepFragment f)

/-- The rest of a URL after the slashes that announce an authority. -/
def readAuthority (scheme : String) (s : List Char) : Except Error Url := do
  let special := isSpecial scheme
  let (s, query, fragment) := cutTail s
  let authority := s.takeWhile (!endsAuthority special ·)
  let path := s.dropWhile (!endsAuthority special ·)
  let (userinfo, hostAndPort) ← match cutLastAt authority with
    | none => pure ([], authority)
    | some ([], h) =>
      if h.isEmpty && (!path.isEmpty || query.isSome || fragment.isSome) then .error .emptyHost
      else pure ([], h)
    | some p => pure p
  let (username, password) := readUserinfo userinfo
  let (host, r) := takeHost false hostAndPort
  let (port, path) := if special then (r, path) else
    (r.takeWhile (· ≠ '\\'), r.dropWhile (· ≠ '\\') ++ path)
  let host ← if special then
      if host.isEmpty then .error .emptyHost else (readSpecialHost host).map some
    else readOtherHost host
  if host.isNone && !port.isEmpty then .error .emptyHost
  let port ← readPort scheme port
  let a : Authority := ⟨username, password, host, port⟩
  if host.isNone && a.userinfo ≠ "" then .error .emptyHost
  return withTail scheme (some a) (readPath special path) query fragment

/-- The rest of a file URL; a file has at most a host, and a drive letter takes its place. -/
def readFile (s : List Char) : Except Error Url := do
  let (s, query, fragment) := cutTail s
  let (host, path) ← match slashed s with
    | '/' :: '/' :: r =>
      let name := (s.drop 2).takeWhile (!endsAuthority true ·)
      if name.isEmpty || isDriveLetter name then pure (none, r)
      else
        let host ← readSpecialHost name
        if host = .domain "localhost" then pure (none, r.drop name.length)
        else pure (some host, r.drop (name.length + 1))
    | '/' :: r => pure (none, r)
    | r => pure (none, r)
  let segments := readSegments true true path
  let host := if segments.head?.any isDriveLetter then none else host
  return withTail "file" (some ⟨"", "", host, none⟩) (rootedPath (withoutLeadingEmpty segments))
    query fragment

/-- The rest of a URL without an authority. -/
def readPlain (scheme : String) (s : List Char) : Url :=
  let (path, query, fragment) := cutTail s
  match path with
  | '/' :: r => withTail scheme none (rootedPath (readSegments false false r)) query fragment
  | s => withTail scheme none (.bare (.ofList (percentEncode keepOpaque s))) query fragment

/-- Read an absolute URL. -/
def read (s : String) : Except Error Url :=
  match cutScheme (cleaned s.toList) with
  | none => .error .notAbsolute
  | some (scheme, r) =>
    if scheme = "file" then readFile r
    else if isSpecial scheme then
      readAuthority scheme (r.dropWhile fun c => c = '/' || c = '\\')
    else match r with
      | '/' :: '/' :: r => readAuthority scheme r
      | r => .ok (readPlain scheme r)

end RequestCode.Url
