import RequestCode.Url.Address
import RequestCode.Url.Form

/-!
# Absolute URLs

The parts of a URL, and its text. All texts inside a `Url` are already encoded.
-/

namespace RequestCode

namespace Url

inductive Host where
  | domain (name : String)
  | ipv4 (address : Nat)
  | ipv6 (pieces : List Nat)
  deriving DecidableEq

def Host.text : Host → String
  | .domain name => name
  | .ipv4 address => .ofList (ipv4Chars address)
  | .ipv6 pieces => .ofList ('[' :: ipv6Chars pieces ++ [']'])

/-- What stands between the double slash and the path. A host may be missing, and the port is
missing if it is the one the scheme implies. -/
structure Authority where
  username : String
  password : String
  host : Option Host
  port : Option Nat
  deriving DecidableEq

/-- A path is a list of segments, each after a slash, or a text of its own. -/
inductive Path where
  | segments (parts : List String)
  | bare (text : String)
  deriving DecidableEq

def Path.text : Path → String
  | .segments parts => String.join (parts.map ("/" ++ ·))
  | .bare text => text

inductive Error where
  | emptyHost
  | invalidName
  | invalidPort
  | invalidIpv4
  | invalidIpv6
  | invalidHostCharacter
  | notAbsolute
  deriving DecidableEq

def Error.message : Error → String
  | .emptyHost => "empty host"
  | .invalidName => "invalid international domain name"
  | .invalidPort => "invalid port number"
  | .invalidIpv4 => "invalid IPv4 address"
  | .invalidIpv6 => "invalid IPv6 address"
  | .invalidHostCharacter => "invalid domain character"
  | .notAbsolute => "relative URL without a base"

end Url

structure Url where
  scheme : String
  authority : Option Url.Authority
  path : Url.Path
  query : Option String
  fragment : Option String
  deriving DecidableEq

namespace Url

def isSpecial (scheme : String) : Bool :=
  scheme = "http" || scheme = "https" || scheme = "ws" || scheme = "wss" || scheme = "ftp"
    || scheme = "file"

def impliedPort? (scheme : String) : Option Nat :=
  if scheme = "http" || scheme = "ws" then some 80
  else if scheme = "https" || scheme = "wss" then some 443
  else if scheme = "ftp" then some 21
  else none

def Authority.userinfo (a : Authority) : String :=
  if a.username = "" && a.password = "" then ""
  else if a.password = "" then a.username ++ "@"
  else a.username ++ ":" ++ a.password ++ "@"

def Authority.hostText (a : Authority) : String := (a.host.map Host.text).getD ""

/-- The host with the port, if the URL names one. -/
def Authority.hostAndPort (a : Authority) : String :=
  match a.port with
  | some port => a.hostText ++ ":" ++ .ofList (decimal port)
  | none => a.hostText
where
  decimal := Text.decimal

def Authority.text (a : Authority) : String := "//" ++ a.userinfo ++ a.hostAndPort

def pathText (u : Url) : String := u.path.text

/-- Without an authority, a path that starts with two slashes is marked, so that it does not read
as one. -/
def hierarchyText (u : Url) : String :=
  match u.authority with
  | some a => a.text ++ u.pathText
  | none => if u.pathText.toList.take 2 = ['/', '/'] then "/." ++ u.pathText else u.pathText

def queryText (u : Url) : String :=
  match u.query with
  | some q => "?" ++ q
  | none => ""

def fragmentText (u : Url) : String :=
  match u.fragment with
  | some f => "#" ++ f
  | none => ""

def text (u : Url) : String :=
  u.scheme ++ ":" ++ u.hierarchyText ++ u.queryText ++ u.fragmentText

/-- The pairs of the query. -/
def pairs (u : Url) : List Param := readQuery (u.query.getD "")

/-- A bare path at the end of the URL loses its trailing blanks. -/
def settled (u : Url) : Url :=
  match u.path, u.query, u.fragment with
  | .bare text, none, none =>
    { u with path := .bare (.ofList (text.toList.reverse.dropWhile (· = ' ')).reverse) }
  | _, _, _ => u

def withoutFragment (u : Url) : Url := settled { u with fragment := none }

def withoutQuery (u : Url) : Url := settled { u with query := none }

/-- Replace the query by the pairs, or remove it if there are none. -/
def withPairs (u : Url) (ps : List Param) : Url :=
  if ps.isEmpty then u.withoutQuery else { u with query := some (writeQuery ps) }

def hostText (u : Url) : String := (u.authority.map Authority.hostText).getD ""

def hostAndPort (u : Url) : String := (u.authority.map Authority.hostAndPort).getD ""

/-- The port the URL names or its scheme implies. -/
def port? (u : Url) : Option Nat := (u.authority.bind (·.port)).or (impliedPort? u.scheme)

/-- The path with the query. -/
def pathAndQuery (u : Url) : String := u.pathText ++ u.queryText

end Url

end RequestCode
