import RequestCode.Catalog
import RequestCode.Target

/-!
# Resolving targets

An identifier is resolved against the catalog. Without a library it stands for the default client
of its language; an empty library is no library of any language.
-/

namespace RequestCode

def capitalize (s : String) : String := .ofList (Text.capitalize s.toList)

structure Resolved where
  title : String
  language : String
  library : String
  deriving DecidableEq

/-- The client that a language and a library name. -/
def findClient (language : String) (library : Option String) : Except Error Client :=
  match Catalog.find? language, library with
  | none, _ => .error (.unknownTarget language)
  | some l, none => .ok l.default
  | some l, some key => match l.client? key with
    | some c => .ok c
    | none => .error (.unknownTarget (language ++ "_" ++ key))

/-- The language and the library that an identifier names, if the catalog has them. -/
def resolveClient? (id : String) : Option (String × Client) :=
  match cutTarget id with
  | some (language, library) => do
    let l ← Catalog.find? language
    return (language, ← l.client? library)
  | none => (Catalog.find? id).map fun l => (id, l.default)

def resolve? (id : String) : Option Resolved :=
  (resolveClient? id).map fun (language, client) =>
    ⟨capitalize language ++ " + " ++ capitalize client.key, language, client.key⟩

def resolve (id : String) : Except Error Resolved :=
  match resolve? id with
  | some r => .ok r
  | none => .error (.unknownTarget id)

/-- The snippet of a request for a language and a library, or for its default client. Only the
look-up can fail. Every client of the catalog has its printer; a printer reads fields that every
outgoing request has, tests truth values, walks through lists, and quotes texts, so there is no
field it could miss and no value that it could not print. -/
def Outgoing.convert (r : Outgoing) (language : String) (library : Option String) :
    Except Error String :=
  (findClient language library).map fun c => Piece.render (c.printer r)

end RequestCode
