import RequestCode.Bundle
import RequestCode.Source
import RequestCode.Text.Inspect

/-!
# Generators

A generator turns a live request into the text of a snippet. The one for a target never fails: in
place of a snippet it cannot render it gives a fixed message.
-/

namespace RequestCode

structure Generator where
  title : String
  grammar : String
  run : Source → String

namespace Generator

/-- A generator that always gives the same text. -/
def fixed (title grammar text : String) : Generator := ⟨title, grammar, fun _ => text⟩

/-- What a generator gives when its snippet cannot be rendered. -/
def failureText : String := "snippet generation error. see console"

/-- A field as text; a missing one and null count as empty. -/
def fieldText (s : Source) (field : String) : String :=
  match s field with
  | none => ""
  | some .null => ""
  | some v => v.asText

/-- The headers of a live request, if they are an object. -/
def liveHeaders (s : Source) : Params :=
  match s "headers" with
  | some (.object members) => .ofList members
  | _ => ∅

/-- The snippet of a live request for a target. The pairs of its URL are collected by name. -/
def liveSnippet (target : String) (s : Source) : Except Error String :=
  match Url.read (fieldText s "url") with
  | .error e => .error (.url e)
  | .ok u => do
    let bundle ← generate u.text (fieldText s "method") [target] (some (Params.ofPairs u.pairs))
      (some (liveHeaders s)) (some (fieldText s "body"))
    match bundle.snippets with
    | snippet :: _ => return snippet.content
    | [] => .error (.unknownTarget target)

def ofTarget (t : Target) : Generator where
  title := t.title
  grammar := t.grammar
  run s :=
    match liveSnippet t.id s with
    | .ok content => content
    | .error _ => failureText

/-- The settings of a generator, for a reader. -/
def describe (g : Generator) : String :=
  "GeneratorConfig \x7b title: " ++ Text.inspect g.title ++ ", syntax: " ++ Text.inspect g.grammar
    ++ ", .. \x7d"

end Generator

end RequestCode
