import RequestCode.Proofs.CFamily.Literal
import RequestCode.Proofs.Literal.Clients
import RequestCode.Proofs.Literal.Places

/-!
# Clients in C and C#

Three clients write the texts of a request as JSON strings, whatever their language makes of them.
Main statement: `literals_denote_known_texts`, what the literals denote, at every place that a
snippet has for one.
-/

namespace RequestCode.CFamily

open Piece QuotingClient

/-- A client that writes texts as JSON strings, and the texts that its snippets hold, in order. -/
structure JsonClient where
  language : String
  library : String
  grammar : Language
  printer : Printer
  texts : Outgoing → List String

namespace JsonClient

def libcurl : JsonClient where
  language := "c"
  library := "libcurl"
  grammar := .c
  printer := Client.C.libcurl
  texts r := [r.method, r.fullUrl] ++ r.headers.flatMap (fun h => [headerLine h]) ++ bodyText r

def httpClient : JsonClient where
  language := "csharp"
  library := "httpclient"
  grammar := .sharp
  printer := Client.CSharp.httpClient
  texts r := [r.method, r.fullUrl] ++ headerTexts r
    ++ if r.hasBody then [r.body, r.mimeType] else []

def restSharp : JsonClient where
  language := "csharp"
  library := "restsharp"
  grammar := .sharp
  printer := Client.CSharp.restSharp
  texts r := [r.fullUrl] ++ headerTexts r ++ typedBody r

def all : List JsonClient := [libcurl, httpClient, restSharp]

structure Sound (c : JsonClient) : Prop where
  printed : ∀ r : Outgoing, r.convert c.language (some c.library) = .ok (render (c.printer r))
  quotes : ∀ r, ∀ style ∈ (c.printer r).flatMap styles, style = .json
  holds_texts : ∀ r, (c.printer r).flatMap said = c.texts r

theorem sound_libcurl : libcurl.Sound := by
  refine ⟨fun r => rfl, fun r => ?_, fun r => ?_⟩
  · simp +contextual [libcurl, Client.C.libcurl, json, or_imp]
  · simp [libcurl, Client.C.libcurl, json, bodyText]

theorem sound_httpClient : httpClient.Sound := by
  refine ⟨fun r => rfl, fun r => ?_, fun r => ?_⟩
  · simp +contextual [httpClient, Client.CSharp.httpClient, json, or_imp]
  · simp [httpClient, Client.CSharp.httpClient, json, headerTexts]

theorem sound_restSharp : restSharp.Sound := by
  refine ⟨fun r => rfl, fun r => ?_, fun r => ?_⟩
  · simp +contextual [restSharp, Client.CSharp.restSharp, json, or_imp]
  · simp [restSharp, Client.CSharp.restSharp, json, headerTexts, typedBody]

theorem sound_of_mem {c : JsonClient} (h : c ∈ all) : c.Sound := by
  simp only [all, List.mem_cons, List.not_mem_nil, or_false] at h
  rcases h with rfl | rfl | rfl
  · exact sound_libcurl
  · exact sound_httpClient
  · exact sound_restSharp

variable {c : JsonClient} {request : Request} {r : Outgoing}

theorem Sound.read_of_stands (sound : c.Sound) {style : Quote} {x : String}
    {before after : List Char} (h : Stands (c.printer r) style x before after) :
    read? c.grammar (style.write x.toList ++ after) =
      if x.toList.all c.grammar.knows then some (x.toList, after) else none := by
  rw [sound.quotes r style (mem_styles_of_stands h)]
  exact read?_quote x.toList after

/-- Every literal of the snippet is one of its language, and denotes its text. -/
def Faithful (c : JsonClient) (r : Outgoing) : Prop :=
  ∀ style x before after, Stands (c.printer r) style x before after →
    read? c.grammar (style.write x.toList ++ after) = some (x.toList, after)

theorem Sound.faithful_iff (sound : c.Sound) :
    c.Faithful r ↔ ∀ x ∈ c.texts r, x.toList.all c.grammar.knows = true := by
  constructor
  · intro faithful x mem
    rw [← sound.holds_texts] at mem
    obtain ⟨style, before, after, stands⟩ := stands_of_mem_said mem
    have back := faithful style x before after stands
    rw [sound.read_of_stands stands] at back
    exact (Option.ite_none_right_eq_some.mp back).1
  · intro known style x before after stands
    have mem := mem_said_of_stands stands
    rw [sound.holds_texts] at mem
    rw [sound.read_of_stands stands, if_pos (known x mem)]

/-- A literal denotes the text that it was written for, if its language knows all of the characters
of the text as they stand in it, and is no literal otherwise. -/
theorem literals_denote_known_texts (hc : c ∈ all) (h : Outgoing.ofRequest request = .ok r) :
    r.method = request.method ∧
    r.headers = Outgoing.headersFor request.headers request.postData ∧
    r.hasBody = request.hasBody ∧ r.body = request.postData.text.getD "" ∧
    r.mimeType = request.postData.mimeType ∧
    r.convert c.language (some c.library) = .ok (render (c.printer r)) ∧
    (c.printer r).flatMap said = c.texts r ∧
    (∀ style x before after, Stands (c.printer r) style x before after →
      read? c.grammar (style.write x.toList ++ after) =
        if x.toList.all c.grammar.knows then some (x.toList, after) else none) ∧
    (c.Faithful r ↔ ∀ x ∈ c.texts r, x.toList.all c.grammar.knows = true) := by
  have sound := sound_of_mem hc
  obtain ⟨sent, body, -, mimeType⟩ := Outgoing.body_eq h
  exact ⟨Outgoing.method_eq h, Outgoing.headers_eq h, sent, body, mimeType, sound.printed r,
    sound.holds_texts r, fun style x before after => sound.read_of_stands, sound.faithful_iff⟩

theorem literals_denote_known_texts_sample :
    ∃ r, Outgoing.ofRequest Outgoing.sampleRequest = .ok r ∧ httpClient.Faithful r := by
  have read := Outgoing.ofRequest_sampleRequest
  obtain ⟨-, -, -, -, -, -, -, -, faithful⟩ :=
    literals_denote_known_texts (c := httpClient) (by simp [all]) read
  refine ⟨_, read, faithful.mpr ?_⟩
  decide +kernel

def separatedRequest : Request :=
  { Outgoing.sampleRequest with postData := ⟨"", some "a\u2028b\x1b"⟩ }

/-- In C# the separator ends the line within the literal, and in C the control character has no
number. -/
theorem separated_body_is_no_literal :
    ∃ r, Outgoing.ofRequest separatedRequest = .ok r ∧
      ∀ c ∈ [restSharp, libcurl], ∃ style before after,
        Stands (c.printer r) style "a\u2028b\x1b" before after ∧
        read? c.grammar (style.write "a\u2028b\x1b".toList ++ after) = none := by
  refine ⟨Outgoing.ofUrl separatedRequest Outgoing.sampleUrl,
    Outgoing.ofRequest_eq_ok_iff.mpr ⟨_, Outgoing.read_sampleRequest, rfl⟩, fun c hc => ?_⟩
  have typed : typedBody (Outgoing.ofUrl separatedRequest Outgoing.sampleUrl) =
      ["", "a\u2028b\x1b"] := rfl
  have body : bodyText (Outgoing.ofUrl separatedRequest Outgoing.sampleUrl) =
      ["a\u2028b\x1b"] := rfl
  obtain ⟨sound, mem, unknown⟩ : c.Sound ∧
      "a\u2028b\x1b" ∈ c.texts (Outgoing.ofUrl separatedRequest Outgoing.sampleUrl) ∧
      "a\u2028b\x1b".toList.all c.grammar.knows = false := by
    simp only [List.mem_cons, List.not_mem_nil, or_false] at hc
    rcases hc with rfl | rfl
    · exact ⟨sound_restSharp, by simp [restSharp, typed], rfl⟩
    · exact ⟨sound_libcurl, by simp [libcurl, body], rfl⟩
  rw [← sound.holds_texts] at mem
  obtain ⟨style, before, after, stands⟩ := stands_of_mem_said mem
  refine ⟨style, before, after, stands, ?_⟩
  rw [sound.read_of_stands stands, unknown]
  rfl

end JsonClient

end RequestCode.CFamily
