import RequestCode.Proofs.Literal.Parts
import RequestCode.Proofs.Outgoing.Fields
import RequestCode.Resolve

/-!
# Clients that quote every text of a request

No text of a request leaves its literal: the literals of a snippet say the texts of the request
and the constants of the client, and what stands between them is the same for all requests of one
shape. Each client is checked once, in `Sound`; the statement for snippets follows for all of them.
-/

namespace RequestCode

open Piece Literal

/-- How the literals of a client are read, and what they say from first to last. -/
structure QuotingClient where
  language : String
  library : String
  printer : Printer
  forms : List Form
  texts : Outgoing → List String

namespace QuotingClient

/-- The requests differ at most in texts that the client quotes. -/
structure SameShape (c : QuotingClient) (r s : Outgoing) : Prop where
  hasBody : r.hasBody = s.hasBody
  headers : r.headers.length = s.headers.length
  ruby : c.language = "ruby" → (r.scheme = "https" ↔ s.scheme = "https") ∧
    Client.Ruby.requestClass? r.method = Client.Ruby.requestClass? s.method

/-- What makes the snippets of a client keep their literals, whatever the request. -/
structure Sound (c : QuotingClient) : Prop where
  printed : ∀ r : Outgoing, r.convert c.language (some c.library) = .ok (render (c.printer r))
  whole : ∀ r, Sealed c.forms (c.printer r)
  says_texts : ∀ r, (c.printer r).flatMap (Piece.texts c.forms) = c.texts r
  same_blank : ∀ r s, c.SameShape r s → (c.printer r).map blank = (c.printer s).map blank

variable {c : QuotingClient} {r s : Outgoing}

theorem SameShape.hasHeaders (h : c.SameShape r s) : r.hasHeaders = s.hasHeaders :=
  Outgoing.hasHeaders_congr h.headers

@[simp] theorem ite_hasHeaders {α : Type} (g : Param → List α) :
    (if r.hasHeaders then r.headers.flatMap g else []) = r.headers.flatMap g := by
  unfold Outgoing.hasHeaders
  cases r.headers <;> rfl

def bodyText (r : Outgoing) : List String := if r.hasBody then [r.body] else []

def typedBody (r : Outgoing) : List String := if r.hasBody then [r.mimeType, r.body] else []

def headerTexts (r : Outgoing) : List String := r.headers.flatMap fun h => [h.name, h.value]

def phpForms : List Form := [.apostrophe, .constant '$']

theorem readable_php : Readable phpForms .apostrophe := ⟨_, rfl, rfl⟩

def phpCurl : QuotingClient where
  language := "php"
  library := "curl"
  printer := Client.Php.curl
  forms := phpForms
  texts r := [r.fullUrl, "", r.method] ++ bodyText r ++ r.headers.flatMap (fun h => [headerLine h])
    ++ ["cURL Error #:"]

theorem sound_phpCurl : phpCurl.Sound := by
  have encoding : Constant phpForms
      ",\n  CURLOPT_RETURNTRANSFER => true,\n  CURLOPT_ENCODING => \"\",\n" [""] := by
    apply constant_ofList
    rfl
  have message : Constant phpForms
      "curl_close($curl);\n\nif ($err) \x7b\n  echo \"cURL Error #:\" . $err;\n"
      ["cURL Error #:"] := by
    apply constant_ofList
    rfl
  have comma : isPlain phpForms ",".toList = true := rfl
  refine ⟨fun r => rfl, fun r => ?_, fun r => ?_, fun r s h => ?_⟩
  · simp (disch := (apply isPlain_ofList; decide)) [phpCurl, Client.Php.curl,
      Client.Php.str, whole_plain, readable_php, encoding.1, message.1,
      sealed_eachWith (whole_plain comma)]
  · simp (disch := (apply isPlain_ofList; decide)) [phpCurl, Client.Php.curl,
      Client.Php.str, texts_plain, texts_quoted readable_php, encoding.2, message.2,
      flatMap_eachWith (texts_plain comma), bodyText]
  · simp (disch := simp only [List.map_cons, List.map_nil, blank, implies_true]) [phpCurl,
      Client.Php.curl, Client.Php.str, blank, h.hasBody, h.headers, h.hasHeaders]

def phpGuzzle : QuotingClient where
  language := "php"
  library := "guzzle"
  printer := Client.Php.guzzle
  forms := phpForms
  texts r := [r.method, r.fullUrl] ++ (if r.hasBody then ["body", r.body] else [])
    ++ if r.hasHeaders then "headers" :: headerTexts r else []

theorem sound_phpGuzzle : phpGuzzle.Sound := by
  have body : Constant phpForms "\n  'body' => " ["body"] := by
    apply constant_ofList
    rfl
  have headers : Constant phpForms "\n  'headers' => [" ["headers"] := by
    apply constant_ofList
    rfl
  refine ⟨fun r => rfl, fun r => ?_, fun r => ?_, fun r s h => ?_⟩
  · simp (disch := (apply isPlain_ofList; decide)) [phpGuzzle, Client.Php.guzzle,
      Client.Php.str, whole_plain, readable_php, body.1, headers.1]
  · simp (disch := (apply isPlain_ofList; decide)) [phpGuzzle, Client.Php.guzzle,
      Client.Php.str, texts_plain, texts_quoted readable_php, body.2, headers.2, headerTexts]
  · simp (disch := simp only [List.map_cons, List.map_nil, blank, implies_true]) [phpGuzzle,
      Client.Php.guzzle, Client.Php.str, blank, h.hasBody, h.headers, h.hasHeaders]

def rubyMethod (r : Outgoing) : List String :=
  if (Client.Ruby.requestClass? r.method).isSome then [] else [r.method]

def rubyForms : List Form := [.apostrophe, .constant '#']

def rubyNetHttp : QuotingClient where
  language := "ruby"
  library := "native"
  printer := Client.Ruby.netHttp
  forms := rubyForms
  texts r := ["uri", "net/http", r.fullUrl] ++ rubyMethod r ++ headerTexts r ++ bodyText r

theorem isPlain_requestClass {method className : String}
    (h : Client.Ruby.requestClass? method = some className) :
    isPlain rubyForms ("request = Net::HTTP::" ++ className ++ ".new(url)").toList = true := by
  have plain : ∀ p ∈ Client.Ruby.requestClasses, isPlain rubyForms p.2.toList = true := by
    decide
  obtain ⟨before, after, split, -⟩ := List.lookup_eq_some_iff.mp h
  have named := plain (method, className) (by simp [split])
  simp only [isPlain, String.toList_append, List.all_append, Bool.and_eq_true] at named ⊢
  exact ⟨⟨by decide, named⟩, by decide⟩

theorem readable_ruby : Readable rubyForms .apostrophe := ⟨_, rfl, rfl⟩

theorem sealed_newRequest (r : Outgoing) : Sealed rubyForms (Client.Ruby.newRequest r) := by
  have answer : isPlain rubyForms (if r.hasBody then "true" else "false").toList = true :=
    isPlain_ite r.hasBody rfl rfl
  unfold Client.Ruby.newRequest
  split
  · rename_i h
    simp [whole_plain (isPlain_requestClass h)]
  · simp (disch := (apply isPlain_ofList; decide)) [Client.Ruby.str, whole_plain,
      whole_plain answer, readable_ruby]

theorem texts_newRequest (r : Outgoing) :
    (Client.Ruby.newRequest r).flatMap (Piece.texts rubyForms) = rubyMethod r := by
  have answer : isPlain rubyForms (if r.hasBody then "true" else "false").toList = true :=
    isPlain_ite r.hasBody rfl rfl
  unfold Client.Ruby.newRequest rubyMethod
  split
  · rename_i h
    simp [texts_plain (isPlain_requestClass h), h]
  · rename_i h
    simp (disch := (apply isPlain_ofList; decide)) [Client.Ruby.str, texts_plain,
      texts_plain answer, texts_quoted readable_ruby, h]

theorem blank_newRequest (h : rubyNetHttp.SameShape r s) :
    (Client.Ruby.newRequest r).map blank = (Client.Ruby.newRequest s).map blank := by
  unfold Client.Ruby.newRequest
  rw [(h.ruby rfl).2]
  cases Client.Ruby.requestClass? s.method with
  | none => simp [Client.Ruby.str, blank, h.hasBody]
  | some className => rfl

theorem sound_rubyNetHttp : rubyNetHttp.Sound := by
  have required : Constant rubyForms
      "require 'uri'\nrequire 'net/http'\n\nurl = URI(" ["uri", "net/http"] := by
    apply constant_ofList
    rfl
  refine ⟨fun r => rfl, fun r => ?_, fun r => ?_, fun r s h => ?_⟩
  · simp (disch := (apply isPlain_ofList; decide)) [rubyNetHttp, Client.Ruby.netHttp,
      Client.Ruby.str, whole_plain, readable_ruby, required.1, sealed_newRequest]
  · simp (disch := (apply isPlain_ofList; decide)) [rubyNetHttp, Client.Ruby.netHttp,
      Client.Ruby.str, texts_plain, texts_quoted readable_ruby, required.2, texts_newRequest,
      headerTexts, bodyText]
  · simp (disch := simp only [List.map_cons, List.map_nil, blank, implies_true]) [rubyNetHttp,
      Client.Ruby.netHttp, Client.Ruby.str, blank, blank_newRequest h, h.hasBody, h.headers,
      (h.ruby rfl).1]

def kotlinOkHttp : QuotingClient where
  language := "kotlin"
  library := "okhttp"
  printer := Client.Kotlin.okHttp
  forms := [.template]
  texts r := typedBody r ++ [r.fullUrl, r.method] ++ headerTexts r

theorem sound_kotlinOkHttp : kotlinOkHttp.Sound := by
  have readable : Readable [.template] .template := ⟨_, rfl, rfl⟩
  have answer (r : Outgoing) :
      isPlain [.template] (if r.hasBody then "body" else "null").toList = true :=
    isPlain_ite r.hasBody rfl rfl
  refine ⟨fun r => rfl, fun r => ?_, fun r => ?_, fun r s h => ?_⟩
  · simp (disch := (apply isPlain_ofList; decide)) [kotlinOkHttp, Client.Kotlin.okHttp,
      whole_plain, readable, whole_plain (answer r)]
  · simp (disch := (apply isPlain_ofList; decide)) [kotlinOkHttp, Client.Kotlin.okHttp,
      texts_plain, texts_quoted readable, texts_plain (answer r), typedBody, headerTexts]
  · simp (disch := simp only [List.map_cons, List.map_nil, blank, implies_true]) [kotlinOkHttp,
      Client.Kotlin.okHttp, blank, h.hasBody, h.headers]

theorem readable_braced : Readable [.braced] .braced := ⟨_, rfl, rfl⟩

def rustReqwest : QuotingClient where
  language := "rust"
  library := "reqwest"
  printer := Client.Rust.reqwest
  forms := [.braced]
  texts r := r.headers.flatMap (fun h => [.ofList (Text.lower h.name.toList), h.value])
    ++ [r.method, r.fullUrl] ++ bodyText r ++ ["\x7b\x7d"]

theorem sound_rustReqwest : rustReqwest.Sound := by
  have placeholder : Constant [.braced]
      "    println!(\"\x7b\x7d\", response.text().await?);\n\n    Ok(())\n\x7d\n" ["\x7b\x7d"] := by
    apply constant_ofList
    rfl
  refine ⟨fun r => rfl, fun r => ?_, fun r => ?_, fun r s h => ?_⟩
  · simp (disch := (apply isPlain_ofList; decide)) [rustReqwest, Client.Rust.reqwest,
      Client.Rust.str, whole_plain, readable_braced, placeholder.1]
  · simp (disch := (apply isPlain_ofList; decide)) [rustReqwest, Client.Rust.reqwest,
      Client.Rust.str, texts_plain, texts_quoted readable_braced, placeholder.2, bodyText]
  · simp (disch := simp only [List.map_cons, List.map_nil, blank, implies_true]) [rustReqwest,
      Client.Rust.reqwest, Client.Rust.str, blank, h.hasBody, h.headers, h.hasHeaders]

def swiftUrlSession : QuotingClient where
  language := "swift"
  library := "nsurlsession"
  printer := Client.Swift.urlSession
  forms := [.braced]
  texts r := headerTexts r ++ bodyText r ++ [r.fullUrl, r.method]

theorem sound_swiftUrlSession : swiftUrlSession.Sound := by
  have comma : isPlain [.braced] ",".toList = true := rfl
  refine ⟨fun r => rfl, fun r => ?_, fun r => ?_, fun r s h => ?_⟩
  · simp (disch := (apply isPlain_ofList; decide)) [swiftUrlSession,
      Client.Swift.urlSession, Client.Swift.str, members, member, whole_plain, readable_braced,
      sealed_eachWith (whole_plain comma)]
  · simp (disch := (apply isPlain_ofList; decide)) [swiftUrlSession,
      Client.Swift.urlSession, Client.Swift.str, members, member, texts_plain,
      texts_quoted readable_braced, flatMap_eachWith (texts_plain comma), headerTexts, bodyText]
  · simp (disch := simp only [member, List.map_cons, List.map_nil, blank, implies_true])
      [swiftUrlSession, Client.Swift.urlSession, Client.Swift.str, members, blank, h.hasBody,
      h.headers, h.hasHeaders]

def goNewRequest : QuotingClient where
  language := "go"
  library := "native"
  printer := Client.Go.newRequest
  forms := [.json]
  texts r := ["fmt", "io", "net/http"] ++ (if r.hasBody then ["strings"] else [])
    ++ [r.fullUrl] ++ bodyText r ++ [r.method] ++ headerTexts r

theorem sound_goNewRequest : goNewRequest.Sound := by
  have imports : Constant [.json]
      "package main\n\nimport (\n\t\"fmt\"\n\t\"io\"\n\t\"net/http\""
      ["fmt", "io", "net/http"] := by
    apply constant_ofList
    rfl
  have strings : Constant [.json] "\n\t\"strings\"" ["strings"] := by
    apply constant_ofList
    rfl
  refine ⟨fun r => rfl, fun r => ?_, fun r => ?_, fun r s h => ?_⟩
  · cases hbody : r.hasBody <;>
      simp (disch := (apply isPlain_ofList; decide)) [goNewRequest, Client.Go.newRequest,
        json, whole_plain, readable_json, imports.1, strings.1, hbody]
  · cases hbody : r.hasBody <;>
      simp (disch := (apply isPlain_ofList; decide)) [goNewRequest, Client.Go.newRequest,
        json, texts_plain, texts_quoted readable_json, imports.2, strings.2, hbody,
        bodyText, headerTexts]
  · cases hbody : s.hasBody <;>
      simp (disch := simp only [List.map_cons, List.map_nil, blank, implies_true]) [goNewRequest,
        Client.Go.newRequest, json, blank, h.hasBody, hbody, h.headers]

def javaNetHttp : QuotingClient where
  language := "java"
  library := "nethttp"
  printer := Client.Java.netHttp
  forms := [.json]
  texts r := [r.fullUrl] ++ headerTexts r ++ [r.method] ++ bodyText r

theorem sound_javaNetHttp : javaNetHttp.Sound := by
  refine ⟨fun r => rfl, fun r => ?_, fun r => ?_, fun r s h => ?_⟩
  · cases hbody : r.hasBody <;>
      simp (disch := (apply isPlain_ofList; decide)) [javaNetHttp, Client.Java.netHttp,
        json, whole_plain, readable_json, hbody]
  · cases hbody : r.hasBody <;>
      simp (disch := (apply isPlain_ofList; decide)) [javaNetHttp, Client.Java.netHttp,
        json, texts_plain, texts_quoted readable_json, hbody, bodyText, headerTexts]
  · cases hbody : s.hasBody <;>
      simp (disch := simp only [List.map_cons, List.map_nil, blank, implies_true]) [javaNetHttp,
        Client.Java.netHttp, json, blank, h.hasBody, hbody, h.headers]

def javaOkHttp : QuotingClient where
  language := "java"
  library := "okhttp"
  printer := Client.Java.okHttp
  forms := [.json]
  texts r := typedBody r ++ [r.fullUrl, r.method] ++ headerTexts r

theorem sound_javaOkHttp : javaOkHttp.Sound := by
  have answer (r : Outgoing) :
      isPlain [.json] (if r.hasBody then "body" else "null").toList = true :=
    isPlain_ite r.hasBody rfl rfl
  refine ⟨fun r => rfl, fun r => ?_, fun r => ?_, fun r s h => ?_⟩
  · simp (disch := (apply isPlain_ofList; decide)) [javaOkHttp, Client.Java.okHttp, json,
      whole_plain, readable_json, whole_plain (answer r)]
  · simp (disch := (apply isPlain_ofList; decide)) [javaOkHttp, Client.Java.okHttp, json,
      texts_plain, texts_quoted readable_json, texts_plain (answer r), typedBody, headerTexts]
  · simp (disch := simp only [List.map_cons, List.map_nil, blank, implies_true]) [javaOkHttp,
      Client.Java.okHttp, json, blank, h.hasBody, h.headers]

def javaScriptXhr : QuotingClient where
  language := "javascript"
  library := "xhr"
  printer := Client.JavaScript.xhr
  forms := [.json]
  texts r := bodyText r ++ ["readystatechange", r.method, r.fullUrl] ++ headerTexts r

theorem sound_javaScriptXhr : javaScriptXhr.Sound := by
  have listener : Constant [.json]
      "xhr.addEventListener(\"readystatechange\", function () \x7b\n" ["readystatechange"] := by
    apply constant_ofList
    rfl
  refine ⟨fun r => rfl, fun r => ?_, fun r => ?_, fun r s h => ?_⟩
  · cases hbody : r.hasBody <;>
      simp (disch := (apply isPlain_ofList; decide)) [javaScriptXhr,
        Client.JavaScript.xhr, json, whole_plain, readable_json, listener.1, hbody]
  · cases hbody : r.hasBody <;>
      simp (disch := (apply isPlain_ofList; decide)) [javaScriptXhr,
        Client.JavaScript.xhr, json, texts_plain, texts_quoted readable_json, listener.2, hbody,
        bodyText, headerTexts]
  · cases hbody : s.hasBody <;>
      simp (disch := simp only [List.map_cons, List.map_nil, blank, implies_true])
        [javaScriptXhr, Client.JavaScript.xhr, json, blank, h.hasBody, hbody, h.headers]

def all : List QuotingClient :=
  [phpCurl, phpGuzzle, rubyNetHttp, kotlinOkHttp, rustReqwest, swiftUrlSession, goNewRequest,
    javaOkHttp, javaNetHttp, javaScriptXhr]

theorem sound_of_mem (h : c ∈ all) : c.Sound := by
  simp only [all, List.mem_cons, List.not_mem_nil, or_false] at h
  rcases h with rfl | rfl | rfl | rfl | rfl | rfl | rfl | rfl | rfl | rfl
  · exact sound_phpCurl
  · exact sound_phpGuzzle
  · exact sound_rubyNetHttp
  · exact sound_kotlinOkHttp
  · exact sound_rustReqwest
  · exact sound_swiftUrlSession
  · exact sound_goNewRequest
  · exact sound_javaOkHttp
  · exact sound_javaNetHttp
  · exact sound_javaScriptXhr

def Cuts (c : QuotingClient) (request : Request) (ts : List Token) : Prop :=
  ∃ r text, Outgoing.ofRequest request = .ok r ∧
    r.convert c.language (some c.library) = .ok text ∧ cut c.forms text = some ts

theorem Sound.cuts_iff (sound : c.Sound) {request : Request}
    (h : Outgoing.ofRequest request = .ok r) {ts : List Token} :
    c.Cuts request ts ↔ ts = (c.printer r).flatMap (tokens c.forms) := by
  have whole : cut c.forms (render (c.printer r)) = some ((c.printer r).flatMap (tokens c.forms)) :=
    cut_render fun p hp => (sound.whole r p hp).closed
  constructor
  · rintro ⟨s, text, hs, htext, hcut⟩
    rw [h] at hs
    cases hs
    rw [sound.printed] at htext
    cases htext
    rw [whole] at hcut
    exact (Option.some.inj hcut).symm
  · rintro rfl
    exact ⟨r, _, h, sound.printed r, whole⟩

/-- Whatever the texts of a request hold, they stay in the literals they were written to: the
literals of a snippet say the texts of the request and the constants of the client, and the text
between them depends on the shape of the request alone. -/
theorem literals_keep_texts (hc : c ∈ all) {request : Request}
    (h : Outgoing.ofRequest request = .ok r) :
    ∃ ts, c.Cuts request ts ∧ Literal.texts ts = c.texts r ∧
      ∀ other s us, Outgoing.ofRequest other = .ok s → c.SameShape r s → c.Cuts other us →
        frame us = frame ts := by
  have sound := sound_of_mem hc
  refine ⟨_, (sound.cuts_iff h).mpr rfl, ?_, ?_⟩
  · rw [texts_flatMap_tokens, sound.says_texts]
  · intro other s us hs shape hcuts
    rw [(sound.cuts_iff hs).mp hcuts]
    exact (frame_eq_of_blank_eq (sound.whole r) (sound.whole s) (sound.same_blank r s shape)).symm

theorem literals_keep_texts_sample :
    ∃ ts, rubyNetHttp.Cuts Outgoing.sampleRequest ts ∧ ∃ r,
      Outgoing.ofRequest Outgoing.sampleRequest = .ok r ∧
        Literal.texts ts = ["uri", "net/http", r.fullUrl, "M;RM", "X-Note",
          "it's | \\\n\"$x\"", "'\n"] := by
  obtain ⟨ts, cuts, says_texts, -⟩ :=
    literals_keep_texts (c := rubyNetHttp) (by simp [all]) Outgoing.ofRequest_sampleRequest
  exact ⟨ts, cuts, _, Outgoing.ofRequest_sampleRequest, says_texts⟩

end QuotingClient

end RequestCode
