import RequestCode.Client.Node
import RequestCode.Client.Python
import RequestCode.Proofs.MapLiteral.Meaning
import RequestCode.Proofs.MapLiteral.Reader
import RequestCode.Proofs.Outgoing.FullUrl
import RequestCode.Resolve

/-!
# Clients that print the query as a map

Five clients print the parameters of a request as a map literal. It has the pairs of the merged
query as its entries, all of them and in order; but as a map it carries them only if no name is
repeated, and none is reserved by the language. Each client is checked once, in `Sound`. Main
statement: `map_carries_query_iff`.
-/

namespace RequestCode

open Text Piece MapLiteral Client.JavaScript

/-- How a client prints its map, how the literal is read, and what it denotes. -/
structure MapClient where
  language : String
  library : String
  printer : Printer
  /-- What stands before the map. -/
  lead : Outgoing → List Piece
  read : List Char → Option (List Param)
  meaning : Meaning
  /-- The keys under which no text is kept. -/
  reserved : List String

namespace MapClient

def Shows (read : List Char → Option (List Param)) (lead printed : List Piece) (ps : List Param) :
    Prop :=
  ∃ s, printed.flatMap chars = lead.flatMap chars ++ s ∧ read s = some ps

/-- What makes the snippets of a client show the query, whatever the request. -/
structure Sound (c : MapClient) : Prop where
  printed : ∀ r : Outgoing, r.convert c.language (some c.library) = .ok (render (c.printer r))
  shows : ∀ r : Outgoing, r.hasQuery = true → Shows c.read (c.lead r) (c.printer r) r.query
  carries_iff : ∀ ps, Carries c.meaning ps ↔
    (ps.map (·.name)).Nodup ∧ ∀ p ∈ ps, p.name ∉ c.reserved

variable {c : MapClient} {r : Outgoing} {ps : List Param} {before after : List Piece}
  {opening closing : String}

theorem shows_record
    (h : ∀ ms, ∃ left, Script.reader.first? (.code, Script.inside ms []) closing.toList =
      some (ms, left)) :
    Shows readRecord (before ++ [code opening])
      (before ++ ([code (opening ++ "\x7b")] ++ members "    " .json ps ++ [code closing]) ++ after)
      ps := by
  obtain ⟨left, closed⟩ := h (Script.members ps)
  refine ⟨_, ?_, readRecord_members closed (after.flatMap chars)⟩
  simp [chars, String.toList_append]

theorem shows_braces (h : Sealed [.json] after) :
    Shows readBraces (before ++ [code opening])
      (before ++ ([code (opening ++ "\x7b")] ++ Client.Clojure.entries ps ++ [code "\x7d"]) ++
        after)
      ps := by
  refine ⟨_, ?_, readBraces_entries h⟩
  simp [chars, String.toList_append]

theorem first?_close (ms : Script.Members) :
    ∃ left, Script.reader.first? (.code, Script.inside ms []) "\n  \x7d".toList =
      some (ms, left) := by
  cases ms <;> exact ⟨_, rfl⟩

section Script

variable {language library start name : String} {printer : Printer}

/-- A client in JavaScript: the map is the member behind the URL. -/
def script (language library start name : String) (printer : Printer) : MapClient where
  language := language
  library := library
  printer := printer
  lead r :=
    [code start, json r.method, code ",\n  url: ", json r.url] ++ [code (",\n  " ++ name ++ ": ")]
  read := readRecord
  meaning := record
  reserved := [prototypeKey]

theorem sound_script
    (printed : ∀ r : Outgoing, r.convert language (some library) = .ok (render (printer r)))
    (printer_eq : ∀ r, ∃ after, printer r =
      [code start, json r.method, code ",\n  url: ", json r.url] ++
        (only r.hasQuery (objectMember name r.query) ++ after)) :
    (script language library start name printer).Sound := by
  have brace : ",\n  " ++ name ++ ": \x7b" = ",\n  " ++ name ++ ": " ++ "\x7b" := by
    simp only [String.append_assoc]
    rfl
  refine ⟨printed, ?_, ?_⟩
  · intro r hasQuery
    obtain ⟨after, printer_eq⟩ := printer_eq r
    simp only [script, printer_eq]
    rw [only, if_pos hasQuery, objectMember, brace, ← List.append_assoc]
    exact shows_record first?_close
  · intro ps
    simp [script, carries_record_iff]

end Script

def javaScriptAxios : MapClient :=
  script "javascript" "axios"
    "import axios from \"axios\";\n\nconst options = \x7b\n  method: " "params"
    Client.JavaScript.axios

theorem sound_javaScriptAxios : javaScriptAxios.Sound := by
  apply sound_script
  · exact fun r => rfl
  · intro r
    constructor
    simp only [Client.JavaScript.axios, List.append_assoc]
    rfl

def nodeAxios : MapClient :=
  script "node" "axios"
    "const axios = require(\"axios\").default;\n\nconst options = \x7b\n  method: " "params"
    Client.Node.axios

theorem sound_nodeAxios : nodeAxios.Sound := by
  apply sound_script
  · exact fun r => rfl
  · intro r
    constructor
    simp only [Client.Node.axios, List.append_assoc]
    rfl

def nodeRequest : MapClient :=
  script "node" "request"
    "const request = require(\"request\");\n\nconst options = \x7b\n  method: " "qs"
    Client.Node.request

theorem sound_nodeRequest : nodeRequest.Sound := by
  apply sound_script
  · exact fun r => rfl
  · intro r
    constructor
    simp only [Client.Node.request, List.append_assoc]
    rfl

def pythonRequests : MapClient where
  language := "python"
  library := "requests"
  printer := Client.Python.requests
  lead r :=
    [code "import requests\n\nurl = ", json r.url, code "\n"] ++ [code "\nquerystring = "]
  read := readRecord
  meaning := dictionary
  reserved := []

theorem sound_pythonRequests : pythonRequests.Sound := by
  have closed (ms : Script.Members) : ∃ left,
      Script.reader.first? (.code, Script.inside ms []) "\n\x7d\n".toList = some (ms, left) := by
    cases ms <;> exact ⟨_, rfl⟩
  refine ⟨fun r => rfl, ?_, ?_⟩
  · intro r hasQuery
    simp only [pythonRequests, Client.Python.requests, List.append_assoc]
    unfold Client.Python.dictionary only
    rw [if_pos hasQuery, ← List.append_assoc]
    exact shows_record closed
  · intro ps
    simp [pythonRequests, carries_dictionary_iff]

def clojureCljHttp : MapClient where
  language := "clojure"
  library := "clj_http"
  printer := Client.Clojure.cljHttp
  lead r :=
    [code "(require '[clj-http.client :as client])\n\n(client/request \x7b:method :",
      bare (.ofList (Text.lower r.method.toList)),
      code "\n                 :url ", json r.url] ++ [code "\n                 :query-params "]
  read := readBraces
  meaning := distinct
  reserved := []

theorem sound_clojureCljHttp : clojureCljHttp.Sound := by
  have blank : isPlain [.json] " ".toList = true := rfl
  have ending (r : Outgoing) : Sealed [.json]
      (only r.hasHeaders ([code "\n                 :headers \x7b"] ++
          Client.Clojure.entries r.headers ++ [code "\x7d"]) ++
        (only r.hasBody [code "\n                 :body ", json r.body] ++
          [code "\n                 \x7d)\n"])) := by
    simp (disch := (apply isPlain_ofList; decide)) [Client.Clojure.entries, json, whole_plain,
      readable_json, sealed_eachWith (whole_plain blank)]
  refine ⟨fun r => rfl, ?_, ?_⟩
  · intro r hasQuery
    simp only [clojureCljHttp, Client.Clojure.cljHttp, List.append_assoc]
    rw [only, if_pos hasQuery, ← List.append_assoc]
    exact shows_braces (ending r)
  · intro ps
    simp [clojureCljHttp, carries_distinct_iff]

def all : List MapClient :=
  [javaScriptAxios, nodeAxios, nodeRequest, pythonRequests, clojureCljHttp]

theorem sound_of_mem (h : c ∈ all) : c.Sound := by
  simp only [all, List.mem_cons, List.not_mem_nil, or_false] at h
  rcases h with rfl | rfl | rfl | rfl | rfl
  · exact sound_javaScriptAxios
  · exact sound_nodeAxios
  · exact sound_nodeRequest
  · exact sound_pythonRequests
  · exact sound_clojureCljHttp

/-- The map that the client prints has different keys, and denotes exactly the pairs of the
query. -/
def KeepsQuery (c : MapClient) (r : Outgoing) : Prop :=
  ∃ text s ps, r.convert c.language (some c.library) = .ok text ∧
    text.toList = (render (c.lead r)).toList ++ s ∧ c.read s = some ps ∧
    (ps.map (·.name)).Nodup ∧
      ∃ m, c.meaning ps = some m ∧ ∀ p, p ∈ r.query ↔ m p.name = some p.value

/-- The entries of the printed map are the pairs of the query. -/
theorem Sound.prints (sound : c.Sound) (h : r.query ≠ []) :
    ∃ s, (render (c.printer r)).toList = (render (c.lead r)).toList ++ s ∧
      c.read s = some r.query := by
  have hasQuery : r.hasQuery = true := by simp [Outgoing.hasQuery, h]
  obtain ⟨s, printed, entries⟩ := sound.shows r hasQuery
  refine ⟨s, ?_, entries⟩
  simpa [render] using printed

theorem Sound.keepsQuery_iff (sound : c.Sound) (h : r.query ≠ []) :
    c.KeepsQuery r ↔ Carries c.meaning r.query := by
  obtain ⟨s, printed, entries⟩ := sound.prints h
  constructor
  · rintro ⟨text, t, ps, converted, split, read, carries⟩
    rw [sound.printed] at converted
    cases converted
    rw [printed, List.append_cancel_left_eq] at split
    subst split
    rw [entries] at read
    cases read
    exact carries
  · intro carries
    exact ⟨_, s, r.query, sound.printed r, printed, entries, carries⟩

/-- The full URL carries the merged query, and so does the printed map, if every name that the URL
repeats is overridden and no name is reserved. Otherwise the map does not: its entries are the pairs
of the query all the same, but some of them do not count. -/
theorem map_carries_query_iff (hc : c ∈ all) {request : Request}
    (h : Outgoing.ofRequest request = .ok r) :
    ∃ u, Url.read request.url = .ok u ∧ Url.carriedPairs r.fullUrl = r.query ∧
      (r.query ≠ [] →
        (∃ text s, r.convert c.language (some c.library) = .ok text ∧
          text.toList = (render (c.lead r)).toList ++ s ∧ c.read s = some r.query) ∧
        (c.KeepsQuery r ↔
          (∀ name, 1 < occurrences name u.pairs → name ∈ request.query.map (·.name)) ∧
            ∀ p ∈ r.query, p.name ∉ c.reserved)) := by
  have sound := sound_of_mem hc
  obtain ⟨u, read, made⟩ := Outgoing.ofRequest_eq_ok_iff.mp h
  have merged : r.query = mergeQuery u.pairs request.query := by
    rw [← made, Outgoing.ofUrl_query]
  refine ⟨u, read, Outgoing.carriedPairs_fullUrl h, ?_⟩
  intro nonempty
  obtain ⟨s, printed, entries⟩ := sound.prints nonempty
  refine ⟨⟨_, s, sound.printed r, printed, entries⟩, ?_⟩
  rw [sound.keepsQuery_iff nonempty, sound.carries_iff, ← nodup_mergeQuery_iff, ← merged]

def repeatingRequest (overrides : List Param) : Request where
  method := "GET"
  url := "http://[::1]/?id=1&id=2"
  headers := []
  query := overrides
  cookies := []
  httpVersion := "HTTP/1.1"
  headersSize := 0
  bodySize := 0
  postData := ⟨"", none⟩

def repeatingUrl : Url where
  scheme := "http"
  authority := some ⟨"", "", some (.ipv6 [0, 0, 0, 0, 0, 0, 0, 1]), none⟩
  path := .segments [""]
  query := some "id=1&id=2"
  fragment := none

theorem read_repeatingUrl : Url.read "http://[::1]/?id=1&id=2" = .ok repeatingUrl := by rfl

theorem ofRequest_repeatingRequest (overrides : List Param) :
    Outgoing.ofRequest (repeatingRequest overrides) =
      .ok (Outgoing.ofUrl (repeatingRequest overrides) repeatingUrl) :=
  Outgoing.ofRequest_eq_ok_iff.mpr ⟨repeatingUrl, read_repeatingUrl, rfl⟩

theorem map_carries_query_iff_sample :
    ∃ r, Outgoing.ofRequest (repeatingRequest [⟨"id", "3"⟩]) = .ok r ∧
      Url.carriedPairs r.fullUrl = [⟨"id", "3"⟩] ∧ nodeRequest.KeepsQuery r := by
  obtain ⟨u, read, fullUrl, query⟩ := map_carries_query_iff (c := nodeRequest) (by simp [all])
    (ofRequest_repeatingRequest [⟨"id", "3"⟩])
  cases read_repeatingUrl.symm.trans read
  refine ⟨_, ofRequest_repeatingRequest _, fullUrl.trans (by decide +kernel), ?_⟩
  refine (query (by decide +kernel)).2.mpr ⟨?_, by decide +kernel⟩
  exact nodup_mergeQuery_iff.mp (by decide +kernel)

theorem map_loses_repeated :
    ¬∀ c ∈ all, ∀ request r, Outgoing.ofRequest request = .ok r → r.query ≠ [] →
      c.KeepsQuery r := by
  intro keeps
  have kept := keeps pythonRequests (by simp [all]) _ _ (ofRequest_repeatingRequest [])
    (by decide +kernel)
  rw [sound_pythonRequests.keepsQuery_iff (by decide +kernel)] at kept
  exact absurd kept.1 (by decide +kernel)

end MapClient

end RequestCode
