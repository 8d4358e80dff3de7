import RequestCode.Client.Node
import RequestCode.Proofs.Script.Declaration
import RequestCode.Proofs.Url.Scheme
import RequestCode.Resolve

/-!
# Clients that print an object literal

Seven clients declare a constant by an object literal that describes the request. It is well
formed, its members are the fields of the request in a fixed order, and the fixed end of the client
follows it. Each client is checked once, in `Sound`; the statement for snippets follows for all of
them.
-/

namespace RequestCode.Script

open Text Piece Client.JavaScript

/-- How a client declares the object, with what members, and what follows the object. -/
structure ObjectClient where
  language : String
  library : String
  printer : Printer
  constant : String
  members : Outgoing → Members
  /-- What follows the object, for the text of a body. -/
  tail : Option String → List Piece

namespace ObjectClient

/-- What makes the snippets of a client declare their object, whatever the request. -/
structure Sound (c : ObjectClient) : Prop where
  printed : ∀ r : Outgoing, r.convert c.language (some c.library) = .ok (render (c.printer r))
  declares : ∀ r : Outgoing, '\n' ∉ r.scheme.toList →
    Declares c.constant ((c.printer r).flatMap chars) (c.members r)
      (';' :: (c.tail r.payload?).flatMap chars)

variable {c : ObjectClient} {r : Outgoing}

def bodyMember (key : String) (r : Outgoing) : Members :=
  if r.hasBody then [(key, .string r.body)] else []

theorem adds_headers (r : Outgoing) :
    Adds (only r.hasHeaders (objectMember "headers" r.headers))
      (optionalObject "headers" r.headers) := by
  have headers : Names "headers" "headers" := fun _ => rfl
  exact .optionalObject headers r.headers

theorem adds_body {key name : String} (h : Names key name) (r : Outgoing) :
    Adds (only r.hasBody (textMember name r.body)) (bodyMember key r) :=
  .only r.hasBody (.textMember h r.body)

/-- The members of a client that is given the parameters apart from the URL. -/
def splitMembers (query body : String) (r : Outgoing) : Members :=
  [("method", .string r.method), ("url", .string r.url)] ++ optionalObject query r.query
    ++ optionalObject "headers" r.headers ++ bodyMember body r

theorem parses_splitMembers {query body : String} (hquery : Names query query)
    (hbody : Names body body) (r : Outgoing) :
    Parses (.value false (.member "method" []) [])
      (json r.method :: (textMember "url" r.url ++ only r.hasQuery (objectMember query r.query)
        ++ only r.hasHeaders (objectMember "headers" r.headers)
        ++ only r.hasBody (textMember body r.body)))
      (.members (splitMembers query body r) []) := by
  have method : Parses (.value false (.member "method" []) []) [json r.method]
      (.members [("method", .string r.method)] []) := .json rfl
  have url : Names "url" "url" := fun _ => rfl
  have location := (Adds.textMember url r.url).append (.optionalObject hquery r.query)
  have rest := (location.append (adds_headers r)).append (adds_body hbody r)
  exact method.append (rest _)

/-- The members of a client that is given the URL with its query beforehand. -/
def fetchMembers (r : Outgoing) : Members :=
  [("method", .string r.method)] ++ optionalObject "headers" r.headers ++ bodyMember "body" r

theorem parses_fetchMembers (r : Outgoing) :
    Parses (.value false (.member "method" []) [])
      (json r.method :: (only r.hasHeaders (objectMember "headers" r.headers)
        ++ only r.hasBody (textMember "body" r.body)))
      (.members (fetchMembers r) []) := by
  have method : Parses (.value false (.member "method" []) []) [json r.method]
      (.members [("method", .string r.method)] []) := .json rfl
  have body : Names "body" "body" := fun _ => rfl
  exact method.append (((adds_headers r).append (adds_body body r)) _)

def javaScriptAxios : ObjectClient where
  language := "javascript"
  library := "axios"
  printer := Client.JavaScript.axios
  constant := "options"
  members := splitMembers "params" "data"
  tail _ :=
    [code "\n\ntry \x7b\n  const \x7b data \x7d = await axios.request(options);\n",
      code "  console.log(data);\n\x7d catch (error) \x7b\n  console.error(error);\n\x7d\n"]

theorem sound_javaScriptAxios : javaScriptAxios.Sound := by
  refine ⟨fun r => rfl, fun r _ => ?_⟩
  have params : Names "params" "params" := fun _ => rfl
  have data : Names "data" "data" := fun _ => rfl
  exact declares_of_parses [] _ ['\n', '\x7d'] _ .nil rfl rfl
    (parses_splitMembers params data r) rfl

def javaScriptFetch : ObjectClient where
  language := "javascript"
  library := "fetch"
  printer := Client.JavaScript.fetch
  constant := "options"
  members := fetchMembers
  tail _ :=
    [code "\n\ntry \x7b\n  const response = await fetch(url, options);\n",
      code "  const data = await response.text();\n  console.log(data);\n",
      code "\x7d catch (error) \x7b\n  console.error(error);\n\x7d\n"]

theorem sound_javaScriptFetch : javaScriptFetch.Sound := by
  refine ⟨fun r => rfl, fun r _ => ?_⟩
  have before : (lineWith (opening "options")).Reads (some (opening "options"))
      ([code "const url = ", json r.fullUrl].flatMap chars) [] none := by
    simpa [chars, json, Quote.write] using reads_urlLine r.fullUrl.toList
  exact declares_of_parses [code "const url = ", json r.fullUrl] _ ['\n', '\x7d'] _ before rfl rfl
    (parses_fetchMembers r) rfl

def jQuery : ObjectClient where
  language := "javascript"
  library := "jquery"
  printer := Client.JavaScript.jquery
  constant := "settings"
  members r :=
    [("async", .bool true), ("crossDomain", .bool true), ("url", .string r.fullUrl),
      ("method", .string r.method)] ++ optionalObject "headers" r.headers
    ++ if r.hasBody then [("processData", .bool false), ("data", .string r.body)] else []
  tail _ :=
    [code "\n\n$.ajax(settings).done(function (response) \x7b\n",
      code "  console.log(response);\n\x7d);\n"]

theorem sound_jQuery : jQuery.Sound := by
  refine ⟨fun r => rfl, fun r _ => ?_⟩
  have method : Names "method" "\"method\"" := fun _ => rfl
  have headers : Names "headers" "\"headers\"" := fun _ => rfl
  have data : Names "data" "\"data\"" := fun _ => rfl
  have url : Parses
      (.value false (.member "url" [("async", .bool true), ("crossDomain", .bool true)]) [])
      [json r.fullUrl] (.members _ []) := .json rfl
  have body : Adds ([code ",\n  \"processData\": false"] ++ textMember "\"data\"" r.body)
      [("processData", .bool false), ("data", .string r.body)] := by
    intro done
    have constant : Parses (.members done []) [code ",\n  \"processData\": false"]
        (.word ['f', 'a', 'l', 's', 'e'] (.member "processData" done) []) := .fixed rfl
    have comma : reader.Reads
        (.code, .word ['f', 'a', 'l', 's', 'e'] (.member "processData" done) []) ",\n  ".toList []
        (.code, .key false (done ++ [("processData", .bool false)]) []) := rfl
    have text := parses_textMember data r.body comma
    rw [List.append_assoc] at text
    exact constant.append text
  have rest := ((Adds.textMember method r.method).append (.optionalObject headers r.headers)).append
    (.only r.hasBody body)
  exact declares_of_parses [] _ ['\n', '\x7d'] _ .nil rfl rfl (url.append (rest _)) rfl

def nodeNative : ObjectClient where
  language := "node"
  library := "native"
  printer := Client.Node.native
  constant := "options"
  members r :=
    [("method", .string r.method), ("hostname", .string r.hostname),
      ("port", .number (.integer r.port)), ("path", .string r.pathAndQuery),
      ("headers", .object (Script.members r.headers))]
  tail body :=
    [code "\n\nconst req = http.request(options, function (res) \x7b\n",
      code "  const chunks = [];\n\n  res.on(\"data\", function (chunk) \x7b\n",
      code "    chunks.push(chunk);\n  \x7d);\n\n  res.on(\"end\", function () \x7b\n",
      code "    const body = Buffer.concat(chunks);\n    console.log(body.toString());\n",
      code "  \x7d);\n\x7d);\n"]
    ++ (body.toList.flatMap fun text => [code "\nreq.write(", json text, code ");"])
    ++ [code "\nreq.end();\n"]

def nativePieces (r : Outgoing) : List Piece :=
  [json r.method] ++ textMember "\"hostname\"" r.hostname
    ++ [code ",\n  \"port\": ", bare (.ofList (decimal r.port))]
    ++ [code ",\n  \"path\": ", json r.pathAndQuery]
    ++ code ",\n  \"headers\": \x7b" :: Piece.members "    " .json r.headers

theorem native_eq (r : Outgoing) :
    Client.Node.native r =
      [code "const http = require(\"", bare r.scheme] ++
        code "\");\n\nconst options = \x7b\n  \"method\": " :: (nativePieces r ++
          code "\n  \x7d\n\x7d;\n\nconst req = http.request(options, function (res) \x7b\n" ::
            (nodeNative.tail r.payload?).tail) := by
  unfold Outgoing.payload?
  cases h : r.hasBody <;>
    simp [Client.Node.native, nativePieces, nodeNative, textMember, only, h]

theorem parses_nativePieces (r : Outgoing) :
    ∃ done, done ++ [("headers", Json.object (Script.members r.headers))] = nodeNative.members r ∧
      Parses (.value false (.member "method" []) []) (nativePieces r)
        (inside (Script.members r.headers) [.member "headers" done]) := by
  have hostname : Names "hostname" "\"hostname\"" := fun _ => rfl
  have method : Parses (.value false (.member "method" []) []) [json r.method]
      (.members [("method", .string r.method)] []) := .json rfl
  have port (done : Members) : Parses (.members done [])
      [code ",\n  \"port\": ", bare (.ofList (decimal r.port))]
      (.word (decimal r.port) (.member "port" done) []) := by
    have name : Parses (.members done []) [code ",\n  \"port\": "]
        (.value false (.member "port" done) []) := .fixed rfl
    exact name.append (parses_number r.port)
  have path (done : Members) : Parses (.word (decimal r.port) (.member "port" done) [])
      [code ",\n  \"path\": ", json r.pathAndQuery]
      (.members (done ++ [("port", .number (.integer r.port))] ++
        [("path", .string r.pathAndQuery)]) []) := by
    have name : Parses (.word (decimal r.port) (.member "port" done) []) [code ",\n  \"path\": "]
        (.value false (.member "path" (done ++ [("port", .number (.integer r.port))])) []) :=
      .fixed ((reads_comma (wordValue_decimal r.port)).append rfl)
    exact name.append (.json rfl)
  have headers (done : Members) : Parses (.members done [])
      (code ",\n  \"headers\": \x7b" :: Piece.members "    " .json r.headers)
      (inside (Script.members r.headers) [.member "headers" done]) := by
    have name : Parses (.members done []) [code ",\n  \"headers\": \x7b"]
        (.key true [] [.member "headers" done]) := .fixed rfl
    exact name.append (parses_members r.headers _)
  exact ⟨_, rfl, (((method.append (Adds.textMember hostname r.hostname _)).append (port _)).append
    (path _)).append (headers _)⟩

theorem sound_nodeNative : nodeNative.Sound := by
  refine ⟨fun r => rfl, fun r h => ?_⟩
  have before : (lineWith (opening "options")).Reads (some (opening "options"))
      ([code "const http = require(\"", bare r.scheme].flatMap chars) [] none := by
    have other : (lineWith (opening "options")).Reads (some (opening "options"))
        "const http = require(\"".toList [] none := rfl
    simpa [chars] using other.append (reads_skipped h)
  obtain ⟨done, members_eq, middle⟩ := parses_nativePieces r
  have closed : reader.first? (.code, inside (Script.members r.headers) [.member "headers" done])
      ['\n', ' ', ' ', '\x7d', '\n', '\x7d'] = some (nodeNative.members r, []) := by
    rw [← members_eq]
    exact (reads_close (.member "headers" done)).first?_append ['\n', '\x7d']
  have printer : nodeNative.printer r = Client.Node.native r := rfl
  rw [printer, native_eq]
  exact declares_of_parses _ _ ['\n', ' ', ' ', '\x7d', '\n', '\x7d'] _ before rfl rfl middle
    closed

def nodeRequest : ObjectClient where
  language := "node"
  library := "request"
  printer := Client.Node.request
  constant := "options"
  members := splitMembers "qs" "body"
  tail _ :=
    [code "\n\nrequest(options, function (error, response, body) \x7b\n",
      code "  if (error) throw new Error(error);\n\n  console.log(body);\n\x7d);\n"]

theorem sound_nodeRequest : nodeRequest.Sound := by
  refine ⟨fun r => rfl, fun r _ => ?_⟩
  have qs : Names "qs" "qs" := fun _ => rfl
  have body : Names "body" "body" := fun _ => rfl
  exact declares_of_parses [] _ ['\n', '\x7d'] _ .nil rfl rfl
    (parses_splitMembers qs body r) rfl

def nodeAxios : ObjectClient where
  language := "node"
  library := "axios"
  printer := Client.Node.axios
  constant := "options"
  members := splitMembers "params" "data"
  tail _ :=
    [code "\n\naxios.request(options).then(function (response) \x7b\n",
      code "  console.log(response.data);\n\x7d).catch(function (error) \x7b\n",
      code "  console.error(error);\n\x7d);\n"]

theorem sound_nodeAxios : nodeAxios.Sound := by
  refine ⟨fun r => rfl, fun r _ => ?_⟩
  have params : Names "params" "params" := fun _ => rfl
  have data : Names "data" "data" := fun _ => rfl
  exact declares_of_parses [] _ ['\n', '\x7d'] _ .nil rfl rfl
    (parses_splitMembers params data r) rfl

def nodeFetch : ObjectClient where
  language := "node"
  library := "fetch"
  printer := Client.Node.fetch
  constant := "options"
  members := fetchMembers
  tail _ :=
    [code "\n\nfetch(url, options)\n  .then(res => res.text())\n",
      code "  .then(text => console.log(text))\n",
      code "  .catch(err => console.error(\"error:\" + err));\n"]

theorem sound_nodeFetch : nodeFetch.Sound := by
  refine ⟨fun r => rfl, fun r _ => ?_⟩
  let line := [code "const fetch = require(\"node-fetch\");\n\nconst url = ", json r.fullUrl]
  have before : (lineWith (opening "options")).Reads (some (opening "options"))
      (line.flatMap chars) [] none := by
    have required : (lineWith (opening "options")).Reads (some (opening "options"))
        "const fetch = require(\"node-fetch\");\n\n".toList [] (some (opening "options")) := rfl
    simpa [line, chars, json, Quote.write] using required.append (reads_urlLine r.fullUrl.toList)
  exact declares_of_parses line _ ['\n', '\x7d'] _ before rfl rfl (parses_fetchMembers r) rfl

def all : List ObjectClient :=
  [javaScriptAxios, javaScriptFetch, jQuery, nodeNative, nodeRequest, nodeAxios, nodeFetch]

theorem sound_of_mem (h : c ∈ all) : c.Sound := by
  simp only [all, List.mem_cons, List.not_mem_nil, or_false] at h
  rcases h with rfl | rfl | rfl | rfl | rfl | rfl | rfl
  · exact sound_javaScriptAxios
  · exact sound_javaScriptFetch
  · exact sound_jQuery
  · exact sound_nodeNative
  · exact sound_nodeRequest
  · exact sound_nodeAxios
  · exact sound_nodeFetch

/-- The object that a client declares is well formed, its members are those of the request, and the
fixed end of the client follows it. -/
theorem object_reads_back (hc : c ∈ all) {request : Request}
    (h : Outgoing.ofRequest request = .ok r) :
    r.method = request.method ∧ r.hasBody = request.hasBody ∧
      r.body = request.postData.text.getD "" ∧
      ∃ text s, r.convert c.language (some c.library) = .ok text ∧
        declared c.constant text.toList = some s ∧
        readObject s =
          some (c.members r, ';' :: (render (c.tail request.postData.text)).toList) := by
  have sound := sound_of_mem hc
  obtain ⟨sent, body, -, -⟩ := Outgoing.body_eq h
  have scheme : '\n' ∉ r.scheme.toList := fun mem =>
    absurd (Outgoing.isSchemeChar_scheme h _ mem) (by decide)
  obtain ⟨s, line, object⟩ := sound.declares r scheme
  refine ⟨Outgoing.method_eq h, sent, body, render (c.printer r), s, sound.printed r, ?_, ?_⟩
  · rw [render, String.toList_ofList]
    exact line
  · rw [object, Outgoing.payload?_eq h, render, String.toList_ofList]

theorem object_reads_back_sample :
    ∃ r text s, Outgoing.ofRequest Outgoing.sampleRequest = .ok r ∧
      r.convert "node" (some "axios") = .ok text ∧ declared "options" text.toList = some s ∧
      (readObject s).map Prod.fst =
        some [("method", .string "M;RM"), ("url", .string "http://[::1]:8080/a%20b"),
          ("params", .object [("x", .string "it's"), ("x", .string ""), ("", .string "&=+ %#é")]),
          ("headers", .object [("X-Note", .string "it's | \\\n\"$x\"")]),
          ("data", .string "'\n")] := by
  obtain ⟨-, -, -, text, s, printed, line, object⟩ :=
    object_reads_back (c := nodeAxios) (by simp [all]) Outgoing.ofRequest_sampleRequest
  refine ⟨_, text, s, Outgoing.ofRequest_sampleRequest, printed, line, ?_⟩
  rw [object]
  decide +kernel

end ObjectClient

end RequestCode.Script
