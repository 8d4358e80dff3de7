import Mathlib.Data.List.Infix
import RequestCode.Catalog

/-!
# Snippets without a body

Whatever a client prints for a request without a body is fixed text that mentions no length and no
type of a body, or one of the other texts of the request. Main statements: `bodiless_printer`, and
`printer_unread` for what a request says of a body that it does not have.
-/

namespace RequestCode

open Piece

def Param.texts (p : Param) : List String :=
  [p.name, p.value, headerLine p, p.name ++ ":" ++ p.value, .ofList (Text.lower p.name.toList)]

/-- The texts that a snippet can show of a request without a body. -/
def Outgoing.texts (r : Outgoing) : List String :=
  [r.method, .ofList (Text.upper r.method.toList), .ofList (Text.lower r.method.toList),
    r.httpVersion, r.url, r.fullUrl, r.scheme, r.hostname, r.host,
    .ofList (Text.decimal r.port), r.pathAndQuery]
  ++ (r.query ++ r.headers).flatMap Param.texts

/-- How clients call the length or the type of a body, in lower case: `content-length`,
`content-type`, `contenttype` and `mediatype`. -/
def contentMarks : List (List Char) :=
  [['c', 'o', 'n', 't', 'e', 'n', 't', '-', 'l', 'e', 'n', 'g', 't', 'h'],
    ['c', 'o', 'n', 't', 'e', 'n', 't', '-', 't', 'y', 'p', 'e'],
    ['c', 'o', 'n', 't', 'e', 'n', 't', 't', 'y', 'p', 'e'],
    ['m', 'e', 'd', 'i', 'a', 't', 'y', 'p', 'e']]

def mentionsContent (text : List Char) : Bool :=
  (text.map Char.toLower).tails.any fun s => contentMarks.any (·.isPrefixOf s)

theorem mentionsContent_ofList {s : List Char} (h : mentionsContent s = false) :
    mentionsContent (String.ofList s).toList = false := by
  rwa [String.toList_ofList]

namespace Piece

/-- The piece shows nothing of a body: its text is one of the request's others, or fixed text that
mentions no length and no type. -/
def IsBodiless (r : Outgoing) : Piece → Prop
  | code text => mentionsContent text.toList = false
  | quoted _ text => text ∈ r.texts
  | bare text => text ∈ r.texts

def Bodiless (r : Outgoing) (ps : List Piece) : Prop := ∀ p ∈ ps, p.IsBodiless r

variable {r : Outgoing} {ps qs : List Piece} {sep : Piece} {hs : List Param}
  {f : Param → List Piece} {b : Bool} {text : String} {style : Quote}

@[simp] theorem isBodiless_code (h : mentionsContent text.toList = false) :
    (code text).IsBodiless r := h

@[simp] theorem isBodiless_quoted : (quoted style text).IsBodiless r ↔ text ∈ r.texts := Iff.rfl

@[simp] theorem isBodiless_json : (json text).IsBodiless r ↔ text ∈ r.texts := Iff.rfl

@[simp] theorem isBodiless_bare : (bare text).IsBodiless r ↔ text ∈ r.texts := Iff.rfl

@[simp] theorem bodiless_nil : Bodiless r [] := List.forall_mem_nil _

@[simp] theorem bodiless_cons {p : Piece} :
    Bodiless r (p :: ps) ↔ p.IsBodiless r ∧ Bodiless r ps := List.forall_mem_cons

@[simp] theorem bodiless_append : Bodiless r (ps ++ qs) ↔ Bodiless r ps ∧ Bodiless r qs :=
  List.forall_mem_append

@[simp] theorem bodiless_each : Bodiless r (each hs f) ↔ ∀ h ∈ hs, Bodiless r (f h) :=
  List.forall_mem_flatMap

theorem bodiless_eachWith (hsep : sep.IsBodiless r) :
    Bodiless r (eachWith sep f hs) ↔ ∀ h ∈ hs, Bodiless r (f h) := by
  induction hs using eachWith.induct with
  | case1 => simp [eachWith]
  | case2 h => simp [eachWith]
  | case3 h i hs ih =>
    rw [eachWith, bodiless_append, bodiless_cons, List.forall_mem_cons, ih]
    exact and_congr_right fun _ => and_iff_right hsep

@[simp] theorem bodiless_only : Bodiless r (only b ps) ↔ (b = true → Bodiless r ps) := by
  cases b <;> simp [only]

theorem isBodiless_ite {c : Prop} [Decidable c] {yes no : String}
    (hyes : mentionsContent yes.toList = false) (hno : mentionsContent no.toList = false) :
    (code (if c then yes else no)).IsBodiless r := by
  split
  · exact hyes
  · exact hno

end Piece

namespace Outgoing

variable {r : Outgoing} {p : Param}

theorem fields_mem_texts :
    r.method ∈ r.texts ∧ .ofList (Text.upper r.method.toList) ∈ r.texts ∧
      .ofList (Text.lower r.method.toList) ∈ r.texts ∧ r.httpVersion ∈ r.texts ∧ r.url ∈ r.texts ∧
      r.fullUrl ∈ r.texts ∧ r.scheme ∈ r.texts ∧ r.hostname ∈ r.texts ∧ r.host ∈ r.texts ∧
      .ofList (Text.decimal r.port) ∈ r.texts ∧ r.pathAndQuery ∈ r.texts := by
  simp [texts]

theorem param_mem_texts (h : p ∈ r.query ++ r.headers) :
    p.name ∈ r.texts ∧ p.value ∈ r.texts ∧ headerLine p ∈ r.texts ∧
      p.name ++ ":" ++ p.value ∈ r.texts ∧ .ofList (Text.lower p.name.toList) ∈ r.texts := by
  have shown : ∀ text ∈ p.texts, text ∈ r.texts := fun text mem =>
    List.mem_append_right _ (List.mem_flatMap.mpr ⟨p, h, mem⟩)
  simpa only [Param.texts, List.forall_mem_cons, List.not_mem_nil, false_implies, implies_true,
    and_true] using shown

theorem header_mem_texts (h : p ∈ r.headers) :
    p.name ∈ r.texts ∧ p.value ∈ r.texts ∧ headerLine p ∈ r.texts ∧
      p.name ++ ":" ++ p.value ∈ r.texts ∧ .ofList (Text.lower p.name.toList) ∈ r.texts :=
  param_mem_texts (List.mem_append_right _ h)

theorem query_mem_texts (h : p ∈ r.query) : p.name ∈ r.texts ∧ p.value ∈ r.texts := by
  obtain ⟨name, value, -⟩ := param_mem_texts (List.mem_append_left r.headers h)
  exact ⟨name, value⟩

end Outgoing

namespace Piece

variable {r : Outgoing} {indent : String} {style : Quote}

theorem bodiless_members {ps : List Param}
    (hindent : mentionsContent ("\n" ++ indent).toList = false)
    (shown : ∀ p ∈ ps, p.name ∈ r.texts ∧ p.value ∈ r.texts) :
    Bodiless r (members indent style ps) := by
  have comma : (code ",").IsBodiless r := mentionsContent_ofList (by decide)
  have colon : (code ": ").IsBodiless r := mentionsContent_ofList (by decide)
  have line : (code ("\n" ++ indent)).IsBodiless r := hindent
  rw [members, bodiless_eachWith comma]
  intro p mem
  simp [member, line, colon, shown p mem]

theorem bodiless_headers (hindent : mentionsContent ("\n" ++ indent).toList = false) :
    Bodiless r (members indent style r.headers) := by
  apply bodiless_members hindent
  intro p mem
  obtain ⟨name, value, -⟩ := Outgoing.header_mem_texts mem
  exact ⟨name, value⟩

theorem bodiless_query (hindent : mentionsContent ("\n" ++ indent).toList = false) :
    Bodiless r (members indent style r.query) :=
  bodiless_members hindent fun _ => Outgoing.query_mem_texts

end Piece

namespace Catalog

open Client Outgoing

variable {r : Outgoing}

theorem bodiless_newRequest (h : r.hasBody = false) : Bodiless r (Ruby.newRequest r) := by
  have plain : ∀ e ∈ Ruby.requestClasses, mentionsContent
      ("request = Net::HTTP::".toList ++ e.2.toList ++ ".new(url)".toList) = false := by
    simp only [Ruby.requestClasses, List.forall_mem_cons, List.not_mem_nil, false_implies,
      implies_true, and_true]
    and_intros <;> simp <;> decide
  unfold Ruby.newRequest
  split
  · rename_i name found
    obtain ⟨before, after, split, -⟩ := List.lookup_eq_some_iff.mp found
    have named := plain (r.method, name) (by simp [split])
    rw [← String.toList_append, ← String.toList_append] at named
    simpa using isBodiless_code named
  · simp (disch := (apply mentionsContent_ofList; decide)) [Ruby.str, h,
      fields_mem_texts]

theorem bodiless_c (h : r.hasBody = false) :
    ∀ client ∈ c.clients, Bodiless r (client.printer r) := by
  simp only [c, Language.clients, List.forall_mem_cons]
  simp (disch := (apply mentionsContent_ofList; decide)) [C.libcurl, h]
  simp +contextual [fields_mem_texts, header_mem_texts]

theorem bodiless_clojure (h : r.hasBody = false) :
    ∀ client ∈ clojure.clients, Bodiless r (client.printer r) := by
  have space : (code " ").IsBodiless r := mentionsContent_ofList (by decide)
  simp only [clojure, Language.clients, List.forall_mem_cons]
  simp (disch := (apply mentionsContent_ofList; decide)) [Clojure.cljHttp, Clojure.entries,
    bodiless_eachWith space, h]
  simp +contextual [fields_mem_texts, header_mem_texts, query_mem_texts]

theorem bodiless_cSharp (h : r.hasBody = false) :
    ∀ client ∈ cSharp.clients, Bodiless r (client.printer r) := by
  simp only [cSharp, Language.clients, List.forall_mem_cons]
  simp (disch := (apply mentionsContent_ofList; decide)) [CSharp.restSharp, CSharp.httpClient,
    h]
  simp +contextual [fields_mem_texts, header_mem_texts]

theorem bodiless_go (h : r.hasBody = false) :
    ∀ client ∈ go.clients, Bodiless r (client.printer r) := by
  simp only [go, Language.clients, List.forall_mem_cons]
  simp (disch := (apply mentionsContent_ofList; decide)) [Go.newRequest, h]
  simp +contextual [fields_mem_texts, header_mem_texts]

theorem bodiless_http (h : r.hasBody = false) :
    ∀ client ∈ http.clients, Bodiless r (client.printer r) := by
  simp only [http, Language.clients, List.forall_mem_cons]
  simp (disch := (apply mentionsContent_ofList; decide)) [Http.http11, h]
  simp +contextual [fields_mem_texts, header_mem_texts]

theorem bodiless_java (h : r.hasBody = false) :
    ∀ client ∈ java.clients, Bodiless r (client.printer r) := by
  simp only [java, Language.clients, List.forall_mem_cons]
  simp (disch := (apply mentionsContent_ofList; decide)) [Java.unirest, Java.okHttp, Java.netHttp,
    h]
  simp +contextual [fields_mem_texts, header_mem_texts]

theorem bodiless_javaScript (h : r.hasBody = false) :
    ∀ client ∈ javaScript.clients, Bodiless r (client.printer r) := by
  simp only [javaScript, Language.clients, List.forall_mem_cons]
  simp (disch := first | (apply mentionsContent_ofList; decide) | decide) [JavaScript.xhr,
    JavaScript.fetch, JavaScript.axios, JavaScript.jquery, JavaScript.objectMember,
    bodiless_headers, bodiless_query, h]
  simp +contextual [fields_mem_texts, header_mem_texts]

theorem bodiless_kotlin (h : r.hasBody = false) :
    ∀ client ∈ kotlin.clients, Bodiless r (client.printer r) := by
  simp only [kotlin, Language.clients, List.forall_mem_cons]
  simp (disch := (apply mentionsContent_ofList; decide)) [Kotlin.okHttp, h]
  simp +contextual [fields_mem_texts, header_mem_texts]

theorem bodiless_node (h : r.hasBody = false) :
    ∀ client ∈ node.clients, Bodiless r (client.printer r) := by
  simp only [node, Language.clients, List.forall_mem_cons]
  simp (disch := first | (apply mentionsContent_ofList; decide) | decide) [Node.native,
    Node.request, Node.axios, Node.fetch, JavaScript.objectMember, bodiless_headers, bodiless_query,
    h]
  simp [fields_mem_texts]

theorem bodiless_php (h : r.hasBody = false) :
    ∀ client ∈ php.clients, Bodiless r (client.printer r) := by
  have comma : (code ",").IsBodiless r := mentionsContent_ofList (by decide)
  simp only [php, Language.clients, List.forall_mem_cons]
  simp (disch := (apply mentionsContent_ofList; decide)) [Php.curl, Php.guzzle, Php.str,
    bodiless_eachWith comma, h]
  simp +contextual [fields_mem_texts, header_mem_texts]

theorem bodiless_powerShell (h : r.hasBody = false) :
    ∀ client ∈ powerShell.clients, Bodiless r (client.printer r) := by
  simp only [powerShell, Language.clients, List.forall_mem_cons]
  simp (disch := (apply mentionsContent_ofList; decide)) [PowerShell.webRequest,
    PowerShell.restMethod, PowerShell.invoke, PowerShell.str, h]
  simp +contextual [fields_mem_texts, header_mem_texts]

theorem bodiless_python (h : r.hasBody = false) :
    ∀ client ∈ python.clients, Bodiless r (client.printer r) := by
  simp only [python, Language.clients, List.forall_mem_cons]
  simp (disch := first | (apply mentionsContent_ofList; decide) | decide) [Python.httpClient,
    Python.requests, Python.payload, Python.dictionary, bodiless_headers, bodiless_query,
    isBodiless_ite, h]
  simp [fields_mem_texts]

theorem bodiless_ruby (h : r.hasBody = false) :
    ∀ client ∈ ruby.clients, Bodiless r (client.printer r) := by
  simp only [ruby, Language.clients, List.forall_mem_cons]
  simp (disch := (apply mentionsContent_ofList; decide)) [Ruby.netHttp, Ruby.str,
    bodiless_newRequest h, h]
  simp +contextual [fields_mem_texts, header_mem_texts]

theorem bodiless_rust (h : r.hasBody = false) :
    ∀ client ∈ rust.clients, Bodiless r (client.printer r) := by
  simp only [rust, Language.clients, List.forall_mem_cons]
  simp (disch := (apply mentionsContent_ofList; decide)) [Rust.reqwest, Rust.str, h]
  simp +contextual [fields_mem_texts, header_mem_texts]

theorem bodiless_shell (h : r.hasBody = false) :
    ∀ client ∈ shell.clients, Bodiless r (client.printer r) := by
  simp only [shell, Language.clients, List.forall_mem_cons]
  simp (disch := (apply mentionsContent_ofList; decide)) [Shell.curl, Shell.httpie, Shell.wget,
    Shell.str, Shell.word, h]
  simp +contextual [fields_mem_texts, header_mem_texts]

theorem bodiless_swift (h : r.hasBody = false) :
    ∀ client ∈ swift.clients, Bodiless r (client.printer r) := by
  simp only [swift, Language.clients, List.forall_mem_cons]
  simp (disch := first | (apply mentionsContent_ofList; decide) | decide) [Swift.urlSession,
    Swift.str, bodiless_headers, h]
  simp [fields_mem_texts]

/-- Without a body, every client prints fixed text and the other texts of the request. -/
theorem bodiless_printer (h : r.hasBody = false) :
    ∀ l ∈ languages, ∀ client ∈ l.clients, Bodiless r (client.printer r) := by
  simp only [languages, List.forall_mem_cons]
  exact ⟨bodiless_c h, bodiless_clojure h, bodiless_cSharp h, bodiless_go h, bodiless_http h,
    bodiless_java h, bodiless_javaScript h, bodiless_kotlin h, bodiless_node h, bodiless_php h,
    bodiless_powerShell h, bodiless_python h, bodiless_ruby h, bodiless_rust h, bodiless_shell h,
    bodiless_swift h, List.forall_mem_nil _⟩

/-- Without a body, no client reads what the request says of one. -/
theorem printer_unread : ∀ l ∈ languages, ∀ client ∈ l.clients, ∀ r : Outgoing,
    r.hasBody = false → ∀ body length type,
      client.printer { r with body := body, bodyLength := length, mimeType := type } =
        client.printer r := by
  simp only [languages, Language.clients, c, clojure, cSharp, go, http, java, javaScript, kotlin,
    node, php, powerShell, python, ruby, rust, shell, swift, List.forall_mem_cons,
    List.not_mem_nil, false_implies, implies_true, and_true]
  and_intros <;> rintro ⟨⟩ rfl body length type <;> rfl

end Catalog

end RequestCode
