import RequestCode.Proofs.Bundle.MimeType
import RequestCode.Proofs.Http.Message

/-!
# Fields of plain HTTP messages

The name of a field is read without regard to letter case, and a recipient expects one host in a
message and at most one length. Both are printed beside the headers of the caller, so a header of
such a name is one field more. Main statement: `generated_fields`.
-/

namespace RequestCode.HttpMessage

open Text Piece

/-- A line is a field of the name that stands before its first colon. -/
def isField (name line : String) : Bool :=
  (cutFirst ':' line.toList).any fun p => sameIgnoringAsciiCase (.ofList p.1) name

def fieldCount (name text : String) : Nat := (headLines text).tail.countP (isField name)

/-- Whether a header is printed as a field of the name; its own name may hold a colon. -/
def named (name : String) (p : Param) : Bool :=
  sameIgnoringAsciiCase (.ofList (p.name.toList.takeWhile (· ≠ ':'))) name

def callerHeaders (headers : Option Params) : List Param := (headers.map Params.toList).getD []

def bodyCount (body : Option String) : Nat := if body.getD "" = "" then 0 else 1

variable {r : Outgoing} {url method : String} {query headers : Option Params} {body : Option String}

theorem cutFirst_takeWhile (sep : Char) (front rest : List Char) :
    (cutFirst sep (front ++ sep :: rest)).map Prod.fst = some (front.takeWhile (· ≠ sep)) := by
  induction front with
  | nil => simp [cutFirst]
  | cons c front ih =>
    by_cases stop : c = sep
    · simp [cutFirst, stop]
    · obtain ⟨p, cut, first⟩ := Option.map_eq_some_iff.mp ih
      simp [cutFirst, stop, cut, first]

theorem isField_of_toList {line : String} {front rest : List Char}
    (h : line.toList = front ++ ':' :: rest) (name : String) :
    isField name line = sameIgnoringAsciiCase (.ofList (front.takeWhile (· ≠ ':'))) name := by
  obtain ⟨p, cut, first⟩ := Option.map_eq_some_iff.mp (cutFirst_takeWhile ':' front rest)
  rw [isField, h, cut, ← first]
  rfl

theorem isField_headerLine (name : String) (p : Param) :
    isField name (headerLine p) = named name p := by
  have line : (headerLine p).toList = p.name.toList ++ ':' :: ' ' :: p.value.toList := by
    simp [headerLine]
  exact isField_of_toList line name

theorem isField_hostLine (name : String) (r : Outgoing) :
    isField name (hostLine r) = sameIgnoringAsciiCase "Host" name := by
  have line : (hostLine r).toList = "Host".toList ++ ':' :: ' ' :: r.host.toList := by
    simp [hostLine]
  rw [isField_of_toList line]
  rfl

theorem isField_lengthLine (name : String) (r : Outgoing) :
    isField name (lengthLine r) = sameIgnoringAsciiCase "Content-Length" name := by
  have line : (lengthLine r).toList =
      "Content-Length".toList ++ ':' :: ' ' :: decimal r.bodyLength := by
    simp [lengthLine]
  rw [isField_of_toList line]
  rfl

/-- The fields of a name: those of the message itself, and those of the headers. -/
theorem OneLine.fieldCount_render (h : OneLine r) (name : String) :
    fieldCount name (render (Client.Http.http11 r)) =
      (if sameIgnoringAsciiCase "Host" name then 1 else 0) + r.headers.countP (named name) +
        (if sameIgnoringAsciiCase "Content-Length" name && r.hasBody then 1 else 0) := by
  have inHeaders : (r.headers.map headerLine).countP (isField name) =
      r.headers.countP (named name) := by
    rw [List.countP_map]
    exact List.countP_congr fun p _ => by rw [Function.comp_apply, isField_headerLine]
  have inBody : (if r.hasBody then [lengthLine r] else []).countP (isField name) =
      if sameIgnoringAsciiCase "Content-Length" name && r.hasBody then 1 else 0 := by
    cases r.hasBody with
    | false => simp
    | true => simp [List.countP_singleton, isField_lengthLine]
  rw [fieldCount, h.headLines_render, List.tail_cons, fieldLines, List.countP_cons,
    List.countP_append, inHeaders, inBody, isField_hostLine]
  omega

theorem headersFor_bodyOf (headers : List Param) (text : String) :
    ∃ added, (added = [] ∨ added = [⟨"content-type", defaultMimeType⟩]) ∧
      Outgoing.headersFor headers (Request.bodyOf headers text) = headers ++ added := by
  by_cases empty : text = ""
  · rw [empty]
    exact ⟨[], .inl rfl, (List.append_nil _).symm⟩
  · rw [Request.bodyOf_of_ne_empty empty]
    cases typed : contentType? headers with
    | some type =>
      refine ⟨[], .inl rfl, ?_⟩
      rw [List.append_nil]
      exact Outgoing.headersFor_of_typed typed _
    | none =>
      have known : defaultMimeType ≠ "" := by decide
      exact ⟨_, .inr rfl, Outgoing.headersFor_of_untyped typed known⟩

theorem headers_of_build
    (h : Outgoing.ofRequest (Request.build url method query headers body) = .ok r) :
    ∃ added, (added = [] ∨ added = [⟨"content-type", defaultMimeType⟩]) ∧
      r.headers = callerHeaders headers ++ added := by
  rw [Outgoing.headers_eq h]
  exact headersFor_bodyOf (callerHeaders headers) (body.getD "")

theorem hasBody_of_build
    (h : Outgoing.ofRequest (Request.build url method query headers body) = .ok r) :
    (if r.hasBody then 1 else 0) = bodyCount body := by
  rw [(Outgoing.body_eq h).1, bodyCount]
  change (if (Request.bodyOf _ (body.getD "")).text.isSome then 1 else 0) = _
  unfold Request.bodyOf
  split <;> rfl

theorem oneLine_of_build
    (h : Outgoing.ofRequest (Request.build url method query headers body) = .ok r)
    (oneLineMethod : '\n' ∉ upper method.toList)
    (oneLine : ∀ p ∈ callerHeaders headers, '\n' ∉ p.name.toList ∧ '\n' ∉ p.value.toList) :
    OneLine r := by
  have sentMethod : '\n' ∉ (Request.build url method query headers body).method.toList := by
    rwa [Request.build, String.toList_ofList]
  refine oneLine_of_ofRequest h sentMethod (by decide : '\n' ∉ "HTTP/1.1".toList) ?_
  obtain ⟨added, rfl | rfl, sent⟩ := headers_of_build h
  · rwa [sent, List.append_nil]
  · rw [sent, List.forall_mem_append, List.forall_mem_singleton]
    exact ⟨oneLine, by decide, by decide⟩

theorem countP_headers_of_build
    (h : Outgoing.ofRequest (Request.build url method query headers body) = .ok r) {name : String}
    (other : sameIgnoringAsciiCase "content-type" name = false) :
    r.headers.countP (named name) = (callerHeaders headers).countP (named name) := by
  obtain ⟨added, rfl | rfl, sent⟩ := headers_of_build h
  · rw [sent, List.append_nil]
  · have unnamed : named name ⟨"content-type", defaultMimeType⟩ = false := other
    rw [sent, List.countP_append, List.countP_singleton, unnamed]
    rfl

theorem content_of_shows {s : Snippet} {id : String} (h : s.Shows r id)
    (plain : id = "http" ∨ id = "http_http1.1") : s.content = render (Client.Http.http11 r) := by
  obtain ⟨-, t, resolved, -, printed⟩ := h
  have target : resolve? id = some ⟨"Http + Http1.1", "http", "http1.1"⟩ := by
    rcases plain with rfl | rfl <;> rfl
  rw [target] at resolved
  cases resolved
  exact (Except.ok.inj printed).symm

theorem fieldCounts_of_build
    (h : Outgoing.ofRequest (Request.build url method query headers body) = .ok r)
    (oneLine : OneLine r) :
    fieldCount "host" (render (Client.Http.http11 r)) =
        1 + (callerHeaders headers).countP (named "host") ∧
      fieldCount "content-length" (render (Client.Http.http11 r)) =
        bodyCount body + (callerHeaders headers).countP (named "content-length") := by
  have host : sameIgnoringAsciiCase "Host" "host" = true := by decide
  have notHost : sameIgnoringAsciiCase "Content-Length" "host" = false := by decide
  have length : sameIgnoringAsciiCase "Content-Length" "content-length" = true := by decide
  have notLength : sameIgnoringAsciiCase "Host" "content-length" = false := by decide
  rw [oneLine.fieldCount_render, oneLine.fieldCount_render, host, notHost, length, notLength,
    countP_headers_of_build h (by decide), countP_headers_of_build h (by decide)]
  simp only [Bool.false_and, Bool.true_and, hasBody_of_build h, if_true, Bool.false_eq_true,
    if_false]
  omega

/-- Every list of known targets is rendered. When the method and the headers stand on one line each,
the fields of the host and of the length in the plain message are the printed one, a length only if
there is a body, and all headers of the caller with that name. So they are single exactly if the
caller sends no such header. -/
theorem generated_fields (method : String) (targets : List String) (query headers : Option Params)
    (body : Option String) {u : Url} (read : Url.read url = .ok u)
    (known : ∀ id ∈ targets, (resolve? id).isSome) (oneLineMethod : '\n' ∉ upper method.toList)
    (oneLine : ∀ p ∈ callerHeaders headers, '\n' ∉ p.name.toList ∧ '\n' ∉ p.value.toList) :
    ∃ b, generate url method targets query headers body = .ok b ∧ b.snippets.map (·.id) = targets ∧
      ∀ s ∈ b.snippets, s.id = "http" ∨ s.id = "http_http1.1" →
        fieldCount "host" s.content = 1 + (callerHeaders headers).countP (named "host") ∧
        fieldCount "content-length" s.content =
          bodyCount body + (callerHeaders headers).countP (named "content-length") ∧
        (fieldCount "host" s.content = 1 ∧ fieldCount "content-length" s.content = bodyCount body ↔
          ∀ p ∈ callerHeaders headers,
            named "host" p = false ∧ named "content-length" p = false) := by
  cases rendered : generate url method targets query headers body with
  | error e =>
    rcases Request.bundle_eq_error_iff.mp rendered with ⟨cause, failed, -⟩ | ⟨-, id, -, missing, -⟩
    · cases read.symm.trans failed
    · have unknown := List.find?_some missing
      have resolved := known id (List.mem_of_find?_eq_some missing)
      rw [Option.isNone_iff_eq_none.mp unknown] at resolved
      cases resolved
  | ok b =>
    obtain ⟨r, outgoing, -, -, -, shown⟩ := Request.bundle_eq_ok_iff.mp rendered
    obtain ⟨ids, each_shown⟩ := shows_of_forall₂ shown
    refine ⟨b, rfl, ids, ?_⟩
    intro s mem plain
    obtain ⟨host, length⟩ :=
      fieldCounts_of_build outgoing (oneLine_of_build outgoing oneLineMethod oneLine)
    rw [content_of_shows (each_shown s mem) plain]
    refine ⟨host, length, ?_⟩
    rw [host, length, Nat.add_eq_left, Nat.add_eq_left, List.countP_eq_zero, List.countP_eq_zero]
    simp only [Bool.not_eq_true, imp_and, forall_and]

def sampleHeaders : Params := .ofPairs [⟨"Host", "[::1]"⟩, ⟨"Content-Length", "3"⟩]

theorem generated_fields_sample :
    ∃ b s, generate Outgoing.sampleRequest.url "get" ["http"] none (some sampleHeaders)
        (some "abc") = .ok b ∧ b.snippets = [s] ∧ s.id = "http" ∧
      fieldCount "host" s.content = 2 ∧ fieldCount "content-length" s.content = 2 := by
  obtain ⟨b, rendered, ids, counted⟩ := generated_fields "get" ["http"] none (some sampleHeaders)
    (some "abc") Outgoing.read_sampleRequest (by decide) (by decide) (by decide)
  obtain ⟨s, single, plain⟩ := List.map_eq_singleton_iff.mp ids
  rw [single, List.forall_mem_singleton] at counted
  obtain ⟨host, length, -⟩ := counted (.inl plain)
  have hosts : (callerHeaders (some sampleHeaders)).countP (named "host") = 1 := by decide
  have lengths : (callerHeaders (some sampleHeaders)).countP (named "content-length") = 1 := by
    decide
  rw [hosts] at host
  rw [lengths] at length
  exact ⟨b, s, rendered, single, plain, host, length⟩

/-- A host and a length that the caller sends are printed a second time. -/
theorem caller_fields_repeated :
    ¬∀ (url method : String) (headers : Option Params) (body : Option String) (u : Url),
      Url.read url = .ok u → u.scheme = "http" ∨ u.scheme = "https" → '\n' ∉ upper method.toList →
      (∀ p ∈ callerHeaders headers, '\n' ∉ p.name.toList ∧ '\n' ∉ p.value.toList) →
      ∃ b, generate url method ["http"] none headers body = .ok b ∧ ∀ s ∈ b.snippets,
        fieldCount "host" s.content = 1 ∧
          fieldCount "content-length" s.content = bodyCount body := by
  intro single
  have read : Url.read "http://[::1]/a" = .ok
      ⟨"http", some ⟨"", "", some (.ipv6 [0, 0, 0, 0, 0, 0, 0, 1]), none⟩, .segments ["a"],
        none, none⟩ := rfl
  obtain ⟨b, rendered, counted⟩ := single "http://[::1]/a" "post" (some sampleHeaders)
    (some "abc") _ read (.inl rfl) (by decide) (by decide)
  have printed : (generate "http://[::1]/a" "post" ["http"] none (some sampleHeaders)
      (some "abc")).toOption.map (·.snippets.map (·.content)) =
      some ["POST /a HTTP/1.1\nHost: [::1]\nHost: [::1]\nContent-Length: 3\n" ++
        "content-type: application/octet-stream\nContent-Length: 3\n\nabc\n"] := by
    decide +kernel
  rw [rendered, Except.toOption, Option.map_some, Option.some.injEq] at printed
  obtain ⟨s, only, content⟩ := List.map_eq_singleton_iff.mp printed
  rw [only, List.forall_mem_singleton, content] at counted
  exact absurd counted.1 (by decide +kernel)

end RequestCode.HttpMessage
