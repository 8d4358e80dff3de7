import RequestCode.Proofs.Outgoing.OneLine
import RequestCode.Resolve

/-!
# Plain HTTP messages

A message is read line by line: the head ends at the first empty line, and what follows is the
content. The message that is printed for a request has the expected lines in its head, and exactly
the body and a line break behind it, whatever the body holds. Main statement: `message_reads_back`,
which needs that a type that is sent along with the body stands on one line.
-/

namespace RequestCode.HttpMessage

open Text Piece

def headLines (text : String) : List String :=
  ((pieces '\n' text.toList).takeWhile (!·.isEmpty)).map .ofList

def content (text : String) : List Char :=
  joined '\n' ((pieces '\n' text.toList).dropWhile (!·.isEmpty)).tail

def cutHeader : List Char → Option (List Char × List Char)
  | [] => none
  | ':' :: ' ' :: rest => some ([], rest)
  | c :: rest => (cutHeader rest).map fun p => (c :: p.1, p.2)

def requestLine (r : Outgoing) : String := r.method ++ " " ++ r.pathAndQuery ++ " " ++ r.httpVersion

def hostLine (r : Outgoing) : String := "Host: " ++ r.host

def lengthLine (r : Outgoing) : String := "Content-Length: " ++ .ofList (decimal r.bodyLength)

def fieldLines (r : Outgoing) : List String :=
  hostLine r :: (r.headers.map headerLine ++ if r.hasBody then [lengthLine r] else [])

def terminated (lines : List String) : List Char := lines.flatMap fun l => l.toList ++ ['\n']

variable {request : Request} {r : Outgoing} {lines : List String}

theorem cutHeader_append {name : List Char} (h : ':' ∉ name) (value : List Char) :
    cutHeader (name ++ ':' :: ' ' :: value) = some (name, value) := by
  induction name with
  | nil => rfl
  | cons c name ih =>
    rw [List.mem_cons, not_or] at h
    have other : ∀ rest, c = ':' → name ++ ':' :: ' ' :: value = ' ' :: rest → False :=
      fun _ colon _ => h.1 colon.symm
    rw [List.cons_append, cutHeader.eq_3 _ _ other, ih h.2]
    rfl

/-- A line break in front of every line is one behind the line before. -/
theorem terminated_cons (first : List Char) (lines : List String) :
    first ++ (lines.flatMap fun l => '\n' :: l.toList) ++ ['\n'] =
      first ++ '\n' :: terminated lines := by
  induction lines generalizing first with
  | nil => simp [terminated]
  | cons l lines ih =>
    have next := ih (first ++ '\n' :: l.toList)
    simpa [terminated] using next

theorem chars_headers (ps : List Param) :
    (each ps fun p => [code "\n", bare p.name, code ": ", bare p.value]).flatMap chars =
      (ps.map headerLine).flatMap fun l => '\n' :: l.toList := by
  rw [each, List.flatMap_assoc, List.flatMap_map]
  apply List.flatMap_congr
  intro p _
  simp [chars, headerLine]

/-- The text of a message: its lines, and the body behind an empty line. -/
theorem toList_render (r : Outgoing) :
    (render (Client.Http.http11 r)).toList =
      terminated (requestLine r :: fieldLines r) ++
        if r.hasBody then '\n' :: r.body.toList ++ ['\n'] else [] := by
  have lines : terminated (requestLine r :: fieldLines r) =
      (requestLine r).toList ++ ((fieldLines r).flatMap fun l => '\n' :: l.toList) ++ ['\n'] := by
    rw [terminated_cons]
    simp [terminated]
  rw [lines, render, String.toList_ofList, Client.Http.http11]
  simp only [List.flatMap_append, chars_headers]
  cases hbody : r.hasBody with
  | false => simp [only, hbody, fieldLines, chars, requestLine, hostLine]
  | true => simp [only, hbody, fieldLines, chars, requestLine, hostLine, lengthLine]

theorem pieces_terminated (h : ∀ l ∈ lines, '\n' ∉ l.toList) (rest : List Char) :
    pieces '\n' (terminated lines ++ rest) = lines.map String.toList ++ pieces '\n' rest := by
  induction lines with
  | nil => rfl
  | cons l lines ih =>
    rw [List.forall_mem_cons] at h
    have first : terminated (l :: lines) ++ rest =
        l.toList ++ '\n' :: (terminated lines ++ rest) := by
      simp [terminated]
    rw [first, pieces_append _ h.1, ih h.2]
    rfl

/-- The texts that a message takes over from the request as they are stand on one line each. -/
structure OneLine (r : Outgoing) : Prop where
  method : '\n' ∉ r.method.toList
  httpVersion : '\n' ∉ r.httpVersion.toList
  host : '\n' ∉ r.host.toList
  pathAndQuery : '\n' ∉ r.pathAndQuery.toList
  headers : ∀ p ∈ r.headers, '\n' ∉ p.name.toList ∧ '\n' ∉ p.value.toList

theorem oneLine_of_ofRequest (h : Outgoing.ofRequest request = .ok r)
    (method : '\n' ∉ request.method.toList) (httpVersion : '\n' ∉ request.httpVersion.toList)
    (headers : ∀ p ∈ r.headers, '\n' ∉ p.name.toList ∧ '\n' ∉ p.value.toList) : OneLine r := by
  rw [← Outgoing.method_eq h] at method
  rw [← Outgoing.httpVersion_eq h] at httpVersion
  exact ⟨method, httpVersion, Outgoing.newline_not_mem_host h,
    Outgoing.newline_not_mem_pathAndQuery h, headers⟩

theorem newline_not_mem_decimal (n : Nat) : '\n' ∉ decimal n := by
  intro mem
  exact Url.kept_ne_newline.decimal n _ mem rfl

theorem OneLine.headLine (h : OneLine r) :
    ∀ l ∈ requestLine r :: fieldLines r, '\n' ∉ l.toList ∧ (!l.toList.isEmpty) = true := by
  rw [List.forall_mem_cons, fieldLines, List.forall_mem_cons, List.forall_mem_append,
    List.forall_mem_map]
  refine ⟨?_, ?_, ?_, ?_⟩
  · simp [requestLine, h.method, h.pathAndQuery, h.httpVersion]
  · simp [hostLine, h.host]
  · intro p mem
    simp [headerLine, h.headers p mem]
  · split
    · simp [lengthLine, newline_not_mem_decimal]
    · exact List.forall_mem_nil _

theorem OneLine.pieces_render (h : OneLine r) :
    pieces '\n' (render (Client.Http.http11 r)).toList =
      (requestLine r :: fieldLines r).map String.toList ++
        [] :: if r.hasBody then pieces '\n' (r.body.toList ++ ['\n']) else [] := by
  rw [toList_render, pieces_terminated fun l mem => (h.headLine l mem).1]
  cases r.hasBody with
  | false => rfl
  | true => simp [pieces]

theorem OneLine.takeWhile_lines (h : OneLine r) (rest : List (List Char)) :
    ((requestLine r :: fieldLines r).map String.toList ++ [] :: rest).takeWhile (!·.isEmpty) =
      (requestLine r :: fieldLines r).map String.toList := by
  rw [List.takeWhile_append_of_pos, List.takeWhile_cons_of_neg, List.append_nil]
  · decide
  · rw [List.forall_mem_map]
    intro l mem
    exact (h.headLine l mem).2

theorem OneLine.headLines_render (h : OneLine r) :
    headLines (render (Client.Http.http11 r)) = requestLine r :: fieldLines r := by
  rw [headLines, h.pieces_render, h.takeWhile_lines, List.map_map]
  exact (List.map_congr_left fun l _ => String.ofList_toList).trans (List.map_id _)

theorem OneLine.content_render (h : OneLine r) :
    content (render (Client.Http.http11 r)) =
      if r.hasBody then r.body.toList ++ ['\n'] else [] := by
  have behind (rest : List (List Char)) :
      ((requestLine r :: fieldLines r).map String.toList ++ [] :: rest).dropWhile (!·.isEmpty) =
        [] :: rest := by
    rw [List.dropWhile_append_of_pos, List.dropWhile_cons_of_neg]
    · decide
    · rw [List.forall_mem_map]
      intro l mem
      exact (h.headLine l mem).2
  rw [content, h.pieces_render, behind, List.tail_cons]
  cases r.hasBody with
  | false => rfl
  | true => simp [joined_pieces]

theorem splitAt_size (body : String) :
    (Utf8.encode (body.toList ++ ['\n'])).splitAt (Utf8.size body.toList) =
      (Utf8.encode body.toList, [10]) := by
  have octets : Utf8.encode (body.toList ++ ['\n']) = Utf8.encode body.toList ++ [10] :=
    List.flatMap_append
  rw [octets, Utf8.size, List.splitAt_eq, List.take_left, List.drop_left]

/-- The text gives back the request. Up to the first empty line, or to its end if there is no body,
stand the request line, the host, the headers that are sent, each to be cut at its first colon with
a blank, and the length of the body if there is one. The octets of the body follow, as many as the
length says, and a line break. -/
structure GivesBack (request : Request) (r : Outgoing) (text : String) : Prop where
  head : headLines text =
    [request.method ++ " " ++ r.pathAndQuery ++ " " ++ request.httpVersion, "Host: " ++ r.host]
      ++ r.headers.map (fun p => p.name ++ ": " ++ p.value)
      ++ request.postData.text.toList.map (fun body =>
        "Content-Length: " ++ .ofList (decimal (Utf8.size body.toList)))
  headers : ∀ p ∈ r.headers, cutHeader (p.name ++ ": " ++ p.value).toList =
    some (p.name.toList, p.value.toList)
  bodiless : request.postData.text = none →
    pieces '\n' text.toList = (headLines text).map String.toList ++ [[]]
  body : ∀ sent, request.postData.text = some sent →
    (Utf8.encode (content text)).splitAt (Utf8.size sent.toList) = (Utf8.encode sent.toList, [10])

/-- There is a body, and no header that says its type. -/
def AddsType (request : Request) : Prop :=
  request.hasBody = true ∧ ∀ p ∈ request.headers, isContentType p = false

theorem OneLine.givesBack (oneLine : OneLine r) (h : Outgoing.ofRequest request = .ok r)
    (names : ∀ p ∈ r.headers, ':' ∉ p.name.toList) :
    GivesBack request r (render (Client.Http.http11 r)) := by
  obtain ⟨hasBody, body, length, -⟩ := Outgoing.body_eq h
  rw [Request.hasBody] at hasBody
  refine ⟨?_, ?_, ?_, ?_⟩
  · rw [oneLine.headLines_render, ← Outgoing.method_eq h, ← Outgoing.httpVersion_eq h, fieldLines,
      hasBody, lengthLine, length, body]
    cases request.postData.text <;> rfl
  · intro p mem
    have written : (p.name ++ ": " ++ p.value).toList =
        p.name.toList ++ ':' :: ' ' :: p.value.toList := by
      simp
    rw [written, cutHeader_append (names p mem)]
  · intro missing
    rw [missing] at hasBody
    rw [oneLine.headLines_render, oneLine.pieces_render, hasBody]
    rfl
  · intro sent text
    rw [text] at hasBody body
    rw [oneLine.content_render, hasBody, body]
    exact splitAt_size sent

theorem GivesBack.newline_not_mem_value {text : String} (back : GivesBack request r text)
    {p : Param} (mem : p ∈ r.headers) : '\n' ∉ p.value.toList := by
  have listed : p.name ++ ": " ++ p.value ∈ headLines text := by
    rw [back.head]
    exact List.mem_append_left _ (List.mem_append_right _ (List.mem_map_of_mem mem))
  obtain ⟨line, cut, written⟩ := List.mem_map.mp listed
  have whole := not_mem_of_mem_pieces ((List.takeWhile_sublist _).subset cut)
  rw [← String.toList_ofList (l := line), written] at whole
  intro broken
  exact whole (by simp [broken])

theorem mem_headers_iff (h : Outgoing.ofRequest request = .ok r) {p : Param} :
    p ∈ r.headers ↔ p ∈ request.headers ∨ AddsType request ∧ request.postData.mimeType ≠ "" ∧
      p = ⟨"content-type", request.postData.mimeType⟩ := by
  rw [Outgoing.headers_eq h, Outgoing.headersFor, AddsType, Request.hasBody]
  split <;> simp_all [and_assoc]

/-- The message of a request whose method, version and headers stand on one line each gives the
request back exactly if the type of its body does so too, in case it is sent along. -/
theorem message_reads_back (h : Outgoing.ofRequest request = .ok r)
    (method : '\n' ∉ request.method.toList) (httpVersion : '\n' ∉ request.httpVersion.toList)
    (headers : ∀ p ∈ request.headers,
      '\n' ∉ p.name.toList ∧ '\n' ∉ p.value.toList ∧ ':' ∉ p.name.toList) :
    ∃ text, r.convert "http" (some "http1.1") = .ok text ∧
      (GivesBack request r text ↔
        (AddsType request → '\n' ∉ request.postData.mimeType.toList)) := by
  refine ⟨render (Client.Http.http11 r), rfl, ?_, ?_⟩
  · intro back adds
    by_cases unknown : request.postData.mimeType = ""
    · rw [unknown]
      exact List.not_mem_nil
    · exact back.newline_not_mem_value ((mem_headers_iff h).mpr (.inr ⟨adds, unknown, rfl⟩))
  · intro type
    have sent : ∀ p ∈ r.headers,
        '\n' ∉ p.name.toList ∧ '\n' ∉ p.value.toList ∧ ':' ∉ p.name.toList := by
      intro p mem
      rcases (mem_headers_iff h).mp mem with given | ⟨adds, -, rfl⟩
      · exact headers p given
      · have name : '\n' ∉ "content-type".toList ∧ ':' ∉ "content-type".toList := by decide
        exact ⟨name.1, type adds, name.2⟩
    exact (oneLine_of_ofRequest h method httpVersion
      fun p mem => ⟨(sent p mem).1, (sent p mem).2.1⟩).givesBack h fun p mem => (sent p mem).2.2

def sampleRequest : Request where
  method := "PUT"
  url := Outgoing.sampleRequest.url
  headers := [⟨"X-A", "b: c"⟩]
  query := []
  cookies := []
  httpVersion := "HTTP/1.1"
  headersSize := 0
  bodySize := 0
  postData := ⟨"text/plain", some "é\n\n"⟩

theorem message_reads_back_sample :
    ∃ r text, Outgoing.ofRequest sampleRequest = .ok r ∧
      r.convert "http" (some "http1.1") = .ok text ∧
      headLines text = ["PUT " ++ r.pathAndQuery ++ " HTTP/1.1", "Host: " ++ r.host, "X-A: b: c",
        "content-type: text/plain", "Content-Length: 4"] ∧
      cutHeader "X-A: b: c".toList = some ("X-A".toList, "b: c".toList) ∧
      (Utf8.encode (content text)).splitAt 4 = ([195, 169, 10, 10], [10]) := by
  have read : Outgoing.ofRequest sampleRequest =
      .ok (Outgoing.ofUrl sampleRequest Outgoing.sampleUrl) :=
    Outgoing.ofRequest_eq_ok_iff.mpr ⟨_, Outgoing.read_sampleRequest, rfl⟩
  have sent : (Outgoing.ofUrl sampleRequest Outgoing.sampleUrl).headers =
      [⟨"X-A", "b: c"⟩, ⟨"content-type", "text/plain"⟩] := by rfl
  obtain ⟨text, printed, exactly⟩ :=
    message_reads_back read (by decide) (by decide) (by decide)
  obtain ⟨head, cut, -, body⟩ := exactly.mpr fun _ => by decide
  rw [sent] at head cut
  exact ⟨_, text, read, printed, head.trans (by decide +kernel), cut _ List.mem_cons_self,
    body _ rfl⟩

def brokenType : Request :=
  { sampleRequest with
    method := "POST"
    headers := []
    postData := ⟨"text/plain\nX-Injected: 1", some "abc"⟩ }

/-- The rest of the type is printed on a line of its own and reads as a header. -/
theorem broken_type_adds_header :
    ¬∀ (request : Request) (r : Outgoing), Outgoing.ofRequest request = .ok r →
      '\n' ∉ request.method.toList → '\n' ∉ request.httpVersion.toList →
      (∀ p ∈ request.headers,
        '\n' ∉ p.name.toList ∧ '\n' ∉ p.value.toList ∧ ':' ∉ p.name.toList) →
      ∃ text, r.convert "http" (some "http1.1") = .ok text ∧ GivesBack request r text := by
  intro gives_back
  have read : Outgoing.ofRequest brokenType =
      .ok (Outgoing.ofUrl brokenType Outgoing.sampleUrl) :=
    Outgoing.ofRequest_eq_ok_iff.mpr ⟨_, Outgoing.read_sampleRequest, rfl⟩
  obtain ⟨text, printed, back⟩ := gives_back _ _ read (by decide) (by decide) (by decide)
  have sent : ⟨"content-type", "text/plain\nX-Injected: 1"⟩ ∈
      (Outgoing.ofUrl brokenType Outgoing.sampleUrl).headers :=
    (mem_headers_iff read).mpr (.inr ⟨⟨rfl, List.forall_mem_nil _⟩, by decide, rfl⟩)
  exact absurd (back.newline_not_mem_value sent) (by decide)

end RequestCode.HttpMessage
