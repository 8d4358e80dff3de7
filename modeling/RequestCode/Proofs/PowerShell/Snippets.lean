import RequestCode.Proofs.Literal.Clients
import RequestCode.Proofs.Literal.Places
import RequestCode.Proofs.PowerShell.Verbatim

/-!
# PowerShell snippets

Every text of a request stands in a verbatim string. The snippet is read back, and what stands
between the strings depends on the shape of the request alone, as long as no text holds a
typographic quote; one that does ends its string early, and the rest of it is run. Main statement:
`strings_keep_exactly_straight_texts`.
-/

namespace RequestCode.PowerShell

open Piece Literal

/-- The verbatim strings of a program and the characters between them. -/
def cut : List Char → Option (List Token)
  | [] => some []
  | c :: r =>
    if isQuote c then
      match _h : readRest r with
      | none => none
      | some (text, rest) => (cut rest).map (.literal (.ofList text) :: ·)
    else (cut r).map (.code c :: ·)
termination_by s => s.length
decreasing_by
  · exact Nat.lt_succ_of_lt (length_of_readRest (by assumption))
  · exact Nat.lt_succ_self r.length

variable {s t rest : List Char} {ts : List Token}

def isPlain (s : List Char) : Bool := s.all fun c => !isQuote c

def startsPlain : List Char → Bool
  | [] => false
  | c :: _ => !isQuote c

theorem isPlain_ofList (h : isPlain s = true) : isPlain (String.ofList s).toList = true := by
  rwa [String.toList_ofList]

theorem startsPlain_ofList (h : startsPlain s = true) :
    startsPlain (String.ofList s).toList = true := by
  rwa [String.toList_ofList]

theorem cut_plain (h : isPlain s = true) (hrest : cut rest = some ts) :
    cut (s ++ rest) = some (s.map .code ++ ts) := by
  induction s with
  | nil => exact hrest
  | cons c s ih =>
    rw [isPlain, List.all_cons, Bool.and_eq_true] at h
    rw [List.cons_append, cut, if_neg (by simpa using h.1), ih h.2]
    rfl

theorem cut_write (straight : Straight s) (unquoted : Unquoted rest) (hrest : cut rest = some ts) :
    cut (Quote.verbatim.write s ++ rest) = some (.literal (.ofList s) :: ts) := by
  have opened : Quote.verbatim.write s ++ rest =
      '\'' :: (s.flatMap Quote.verbatimChar ++ '\'' :: rest) := by
    simp [Quote.write, Quote.between]
  rw [opened, cut, if_pos isQuote_straight]
  split
  · rename_i unread
    rw [readRest_write straight unquoted] at unread
    cases unread
  · rename_i text after read
    rw [readRest_write straight unquoted] at read
    cases read
    rw [hrest]
    rfl

/-- The fixed texts hold no quotes, and no literal stands right before one, if `rest` follows. -/
def Apart (rest : List Char) : List Piece → Prop
  | [] => True
  | code text :: ps => isPlain text.toList = true ∧ Apart rest ps
  | quoted style _ :: ps =>
    style = .verbatim ∧ Unquoted (ps.flatMap chars ++ rest) ∧ Apart rest ps
  | bare _ :: _ => False

variable {ps qs : List Piece}

theorem apart_nil : Apart rest [] := trivial

theorem apart_code {text : String} (h : isPlain text.toList = true) :
    Apart rest (code text :: ps) ↔ Apart rest ps := and_iff_right h

theorem apart_quoted {text : String} :
    Apart rest (quoted .verbatim text :: ps) ↔
      Unquoted (ps.flatMap chars ++ rest) ∧ Apart rest ps := and_iff_right rfl

theorem unquoted_code {text : String} (h : startsPlain text.toList = true) :
    Unquoted ((code text).chars ++ rest) := by
  rw [chars]
  cases shape : text.toList with
  | nil => simp [shape, startsPlain] at h
  | cons c r =>
    rw [shape] at h
    exact unquoted_cons.mpr (by simpa [startsPlain] using h)

theorem unquoted_last {text : String} (h : startsPlain text.toList = true) :
    Unquoted (code text).chars := by
  rw [← List.append_nil (code text).chars]
  exact unquoted_code h

theorem apart_append :
    Apart rest (ps ++ qs) ↔ Apart (qs.flatMap chars ++ rest) ps ∧ Apart rest qs := by
  induction ps with
  | nil => simp [Apart]
  | cons p ps ih => cases p <;> simp [Apart, ih, and_assoc]

theorem apart_each {hs : List Param} {f : Param → List Piece} (h : ∀ p rest, Apart rest (f p)) :
    Apart rest (each hs f) := by
  induction hs with
  | nil => trivial
  | cons p hs ih =>
    have split : each (p :: hs) f = f p ++ each hs f := List.flatMap_cons
    rw [split]
    exact apart_append.mpr ⟨h p _, ih⟩

theorem Apart.cut_pieces (h : Apart rest ps) (straight : ∀ x ∈ ps.flatMap said, Straight x.toList)
    (hrest : cut rest = some ts) :
    cut (ps.flatMap chars ++ rest) = some (ps.flatMap parts ++ ts) := by
  induction ps with
  | nil => exact hrest
  | cons p ps ih =>
    rw [List.flatMap_cons, List.forall_mem_append] at straight
    rw [List.flatMap_cons, List.flatMap_cons, List.append_assoc, List.append_assoc]
    cases p with
    | code text => exact cut_plain h.1 (ih h.2 straight.2)
    | quoted style text =>
      obtain ⟨rfl, unquoted, later⟩ := h
      have one : Straight text.toList := straight.1 text List.mem_cons_self
      have written := cut_write one unquoted (ih later straight.2)
      rwa [String.ofList_toList] at written
    | bare text => exact h.elim

theorem Apart.unquoted_of_stands {style : Quote} {x : String} {before after : List Char}
    (h : Apart [] ps) (stands : Stands ps style x before after) :
    style = .verbatim ∧ Unquoted after := by
  obtain ⟨qs, rs, rfl, -, rfl⟩ := stands
  obtain ⟨-, verbatim, unquoted, -⟩ := apart_append.mp h
  rw [List.append_nil] at unquoted
  exact ⟨verbatim, unquoted⟩

section Quotes

def quotesOf (xs : List String) : Nat :=
  2 * (xs.flatMap String.toList).countP isQuote + 2 * xs.length

def typographicOf (xs : List String) : Nat := (xs.flatMap String.toList).countP isTypographic

theorem straight_of_typographicOf {xs : List String} (h : typographicOf xs = 0) :
    ∀ x ∈ xs, Straight x.toList := by
  intro x mem c hc
  simpa using List.countP_eq_zero.mp h c (List.mem_flatMap.mpr ⟨x, mem, hc⟩)

theorem countP_plain (h : isPlain s = true) : s.countP isQuote = 0 := by
  rw [isPlain, List.all_eq_true] at h
  exact List.countP_eq_zero.mpr fun c mem => by simpa using h c mem

/-- What a program says takes all of its quotes. -/
theorem countP_of_cut (h : cut s = some ts) : s.countP isQuote = quotesOf (Literal.texts ts) := by
  fun_induction cut s generalizing ts with
  | case1 =>
    cases h
    rfl
  | case2 c r quote unread => cases h
  | case3 c r quote text rest read ih =>
    obtain ⟨us, later, rfl⟩ := Option.map_eq_some_iff.mp h
    rw [List.countP_cons_of_pos quote, countP_of_readRest read, ih later]
    simp [Literal.texts, quotesOf]
    omega
  | case4 c r other ih =>
    obtain ⟨us, later, rfl⟩ := Option.map_eq_some_iff.mp h
    rw [List.countP_cons_of_neg other, ih later]
    rfl

/-- Every typographic quote is one that its snippet lacks. -/
theorem Apart.countP_pieces (h : Apart rest ps) :
    (ps.flatMap chars).countP isQuote + typographicOf (ps.flatMap said) =
      quotesOf (ps.flatMap said) := by
  induction ps with
  | nil => rfl
  | cons p ps ih =>
    cases p with
    | code text =>
      rw [List.flatMap_cons, List.flatMap_cons, List.countP_append, chars, countP_plain h.1,
        Nat.zero_add]
      exact ih h.2
    | quoted style text =>
      obtain ⟨rfl, -, later⟩ := h
      have one := countP_verbatim text.toList
      have written : (Quote.verbatim.write text.toList).countP isQuote =
          (text.toList.flatMap Quote.verbatimChar).countP isQuote + 2 := by
        simp [Quote.write, Quote.between, List.countP_append, List.countP_cons, isQuote_straight]
      have others := ih later
      simp only [typographicOf, quotesOf, List.flatMap_cons, List.countP_append, chars, said_quoted,
        List.cons_append, List.nil_append, List.length_cons, written] at others ⊢
      omega
    | bare text => exact h.elim

end Quotes

def texts (r : Outgoing) : List String :=
  QuotingClient.headerTexts r ++ [r.fullUrl, r.method] ++ QuotingClient.typedBody r

structure SameShape (r s : Outgoing) : Prop where
  hasBody : r.hasBody = s.hasBody
  headers : r.headers.length = s.headers.length

variable {command : String} {r s : Outgoing}

theorem SameShape.hasHeaders (h : SameShape r s) : r.hasHeaders = s.hasHeaders :=
  Outgoing.hasHeaders_congr h.headers

theorem said_invoke (command : String) (r : Outgoing) :
    (Client.PowerShell.invoke command r).flatMap said = texts r := by
  simp [Client.PowerShell.invoke, Client.PowerShell.str, texts, QuotingClient.headerTexts,
    QuotingClient.typedBody]

theorem blank_invoke (h : SameShape r s) :
    (Client.PowerShell.invoke command r).map blank =
      (Client.PowerShell.invoke command s).map blank := by
  simp (disch := simp only [List.map_cons, List.map_nil, blank, implies_true])
    [Client.PowerShell.invoke, Client.PowerShell.str, blank, h.hasBody, h.headers, h.hasHeaders]

/-- Nothing but the texts of the request can hold a quote, and each literal is followed by fixed
text. -/
theorem apart_invoke (plain : isPlain command.toList = true) (r : Outgoing) :
    Apart [] (Client.PowerShell.invoke command r) := by
  have called : isPlain ("$response = " ++ command ++ " -Uri ").toList = true := by
    have start : isPlain "$response = ".toList = true := by apply isPlain_ofList; decide
    have option : isPlain " -Uri ".toList = true := by apply isPlain_ofList; decide
    simp only [isPlain, String.toList_append, List.all_append, Bool.and_eq_true] at *
    exact ⟨⟨start, plain⟩, option⟩
  have header (h : Param) (rest : List Char) :
      Apart rest [code "\n$headers.Add(", quoted .verbatim h.name, code ", ",
        quoted .verbatim h.value, code ")"] := by
    simp (disch := first | (apply isPlain_ofList; decide) | (apply startsPlain_ofList; decide))
      [apart_nil, apart_code, apart_quoted, unquoted_code]
  have headers (rest : List Char) : Apart rest (each r.headers _) := apart_each header
  unfold Client.PowerShell.invoke Client.PowerShell.str
  cases r.hasHeaders <;> cases r.hasBody <;>
    simp (disch := first | (apply isPlain_ofList; decide) | (apply startsPlain_ofList; decide))
      [only, apart_nil, apart_code, apart_code called, apart_quoted,
        unquoted_code, unquoted_last, apart_append, headers]

def clients : List (String × String) :=
  [("webrequest", "Invoke-WebRequest"), ("restmethod", "Invoke-RestMethod")]

variable {client : String}

theorem plain_of_mem (h : (client, command) ∈ clients) : isPlain command.toList = true := by
  simp only [clients, List.mem_cons, List.not_mem_nil, or_false, Prod.mk.injEq] at h
  obtain ⟨-, rfl⟩ | ⟨-, rfl⟩ := h <;> (apply isPlain_ofList; decide)

theorem convert_of_mem (h : (client, command) ∈ clients) (r : Outgoing) :
    r.convert "powershell" (some client) = .ok (render (Client.PowerShell.invoke command r)) := by
  simp only [clients, List.mem_cons, List.not_mem_nil, or_false, Prod.mk.injEq] at h
  obtain ⟨rfl, rfl⟩ | ⟨rfl, rfl⟩ := h <;> rfl

def Cuts (client : String) (request : Request) (ts : List Token) : Prop :=
  ∃ r text, Outgoing.ofRequest request = .ok r ∧ r.convert "powershell" (some client) = .ok text ∧
    cut text.toList = some ts

theorem cuts_iff (hc : (client, command) ∈ clients) {request : Request}
    (h : Outgoing.ofRequest request = .ok r) :
    Cuts client request ts ↔
      cut ((Client.PowerShell.invoke command r).flatMap chars) = some ts := by
  constructor
  · rintro ⟨s, text, hs, htext, hcut⟩
    rw [h] at hs
    cases hs
    rw [convert_of_mem hc] at htext
    cases htext
    rwa [render, String.toList_ofList] at hcut
  · intro hcut
    refine ⟨r, _, h, convert_of_mem hc r, ?_⟩
    rwa [render, String.toList_ofList]

theorem cut_invoke (plain : isPlain command.toList = true)
    (straight : ∀ x ∈ texts r, Straight x.toList) :
    cut ((Client.PowerShell.invoke command r).flatMap chars) =
      some ((Client.PowerShell.invoke command r).flatMap parts) := by
  rw [← said_invoke command] at straight
  have ended : cut [] = some [] := by rw [cut]
  simpa using (apart_invoke plain r).cut_pieces straight ended

/-- A snippet says the texts of its request exactly if they hold no typographic quote. -/
theorem says_texts_iff (hc : (client, command) ∈ clients) {request : Request}
    (h : Outgoing.ofRequest request = .ok r) :
    (∃ ts, Cuts client request ts ∧ Literal.texts ts = texts r) ↔
      ∀ x ∈ texts r, Straight x.toList := by
  have plain := plain_of_mem hc
  constructor
  · rintro ⟨ts, hcut, same⟩
    have read := countP_of_cut ((cuts_iff hc h).mp hcut)
    have written := (apart_invoke plain r).countP_pieces
    rw [said_invoke] at written
    rw [same] at read
    exact straight_of_typographicOf (by omega)
  · intro straight
    refine ⟨_, (cuts_iff hc h).mpr (cut_invoke plain straight), ?_⟩
    rw [texts_parts, said_invoke]

/-- A text is read back from its string exactly if it holds no typographic quote, at every place
that a snippet has for one. The snippet says the texts of the request if all of them are such, and
only then; the text between its strings depends on the shape of the request alone. -/
theorem strings_keep_exactly_straight_texts (hc : (client, command) ∈ clients) {request : Request}
    (h : Outgoing.ofRequest request = .ok r) :
    (∀ s t, Unquoted t → (read? (Quote.verbatim.write s ++ t) = some (s, t) ↔ Straight s)) ∧
    r.convert "powershell" (some client) = .ok (render (Client.PowerShell.invoke command r)) ∧
    (Client.PowerShell.invoke command r).flatMap said = texts r ∧
    (∀ style x before after,
      Stands (Client.PowerShell.invoke command r) style x before after →
        (read? (style.write x.toList ++ after) = some (x.toList, after) ↔ Straight x.toList)) ∧
    ((∃ ts, Cuts client request ts ∧ Literal.texts ts = texts r) ↔
      ∀ x ∈ texts r, Straight x.toList) ∧
    ∀ other s us ts, Outgoing.ofRequest other = .ok s → SameShape r s →
      Cuts client request ts → Literal.texts ts = texts r →
      Cuts client other us → Literal.texts us = texts s → frame us = frame ts := by
  have plain := plain_of_mem hc
  refine ⟨fun s t => read?_write_iff, convert_of_mem hc r, said_invoke command r, ?_,
    says_texts_iff hc h, ?_⟩
  · intro style x before after stands
    obtain ⟨rfl, unquoted⟩ := (apart_invoke plain r).unquoted_of_stands stands
    exact read?_write_iff unquoted
  · intro other s us ts hs shape hts texts_ts hus texts_us
    have here := cut_invoke plain ((says_texts_iff hc h).mp ⟨ts, hts, texts_ts⟩)
    have there := cut_invoke plain ((says_texts_iff hc hs).mp ⟨us, hus, texts_us⟩)
    rw [(cuts_iff hc h).mp hts] at here
    rw [(cuts_iff hc hs).mp hus] at there
    cases here
    cases there
    exact (frame_parts_congr (blank_invoke shape)).symm

theorem strings_keep_exactly_straight_texts_sample :
    ∃ r, Outgoing.ofRequest Outgoing.sampleRequest = .ok r ∧ ∃ ts,
      Cuts "restmethod" Outgoing.sampleRequest ts ∧ Literal.texts ts = texts r := by
  have read := Outgoing.ofRequest_sampleRequest
  have known : ("restmethod", "Invoke-RestMethod") ∈ clients := .tail _ (.head _)
  obtain ⟨-, -, -, -, kept, -⟩ := strings_keep_exactly_straight_texts known read
  have straight : (texts (Outgoing.ofUrl Outgoing.sampleRequest Outgoing.sampleUrl)).all
      (fun x => x.toList.all fun c => !isTypographic c) = true := by
    decide +kernel
  refine ⟨_, read, kept.mpr fun x mem c hc => ?_⟩
  simpa using List.all_eq_true.mp (List.all_eq_true.mp straight x mem) c hc

def quotingRequest : Request :=
  { Outgoing.sampleRequest with headers := [⟨"X-Note", "a\u2019;calc;\u2019b"⟩] }

/-- The string ends at the first of the quotes, and what stands between them is run. -/
theorem typographic_quotes_end_strings :
    read? (Quote.verbatim.write "a\u2019;calc;\u2019b".toList) =
        some (['a'], ";calc;\u2019b'".toList) ∧
      ∃ ts, Cuts "webrequest" quotingRequest ts ∧ ";calc;".toList.map .code <:+: ts := by
  refine ⟨by decide +kernel, ?_⟩
  have read : Outgoing.ofRequest quotingRequest =
      .ok (Outgoing.ofUrl quotingRequest Outgoing.sampleUrl) :=
    Outgoing.ofRequest_eq_ok_iff.mpr ⟨Outgoing.sampleUrl, Outgoing.read_sampleRequest, rfl⟩
  have run : (cut ((Client.PowerShell.webRequest
      (Outgoing.ofUrl quotingRequest Outgoing.sampleUrl)).flatMap chars)).any
        (fun ts => ";calc;".toList.map .code <:+: ts) := by
    decide +kernel
  obtain ⟨ts, hcut, between⟩ := (Option.any_eq_true _ _).mp run
  have known : ("webrequest", "Invoke-WebRequest") ∈ clients := .head _
  exact ⟨ts, (cuts_iff known read).mpr hcut, of_decide_eq_true between⟩

end RequestCode.PowerShell
