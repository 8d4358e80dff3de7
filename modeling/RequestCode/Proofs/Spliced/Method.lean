import RequestCode.Proofs.Outgoing.Fields
import RequestCode.Proofs.Spliced.Word
import RequestCode.Resolve

/-!
# Clients that splice the method into their program

Three clients print the method as a name of their language, in one case or the other. The rest of
the program is the same for every method, but a method that is no name gives it only its beginning,
or nothing, and what is left of it becomes program text. Main statement: `method_is_one_word_iff`.
-/

namespace RequestCode.Spliced

open Text Piece

inductive Casing where
  | upper
  | lower

def isTokenChar (c : Char) : Bool :=
  isAsciiAlphanumeric c || "!#$%&'*+-.^_\x60|~".toList.contains c

def IsToken (s : List Char) : Prop := s ≠ [] ∧ ∀ c ∈ s, isTokenChar c = true

section Ascii

theorem of_ascii {P : Char → Prop} (h : ∀ n < 128, P (Char.ofNat n)) {c : Char}
    (ascii : isAscii c = true) : P c := by
  have small : c.toNat < 128 := of_decide_eq_true ascii
  simpa using h c.toNat small

theorem isAscii_of_isTokenChar {c : Char} (h : isTokenChar c = true) : isAscii c = true := by
  rw [isTokenChar, Bool.or_eq_true] at h
  rcases h with alphanumeric | mark
  · simp only [isAsciiAlphanumeric, isAsciiAlpha, isAsciiLower, isAsciiUpper, isDecimal,
      Bool.or_eq_true, Bool.and_eq_true, decide_eq_true_eq, Char.le_def, UInt32.le_iff_toNat_le]
      at alphanumeric
    apply decide_eq_true
    show c.val.toNat < 128
    have z : 'z'.val.toNat = 122 := rfl
    have Z : 'Z'.val.toNat = 90 := rfl
    have nine : '9'.val.toNat = 57 := rfl
    omega
  · have ascii : "!#$%&'*+-.^_\x60|~".toList.all isAscii = true := by decide
    exact List.all_eq_true.mp ascii c (by simpa using mark)

end Ascii

namespace Casing

variable {k : Casing} {c : Char} {s : List Char}

def apply : Casing → List Char → List Char
  | .upper => Text.upper
  | .lower => Text.lower

def char : Casing → Char → Char
  | .upper, c => if isAsciiLower c then Char.ofNat (c.toNat - 32) else c
  | .lower, c => asciiLowerChar c

theorem upperChar_ascii (h : isAscii c = true) : upperChar c = [char .upper c] := by
  by_cases lower : isAsciiLower c = true
  · simp [upperChar, char, lower]
  · simp [upperChar, char, lower, h]

theorem lowerChar_ascii (h : isAscii c = true) : lowerChar c = [char .lower c] := by
  by_cases upper : isAsciiUpper c = true
  · simp [lowerChar, char, asciiLowerChar, upper]
  · simp [lowerChar, char, asciiLowerChar, upper, h]

theorem lowerAfter_ascii (before : List Char) (h : ∀ c ∈ s, isAscii c = true) :
    lowerAfter before s = s.map (char .lower) := by
  induction s generalizing before with
  | nil => rfl
  | cons c s ih =>
    obtain ⟨first, rest⟩ := List.forall_mem_cons.mp h
    have noSigma : c ≠ 'Σ' := by
      rintro rfl
      exact absurd first (by decide)
    rw [lowerAfter, if_neg noSigma, lowerChar_ascii first, ih _ rest]
    rfl

theorem apply_ascii (h : ∀ c ∈ s, isAscii c = true) : k.apply s = s.map k.char := by
  cases k with
  | upper =>
    show s.flatMap upperChar = _
    rw [List.flatMap_congr fun c mem => upperChar_ascii (h c mem), List.map_eq_flatMap]
  | lower => exact lowerAfter_ascii [] h

theorem isAscii_char (h : isAscii c = true) : isAscii (k.char c) = true := by
  cases k <;> exact of_ascii (P := fun c => isAscii (char _ c) = true) (by decide) h

theorem isAsciiAlpha_char (h : isAscii c = true) :
    isAsciiAlpha (k.char c) = isAsciiAlpha c := by
  cases k <;> exact of_ascii (P := fun c => isAsciiAlpha (char _ c) = isAsciiAlpha c) (by decide) h

theorem isDecimal_char (h : isAscii c = true) : isDecimal (k.char c) = isDecimal c := by
  cases k <;> exact of_ascii (P := fun c => isDecimal (char _ c) = isDecimal c) (by decide) h

theorem char_of_not_alpha (h : isAsciiAlpha c = false) : k.char c = c := by
  rw [isAsciiAlpha, Bool.or_eq_false_iff] at h
  cases k with
  | upper => simp [char, h.1]
  | lower => simp [char, asciiLowerChar, h.2]

theorem char_eq_iff {d : Char} (h : isAscii c = true) (other : isAsciiAlpha d = false) :
    k.char c = d ↔ c = d := by
  constructor
  · rintro rfl
    rw [isAsciiAlpha_char h] at other
    exact (char_of_not_alpha other).symm
  · rintro rfl
    exact char_of_not_alpha other

end Casing

section Tokens

variable {k : Casing} {s : List Char}

theorem isToken_of_all (nonempty : s ≠ []) (h : s.all isTokenChar = true) : IsToken s :=
  ⟨nonempty, List.all_eq_true.mp h⟩

theorem IsToken.isAscii (token : IsToken s) : ∀ c ∈ s, isAscii c = true :=
  fun c mem => isAscii_of_isTokenChar (token.2 c mem)

def IsNameChar (c : Char) : Prop := isAsciiAlphanumeric c = true ∨ c = '_'

theorem inner_identifier (alphabet : Alphabet) {c : Char} (h : isAscii c = true) :
    (identifier alphabet).inner (k.char c) = true ↔ IsNameChar c := by
  have ascii := Casing.isAscii_char (k := k) h
  have underscore : k.char c = '_' ↔ c = '_' := Casing.char_eq_iff h rfl
  simp [identifier, IsNameChar, isAsciiAlphanumeric, alphabet.letter_ascii ascii,
    alphabet.digit_ascii ascii, Casing.isAsciiAlpha_char h, Casing.isDecimal_char h, underscore]

/-- A name may start with any of its characters but a digit. -/
theorem formed_identifier (alphabet : Alphabet) {c : Char} {r : List Char}
    (h : isAscii c = true) (name : IsNameChar c) :
    (identifier alphabet).formed (k.char c :: r) = true ↔ isDecimal c = false := by
  have ascii := Casing.isAscii_char (k := k) h
  have underscore : k.char c = '_' ↔ c = '_' := Casing.char_eq_iff h rfl
  have first : (identifier alphabet).formed (k.char c :: r) = (isAsciiAlpha c || c = '_') := by
    simp [identifier, alphabet.letter_ascii ascii, Casing.isAsciiAlpha_char h, underscore]
  have disjoint : isAsciiAlphanumeric c = true ∨ c = '_' →
      (isAsciiAlpha c || c = '_') = !isDecimal c :=
    of_ascii (P := fun c => isAsciiAlphanumeric c = true ∨ c = '_' →
      (isAsciiAlpha c || c = '_') = !isDecimal c) (by decide) h
  rw [first, disjoint name, Bool.not_eq_true']

theorem isWord_identifier (alphabet : Alphabet) (token : IsToken s) :
    (identifier alphabet).IsWord (k.apply s) ↔
      (∀ c ∈ s, IsNameChar c) ∧ ∀ c ∈ s.head?, isDecimal c = false := by
  have ascii := token.isAscii
  rw [Casing.apply_ascii ascii]
  obtain ⟨c, r, rfl⟩ := List.exists_cons_of_ne_nil token.1
  have inner : (∀ d ∈ (c :: r).map k.char, (identifier alphabet).inner d = true) ↔
      ∀ d ∈ c :: r, IsNameChar d := by
    rw [List.forall_mem_map]
    exact forall₂_congr fun d mem => inner_identifier alphabet (ascii d mem)
  have start := formed_identifier (k := k) (r := r.map k.char) alphabet
    (ascii c List.mem_cons_self)
  constructor
  · intro word
    have names := inner.mp word.inner
    refine ⟨names, fun d head => ?_⟩
    cases head
    exact (start (names c List.mem_cons_self)).mp word.formed
  · rintro ⟨names, head⟩
    exact ⟨List.cons_ne_nil _ _, inner.mpr names,
      (start (names c List.mem_cons_self)).mpr (head c rfl)⟩

/-- The characters of a token at which a keyword ends. -/
def EndsKeyword (c : Char) : Prop := c = '^' ∨ c = '\x60' ∨ c = '~'

instance (c : Char) : Decidable (EndsKeyword c) :=
  inferInstanceAs (Decidable (c = '^' ∨ c = '\x60' ∨ c = '~'))

theorem inner_keyword {c : Char} (h : isTokenChar c = true) :
    keyword.inner (k.char c) = true ↔ ¬ EndsKeyword c := by
  have checked : isTokenChar c = true → (keyword.inner (k.char c) = true ↔ ¬ EndsKeyword c) := by
    cases k <;> exact of_ascii (P := fun c => isTokenChar c = true →
      (keyword.inner (Casing.char _ c) = true ↔ ¬ EndsKeyword c)) (by decide +kernel)
      (isAscii_of_isTokenChar h)
  exact checked h

theorem formed_keyword (slash : '/' ∉ s) (colon : ':' ∉ s) : keyword.formed s = true := by
  have single : ¬ [':', ':'] <:+: ':' :: s := fun doubled => by
    have rest := List.cons_sublist_cons.mp doubled.sublist
    exact colon (List.singleton_sublist.mp rest)
  have last : s.getLast? ≠ some ':' := fun last => colon (List.mem_of_getLast? last)
  simp [keyword, slash, single, last]

theorem isWord_keyword (token : IsToken s) :
    keyword.IsWord (k.apply s) ↔ ∀ c ∈ s, ¬ EndsKeyword c := by
  rw [Casing.apply_ascii token.isAscii]
  have inner : (∀ d ∈ s.map k.char, keyword.inner d = true) ↔ ∀ d ∈ s, ¬ EndsKeyword d := by
    rw [List.forall_mem_map]
    exact forall₂_congr fun d mem => inner_keyword (token.2 d mem)
  have absent {d : Char} (other : isAsciiAlpha d = false) (foreign : isTokenChar d = false) :
      d ∉ s.map k.char := by
    intro mem
    obtain ⟨c, hc, same⟩ := List.mem_map.mp mem
    rw [Casing.char_eq_iff (token.isAscii c hc) other] at same
    subst same
    exact absurd (token.2 c hc) (by simp [foreign])
  constructor
  · exact fun word => inner.mp word.inner
  · exact fun fit => ⟨by simpa using token.1, inner.mpr fit,
      formed_keyword (absent rfl rfl) (absent rfl rfl)⟩

end Tokens

/-- A client that prints the method as a word of its language. -/
structure SplicingClient where
  language : String
  library : String
  casing : Casing
  /-- What stands right before the method. -/
  mark : String
  lexis : Alphabet → Lexis
  before : Outgoing → List Piece
  after : Outgoing → List Piece
  /-- The tokens that are one word. -/
  Fits : List Char → Prop

namespace SplicingClient

/-- What decides where the method of a snippet ends, whatever the request. -/
structure Sound (c : SplicingClient) : Prop where
  printed : ∀ r : Outgoing, r.convert c.language (some c.library) =
    .ok (render (c.before r ++ bare (.ofList (c.casing.apply r.method.toList)) :: c.after r))
  constant : ∀ (r : Outgoing) (method : String),
    c.before { r with method := method } = c.before r ∧
      c.after { r with method := method } = c.after r
  marked : ∀ r, c.mark.toList <:+ (c.before r).flatMap chars
  stops : ∀ alphabet r, (c.lexis alphabet).Stops ((c.after r).flatMap chars)
  fits : ∀ alphabet {s}, IsToken s →
    ((c.lexis alphabet).IsWord (c.casing.apply s) ↔ c.Fits s)

def FitsIdentifier (s : List Char) : Prop :=
  (∀ c ∈ s, IsNameChar c) ∧ ∀ c ∈ s.head?, isDecimal c = false

theorem stops_identifier (alphabet : Alphabet) {c : Char} {rest : List Char}
    (ascii : isAscii c = true) (alpha : isAsciiAlpha c = false) (decimal : isDecimal c = false)
    (other : c ≠ '_') : (identifier alphabet).Stops (c :: rest) := by
  intro d head
  cases head
  simp [identifier, alphabet.letter_ascii ascii, alphabet.digit_ascii ascii, alpha, decimal, other]

theorem marked_ofList (ps : List Piece) {mark text : List Char} (h : mark <:+ text) :
    (String.ofList mark).toList <:+ (ps ++ [code (.ofList text)]).flatMap chars := by
  rw [List.flatMap_append, List.flatMap_singleton, chars, String.toList_ofList,
    String.toList_ofList]
  exact h.trans (List.suffix_append _ _)

def restSharp : SplicingClient where
  language := "csharp"
  library := "restsharp"
  casing := .upper
  mark := "Method."
  lexis := identifier
  before r := [code "var client = new RestClient(", json r.fullUrl,
    code ");\nvar request = new RestRequest(Method."]
  after r := [code ");"]
    ++ each r.headers (fun h =>
      [code "\nrequest.AddHeader(", json h.name, code ", ", json h.value, code ");"])
    ++ only r.hasBody
      [code "\nrequest.AddParameter(", json r.mimeType, code ", ", json r.body,
        code ", ParameterType.RequestBody);"]
    ++ [code "\nIRestResponse response = client.Execute(request);\n"]
  Fits := FitsIdentifier

theorem sound_restSharp : restSharp.Sound where
  printed r := rfl
  constant r method := ⟨rfl, rfl⟩
  marked r := by
    apply marked_ofList [code "var client = new RestClient(", json r.fullUrl]
    decide
  stops alphabet r := stops_identifier alphabet (c := ')') rfl rfl rfl (by decide)
  fits alphabet s := isWord_identifier alphabet

def unirest : SplicingClient where
  language := "java"
  library := "unirest"
  casing := .lower
  mark := "Unirest."
  lexis := identifier
  before _ := [code "HttpResponse<String> response = Unirest."]
  after r := [code "(", json r.fullUrl, code ")"]
    ++ each r.headers (fun h =>
      [code "\n  .header(", json h.name, code ", ", json h.value, code ")"])
    ++ only r.hasBody [code "\n  .body(", json r.body, code ")"]
    ++ [code "\n  .asString();\n"]
  Fits := FitsIdentifier

theorem sound_unirest : unirest.Sound where
  printed r := rfl
  constant r method := ⟨rfl, rfl⟩
  marked _ := by
    apply marked_ofList []
    decide
  stops alphabet r := stops_identifier alphabet (c := '(') rfl rfl rfl (by decide)
  fits alphabet s := isWord_identifier alphabet

def cljHttp : SplicingClient where
  language := "clojure"
  library := "clj_http"
  casing := .lower
  mark := ":"
  lexis _ := keyword
  before _ := [code
    "(require '[clj-http.client :as client])\n\n(client/request \x7b:method :"]
  after r := [code "\n                 :url ", json r.url]
    ++ only r.hasQuery (
      [code "\n                 :query-params \x7b"] ++ Client.Clojure.entries r.query
        ++ [code "\x7d"])
    ++ only r.hasHeaders (
      [code "\n                 :headers \x7b"] ++ Client.Clojure.entries r.headers
        ++ [code "\x7d"])
    ++ only r.hasBody [code "\n                 :body ", json r.body]
    ++ [code "\n                 \x7d)\n"]
  Fits s := ∀ c ∈ s, ¬ EndsKeyword c

theorem sound_cljHttp : cljHttp.Sound where
  printed r := rfl
  constant r method := ⟨rfl, rfl⟩
  marked _ := by
    apply marked_ofList []
    decide
  stops alphabet r := by
    intro c head
    cases head
    rfl
  fits alphabet s := isWord_keyword

def all : List SplicingClient := [restSharp, unirest, cljHttp]

theorem sound_of_mem {c : SplicingClient} (h : c ∈ all) : c.Sound := by
  simp only [all, List.mem_cons, List.not_mem_nil, or_false] at h
  rcases h with rfl | rfl | rfl
  · exact sound_restSharp
  · exact sound_unirest
  · exact sound_cljHttp

/-- The snippet for a request with this method, and what stands in it around the method. -/
def Prints (c : SplicingClient) (request : Request) (before : List Char) (method : String)
    (after : List Char) : Prop :=
  ∃ r, Outgoing.ofRequest { request with method := method } = .ok r ∧
    r.convert c.language (some c.library) =
      .ok (.ofList (before ++ c.casing.apply method.toList ++ after))

variable {c : SplicingClient} {request : Request} {r : Outgoing}

theorem ofRequest_method (h : Outgoing.ofRequest request = .ok r) (method : String) :
    Outgoing.ofRequest { request with method := method } = .ok { r with method := method } := by
  obtain ⟨u, hu, rfl⟩ := Outgoing.ofRequest_eq_ok_iff.mp h
  exact Outgoing.ofRequest_eq_ok_iff.mpr ⟨u, hu, rfl⟩

theorem Sound.prints (sound : c.Sound) (h : Outgoing.ofRequest request = .ok r)
    (method : String) :
    c.Prints request ((c.before r).flatMap chars) method ((c.after r).flatMap chars) := by
  refine ⟨_, ofRequest_method h method, ?_⟩
  obtain ⟨before, after⟩ := sound.constant r method
  rw [sound.printed, before, after]
  simp [render, chars]

/-- The program around the method is the same for every method. What a word leaves of the method
stands in it as further text; nothing is left, and the method is one word, exactly if it is a word
by itself. For the tokens of HTTP that is a matter of their characters. -/
theorem method_is_one_word_iff (hc : c ∈ all) (alphabet : Alphabet)
    (h : Outgoing.ofRequest request = .ok r) :
    ∃ before after, c.mark.toList <:+ before ∧ ∀ method : String,
      c.Prints request before method after ∧
      (c.casing.apply method.toList ++ after).dropWhile (c.lexis alphabet).inner =
        (c.casing.apply method.toList).dropWhile (c.lexis alphabet).inner ++ after ∧
      ((c.lexis alphabet).read (c.casing.apply method.toList ++ after) =
          some (c.casing.apply method.toList, after) ↔
        (c.lexis alphabet).IsWord (c.casing.apply method.toList)) ∧
      (IsToken method.toList →
        ((c.lexis alphabet).IsWord (c.casing.apply method.toList) ↔ c.Fits method.toList)) := by
  have sound := sound_of_mem hc
  have stops := sound.stops alphabet r
  exact ⟨_, _, sound.marked r, fun method => ⟨sound.prints h method, Lexis.dropWhile_append stops,
    Lexis.read_append_iff stops, sound.fits alphabet⟩⟩

def asciiAlphabet : Alphabet where
  letter := isAsciiAlpha
  digit := isDecimal
  letter_ascii _ := rfl
  digit_ascii _ := rfl

theorem method_is_one_word_iff_sample :
    ∃ before after, cljHttp.Prints Outgoing.sampleRequest before "VERSION-CONTROL" after ∧
      keyword.read ("version-control".toList ++ after) =
        some ("version-control".toList, after) := by
  obtain ⟨before, after, -, methods⟩ := method_is_one_word_iff (c := cljHttp) (by simp [all])
    asciiAlphabet Outgoing.ofRequest_sampleRequest
  obtain ⟨prints, -, whole, fits⟩ := methods "VERSION-CONTROL"
  have token : IsToken "VERSION-CONTROL".toList := isToken_of_all (by decide) (by decide)
  have goes : "VERSION-CONTROL".toList.all (fun c => !decide (EndsKeyword c)) = true := by decide
  have fit : cljHttp.Fits "VERSION-CONTROL".toList :=
    fun c mem => by simpa using List.all_eq_true.mp goes c mem
  exact ⟨before, after, prints, whole.mpr ((fits token).mpr fit)⟩

/-- An identifier takes the first letter of the method, and the rest of it is program text. -/
theorem search_method_is_cut :
    IsToken "M-SEARCH".toList ∧
      ∃ before after, "Unirest.".toList <:+ before ∧
        unirest.Prints Outgoing.sampleRequest before "M-SEARCH" after ∧
        ∀ alphabet, (identifier alphabet).read ("m-search".toList ++ after) =
          some (['m'], "-search".toList ++ after) := by
  refine ⟨isToken_of_all (by decide) (by decide), _, _, sound_unirest.marked _,
    sound_unirest.prints Outgoing.ofRequest_sampleRequest "M-SEARCH", fun alphabet => ?_⟩
  have letter : IsToken ['m'] := isToken_of_all (by decide) (by decide)
  have word : (identifier alphabet).IsWord ['m'] := by
    refine (isWord_identifier (k := .lower) alphabet letter).mpr
      ⟨List.forall_mem_singleton.mpr (.inl rfl), ?_⟩
    rintro d ⟨⟩
    rfl
  exact (Lexis.read_append_iff (stops_identifier alphabet rfl rfl rfl (by decide))).mpr word

end SplicingClient

end RequestCode.Spliced
