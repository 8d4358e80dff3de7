import RequestCode.Client.Clojure
import RequestCode.Proofs.Literal.Parts
import RequestCode.Proofs.Script.Pieces

/-!
# Reading map literals

Objects and dictionaries are read in the grammar of JSON. Maps between braces that have keys and
values in turn are read literal by literal; their strings are those of JSON too. Main statements:
`readRecord_members` and `readBraces_entries`, the entries are those that were printed.
-/

namespace RequestCode.MapLiteral

open Text Piece Literal

def textMember? : String × Json → Option Param
  | (name, .string text) => some ⟨name, text⟩
  | _ => none

def readRecord (s : List Char) : Option (List Param) :=
  (Script.readObject s).bind fun found => found.1.mapM textMember?

/-- The entries up to the brace that closes the map, from a place where a key may be waiting for its
value. -/
def readEntries : Option String → List Token → Option (List Param)
  | _, [] => none
  | none, .literal name :: ts => readEntries (some name) ts
  | some name, .literal value :: ts => (readEntries none ts).map (⟨name, value⟩ :: ·)
  | key, .code c :: ts =>
    if c = '\x7d' && key.isNone then some []
    else if isBlank c || c = ',' then readEntries key ts
    else none

def readBraces (s : List Char) : Option (List Param) :=
  match cut [.json] (.ofList s) with
  | some (.code c :: ts) => if c = '\x7b' then readEntries none ts else none
  | _ => none

variable {ps : List Param} {closing : List Char} {rest : List Piece}

theorem mapM_textMember? (ps : List Param) : (Script.members ps).mapM textMember? = some ps := by
  induction ps with
  | nil => rfl
  | cons p ps ih =>
    have members_eq : Script.members (p :: ps) = (p.name, .string p.value) :: Script.members ps :=
      rfl
    rw [members_eq, List.mapM_cons, ih]
    rfl

/-- An object is read as it was printed, whatever follows the text that closes it. -/
theorem readRecord_members {left : List Char}
    (h : Script.reader.first? (.code, Script.inside (Script.members ps) []) closing =
      some (Script.members ps, left)) (more : List Char) :
    readRecord ('\x7b' :: ((members "    " .json ps).flatMap chars ++ (closing ++ more))) =
      some ps := by
  have opened : Script.reader.Reads (.code, .start) ['\x7b'] [] (.code, .key true [] []) := rfl
  have listed := opened.append (Script.parses_members ps [])
  have found := listed.first?_append (closing ++ more)
  rw [Scanner.first?_append h more] at found
  unfold readRecord Script.readObject
  rw [← List.singleton_append, ← List.append_assoc, found]
  exact mapM_textMember? ps

theorem tokens_blank : (code " ").tokens [.json] = [.code ' '] :=
  tokens_of_reads (reads_plain rfl)

theorem readEntries_pair (p : Param) (ts : List Token) :
    readEntries none ([json p.name, code " ", json p.value].flatMap (tokens [.json]) ++ ts) =
      (readEntries none ts).map (p :: ·) := by
  have name : (json p.name).tokens [.json] = [.literal p.name] := tokens_quoted readable_json
  have value : (json p.value).tokens [.json] = [.literal p.value] := tokens_quoted readable_json
  rw [List.flatMap_cons, List.flatMap_cons, List.flatMap_cons, name, tokens_blank, value]
  rfl

theorem readEntries_entries (ps : List Param) (ts : List Token) :
    readEntries none ((Client.Clojure.entries ps).flatMap (tokens [.json]) ++ .code '\x7d' :: ts) =
      some ps := by
  unfold Client.Clojure.entries
  induction ps using eachWith.induct with
  | case1 => rfl
  | case2 p =>
    rw [eachWith, readEntries_pair]
    rfl
  | case3 p q ps ih =>
    have separated (rs : List Piece) : (code " " :: rs).flatMap (tokens [.json]) =
        .code ' ' :: rs.flatMap (tokens [.json]) := by
      rw [List.flatMap_cons, tokens_blank]
      rfl
    have skipped (ts : List Token) : readEntries none (.code ' ' :: ts) = readEntries none ts := rfl
    rw [eachWith, List.flatMap_append, separated, List.append_assoc, readEntries_pair,
      List.cons_append, skipped, ih]
    rfl

/-- A map is read as it was printed, if what follows it leaves no literal open. -/
theorem readBraces_entries (h : Sealed [.json] rest) :
    readBraces ((code "\x7b" :: (Client.Clojure.entries ps ++ code "\x7d" :: rest)).flatMap chars) =
      some ps := by
  have opening : isPlain [.json] "\x7b".toList = true := rfl
  have closing : isPlain [.json] "\x7d".toList = true := rfl
  have blank : isPlain [.json] " ".toList = true := rfl
  have whole : Sealed [.json]
      (code "\x7b" :: (Client.Clojure.entries ps ++ code "\x7d" :: rest)) := by
    simp [Client.Clojure.entries, sealed_eachWith (whole_plain blank), whole_plain blank,
      whole_plain opening, whole_plain closing, json, readable_json, h]
  have read := cut_render fun p hp => (whole p hp).closed
  have first : (code "\x7b").tokens [.json] = [.code '\x7b'] :=
    tokens_of_reads (reads_plain opening)
  have last : (code "\x7d").tokens [.json] = [.code '\x7d'] :=
    tokens_of_reads (reads_plain closing)
  rw [List.flatMap_cons, List.flatMap_append, List.flatMap_cons, first, last] at read
  unfold readBraces
  unfold render at read
  rw [read]
  exact readEntries_entries ps _

end RequestCode.MapLiteral
