import RequestCode.Proofs.Outgoing.FullUrl

/-!
# Octets of a query

A URL may encode any octets in its query. A request without parameters of its own decodes them to
text and writes the text again, so those that are UTF-8 are sent as they are, and the others are
not. Main statement: `octets_kept_iff`.
-/

namespace RequestCode

open Text

/-- Decoding to text and encoding again. -/
def Text.Utf8.recoded (octets : List Nat) : List Nat := encode (decode octets)

def Text.Utf8.IsEncoded (octets : List Nat) : Prop := ∃ s, encode s = octets

theorem Text.Utf8.recoded_eq_self_iff {octets : List Nat} :
    recoded octets = octets ↔ IsEncoded octets := by
  constructor
  · intro same
    exact ⟨decode octets, same⟩
  · rintro ⟨s, rfl⟩
    rw [recoded, decode_encode]

theorem Text.Utf8.map_recoded_eq_self_iff {pairs : List (List Nat × List Nat)} :
    pairs.map (Prod.map recoded recoded) = pairs ↔
      ∀ p ∈ pairs, IsEncoded p.1 ∧ IsEncoded p.2 := by
  have each (p : List Nat × List Nat) :
      Prod.map recoded recoded p = id p ↔ IsEncoded p.1 ∧ IsEncoded p.2 := by
    simp [Prod.ext_iff, recoded_eq_self_iff]
  have all := List.map_eq_map_iff (f := Prod.map recoded recoded) (g := id) (l := pairs)
  rw [List.map_id] at all
  exact all.trans (forall₂_congr fun p _ => each p)

namespace Url

/-- The octets of one pair; without `=` those of the value are none. -/
def readOctets (s : List Char) : List Nat × List Nat :=
  match cutFirst '=' s with
  | some (a, b) => (formOctets a, formOctets b)
  | none => (formOctets s, [])

/-- The octets of the pairs of a query text; empty pieces count for nothing. -/
def queryOctets (q : List Char) : List (List Nat × List Nat) :=
  ((pieces '&' q).filter (!·.isEmpty)).map readOctets

def carriedOctets (text : String) : List (List Nat × List Nat) :=
  queryOctets ((cutTail text.toList).2.1.getD [])

def octets (u : Url) : List (List Nat × List Nat) := queryOctets (u.query.getD "").toList

theorem readPair_eq (s : List Char) :
    readPair s =
      ⟨.ofList (Utf8.decode (readOctets s).1), .ofList (Utf8.decode (readOctets s).2)⟩ := by
  unfold readPair readOctets formDecode
  cases cutFirst '=' s with
  | none => simp [Utf8.decode]
  | some parts => rfl

theorem readOctets_writePair (p : Param) :
    readOctets (writePair p) = (Utf8.encode p.name.toList, Utf8.encode p.value.toList) := by
  simp [readOctets, cutFirst_writePair, formOctets_formEncode]

/-- Pairs that were read and written again have the octets of their texts. -/
theorem queryOctets_writeQuery_readQuery (q : String) :
    queryOctets (writeQuery (readQuery q)).toList =
      (queryOctets q.toList).map (Prod.map Utf8.recoded Utf8.recoded) := by
  rw [queryOctets, pieces_writeQuery, readQuery, queryOctets]
  simp only [List.map_map]
  apply List.map_congr_left
  intro s _
  simp only [Function.comp_apply, readOctets_writePair, readPair_eq, String.toList_ofList]
  rfl

end Url

namespace Outgoing

open Url

variable {request : Request} {u : Url}

/-- A request without parameters of its own is sent with the pairs of its URL, each name and value
decoded to text and encoded again. The octets are those of the URL exactly if each of them is UTF-8,
whatever else the query holds. -/
theorem octets_kept_iff (read : Url.read request.url = .ok u) (plain : request.query = []) :
    ∃ r, ofRequest request = .ok r ∧
      carriedOctets r.fullUrl = u.octets.map (Prod.map Utf8.recoded Utf8.recoded) ∧
      (carriedOctets r.fullUrl = u.octets ↔
        ∀ p ∈ u.octets, Utf8.IsEncoded p.1 ∧ Utf8.IsEncoded p.2) := by
  have sent : ofRequest request = .ok (ofUrl request u) := ofRequest_eq_ok_iff.mpr ⟨u, read, rfl⟩
  have recoded : carriedOctets (ofUrl request u).fullUrl =
      u.octets.map (Prod.map Utf8.recoded Utf8.recoded) := by
    rw [carriedOctets, query_fullUrl sent, query_of_none plain]
    exact queryOctets_writeQuery_readQuery _
  refine ⟨_, sent, recoded, ?_⟩
  rw [recoded, Utf8.map_recoded_eq_self_iff]

def escapedRequest : Request :=
  { sampleRequest with url := "http://[::1]/a?q=%FF&%C3%A9=a+b", query := [] }

def escapedUrl : Url where
  scheme := "http"
  authority := some ⟨"", "", some (.ipv6 [0, 0, 0, 0, 0, 0, 0, 1]), none⟩
  path := .segments ["a"]
  query := some "q=%FF&%C3%A9=a+b"
  fragment := none

theorem read_escapedRequest : Url.read escapedRequest.url = .ok escapedUrl := by rfl

theorem octets_kept_iff_sample :
    escapedUrl.octets = [([0x71], [0xFF]), ([0xC3, 0xA9], [0x61, 0x20, 0x62])] ∧
    ∃ r, ofRequest escapedRequest = .ok r ∧ carriedOctets r.fullUrl =
      [([0x71], [0xEF, 0xBF, 0xBD]), ([0xC3, 0xA9], [0x61, 0x20, 0x62])] := by
  obtain ⟨r, sent, recoded, -⟩ := octets_kept_iff read_escapedRequest rfl
  exact ⟨by decide +kernel, r, sent, recoded.trans (by decide +kernel)⟩

theorem malformed_octets_replaced :
    ¬ ∀ (request : Request) (u : Url) (r : Outgoing), Url.read request.url = .ok u →
      u.scheme = "http" ∨ u.scheme = "https" → request.query = [] →
      ofRequest request = .ok r → carriedOctets r.fullUrl = u.octets := by
  intro kept
  have sent : ofRequest escapedRequest = .ok (ofUrl escapedRequest escapedUrl) :=
    ofRequest_eq_ok_iff.mpr ⟨escapedUrl, read_escapedRequest, rfl⟩
  have same := kept escapedRequest escapedUrl _ read_escapedRequest (.inl rfl) rfl sent
  exact absurd same (by decide +kernel)

end Outgoing

end RequestCode
