import RequestCode.Url.Form

/-!
# Queries are read back

The pairs of a query are read as they were written, whatever their texts hold. Main statement:
`readQuery_writeQuery`.
-/

namespace RequestCode.Url

open Text

variable {c : Char} {s : List Char}

theorem octet_lt {b : Nat} (h : b ∈ Utf8.encodeChar c) : b < 256 := by
  have valid := Utf8.toNat_valid c
  unfold Utf8.encodeChar at h
  grind

theorem upperHexDigit_spec : ∀ d < 16,
    hexValue? (upperHexDigit d) = some d ∧ keepForm (upperHexDigit d) = true := by
  decide

/-- A character that stands for itself in a query is one octet, and neither a blank nor part of
an escape. -/
theorem octets_of_keepForm (h : keepForm c = true) :
    Utf8.encodeChar c = [c.toNat] ∧ c.toNat ≠ 37 ∧ plusToBlank c = c := by
  have noPercent : c ≠ '%' := by
    rintro rfl
    exact absurd h (by decide)
  have noPlus : c ≠ '+' := by
    rintro rfl
    exact absurd h (by decide)
  have ascii : c.toNat < 0x80 := by
    simp only [keepForm, isAsciiAlphanumeric, isAsciiAlpha, isAsciiLower, isAsciiUpper, isDecimal,
      Char.le_def, Bool.or_eq_true, Bool.and_eq_true, decide_eq_true_eq] at h
    rcases h with (((((lower | upper) | digit) | rfl) | rfl) | rfl) | rfl
    · exact Nat.lt_of_le_of_lt (UInt32.le_iff_toNat_le.mp lower.2) (by decide)
    · exact Nat.lt_of_le_of_lt (UInt32.le_iff_toNat_le.mp upper.2) (by decide)
    · exact Nat.lt_of_le_of_lt (UInt32.le_iff_toNat_le.mp digit.2) (by decide)
    all_goals decide
  refine ⟨by simp [Utf8.encodeChar, ascii], fun escape => noPercent ?_, if_neg noPlus⟩
  rw [← Char.ofNat_toNat c, escape]

theorem percentDecode_cons {b : Nat} (h : b ≠ 37) (r : List Nat) :
    percentDecode (b :: r) = b :: percentDecode r := by
  rw [percentDecode.eq_def]
  split
  · contradiction
  · rename_i heq
    cases heq
    exact absurd rfl h
  · rename_i heq
    cases heq
    rfl

theorem formOctets_append_kept (h : keepForm c = true) (t : List Char) :
    formOctets (c :: t) = c.toNat :: formOctets t := by
  obtain ⟨octet, noEscape, noBlank⟩ := octets_of_keepForm h
  simp only [formOctets, List.map_cons, noBlank, Utf8.encode, List.flatMap_cons, octet]
  exact percentDecode_cons noEscape _

theorem formOctets_percentOctet {b : Nat} (h : b < 256) (t : List Char) :
    formOctets (percentOctet b ++ t) = b :: formOctets t := by
  obtain ⟨highValue, highKept⟩ := upperHexDigit_spec (b / 16) (by omega)
  obtain ⟨lowValue, lowKept⟩ := upperHexDigit_spec (b % 16) (by omega)
  obtain ⟨highOctet, -, highPlain⟩ := octets_of_keepForm highKept
  obtain ⟨lowOctet, -, lowPlain⟩ := octets_of_keepForm lowKept
  have mark : Utf8.encodeChar (plusToBlank '%') = [37] := rfl
  have escape : formOctets (percentOctet b ++ t) =
      percentDecode (37 :: (upperHexDigit (b / 16)).toNat :: (upperHexDigit (b % 16)).toNat ::
        Utf8.encode (t.map plusToBlank)) := by
    simp [formOctets, percentOctet, mark, highPlain, lowPlain, Utf8.encode, highOctet, lowOctet]
  rw [escape, percentDecode, Char.ofNat_toNat, Char.ofNat_toNat, highValue, lowValue]
  have whole : b / 16 * 16 + b % 16 = b := by omega
  simp [whole, formOctets]

theorem formOctets_percentOctets {bs : List Nat} (h : ∀ b ∈ bs, b < 256) (t : List Char) :
    formOctets (bs.flatMap percentOctet ++ t) = bs ++ formOctets t := by
  induction bs with
  | nil => rfl
  | cons b bs ih =>
    rw [List.forall_mem_cons] at h
    rw [List.flatMap_cons, List.append_assoc, formOctets_percentOctet h.1, ih h.2]
    rfl

theorem formOctets_formChar (c : Char) (t : List Char) :
    formOctets (formChar c ++ t) = Utf8.encodeChar c ++ formOctets t := by
  unfold formChar
  split
  · rename_i kept
    rw [(octets_of_keepForm kept).1]
    exact formOctets_append_kept kept t
  · split
    · rename_i blank
      subst blank
      exact percentDecode_cons (by decide) _
    · exact formOctets_percentOctets (fun b => octet_lt) t

theorem formOctets_formEncode (s : List Char) : formOctets (formEncode s) = Utf8.encode s := by
  induction s with
  | nil => rfl
  | cons c s ih =>
    rw [formEncode, List.flatMap_cons, formOctets_formChar, Utf8.encode, List.flatMap_cons]
    exact congrArg _ ih

@[simp] theorem formDecode_formEncode (s : List Char) : formDecode (formEncode s) = s := by
  rw [formDecode, formOctets_formEncode, Utf8.decode_encode]

def isFormChar (c : Char) : Bool := keepForm c || c = '+' || c = '%'

theorem all_isFormChar_formEncode (s : List Char) : (formEncode s).all isFormChar = true := by
  have octet (b : Nat) (h : b < 256) : (percentOctet b).all isFormChar = true := by
    have high := (upperHexDigit_spec (b / 16) (by omega)).2
    have low := (upperHexDigit_spec (b % 16) (by omega)).2
    simp [percentOctet, isFormChar, high, low]
  have char (c : Char) : (formChar c).all isFormChar = true := by
    unfold formChar
    split
    · rename_i kept
      simp [isFormChar, kept]
    · split
      · decide
      · rw [percentChar, List.all_flatMap, List.all_eq_true]
        exact fun b hb => octet b (octet_lt hb)
  rw [formEncode, List.all_flatMap, List.all_eq_true]
  exact fun c _ => char c

theorem not_mem_formEncode (h : isFormChar c = false) : c ∉ formEncode s := by
  intro mem
  have formChar := List.all_eq_true.mp (all_isFormChar_formEncode s) c mem
  rw [h] at formChar
  contradiction

theorem cutFirst_writePair (p : Param) : cutFirst '=' (writePair p) =
    some (formEncode p.name.toList, formEncode p.value.toList) :=
  cutFirst_append _ (not_mem_formEncode (by decide))

theorem readPair_writePair (p : Param) : readPair (writePair p) = p := by
  simp [readPair, cutFirst_writePair]

theorem not_mem_writePair (h : isFormChar c = false) (hc : c ≠ '=') (p : Param) :
    c ∉ writePair p := by
  simp [writePair, not_mem_formEncode h, hc]

theorem pieces_joined {sep : Char} {parts : List (List Char)} (hne : parts ≠ [])
    (h : ∀ p ∈ parts, sep ∉ p) : pieces sep (joined sep parts) = parts := by
  induction parts using joined.induct with
  | case1 => contradiction
  | case2 p => exact pieces_of_not_mem (h p List.mem_cons_self)
  | case3 p q parts ih =>
    rw [List.forall_mem_cons] at h
    rw [joined, pieces_append _ h.1, ih (List.cons_ne_nil q parts) h.2]

theorem mem_joined {sep : Char} {parts : List (List Char)} (h : c ∈ joined sep parts) :
    c = sep ∨ ∃ p ∈ parts, c ∈ p := by
  induction parts using joined.induct with
  | case1 => simp [joined] at h
  | case2 p => exact .inr ⟨p, List.mem_cons_self, h⟩
  | case3 p q parts ih =>
    rw [joined, List.mem_append, List.mem_cons] at h
    rcases h with inFirst | rfl | inRest
    · exact .inr ⟨p, List.mem_cons_self, inFirst⟩
    · exact .inl rfl
    · refine (ih inRest).imp_right ?_
      rintro ⟨part, mem, inPart⟩
      exact ⟨part, List.mem_cons_of_mem p mem, inPart⟩

/-- A query that was written is cut where it was put together. -/
theorem pieces_writeQuery (ps : List Param) :
    (pieces '&' (writeQuery ps).toList).filter (!·.isEmpty) = ps.map writePair := by
  by_cases empty : ps = []
  · subst empty
    rfl
  have separated : ∀ part ∈ ps.map writePair, '&' ∉ part :=
    List.forall_mem_map.mpr fun p _ => not_mem_writePair (by decide) (by decide) p
  have nonempty : ∀ part ∈ ps.map writePair, (!part.isEmpty) = true :=
    List.forall_mem_map.mpr fun p _ => by simp [writePair]
  rw [writeQuery, String.toList_ofList, pieces_joined (by simpa using empty) separated,
    List.filter_eq_self.mpr nonempty]

/-- Reading a query gives back the pairs it was written for, in order and with repetitions. -/
theorem readQuery_writeQuery (ps : List Param) : readQuery (writeQuery ps) = ps := by
  rw [readQuery, pieces_writeQuery, List.map_map]
  exact (List.map_congr_left fun q _ => readPair_writePair q).trans (List.map_id _)

theorem not_mem_writeQuery (h : isFormChar c = false) (hc : c ≠ '=') (ha : c ≠ '&')
    (ps : List Param) : c ∉ (writeQuery ps).toList := by
  rw [writeQuery, String.toList_ofList]
  intro mem
  rcases mem_joined mem with rfl | ⟨part, inParts, inPart⟩
  · contradiction
  · obtain ⟨p, -, rfl⟩ := List.mem_map.mp inParts
    exact not_mem_writePair h hc p inPart

end RequestCode.Url
