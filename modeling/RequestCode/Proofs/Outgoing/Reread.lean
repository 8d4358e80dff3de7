import Mathlib.Data.List.TakeWhile
import RequestCode.Proofs.Outgoing.FullUrl

/-!
# URLs that are written and read again

What is read from the text of a URL has the scheme, the query and the fragment of the URL: they are
found where they were written, and encoding them again changes nothing. Main statement:
`tail_of_reread`.
-/

namespace RequestCode.Url

open Text

variable {s front middle tail : List Char} {u v : Url} {scheme text : String} {keep : Char → Bool}

def keepsInQuery (scheme : String) : Char → Bool :=
  if isSpecial scheme then keepSpecialQuery else keepQuery

/-- The URL has the scheme, and the query and the fragment of the text behind it. -/
structure Ends (scheme : String) (s : List Char) (u : Url) : Prop where
  scheme_eq : u.scheme = scheme
  query_eq : u.query = (cutTail s).2.1.map fun q => .ofList (percentEncode (keepsInQuery scheme) q)
  fragment_eq : u.fragment = (cutTail s).2.2.map fun f => .ofList (percentEncode keepFragment f)

theorem Ends.append (h : Unmarked front) (ends : Ends scheme s u) :
    Ends scheme (front ++ s) u := by
  obtain ⟨scheme_eq, query_eq, fragment_eq⟩ := ends
  refine ⟨scheme_eq, ?_, ?_⟩
  · rw [cutTail_append h, query_eq]
  · rw [cutTail_append h, fragment_eq]

theorem ends_of_readAuthority (h : readAuthority scheme s = .ok u) : Ends scheme s u := by
  obtain ⟨userinfo, name, host, digits, port, path, -, -, rfl⟩ := eq_of_readAuthority h
  exact ⟨rfl, rfl, rfl⟩

theorem ends_of_readFile (h : readFile s = .ok u) : Ends "file" s u := by
  obtain ⟨host, path, -, rfl⟩ := eq_of_readFile h
  exact ⟨rfl, rfl, rfl⟩

theorem ends_readPlain : Ends scheme s (readPlain scheme s) := by
  have ending (path : Path) (query fragment : Option (List Char)) (before : List Char)
      (cut : cutTail s = (before, query, fragment)) :
      Ends scheme s (withTail scheme none path query fragment) := by
    refine ⟨rfl, ?_, ?_⟩
    · rw [cut]
      rfl
    · rw [cut]
      rfl
  unfold readPlain
  split
  rename_i cut
  split <;> exact ending _ _ _ _ cut

theorem unmarked_slashes (s : List Char) :
    Unmarked (s.takeWhile fun c => c = '/' || c = '\\') := by
  intro c mem
  have slash := List.mem_takeWhile_imp mem
  constructor <;> rintro rfl <;> exact absurd slash (by decide)

theorem ends_of_read (h : read text = .ok u) :
    ∃ scheme r, cutScheme (cleaned text.toList) = some (scheme, r) ∧ Ends scheme r u := by
  unfold read at h
  split at h
  · cases h
  · rename_i scheme r cut
    refine ⟨scheme, r, cut, ?_⟩
    split at h
    · rename_i file
      rw [file]
      exact ends_of_readFile h
    · split at h
      · rw [← List.takeWhile_append_dropWhile (p := fun c => c = '/' || c = '\\') (l := r)]
        exact (ends_of_readAuthority h).append (unmarked_slashes r)
      · split at h
        · have slashes : Unmarked ['/', '/'] := by simp [Unmarked]
          exact (ends_of_readAuthority h).append slashes
        · cases h
          exact ends_readPlain

theorem percentEncode_of_kept (h : ∀ c ∈ s, keep c = true) : percentEncode keep s = s := by
  rw [percentEncode, List.flatMap_congr fun c mem => if_pos (h c mem), List.flatMap_singleton']

theorem keeps_query (scheme : String) (s : List Char) :
    ∀ c ∈ percentEncode (keepsInQuery scheme) s, keepsInQuery scheme c = true := by
  have percent : keepsInQuery scheme '%' = true := by
    unfold keepsInQuery
    split <;> decide
  have digit : ∀ d < 16, keepsInQuery scheme (upperHexDigit d) = true := by
    unfold keepsInQuery
    split <;> decide
  exact forall_mem_percentEncode percent digit fun c _ kept => kept

theorem keeps_fragment (s : List Char) :
    ∀ c ∈ percentEncode keepFragment s, keepFragment c = true :=
  forall_mem_percentEncode (by decide) (by decide) fun c _ kept => kept

/-- No character of the text is cleaned away. -/
def Solid (s : List Char) : Prop := ∀ c ∈ s, 32 < c.toNat

theorem solid_singleton (c : Char) (h : 32 < c.toNat) : Solid [c] := List.forall_mem_singleton.mpr h

theorem dropWhile_of_solid (h : Solid front) (nonempty : front ≠ []) (s : List Char) :
    (front ++ s).dropWhile (· ≤ ' ') = front ++ s := by
  cases front with
  | nil => exact absurd rfl nonempty
  | cons c front =>
    have first : ¬ c ≤ ' ' := Nat.not_le.mpr (h c List.mem_cons_self)
    rw [List.cons_append, List.dropWhile_cons_of_neg (by simpa using first)]

theorem dropWhile_append_of_solid (h : Solid tail) (nonempty : tail ≠ []) (s : List Char) :
    (s ++ tail).dropWhile (· ≤ ' ') = s.dropWhile (· ≤ ' ') ++ tail := by
  rw [List.dropWhile_append]
  split
  · rename_i all
    have whole := dropWhile_of_solid h nonempty []
    rw [List.append_nil] at whole
    rw [whole, List.isEmpty_iff.mp all, List.nil_append]
  · rfl

theorem Solid.reverse (h : Solid s) : Solid s.reverse := fun c mem => h c (List.mem_reverse.mp mem)

theorem filter_of_solid (h : Solid s) :
    (s.filter fun c => c ≠ '\t' && c ≠ '\n' && c ≠ '\r') = s := by
  rw [List.filter_eq_self]
  intro c mem
  have other (d : Char) (small : d.toNat ≤ 32) : c ≠ d := by
    rintro rfl
    exact absurd (h c mem) (Nat.not_lt.mpr small)
  simp [other '\t' (by decide), other '\n' (by decide), other '\r' (by decide)]

/-- Cleaning takes away characters of the middle only. -/
theorem exists_cleaned (hfront : Solid front) (nonempty : front ≠ []) (htail : Solid tail)
    (middle : List Char) :
    ∃ rest, rest.Sublist middle ∧
      cleaned (front ++ (middle ++ tail)) = front ++ (rest ++ tail) := by
  have stripped : ∃ rest, rest.Sublist middle ∧
      strip (· ≤ ' ') (front ++ (middle ++ tail)) = front ++ (rest ++ tail) := by
    rw [strip, dropWhile_of_solid hfront nonempty]
    by_cases last : tail = []
    · refine ⟨(middle.reverse.dropWhile (· ≤ ' ')).reverse, ?_, ?_⟩
      · simpa using (List.dropWhile_sublist (· ≤ ' ') (l := middle.reverse)).reverse
      · rw [last, List.append_nil, List.append_nil, List.reverse_append,
          dropWhile_append_of_solid hfront.reverse (by simpa using nonempty)]
        simp
    · refine ⟨middle, List.Sublist.refl middle, ?_⟩
      have ends : (front ++ (middle ++ tail)).reverse =
          tail.reverse ++ (front ++ middle).reverse := by simp
      rw [ends, dropWhile_of_solid htail.reverse (by simpa using last)]
      simp
  obtain ⟨rest, part, stripped⟩ := stripped
  refine ⟨_, (List.filter_sublist (p := fun c => c ≠ '\t' && c ≠ '\n' && c ≠ '\r')).trans part, ?_⟩
  rw [cleaned, stripped, List.filter_append, List.filter_append, filter_of_solid hfront,
    filter_of_solid htail]

theorem lower_spec (c : Char) :
    isAsciiUpper (if isAsciiUpper c then Char.ofNat (c.toNat + 32) else c) = false ∧
      (isAsciiAlpha c = true →
        isAsciiAlpha (if isAsciiUpper c then Char.ofNat (c.toNat + 32) else c) = true) := by
  have letters : ∀ n < 91, 65 ≤ n → isAsciiUpper (Char.ofNat (n + 32)) = false ∧
      isAsciiAlpha (Char.ofNat (n + 32)) = true := by decide
  split
  · rename_i upper
    simp only [isAsciiUpper, Bool.and_eq_true, decide_eq_true_eq] at upper
    have least : 65 ≤ c.toNat := upper.1
    have greatest : c.toNat ≤ 90 := upper.2
    obtain ⟨lower, alpha⟩ := letters c.toNat (by omega) least
    exact ⟨lower, fun _ => alpha⟩
  · rename_i other
    exact ⟨Bool.eq_false_iff.mpr other, id⟩

theorem asciiLower_asciiLower (s : List Char) :
    cutScheme.asciiLower (cutScheme.asciiLower s) = cutScheme.asciiLower s := by
  rw [cutScheme.asciiLower, cutScheme.asciiLower, List.map_map]
  apply List.map_congr_left
  intro c _
  rw [Function.comp_apply, if_neg (Bool.eq_false_iff.mp (lower_spec c).1)]

theorem cutScheme_again {r : List Char} (h : cutScheme s = some (scheme, r)) (rest : List Char) :
    cutScheme (scheme.toList ++ ':' :: rest) = some (scheme, rest) := by
  have allowed := isSchemeChar_of_cutScheme h
  have noColon : ':' ∉ scheme.toList := fun mem => absurd (allowed _ mem) (by decide)
  rw [cutScheme, cutFirst_append rest noColon]
  unfold cutScheme at h
  split at h
  · rename_i name _ _
    split at h
    · rename_i valid
      cases h
      rw [Bool.and_eq_true] at valid
      have first : (cutScheme.asciiLower name).head?.any isAsciiAlpha = true := by
        cases name with
        | nil => cases valid.1
        | cons c name => exact (lower_spec c).2 valid.1
      rw [String.toList_ofList] at allowed ⊢
      simp only [first, List.all_eq_true.mpr allowed, asciiLower_asciiLower, Bool.and_self, if_true]
    · cases h
  · cases h

theorem solid_of_keep (small : ∀ n < 33, keep (Char.ofNat n) = false)
    (h : ∀ c ∈ s, keep c = true) : Solid s := by
  intro c mem
  by_contra blank
  have dropped := small c.toNat (by omega)
  rw [Char.ofNat_toNat, h c mem] at dropped
  cases dropped

/-- What a URL that was read ends with: characters that stay when they are encoded again. -/
theorem kept_of_read (h : read text = .ok u) :
    (∀ q ∈ u.query, ∀ c ∈ q.toList, keepsInQuery u.scheme c = true) ∧
      ∀ f ∈ u.fragment, ∀ c ∈ f.toList, keepFragment c = true := by
  obtain ⟨scheme, r, -, rfl, query_eq, fragment_eq⟩ := ends_of_read h
  rw [query_eq, fragment_eq]
  constructor
  · intro q mem
    obtain ⟨q, -, rfl⟩ := Option.map_eq_some_iff.mp mem
    rw [String.toList_ofList]
    exact keeps_query _ q
  · intro f mem
    obtain ⟨f, -, rfl⟩ := Option.map_eq_some_iff.mp mem
    rw [String.toList_ofList]
    exact keeps_fragment f

theorem small_query (scheme : String) : ∀ n < 33, keepsInQuery scheme (Char.ofNat n) = false := by
  unfold keepsInQuery
  split <;> decide

theorem drops_sharp (scheme : String) : keepsInQuery scheme '#' = false := by
  unfold keepsInQuery
  split <;> decide

theorem solid_tailText (h : read text = .ok u) :
    Solid (u.queryText ++ u.fragmentText).toList := by
  obtain ⟨query, fragment⟩ := kept_of_read h
  rw [String.toList_append]
  refine List.forall_mem_append.mpr ⟨?_, ?_⟩
  · unfold queryText
    split
    · rename_i q found
      rw [String.toList_append]
      exact List.forall_mem_append.mpr
        ⟨solid_singleton '?' (by decide), solid_of_keep (small_query _) (query q found)⟩
    · exact List.forall_mem_nil _
  · unfold fragmentText
    split
    · rename_i f found
      rw [String.toList_append]
      exact List.forall_mem_append.mpr
        ⟨solid_singleton '#' (by decide), solid_of_keep (by decide) (fragment f found)⟩
    · exact List.forall_mem_nil _

theorem map_percentEncode {part : Option String} (h : ∀ q ∈ part, ∀ c ∈ q.toList, keep c = true) :
    (part.map (·.toList)).map (fun q => String.ofList (percentEncode keep q)) = part := by
  cases part with
  | none => rfl
  | some q =>
    simp only [Option.map_some, percentEncode_of_kept (h q rfl), String.ofList_toList]

/-- What is read from the text of a URL ends as the URL does. -/
theorem tail_of_reread (h : read text = .ok u) (again : read u.text = .ok v) :
    v.scheme = u.scheme ∧ v.query = u.query ∧ v.fragment = u.fragment := by
  obtain ⟨scheme, r, cut, ends⟩ := ends_of_read h
  obtain ⟨scheme', r', cut', ends'⟩ := ends_of_read again
  obtain ⟨query, fragment⟩ := kept_of_read h
  have named := ends.scheme_eq
  subst named
  have written : u.text.toList = (u.scheme.toList ++ [':']) ++
      (u.hierarchyText.toList ++ (u.queryText ++ u.fragmentText).toList) := by
    simp [Url.text]
  have solid : Solid (u.scheme.toList ++ [':']) :=
    List.forall_mem_append.mpr
      ⟨solid_of_keep (by decide) (isSchemeChar_of_cutScheme cut), solid_singleton ':' (by decide)⟩
  obtain ⟨path, part, cleaned_eq⟩ :=
    exists_cleaned solid (by simp) (solid_tailText h) u.hierarchyText.toList
  rw [written, cleaned_eq, List.append_assoc, List.singleton_append, cutScheme_again cut] at cut'
  cases cut'
  have unmarked : Unmarked path := fun c mem =>
    (clean_of_read h).unmarked_hierarchyText c (part.subset mem)
  have noSharp : ∀ q ∈ u.query, '#' ∉ q.toList := by
    intro q found mem
    have kept := query q found '#' mem
    rw [drops_sharp] at kept
    cases kept
  obtain ⟨scheme_eq, query_eq, fragment_eq⟩ := ends'
  rw [cutTail_append unmarked, cutTail_tailText noSharp] at query_eq fragment_eq
  exact ⟨scheme_eq, query_eq.trans (map_percentEncode query),
    fragment_eq.trans (map_percentEncode fragment)⟩

end RequestCode.Url
