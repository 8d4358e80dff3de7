import RequestCode.Proofs.Traversal
import RequestCode.Proofs.Url.Query
import RequestCode.Url.Reader

/-!
# What reading makes sure of

A URL that is read with a special scheme has a host and a path of segments, and neither holds a
mark that would begin a query or a fragment. Main statement: `rooted_of_read`.
-/

namespace RequestCode.Url

open Text

/-- The text holds neither the mark of a query nor that of a fragment. -/
def Unmarked (s : List Char) : Prop := ∀ c ∈ s, c ≠ '?' ∧ c ≠ '#'

variable {s t : List Char} {scheme : String} {u : Url}

theorem Unmarked.append (hs : Unmarked s) (ht : Unmarked t) : Unmarked (s ++ t) :=
  List.forall_mem_append.mpr ⟨hs, ht⟩

/-- A class of characters that reading a URL does not leave: all that hosts and paths may hold is
in it. -/
structure Kept (P : Char → Prop) : Prop where
  path : ∀ c, keepPath c = true → P c
  name : ∀ c, Idna.isForbidden c = false → P c
  otherHost : ∀ c, isForbiddenInHost c = false → P c

theorem kept_unmarked : Kept fun c => c ≠ '?' ∧ c ≠ '#' := by
  refine ⟨?_, ?_, ?_⟩ <;> intro c h <;> constructor <;> rintro rfl <;> exact absurd h (by decide)

/-- What encoding gives are characters that it keeps, and escapes. -/
theorem forall_mem_percentEncode {P : Char → Prop} {keep : Char → Bool} (percent : P '%')
    (digit : ∀ d < 16, P (upperHexDigit d)) (h : ∀ c ∈ s, keep c = true → P c) :
    ∀ c ∈ percentEncode keep s, P c := by
  intro c mem
  obtain ⟨d, hd, mem⟩ := List.mem_flatMap.mp mem
  split at mem
  · rename_i kept
    rw [List.mem_singleton] at mem
    subst mem
    exact h c hd kept
  · obtain ⟨b, hb, mem⟩ := List.mem_flatMap.mp mem
    have bound := octet_lt hb
    simp only [percentOctet, List.mem_cons, List.not_mem_nil, or_false] at mem
    rcases mem with rfl | rfl | rfl
    · exact percent
    · exact digit _ (by omega)
    · exact digit _ (by omega)

section Kept

variable {P : Char → Prop} (hP : Kept P)
include hP

omit hP in
theorem forall_mem_joined {sep : Char} {parts : List (List Char)} (hsep : P sep)
    (h : ∀ p ∈ parts, ∀ c ∈ p, P c) : ∀ c ∈ joined sep parts, P c := by
  intro c mem
  rcases mem_joined mem with rfl | ⟨p, hp, inPart⟩
  · exact hsep
  · exact h p hp c inPart

theorem Kept.digits {base : Nat} (hbase : 2 ≤ base ∧ base ≤ 16) (n : Nat) :
    ∀ c ∈ digits lowerHexDigit base n, P c := by
  have each : ∀ d < 16, keepPath (lowerHexDigit d) = true := by decide
  have digit (d : Nat) (hd : d < base) : ∀ c ∈ [lowerHexDigit d], P c :=
    List.forall_mem_singleton.mpr (hP.path _ (each d (by omega)))
  induction n using Nat.strongRecOn with
  | ind n ih =>
    rw [Text.digits]
    split
    · exact digit n (by omega)
    · have less : n / base < n := Nat.div_lt_self (by omega) (by omega)
      exact List.forall_mem_append.mpr ⟨ih _ less, digit _ (Nat.mod_lt n (by omega))⟩

theorem Kept.decimal (n : Nat) : ∀ c ∈ decimal n, P c := hP.digits (by decide) n

theorem Kept.ipv4Chars (n : Nat) : ∀ c ∈ ipv4Chars n, P c :=
  forall_mem_joined (hP.path _ (by decide)) (List.forall_mem_map.mpr fun n _ => hP.decimal n)

theorem Kept.ipv6Chars (pieces : List Nat) : ∀ c ∈ ipv6Chars pieces, P c := by
  have colon : P ':' := hP.path _ (by decide)
  have written (ns : List Nat) : ∀ c ∈ joined ':' (ns.map lowerHex), P c :=
    forall_mem_joined colon (List.forall_mem_map.mpr fun n _ => hP.digits (by decide) n)
  have colons : ∀ c ∈ [':', ':'], P c := by simp [colon]
  unfold Url.ipv6Chars
  split
  · exact List.forall_mem_append.mpr ⟨List.forall_mem_append.mpr ⟨written _, colons⟩, written _⟩
  · exact written _

/-- Encoding leaves the class only if it keeps a character outside it. -/
theorem Kept.percentEncode {keep : Char → Bool} (h : ∀ c ∈ s, keep c = true → P c) :
    ∀ c ∈ percentEncode keep s, P c := by
  have digit : ∀ d < 16, keepPath (upperHexDigit d) = true := by decide
  exact forall_mem_percentEncode (hP.path _ (by decide)) (fun d hd => hP.path _ (digit d hd)) h

theorem Kept.toAscii {name : List Char} (h : Idna.toAscii s = some name) : ∀ c ∈ name, P c := by
  unfold Idna.toAscii at h
  simp only [Option.bind_eq_bind, Option.bind_eq_some_iff] at h
  obtain ⟨mapped, -, labels, -, h⟩ := h
  split at h
  · simp at h
  · split at h
    · simp at h
    · rename_i allowed
      cases h
      rw [Bool.not_eq_true, List.any_eq_false] at allowed
      intro c mem
      exact hP.name c (by simpa using allowed c mem)

theorem Kept.readIpv6 {host : Host} (h : readIpv6 s = .ok host) : ∀ c ∈ host.text.toList, P c := by
  unfold Url.readIpv6 at h
  split at h
  · cases h
    have opening : ∀ c ∈ ['['], P c := List.forall_mem_singleton.mpr (hP.path _ (by decide))
    have closing : ∀ c ∈ [']'], P c := List.forall_mem_singleton.mpr (hP.path _ (by decide))
    rw [Host.text, String.toList_ofList]
    exact List.forall_mem_append.mpr
      ⟨List.forall_mem_append.mpr ⟨opening, hP.ipv6Chars _⟩, closing⟩
  · cases h

theorem Kept.readSpecialHost {host : Host} (h : readSpecialHost s = .ok host) :
    ∀ c ∈ host.text.toList, P c := by
  unfold Url.readSpecialHost at h
  split at h
  · exact hP.readIpv6 h
  · split at h
    · cases h
    · cases h
    · rename_i name _ hname
      split at h
      · split at h
        · cases h
          rw [Host.text, String.toList_ofList]
          exact hP.ipv4Chars _
        · cases h
      · cases h
        rw [Host.text, String.toList_ofList]
        exact hP.toAscii hname

theorem Kept.readOtherHost {host : Option Host} (h : readOtherHost s = .ok host) :
    ∀ named ∈ host, ∀ c ∈ named.text.toList, P c := by
  unfold Url.readOtherHost at h
  split at h
  · cases h
    exact fun _ none => nomatch none
  · obtain ⟨address, read, rfl⟩ := map_eq_ok_iff.mp h
    rintro _ ⟨⟩
    exact hP.readIpv6 read
  · split at h
    · cases h
    · rename_i allowed
      cases h
      rintro _ ⟨⟩
      rw [Bool.not_eq_true, List.any_eq_false] at allowed
      rw [Host.text, String.toList_ofList]
      exact hP.percentEncode fun c mem _ => hP.otherHost c (by simpa using allowed c mem)

end Kept

/-- A port that is kept is not the one the scheme implies. -/
theorem ne_of_readPort {port : Nat} (h : readPort scheme s = .ok (some port)) :
    impliedPort? scheme ≠ some port := by
  unfold readPort at h
  split at h
  · cases h
  · split at h
    · split at h
      · cases h
      · simp only at h
        split at h
        · cases h
        · split at h
          · cases h
          · rename_i explicit
            cases h
            exact explicit
    · cases h

variable {file special : Bool} {done segments : List (List Char)}

section Segments

variable {P : Char → Prop}

theorem forall_mem_parent (h : ∀ d ∈ done, ∀ c ∈ d, P c) : ∀ d ∈ parent done, ∀ c ∈ d, P c := by
  unfold parent
  split
  · exact h
  · split
    · exact h
    · exact (List.forall_mem_cons.mp h).2

theorem forall_mem_child (colon : P ':') (hs : ∀ c ∈ s, P c) (h : ∀ d ∈ done, ∀ c ∈ d, P c) :
    ∀ d ∈ child file s done, ∀ c ∈ d, P c := by
  unfold child
  split
  · refine List.forall_mem_cons.mpr ⟨?_, h⟩
    split
    · exact List.forall_mem_cons.mpr ⟨hs _ List.mem_cons_self, by simpa using colon⟩
    · exact hs
  · exact List.forall_mem_cons.mpr ⟨hs, h⟩

theorem forall_mem_resolveDots (colon : P ':') (hdone : ∀ d ∈ done, ∀ c ∈ d, P c)
    (hsegments : ∀ d ∈ segments, ∀ c ∈ d, P c) :
    ∀ d ∈ resolveDots file done segments, ∀ c ∈ d, P c := by
  have reversed {segments : List (List Char)} (h : ∀ d ∈ segments, ∀ c ∈ d, P c) :
      ∀ d ∈ segments.reverse, ∀ c ∈ d, P c := fun d hd => h d (List.mem_reverse.mp hd)
  have ended {segments : List (List Char)} (h : ∀ d ∈ segments, ∀ c ∈ d, P c) :
      ∀ d ∈ [] :: segments, ∀ c ∈ d, P c := List.forall_mem_cons.mpr ⟨List.forall_mem_nil _, h⟩
  fun_induction resolveDots file done segments with
  | case1 => exact reversed hdone
  | case2 => exact reversed (ended (forall_mem_parent hdone))
  | case3 => exact reversed (ended hdone)
  | case4 => exact reversed (forall_mem_child colon (List.forall_mem_cons.mp hsegments).1 hdone)
  | case5 _ _ _ _ _ ih => exact ih (forall_mem_parent hdone) (List.forall_mem_cons.mp hsegments).2
  | case6 _ _ _ _ _ _ ih => exact ih hdone (List.forall_mem_cons.mp hsegments).2
  | case7 _ _ _ _ _ _ ih =>
    obtain ⟨first, rest⟩ := List.forall_mem_cons.mp hsegments
    exact ih (forall_mem_child colon first hdone) rest

theorem Kept.readSegments (hP : Kept P) : ∀ d ∈ readSegments file special s, ∀ c ∈ d, P c :=
  forall_mem_resolveDots (hP.path _ (by decide)) (List.forall_mem_nil _)
    (List.forall_mem_map.mpr fun _ _ => hP.percentEncode fun c _ => hP.path c)

def Path.Within (P : Char → Prop) (p : Path) : Prop :=
  ∃ parts, p = .segments parts ∧ ∀ part ∈ parts, ∀ c ∈ part.toList, P c

theorem within_rootedPath (h : ∀ d ∈ segments, ∀ c ∈ d, P c) : (rootedPath segments).Within P :=
  ⟨_, rfl, List.forall_mem_map.mpr fun d hd => by simpa using h d hd⟩

theorem Kept.readPath (hP : Kept P) : (readPath special s).Within P := by
  unfold Url.readPath
  split
  · split
    · exact within_rootedPath (by simp)
    · exact ⟨[], rfl, List.forall_mem_nil _⟩
  · split <;> exact within_rootedPath hP.readSegments

theorem forall_mem_withoutLeadingEmpty (h : ∀ d ∈ segments, ∀ c ∈ d, P c) :
    ∀ d ∈ withoutLeadingEmpty segments, ∀ c ∈ d, P c := by
  unfold withoutLeadingEmpty
  split
  · simp
  · rename_i rest _
    exact fun d hd => h d ((List.dropWhile_sublist _).subset hd)

theorem Path.Within.text {p : Path} (h : p.Within P) (slash : P '/') :
    ∀ c ∈ p.text.toList, P c := by
  obtain ⟨parts, rfl, within⟩ := h
  rw [Path.text, String.toList_join]
  intro c mem
  obtain ⟨segment, inSegments, inSegment⟩ := List.mem_flatMap.mp mem
  obtain ⟨part, inParts, rfl⟩ := List.mem_map.mp inSegments
  rw [String.toList_append] at inSegment
  rcases List.mem_append.mp inSegment with inMark | inPart
  · rw [List.mem_singleton.mp inMark]
    exact slash
  · exact within part inParts c inPart

end Segments

def Path.Unmarked (p : Path) : Prop :=
  ∃ parts, p = .segments parts ∧ ∀ part ∈ parts, Url.Unmarked part.toList

/-- The URL has an authority and a path of segments; neither holds a mark of a query or a
fragment, and no port is named that goes without saying. -/
structure Rooted (u : Url) : Prop where
  authority : ∃ a, u.authority = some a ∧ Unmarked a.hostText.toList ∧
    ∀ port, a.port = some port → impliedPort? u.scheme ≠ some port
  path : u.path.Unmarked

def readHost (scheme : String) (name : List Char) : Except Error (Option Host) :=
  if isSpecial scheme then (readSpecialHost name).map some else readOtherHost name

/-- The parts that a URL with an authority is put together from. -/
theorem eq_of_readAuthority (h : readAuthority scheme s = .ok u) :
    ∃ userinfo name host digits port path,
      readHost scheme name = .ok host ∧ readPort scheme digits = .ok port ∧
        u = withTail scheme
          (some ⟨(readUserinfo userinfo).1, (readUserinfo userinfo).2, host, port⟩)
          (readPath (isSpecial scheme) path) (cutTail s).2.1 (cutTail s).2.2 := by
  unfold readAuthority at h
  extract_lets special at h
  split at h
  rename_i path query fragment cut
  rw [cut]
  extract_lets authority path finish at h
  have reached : ∃ p, finish p = .ok u := by
    clear_value finish
    split at h
    · rw [pure_bind] at h
      exact ⟨_, h⟩
    · split at h
      · cases h
      · rw [pure_bind] at h
        exact ⟨_, h⟩
    · rw [pure_bind] at h
      exact ⟨_, h⟩
  obtain ⟨⟨userinfo, hostAndPort⟩, hp⟩ := reached
  simp only [finish] at hp
  split at hp
  · rename_i isSpecial
    split at hp
    · cases hp
    · obtain ⟨host, hhost, hp⟩ := bind_eq_ok_iff.mp hp
      split at hp
      · cases hp
      · obtain ⟨port, hport, hp⟩ := bind_eq_ok_iff.mp hp
        split at hp
        · cases hp
        · cases hp
          exact ⟨userinfo, _, host, _, port, _, (if_pos isSpecial).trans hhost, hport, rfl⟩
  · rename_i notSpecial
    obtain ⟨host, hhost, hp⟩ := bind_eq_ok_iff.mp hp
    split at hp
    · cases hp
    · obtain ⟨port, hport, hp⟩ := bind_eq_ok_iff.mp hp
      split at hp
      · cases hp
      · cases hp
        exact ⟨userinfo, _, host, _, port, _, (if_neg notSpecial).trans hhost, hport, rfl⟩

theorem Kept.readHost {P : Char → Prop} (hP : Kept P) {host : Option Host}
    (h : readHost scheme s = .ok host) : ∀ named ∈ host, ∀ c ∈ named.text.toList, P c := by
  unfold Url.readHost at h
  split at h
  · obtain ⟨named, read, rfl⟩ := map_eq_ok_iff.mp h
    rintro _ ⟨⟩
    exact hP.readSpecialHost read
  · exact hP.readOtherHost h

theorem forall_mem_hostText {P : Char → Prop} {a : Authority}
    (h : ∀ host ∈ a.host, ∀ c ∈ host.text.toList, P c) : ∀ c ∈ a.hostText.toList, P c := by
  unfold Authority.hostText
  cases hhost : a.host with
  | none => exact List.forall_mem_nil _
  | some host => exact h host hhost

theorem of_readAuthority (h : readAuthority scheme s = .ok u) : u.scheme = scheme ∧ u.Rooted := by
  obtain ⟨userinfo, name, host, digits, port, path, named, explicit, rfl⟩ :=
    eq_of_readAuthority h
  refine ⟨rfl, ⟨_, rfl, forall_mem_hostText (kept_unmarked.readHost named), ?_⟩,
    kept_unmarked.readPath⟩
  rintro p rfl
  exact ne_of_readPort explicit

/-- The parts that the URL of a file is put together from. -/
theorem eq_of_readFile (h : readFile s = .ok u) :
    ∃ host path, (∀ named ∈ host, ∃ name, readSpecialHost name = .ok named) ∧
      u = withTail "file" (some ⟨"", "", host, none⟩)
        (rootedPath (withoutLeadingEmpty (readSegments true true path)))
        (cutTail s).2.1 (cutTail s).2.2 := by
  unfold readFile at h
  split at h
  rename_i path query fragment cut
  rw [cut]
  extract_lets finish at h
  have noHost : ∀ host ∈ (none : Option Host), ∃ name, readSpecialHost name = .ok host := by simp
  have reached : ∃ p, (∀ named ∈ p.1, ∃ name, readSpecialHost name = .ok named) ∧
      finish p = .ok u := by
    clear_value finish
    split at h
    · split at h
      · rw [pure_bind] at h
        exact ⟨_, noHost, h⟩
      · obtain ⟨host, hhost, h⟩ := bind_eq_ok_iff.mp h
        split at h
        · rw [pure_bind] at h
          exact ⟨_, noHost, h⟩
        · rw [pure_bind] at h
          refine ⟨_, ?_, h⟩
          rintro named ⟨⟩
          exact ⟨_, hhost⟩
    · rw [pure_bind] at h
      exact ⟨_, noHost, h⟩
    · rw [pure_bind] at h
      exact ⟨_, noHost, h⟩
  obtain ⟨⟨host, path⟩, read, hp⟩ := reached
  simp only [finish] at hp
  cases hp
  refine ⟨_, path, ?_, rfl⟩
  split
  · exact noHost
  · exact read

theorem Kept.readFileHost {P : Char → Prop} (hP : Kept P) {host : Option Host}
    (h : ∀ named ∈ host, ∃ name, Url.readSpecialHost name = .ok named) :
    ∀ named ∈ host, ∀ c ∈ named.text.toList, P c := by
  intro named mem
  obtain ⟨name, read⟩ := h named mem
  exact hP.readSpecialHost read

theorem rooted_of_readFile (h : readFile s = .ok u) : u.Rooted := by
  obtain ⟨host, path, read, rfl⟩ := eq_of_readFile h
  exact ⟨⟨_, rfl, forall_mem_hostText (kept_unmarked.readFileHost read), fun _ h => nomatch h⟩,
    within_rootedPath (forall_mem_withoutLeadingEmpty kept_unmarked.readSegments)⟩

theorem scheme_readPlain : (readPlain scheme s).scheme = scheme := by
  unfold readPlain
  split
  split <;> rfl

/-- Every URL of a special scheme is rooted. -/
theorem rooted_of_read {text : String} (h : read text = .ok u)
    (special : isSpecial u.scheme = true) : u.Rooted := by
  unfold read at h
  split at h
  · cases h
  · rename_i scheme rest _
    split at h
    · exact rooted_of_readFile h
    · split at h
      · exact (of_readAuthority h).2
      · rename_i notSpecial
        split at h
        · exact (of_readAuthority h).2
        · cases h
          rw [scheme_readPlain] at special
          exact absurd special notSpecial

end RequestCode.Url
