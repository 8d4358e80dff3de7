import RequestCode.Bundle
import RequestCode.Proofs.Url.Reading

/-!
# The resource of a URL

The scan for a resource takes all that stands before the query for a path, so behind the segments of
the path come the authority and the scheme. A path with a named segment is not left; without one,
the host becomes the resource. Main statement: `resource_of_address`.
-/

namespace RequestCode

open Text

/-- A segment that can name a resource: it is neither empty nor a placeholder. -/
def namesResource (segment : List Char) : Bool :=
  !segment.isEmpty && segment.head? ≠ some '\x7b'

def lastResource (path : List Char) : Option (List Char) :=
  ((pieces '/' path).filter namesResource).getLast?

/-- The text of a URL in parts. -/
structure Address where
  scheme : List Char
  authority : List Char
  path : List Char
  query : Option (List Char)
  fragment : Option (List Char)
  scheme_allowed : ∀ c ∈ scheme, Url.isSchemeChar c = true
  authority_ne_nil : authority ≠ []
  slash_not_mem_authority : '/' ∉ authority
  authority_unmarked : Url.Unmarked authority
  path_rooted : path = [] ∨ ∃ rest, path = '/' :: rest
  path_unmarked : Url.Unmarked path

namespace Address

def front (a : Address) : List Char := a.scheme ++ "://".toList ++ a.authority ++ a.path

def tail (a : Address) : List Char :=
  (a.query.map ('?' :: ·)).getD [] ++ (a.fragment.map ('#' :: ·)).getD []

def text (a : Address) : String := .ofList (a.front ++ a.tail)

/-- The scheme with its colon; no placeholder begins so. -/
def schemePart (a : Address) : List Char := a.scheme ++ [':']

theorem not_mem_scheme (a : Address) {c : Char} (foreign : Url.isSchemeChar c = false) :
    c ∉ a.scheme := by
  intro mem
  have allowed := a.scheme_allowed c mem
  rw [foreign] at allowed
  contradiction

theorem unmarked_front (a : Address) : Url.Unmarked a.front := by
  have scheme : Url.Unmarked a.scheme := by
    intro c mem
    constructor <;> rintro rfl <;> exact a.not_mem_scheme (by decide) mem
  have slashes : Url.Unmarked "://".toList := by simp [Url.Unmarked]
  exact ((scheme.append slashes).append a.authority_unmarked).append a.path_unmarked

theorem slash_not_mem_schemePart (a : Address) : '/' ∉ a.schemePart := by
  rw [schemePart, List.mem_append, not_or]
  exact ⟨a.not_mem_scheme (by decide), by decide⟩

theorem namesResource_schemePart (a : Address) : namesResource a.schemePart = true := by
  unfold namesResource schemePart
  cases scheme : a.scheme with
  | nil => decide
  | cons c rest =>
    have other : c ≠ '\x7b' := by
      rintro rfl
      have first : '\x7b' ∈ a.scheme := by
        rw [scheme]
        exact List.mem_cons_self
      exact a.not_mem_scheme (by decide) first
    simp [other]

theorem takeWhile_text (a : Address) :
    a.text.toList.takeWhile (fun c => c ≠ '?' && c ≠ '#') = a.front := by
  have stop : a.tail.takeWhile (fun c => c ≠ '?' && c ≠ '#') = [] := by
    unfold tail
    cases a.query with
    | some q => rfl
    | none => cases a.fragment <;> rfl
  rw [text, String.toList_ofList, List.takeWhile_append_of_pos, stop, List.append_nil]
  intro c mem
  simpa using a.unmarked_front c mem

/-- The path adds its segments behind the scheme, an empty text, and the authority. -/
theorem pieces_front (a : Address) :
    ∃ segments, pieces '/' a.path = [] :: segments ∧
      pieces '/' a.front = a.schemePart :: [] :: a.authority :: segments := by
  have front : a.front = a.schemePart ++ '/' :: ([] ++ '/' :: (a.authority ++ a.path)) := by
    simp [front, schemePart]
  rw [front, pieces_append _ a.slash_not_mem_schemePart, pieces_append _ List.not_mem_nil]
  rcases a.path_rooted with empty | ⟨rest, rooted⟩
  · refine ⟨[], ?_, ?_⟩
    · rw [empty]
      rfl
    · rw [empty, List.append_nil, pieces_of_not_mem a.slash_not_mem_authority]
  · refine ⟨pieces '/' rest, ?_, ?_⟩
    · rw [rooted, pieces, if_pos rfl]
    · rw [rooted, pieces_append _ a.slash_not_mem_authority]

theorem namesResource_authority_iff (a : Address) :
    namesResource a.authority = true ↔ a.authority.head? ≠ some '\x7b' := by
  simp [namesResource, a.authority_ne_nil]

def fallback (a : Address) : List Char :=
  if a.authority.head? = some '\x7b' then a.schemePart else a.authority

theorem find?_reverse_front (a : Address) :
    (pieces '/' a.front).reverse.find? namesResource =
      some ((lastResource a.path).getD a.fallback) := by
  obtain ⟨segments, path, front⟩ := a.pieces_front
  have inPath : lastResource a.path = segments.reverse.find? namesResource := by
    rw [lastResource, path, List.filter_cons_of_neg (by decide), List.getLast?_filter]
  rw [front, inPath]
  simp only [List.reverse_cons, List.find?_append, List.append_assoc]
  cases segments.reverse.find? namesResource with
  | some s => rfl
  | none =>
    have empty : namesResource [] = false := rfl
    unfold fallback
    by_cases placeholder : a.authority.head? = some '\x7b'
    · have unnamed : ¬namesResource a.authority = true := by simpa [namesResource_authority_iff]
      simp [placeholder, unnamed, empty, a.namesResource_schemePart]
    · have named : namesResource a.authority = true := a.namesResource_authority_iff.mpr placeholder
      simp [placeholder, named]

/-- The resource of a URL is the last named segment of its path, if there is one. Otherwise it is
the authority, or the scheme with its colon if the authority is a placeholder; so the path alone
decides exactly if it has a named segment. -/
theorem resource_of_address (a : Address) :
    resourceName a.text = some (.ofList ((lastResource a.path).getD a.fallback)) ∧
      (resourceName a.text = (lastResource a.path).map .ofList ↔
        ∃ segment ∈ pieces '/' a.path, namesResource segment = true) := by
  have resource : resourceName a.text = some (.ofList ((lastResource a.path).getD a.fallback)) := by
    change ((pieces '/' (a.text.toList.takeWhile fun c => c ≠ '?' && c ≠ '#')).reverse.find?
      namesResource).map String.ofList = _
    rw [takeWhile_text, find?_reverse_front]
    rfl
  refine ⟨resource, ?_⟩
  rw [resource]
  constructor
  · intro same
    cases found : lastResource a.path with
    | none =>
      rw [found] at same
      cases same
    | some segment =>
      obtain ⟨mem, named⟩ := List.mem_filter.mp (List.mem_of_getLast? found)
      exact ⟨segment, mem, named⟩
  · rintro ⟨segment, mem, named⟩
    cases found : lastResource a.path with
    | none =>
      rw [lastResource, List.getLast?_eq_none_iff, List.filter_eq_nil_iff] at found
      exact absurd named (found segment mem)
    | some last => rfl

def mixedAddress : Address where
  scheme := ['h', 't', 't', 'p']
  authority := ['a', 'p', 'i']
  path := "/v1//users/\x7bid\x7d//".toList
  query := some "q=/x".toList
  fragment := some "f/y".toList
  scheme_allowed := List.all_eq_true.mp rfl
  authority_ne_nil := List.cons_ne_nil _ _
  slash_not_mem_authority := by decide
  authority_unmarked := by simp [Url.Unmarked]
  path_rooted := .inr ⟨_, rfl⟩
  path_unmarked := by simp [Url.Unmarked]

theorem resource_of_address_sample :
    mixedAddress.text = "http://api/v1//users/\x7bid\x7d//?q=/x#f/y" ∧
      resourceName mixedAddress.text = some "users" := by
  obtain ⟨resource, -⟩ := resource_of_address mixedAddress
  have last : lastResource mixedAddress.path = some "users".toList := by decide
  rw [last, Option.getD_some, String.ofList_toList] at resource
  exact ⟨by decide, resource⟩

def bareAddress : Address where
  scheme := ['h', 't', 't', 'p']
  authority := ['a', 'p', 'i']
  path := []
  query := none
  fragment := none
  scheme_allowed := List.all_eq_true.mp rfl
  authority_ne_nil := List.cons_ne_nil _ _
  slash_not_mem_authority := by decide
  authority_unmarked := by simp [Url.Unmarked]
  path_rooted := .inl rfl
  path_unmarked := List.forall_mem_nil _

theorem authority_taken_for_resource :
    ¬∀ a : Address, resourceName a.text = (lastResource a.path).map .ofList := by
  intro from_path
  have none_found : resourceName bareAddress.text = none := from_path bareAddress
  have host : resourceName bareAddress.text = some "api" := by decide +kernel
  rw [host] at none_found
  cases none_found

end Address

end RequestCode
