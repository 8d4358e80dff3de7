import RequestCode.Proofs.Outgoing.Fields
import RequestCode.Proofs.Url.Reading

/-!
# Schemes

The scheme of a URL that was read is made of letters, digits, and three marks, and an outgoing
request has the scheme of its URL. So a snippet may show it without quoting it.
-/

namespace RequestCode

namespace Url

open Text

variable {s : List Char} {u : Url} {scheme : String}

theorem isSchemeChar_lower {c : Char} (h : isSchemeChar c = true) :
    isSchemeChar (if isAsciiUpper c then Char.ofNat (c.toNat + 32) else c) = true := by
  have letters : ∀ n < 91, 65 ≤ n → isSchemeChar (Char.ofNat (n + 32)) = true := by decide
  split
  · rename_i upper
    simp only [isAsciiUpper, Bool.and_eq_true, decide_eq_true_eq] at upper
    have least : 65 ≤ c.toNat := upper.1
    have greatest : c.toNat ≤ 90 := upper.2
    exact letters c.toNat (by omega) least
  · exact h

theorem isSchemeChar_of_cutScheme {r : List Char} (h : cutScheme s = some (scheme, r)) :
    ∀ c ∈ scheme.toList, isSchemeChar c = true := by
  unfold cutScheme at h
  split at h
  · split at h
    · rename_i allowed
      cases h
      rw [Bool.and_eq_true, List.all_eq_true] at allowed
      rw [String.toList_ofList, cutScheme.asciiLower]
      exact List.forall_mem_map.mpr fun c hc => isSchemeChar_lower (allowed.2 c hc)
    · cases h
  · cases h

theorem scheme_of_readFile (h : readFile s = .ok u) : u.scheme = "file" := by
  obtain ⟨host, path, -, rfl⟩ := eq_of_readFile h
  rfl

theorem isSchemeChar_of_read {text : String} (h : read text = .ok u) :
    ∀ c ∈ u.scheme.toList, isSchemeChar c = true := by
  unfold read at h
  split at h
  · cases h
  · rename_i scheme rest cut
    have allowed := isSchemeChar_of_cutScheme cut
    split at h
    · rename_i file
      rw [scheme_of_readFile h, ← file]
      exact allowed
    · split at h
      · rw [(of_readAuthority h).1]
        exact allowed
      · split at h
        · rw [(of_readAuthority h).1]
          exact allowed
        · cases h
          rw [scheme_readPlain]
          exact allowed

@[simp] theorem scheme_settled (u : Url) : u.settled.scheme = u.scheme := by
  unfold settled
  split <;> rfl

@[simp] theorem scheme_withoutFragment (u : Url) : u.withoutFragment.scheme = u.scheme :=
  scheme_settled _

@[simp] theorem scheme_withPairs (u : Url) (ps : List Param) :
    (u.withPairs ps).scheme = u.scheme := by
  unfold withPairs
  split
  · exact scheme_settled _
  · rfl

end Url

theorem Outgoing.isSchemeChar_scheme {request : Request} {r : Outgoing}
    (h : ofRequest request = .ok r) : ∀ c ∈ r.scheme.toList, Url.isSchemeChar c = true := by
  obtain ⟨u, read, rfl⟩ := ofRequest_eq_ok_iff.mp h
  have same : (ofUrl request u).scheme = u.scheme := by simp [ofUrl]
  rw [same]
  exact Url.isSchemeChar_of_read read

end RequestCode
