import RequestCode.Proofs.Outgoing.FullUrl

/-!
# Parts that stand on one line

Whatever the text of a URL is, its host and its path hold no line break once it has been read, and
neither does a query that was written. Main statements: `newline_not_mem_host` and
`newline_not_mem_pathAndQuery`.
-/

namespace RequestCode

open Text

namespace Url

variable {s : List Char} {u : Url} {scheme : String}

theorem kept_ne_newline : Kept fun c => c ≠ '\n' := by
  refine ⟨?_, ?_, ?_⟩ <;> rintro c h rfl <;> exact absurd h (by decide)

structure OneLine (u : Url) : Prop where
  host : ∀ c ∈ u.hostAndPort.toList, c ≠ '\n'
  path : ∀ c ∈ u.pathText.toList, c ≠ '\n'

theorem oneLine_of_readAuthority (h : readAuthority scheme s = .ok u) : u.OneLine := by
  obtain ⟨userinfo, name, host, digits, port, path, named, -, rfl⟩ :=
    eq_of_readAuthority h
  have hostOnly := kept_ne_newline.readHost named
  exact ⟨kept_ne_newline.hostAndPort (forall_mem_hostText hostOnly),
    kept_ne_newline.readPath.text (by decide)⟩

theorem oneLine_of_readFile (h : readFile s = .ok u) : u.OneLine := by
  obtain ⟨host, path, read, rfl⟩ := eq_of_readFile h
  refine ⟨?_, ?_⟩
  · have named := kept_ne_newline.readFileHost read
    exact kept_ne_newline.hostAndPort (a := ⟨"", "", _, none⟩) (forall_mem_hostText named)
  · have segments : (rootedPath (withoutLeadingEmpty (readSegments true true path))).Within
        fun c => c ≠ '\n' :=
      within_rootedPath (forall_mem_withoutLeadingEmpty kept_ne_newline.readSegments)
    exact segments.text (by decide)

theorem oneLine_readPlain : (readPlain scheme s).OneLine := by
  unfold readPlain
  split
  split
  · exact ⟨List.forall_mem_nil _, (within_rootedPath kept_ne_newline.readSegments).text (by decide)⟩
  · refine ⟨List.forall_mem_nil _, ?_⟩
    rw [pathText, withTail, Path.text, String.toList_ofList]
    apply kept_ne_newline.percentEncode
    rintro c - kept rfl
    exact absurd kept (by decide)

theorem oneLine_of_read {text : String} (h : read text = .ok u) : u.OneLine := by
  unfold read at h
  split at h
  · cases h
  · split at h
    · exact oneLine_of_readFile h
    · split at h
      · exact oneLine_of_readAuthority h
      · split at h
        · exact oneLine_of_readAuthority h
        · cases h
          exact oneLine_readPlain

theorem OneLine.settled (h : u.OneLine) : u.settled.OneLine := by
  refine ⟨?_, forall_mem_pathText_settled h.path⟩
  rw [hostAndPort, authority_settled]
  exact h.host

theorem OneLine.withoutFragment (h : u.OneLine) : u.withoutFragment.OneLine :=
  OneLine.settled ⟨h.host, h.path⟩

theorem OneLine.withPairs (h : u.OneLine) (ps : List Param) : (u.withPairs ps).OneLine := by
  unfold Url.withPairs
  split
  · exact OneLine.settled ⟨h.host, h.path⟩
  · exact ⟨h.host, h.path⟩

theorem newline_not_mem_queryText (u : Url) (ps : List Param) :
    '\n' ∉ (u.withPairs ps).queryText.toList := by
  rw [queryText, query_withPairs]
  by_cases empty : ps = []
  · rw [if_pos empty]
    exact List.not_mem_nil
  · rw [if_neg empty, String.toList_append, List.mem_append, not_or]
    exact ⟨by decide, not_mem_writeQuery (by decide) (by decide) (by decide) ps⟩

end Url

namespace Outgoing

variable {request : Request} {r : Outgoing}

theorem newline_not_mem_host (h : ofRequest request = .ok r) : '\n' ∉ r.host.toList := by
  obtain ⟨u, read, rfl⟩ := ofRequest_eq_ok_iff.mp h
  have oneLine := (Url.oneLine_of_read read).withoutFragment.withPairs (ofUrl request u).query
  intro mem
  exact oneLine.host _ mem rfl

theorem newline_not_mem_pathAndQuery (h : ofRequest request = .ok r) :
    '\n' ∉ r.pathAndQuery.toList := by
  obtain ⟨u, read, rfl⟩ := ofRequest_eq_ok_iff.mp h
  have oneLine := (Url.oneLine_of_read read).withoutFragment.withPairs (ofUrl request u).query
  intro mem
  change '\n' ∈ (_ ++ _ : String).toList at mem
  rw [String.toList_append] at mem
  rcases List.mem_append.mp mem with inPath | inQuery
  · exact oneLine.path _ inPath rfl
  · exact Url.newline_not_mem_queryText _ _ inQuery

end Outgoing

end RequestCode
