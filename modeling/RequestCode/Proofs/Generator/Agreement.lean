import RequestCode.Proofs.Generator.Failure
import RequestCode.Proofs.Outgoing.Reread

/-!
# Live requests and direct ones

The live path collects the pairs of a URL by name and merges them into the URL as it is read again.
What it prints agrees with rendering the URL directly if no name is repeated; of a repeated name it
prints the last value only. Main statement: `live_of_direct`.
-/

namespace RequestCode.Generator

variable {s : Source} {u v : Url}

theorem pairs_of_reread {text : String} (read : Url.read text = .ok u)
    (again : Url.read u.text = .ok v) : v.pairs = u.pairs := by
  rw [Url.pairs, Url.pairs, (Url.tail_of_reread read again).2.1]

theorem live_query (s : Source) (same : v.pairs = u.pairs) :
    (Outgoing.ofUrl (liveRequest s u) v).query = collected u.pairs := by
  rw [← same]
  apply Outgoing.query_of_collected
  rw [same]
  exact Params.toList_ofPairs u.pairs

theorem direct_query (s : Source) (same : v.pairs = u.pairs) :
    (Outgoing.ofUrl (directRequest s u) v).query = u.pairs := by
  rw [← same]
  exact Outgoing.query_of_none rfl

/-- Both paths send the same request exactly if the URL repeats no name. -/
theorem live_eq_direct_iff (same : v.pairs = u.pairs) :
    Outgoing.ofUrl (liveRequest s u) v = Outgoing.ofUrl (directRequest s u) v ↔
      (u.pairs.map (·.name)).Nodup := by
  rw [← collected_eq_self_iff]
  constructor
  · intro equal
    rw [← live_query s same, equal, direct_query s same]
  · intro nothing_lost
    change Outgoing.ofUrl { directRequest s u with query := (Params.ofPairs u.pairs).toList } v = _
    apply Outgoing.ofUrl_congr_query
    change mergeQuery v.pairs (Params.ofPairs u.pairs).toList = v.pairs
    rw [same, Params.toList_ofPairs, mergeQuery_collected, nothing_lost]

/-- A URL that cannot be read again fails both paths. Otherwise a live request is rendered with each
name of its URL once, and rendering the URL directly with every pair of it; the texts agree if no
name is repeated. -/
theorem live_of_direct {t : Target} {target : Resolved}
    (read : Url.read (fieldText s "url") = .ok u) (known : resolve? t.id = some target) :
    (∃ cause, Url.read u.text = .error cause ∧
      generate u.text (fieldText s "method") [t.id] none (some (liveHeaders s))
        (some (fieldText s "body")) = .error (.url cause) ∧
      (ofTarget t).run s = failureText) ∨
    ∃ v b snippet live direct, Url.read u.text = .ok v ∧ v.pairs = u.pairs ∧
      generate u.text (fieldText s "method") [t.id] none (some (liveHeaders s))
        (some (fieldText s "body")) = .ok b ∧ b.snippets = [snippet] ∧
      Outgoing.ofRequest (directRequest s u) = .ok direct ∧ direct.query = u.pairs ∧
      direct.convert target.language (some target.library) = .ok snippet.content ∧
      Outgoing.ofRequest (liveRequest s u) = .ok live ∧ live.query = collected u.pairs ∧
      live.convert target.language (some target.library) = .ok ((ofTarget t).run s) ∧
      (live = direct ↔ (u.pairs.map (·.name)).Nodup) ∧
      ((u.pairs.map (·.name)).Nodup → (ofTarget t).run s = snippet.content) := by
  cases again : Url.read u.text with
  | error cause =>
    have refused : (directRequest s u).bundle [t.id] = .error (.url cause) :=
      Request.bundle_eq_error_iff.mpr (.inl ⟨cause, again, rfl⟩)
    have failed : liveSnippet t.id s = .error (.url cause) :=
      liveSnippet_eq_error_iff.mpr (.inr ⟨u, read, .inl ⟨cause, again, rfl⟩⟩)
    exact .inl ⟨cause, rfl, refused, run_of_error failed⟩
  | ok v =>
    have same := pairs_of_reread read again
    have sent (request : Request) (h : request.url = u.text) :
        Outgoing.ofRequest request = .ok (Outgoing.ofUrl request v) :=
      Outgoing.ofRequest_eq_ok_iff.mpr ⟨v, h ▸ again, rfl⟩
    have sent_live := sent (liveRequest s u) rfl
    have sent_direct := sent (directRequest s u) rfl
    obtain ⟨content, printed⟩ :=
      (Outgoing.ofUrl (directRequest s u) v).convert_of_resolve? known
    obtain ⟨text, printed_live⟩ :=
      (Outgoing.ofUrl (liveRequest s u) v).convert_of_resolve? known
    have run_eq : (ofTarget t).run s = text :=
      run_of_ok (liveSnippet_eq_ok_iff.mpr ⟨u, _, target, read, sent_live, known, printed_live⟩)
    have bundled := Request.bundle_singleton_eq_ok_iff.mpr
      ⟨_, ⟨t.id, (directRequest s u).mimeType?, target.title, content⟩, sent_direct,
        ⟨rfl, target, known, rfl, printed⟩, rfl, rfl⟩
    refine .inr ⟨v, _, _, _, _, rfl, same, bundled, rfl, sent_direct, direct_query s same, printed,
      sent_live, live_query s same, by rw [run_eq]; exact printed_live, live_eq_direct_iff same,
      fun distinct => ?_⟩
    rw [(live_eq_direct_iff same).mpr distinct, printed] at printed_live
    rw [run_eq]
    exact (Except.ok.inj printed_live).symm

theorem live_of_direct_sample :
    ∃ live, Outgoing.ofRequest (liveRequest sampleRecord.source sampleLiveUrl) = .ok live ∧
      live.query = [⟨"id", "2"⟩] ∧
      live.convert "shell" (some "curl") =
        .ok ((ofTarget ⟨"shell_curl", "", ""⟩).run sampleRecord.source) := by
  rcases live_of_direct (t := ⟨"shell_curl", "", ""⟩) read_sampleRecord rfl with
    ⟨cause, refused, -⟩ | ⟨-, -, -, live, -, -, -, -, -, -, -, -, sent, query, printed, -, -⟩
  · cases read_text_sampleLiveUrl.symm.trans refused
  · have pairs : sampleLiveUrl.pairs = [⟨"id", "1"⟩, ⟨"id", "2"⟩] := by decide +kernel
    rw [pairs] at query
    exact ⟨live, sent, query.trans (by decide +kernel), printed⟩

/-- A live request with a repeated name does not agree with rendering its URL directly. -/
theorem live_not_direct :
    ¬ ∀ (t : Target) (s : Source) (u : Url) (target : Resolved),
      Url.read (fieldText s "url") = .ok u → resolve? t.id = some target →
      ∃ b snippet, generate u.text (fieldText s "method") [t.id] none (some (liveHeaders s))
          (some (fieldText s "body")) = .ok b ∧ b.snippets = [snippet] ∧
        (ofTarget t).run s = snippet.content := by
  intro agree
  obtain ⟨b, snippet, rendered, single, same⟩ :=
    agree ⟨"shell_curl", "", ""⟩ sampleRecord.source sampleLiveUrl _ read_sampleRecord rfl
  have live : (ofTarget ⟨"shell_curl", "", ""⟩).run sampleRecord.source =
      "curl --request GET \\\n  --url 'http://[::1]/a%20b?id=2'\n" := by decide +kernel
  have direct : (generate sampleLiveUrl.text (fieldText sampleRecord.source "method")
      ["shell_curl"] none (some (liveHeaders sampleRecord.source))
      (some (fieldText sampleRecord.source "body"))).toOption.map (·.snippets.map (·.content)) =
      some ["curl --request GET \\\n  --url 'http://[::1]/a%20b?id=1&id=2'\n"] := by
    decide +kernel
  rw [rendered, Except.toOption, Option.map_some, single, List.map_singleton, ← same,
    live] at direct
  exact absurd direct (by decide)

end RequestCode.Generator
