import RequestCode.Proofs.Command.Selection
import RequestCode.Proofs.Outgoing.Fields
import RequestCode.Proofs.Outgoing.Repeated

/-!
# Replaying recorded traffic

What becomes of a recorded request on its way through the maps that hold its headers and its query
parameters: of a repeated name the last value is left, at the first place. Main statement:
`replay_entry`.
-/

namespace RequestCode

def Recorded.request (r : Recorded) : Request :=
  .build r.url r.method (some r.query) (some r.headers) (some r.body)

theorem Command.recordedBundle_eq_ok_iff {targets : List String} {r : Recorded} {b : Bundle} :
    recordedBundle targets r = .ok b ↔ r.request.bundle targets = .ok b :=
  during_eq_ok_iff

namespace Entry

variable {e : Entry} {u : Url}

theorem recorded_mem_requests {recording : Recording} (h : e ∈ recording.entries)
    (read : Url.read e.url = .ok u) : e.recorded ∈ recording.requests := by
  have kept : e.hasUrl = true := by simp [hasUrl, read, Except.toOption]
  exact List.mem_map_of_mem (List.mem_filter.mpr ⟨h, kept⟩)

theorem request_headers (e : Entry) : e.recorded.request.headers = collected e.headers :=
  Params.toList_ofPairs e.headers

theorem request_query (e : Entry) : e.recorded.request.query = collected e.query :=
  Params.toList_ofPairs e.query

theorem ofRequest_recorded (read : Url.read e.url = .ok u) :
    Outgoing.ofRequest e.recorded.request = .ok (Outgoing.ofUrl e.recorded.request u) :=
  Outgoing.ofRequest_eq_ok_iff.mpr ⟨u, read, rfl⟩

/-- A recorded request is rendered with each of its headers and each parameter of its URL once,
and with just what was recorded if no name is repeated. -/
theorem replay_entry {recording : Recording} (h : e ∈ recording.entries)
    (read : Url.read e.url = .ok u) (matched : e.query = u.pairs) :
    e.recorded ∈ recording.requests ∧
      (∀ targets b, Command.recordedBundle targets e.recorded = .ok b ↔
        e.recorded.request.bundle targets = .ok b) ∧
      e.recorded.request.headers = collected e.headers ∧
      (e.recorded.request.headers = e.headers ↔ (e.headers.map (·.name)).Nodup) ∧
      ∃ r, Outgoing.ofRequest e.recorded.request = .ok r ∧ r.query = collected u.pairs ∧
        (r.query = u.pairs ↔ (u.pairs.map (·.name)).Nodup) := by
  have headers := request_headers e
  have query : (Outgoing.ofUrl e.recorded.request u).query = collected u.pairs := by
    apply Outgoing.query_of_collected
    rw [request_query, matched]
  refine ⟨recorded_mem_requests h read, fun _ _ => Command.recordedBundle_eq_ok_iff, headers, ?_, _,
    ofRequest_recorded read, query, ?_⟩
  · rw [headers]
    exact collected_eq_self_iff
  · rw [query]
    exact collected_eq_self_iff

def sample : Entry where
  method := "get"
  url := "http://[::1]/?id=1&id=2"
  headers := [⟨"X-A", "1"⟩, ⟨"X-A", "2"⟩]
  query := [⟨"id", "1"⟩, ⟨"id", "2"⟩]
  postData := none

def sampleUrl : Url where
  scheme := "http"
  authority := some ⟨"", "", some (.ipv6 [0, 0, 0, 0, 0, 0, 0, 1]), none⟩
  path := .segments [""]
  query := some "id=1&id=2"
  fragment := none

theorem read_sample : Url.read sample.url = .ok sampleUrl := by rfl

theorem query_sample : sample.query = sampleUrl.pairs := by decide +kernel

theorem replay_entry_sample :
    sample.recorded ∈ (Recording.mk [sample]).requests ∧
      sample.recorded.request.headers = [⟨"X-A", "2"⟩] ∧
      ∃ r, Outgoing.ofRequest sample.recorded.request = .ok r ∧ r.query = [⟨"id", "2"⟩] := by
  have recorded : sample ∈ (Recording.mk [sample]).entries := List.mem_cons_self
  obtain ⟨listed, -, headers, -, r, sent, query, -⟩ :=
    replay_entry recorded read_sample query_sample
  rw [← query_sample] at query
  exact ⟨listed, headers.trans (by decide +kernel), r, sent, query.trans (by decide +kernel)⟩

theorem replay_loses_repeated :
    ¬ ∀ (recording : Recording) (e : Entry) (u : Url), e ∈ recording.entries →
      Url.read e.url = .ok u → e.query = u.pairs →
      e.recorded.request.headers = e.headers ∧
        ∃ r, Outgoing.ofRequest e.recorded.request = .ok r ∧ r.query = u.pairs := by
  intro lossless
  obtain ⟨headers, -⟩ :=
    lossless ⟨[sample]⟩ sample sampleUrl List.mem_cons_self read_sample query_sample
  rw [request_headers, collected_eq_self_iff] at headers
  exact absurd headers (by decide)

end Entry

end RequestCode
