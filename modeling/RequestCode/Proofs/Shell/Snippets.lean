import RequestCode.Proofs.Outgoing.Fields
import RequestCode.Proofs.Shell.Reader
import RequestCode.Resolve

/-!
# Shell snippets

The commands that a shell reads from the snippets of the shell clients: every text of the request
is exactly one word, and there are no words but the expected ones. The invariant along a command
is `Spells`, where the last word is still pending.
-/

namespace RequestCode.Shell

open Text Piece

/-- Read from `q`, the pieces make up the words, of which the last has not ended. -/
def Spells (q : State) (ps : List Piece) (ws : List String) : Prop :=
  ∃ ts last, reader.Reads q (ps.flatMap chars) ts (.after last) ∧
    q.pending ++ ws.map .word = ts ++ [.word (.ofList last)]

namespace Spells

variable {q : State} {ps rs : List Piece} {ws vs : List String}

theorem nil (w : List Char) : Spells (.after w) [] [] := ⟨[], w, .nil, rfl⟩

theorem append (h : Spells q ps ws) (hr : ∀ w, Spells (.after w) rs vs) :
    Spells q (ps ++ rs) (ws ++ vs) := by
  obtain ⟨ts, w, hread, hwords⟩ := h
  obtain ⟨us, v, hrest, hmore⟩ := hr w
  refine ⟨ts ++ us, v, by simpa using hread.append hrest, ?_⟩
  rw [State.pending_after] at hmore
  rw [List.map_append, ← List.append_assoc, hwords, List.append_assoc, hmore, List.append_assoc]

theorem argument {style : Quote} (text : String) (fixed : List String) (s : String)
    (style_word : style = .shell ∨ style = .shellWord)
    (h : reader.Reads q text.toList (q.pending ++ fixed.map .word) .between) :
    Spells q [code text, quoted style s] (fixed ++ [s]) := by
  have hword : reader.Reads .between (style.write s.toList) [] (.after s.toList) := by
    rcases style_word with rfl | rfl
    · exact reads_shell s.toList
    · exact reads_shellWord s.toList
  refine ⟨q.pending ++ fixed.map .word, s.toList, ?_, by simp⟩
  simpa [chars] using h.append hword

theorem each {f : Param → List Piece} {g : Param → List String}
    (h : ∀ p w, Spells (.after w) (f p) (g p)) (params : List Param) (w : List Char) :
    Spells (.after w) (each params f) (params.flatMap g) := by
  induction params generalizing w with
  | nil => exact nil w
  | cons p params ih => exact (h p w).append fun v => ih v

theorem only (b : Bool) (h : ∀ w, Spells (.after w) ps ws) (w : List Char) :
    Spells (.after w) (only b ps) (if b then ws else []) := by
  cases b with
  | false => exact nil w
  | true => exact h w

theorem ended (text : String) (more : List Token) (h : Spells q ps ws)
    (stop : ∀ w, reader.Reads (.after w) text.toList (.word (.ofList w) :: more) .between) :
    reader.Reads q ((ps ++ [code text]).flatMap chars)
      (q.pending ++ ws.map .word ++ more) .between := by
  obtain ⟨ts, w, hread, hwords⟩ := h
  rw [hwords, List.append_assoc]
  simpa [chars] using hread.append (stop w)

end Spells

theorem read_render {ps : List Piece} {ts : List Token}
    (h : reader.Reads .between (ps.flatMap chars) ts .between) :
    read (render ps) = commands ts := by
  have hrun : reader.run .between (render ps).toList = some (ts, .between) := by
    rw [render, String.toList_ofList]
    exact h
  unfold read
  rw [hrun]
  simp [State.between, State.pending]

theorem read_line {ps : List Piece} {ws : List String} (h : Spells .between ps ws) :
    read (render (ps ++ [code "\n"])) = some [ws] := by
  have line := h.ended "\n" [.newline] fun w => rfl
  rw [read_render line]
  simpa using commands_words ws commands_newline

theorem read_pipe {ps rs : List Piece} {ws vs : List String} (h : Spells .between ps ws)
    (hr : Spells .between rs vs) :
    read (render (ps ++ [code " | \\\n  "] ++ (rs ++ [code "\n"]))) = some [ws, vs] := by
  have left := h.ended " | \\\n  " [.pipe] fun w => rfl
  have right := hr.ended "\n" [.newline] fun w => rfl
  have both := left.append right
  rw [← List.flatMap_append] at both
  rw [read_render both]
  have second : commands (vs.map .word ++ [.newline]) = some [vs] := by
    simpa using commands_words vs commands_newline
  have piped : commands (.pipe :: (vs.map .word ++ [.newline])) = some [[], vs] := by
    simp [commands, second]
  simpa using commands_words ws piped

theorem read_curl (r : Outgoing) :
    read (render (Client.Shell.curl r)) =
      some [["curl", "--request", r.method, "--url", r.fullUrl]
        ++ r.headers.flatMap (fun h => ["--header", headerLine h])
        ++ if r.hasBody then ["--data", r.body] else []] := by
  have method := Spells.argument (q := .between) "curl --request " ["curl", "--request"] r.method
    (.inr rfl) rfl
  have url (w) := Spells.argument (q := .after w) " \\\n  --url " ["--url"] r.fullUrl
    (.inl rfl) rfl
  have header (h : Param) (w) := Spells.argument (q := .after w) " \\\n  --header " ["--header"]
    (headerLine h) (.inl rfl) rfl
  have body (w) := Spells.argument (q := .after w) " \\\n  --data " ["--data"] r.body
    (.inl rfl) rfl
  exact read_line
    (((method.append url).append (.each header r.headers)).append (.only r.hasBody body))

theorem read_wget (r : Outgoing) :
    read (render (Client.Shell.wget r)) =
      some [["wget", "--quiet", "--method", r.method]
        ++ r.headers.flatMap (fun h => ["--header", headerLine h])
        ++ (if r.hasBody then ["--body-data", r.body] else [])
        ++ ["--output-document", "-", r.fullUrl]] := by
  have method := Spells.argument (q := .between) "wget --quiet \\\n  --method "
    ["wget", "--quiet", "--method"] r.method (.inr rfl) rfl
  have header (h : Param) (w) := Spells.argument (q := .after w) " \\\n  --header " ["--header"]
    (headerLine h) (.inl rfl) rfl
  have body (w) := Spells.argument (q := .after w) " \\\n  --body-data "
    ["--body-data"] r.body (.inl rfl) rfl
  have url (w) := Spells.argument (q := .after w) " \\\n  --output-document \\\n  - "
    ["--output-document", "-"] r.fullUrl (.inl rfl) rfl
  have line := read_line
    (((method.append (.each header r.headers)).append (.only r.hasBody body)).append url)
  rw [List.append_assoc] at line
  exact line

/-- The command that sends the request; it is the last of the line. -/
theorem spells_http (r : Outgoing) :
    Spells .between
      ([code "http ", Client.Shell.word r.method, code " ", Client.Shell.str r.fullUrl]
        ++ each r.headers fun h => [code " \\\n  ", Client.Shell.str (h.name ++ ":" ++ h.value)])
      (["http", r.method, r.fullUrl] ++ r.headers.flatMap fun h => [h.name ++ ":" ++ h.value]) := by
  have method := Spells.argument (q := .between) "http " ["http"] r.method (.inr rfl) rfl
  have url (w) := Spells.argument (q := .after w) " " [] r.fullUrl (.inl rfl) rfl
  have header (h : Param) (w) := Spells.argument (q := .after w) " \\\n  " []
    (h.name ++ ":" ++ h.value) (.inl rfl) rfl
  exact (method.append url).append (.each header r.headers)

theorem read_httpie (r : Outgoing) :
    read (render (Client.Shell.httpie r)) =
      some ((if r.hasBody then [["echo", r.body]] else [])
        ++ [["http", r.method, r.fullUrl]
          ++ r.headers.flatMap fun h => [h.name ++ ":" ++ h.value]]) := by
  have send := spells_http r
  unfold Client.Shell.httpie
  cases r.hasBody with
  | false => simpa [only] using read_line send
  | true =>
    have echo := Spells.argument (q := .between) "echo " ["echo"] r.body (.inl rfl) rfl
    simpa [only, Client.Shell.str] using read_pipe echo send

/-- Whatever the texts of the request hold, a shell reads from the snippets exactly the expected
commands, and each text as one word of them. -/
theorem shell_snippets_read_back {request : Request} {r : Outgoing}
    (h : Outgoing.ofRequest request = .ok r) :
    (∃ text, r.convert "shell" (some "curl") = .ok text ∧
      read text = some [["curl", "--request", request.method, "--url", r.fullUrl]
        ++ r.headers.flatMap (fun p => ["--header", p.name ++ ": " ++ p.value])
        ++ request.postData.text.toList.flatMap fun body => ["--data", body]]) ∧
    (∃ text, r.convert "shell" (some "wget") = .ok text ∧
      read text = some [["wget", "--quiet", "--method", request.method]
        ++ r.headers.flatMap (fun p => ["--header", p.name ++ ": " ++ p.value])
        ++ (request.postData.text.toList.flatMap fun body => ["--body-data", body])
        ++ ["--output-document", "-", r.fullUrl]]) ∧
    ∃ text, r.convert "shell" (some "httpie") = .ok text ∧
      read text = some ((request.postData.text.toList.map fun body => ["echo", body])
        ++ [["http", request.method, r.fullUrl]
          ++ r.headers.flatMap fun p => [p.name ++ ":" ++ p.value]]) := by
  have method := Outgoing.method_eq h
  obtain ⟨sent, body, -, -⟩ := Outgoing.body_eq h
  refine ⟨⟨render (Client.Shell.curl r), rfl, ?_⟩, ⟨render (Client.Shell.wget r), rfl, ?_⟩,
    ⟨render (Client.Shell.httpie r), rfl, ?_⟩⟩
  · rw [read_curl, method, sent, body, Request.hasBody]
    cases request.postData.text <;> rfl
  · rw [read_wget, method, sent, body, Request.hasBody]
    cases request.postData.text <;> rfl
  · rw [read_httpie, method, sent, body, Request.hasBody]
    cases request.postData.text <;> rfl

theorem shell_snippets_read_back_sample :
    ∃ r, Outgoing.ofRequest Outgoing.sampleRequest = .ok r ∧
      ∃ text, r.convert "shell" (some "httpie") = .ok text ∧
        read text = some [["echo", "'\n"],
          ["http", "M;RM", r.fullUrl, "X-Note:it's | \\\n\"$x\""]] :=
  ⟨_, Outgoing.ofRequest_sampleRequest,
    (shell_snippets_read_back Outgoing.ofRequest_sampleRequest).2.2⟩

end RequestCode.Shell
