import RequestCode.Command.Run
import RequestCode.Proofs.Json.Indented

/-!
# What is printed of a bundle

As text, a bundle is printed snippet by snippet, each under its title. As JSON it is printed as one
document, which is read back to what the bundle holds. Main statement: `prints_bundleText`.
-/

namespace RequestCode

/-- The object shows the snippet; a type that is missing is left out. -/
structure Snippet.ShownBy (s : Snippet) (v : Json) : Prop where
  id : v.member? "id" = some (.string s.id)
  mimeType : v.member? "mimeType" = s.mimeType.map .string
  title : v.member? "title" = some (.string s.title)
  content : v.member? "content" = some (.string s.content)

/-- The object shows the bundle and its snippets in order; a resource that is missing is left
out. -/
structure Bundle.ShownBy (b : Bundle) (v : Json) : Prop where
  method : v.member? "method" = some (.string b.method)
  url : v.member? "url" = some (.string b.url)
  resource : v.member? "resource" = b.resource.map .string
  snippets : ∃ items, v.member? "snippets" = some (.array items) ∧
    List.Forall₂ Snippet.ShownBy b.snippets items

namespace Bundle

variable {b : Bundle} {s : Snippet}

theorem shownBy_snippetJson (s : Snippet) : s.ShownBy (snippetJson s) := by
  cases h : s.mimeType <;> constructor <;>
    simp [snippetJson, optional, Json.member?, lookupEntry, h]

theorem shownBy_toJson (b : Bundle) : b.ShownBy b.toJson := by
  have shown : List.Forall₂ Snippet.ShownBy b.snippets (b.snippets.map snippetJson) :=
    List.forall₂_map_right_iff.mpr (List.forall₂_same.mpr fun s _ => shownBy_snippetJson s)
  cases h : b.resource <;> constructor <;>
    simp [toJson, optional, Json.member?, lookupEntry, h, shown]

theorem plain_snippetJson (s : Snippet) : (snippetJson s).NumberFree ∧ (snippetJson s).Distinct ∧
    (snippetJson s).depth = 2 := by
  cases h : s.mimeType <;>
    simp [snippetJson, optional, h, Json.NumberFree, Json.NumberFreeMembers, Json.Distinct,
      Json.DistinctMembers, Json.depth, Json.membersDepth]

theorem plain_snippetsJson (ss : List Snippet) : Json.NumberFreeItems (ss.map snippetJson) ∧
    Json.DistinctItems (ss.map snippetJson) ∧ Json.itemsDepth (ss.map snippetJson) ≤ 2 := by
  induction ss with
  | nil => simp [Json.NumberFreeItems, Json.DistinctItems, Json.itemsDepth]
  | cons s ss ih =>
    obtain ⟨free, distinct, depth⟩ := plain_snippetJson s
    obtain ⟨laterFree, laterDistinct, within⟩ := ih
    rw [List.map_cons, Json.itemsDepth, depth]
    exact ⟨⟨free, laterFree⟩, ⟨distinct, laterDistinct⟩, Nat.max_le.mpr ⟨le_rfl, within⟩⟩

theorem plain_toJson (b : Bundle) : b.toJson.NumberFree ∧ b.toJson.Distinct ∧
    b.toJson.depth ≤ Json.nesting := by
  obtain ⟨free, distinct, within⟩ := plain_snippetsJson b.snippets
  cases h : b.resource <;>
    simp [toJson, optional, h, Json.NumberFree, Json.NumberFreeMembers, Json.Distinct,
      Json.DistinctMembers, Json.depth, Json.membersDepth, Json.nesting, free, distinct] <;>
    omega

theorem read_toJson (b : Bundle) : Json.read (b.toJson.writeIndented ++ "\n") = some b.toJson := by
  obtain ⟨free, distinct, within⟩ := plain_toJson b
  exact Json.read_writeIndented free distinct within

end Bundle

namespace Command

/-- The text shows the snippets in order: the title of each behind a mark, then the content, and an
empty line. -/
inductive PrintsTexts : List Snippet → String → Prop
  | nil : PrintsTexts [] ""
  | cons {s ss text} : PrintsTexts ss text →
      PrintsTexts (s :: ss) ("# " ++ s.title ++ "\n" ++ s.content ++ "\n\n" ++ text)

/-- The text is what is printed of a bundle: its snippets, or an indented document that shows it. -/
inductive Prints (b : Bundle) : OutputFormat → String → Prop
  | text {text} : PrintsTexts b.snippets text → Prints b .text text
  | json {v} : b.ShownBy v → Json.read (v.writeIndented ++ "\n") = some v →
      Prints b .json (v.writeIndented ++ "\n")

theorem printsTexts_join (ss : List Snippet) :
    PrintsTexts ss (String.join (ss.map snippetText)) := by
  induction ss with
  | nil => exact .nil
  | cons s ss ih =>
    rw [List.map_cons, String.join_cons]
    exact .cons ih

/-- In either format, a bundle is printed with all its snippets. -/
theorem prints_bundleText (b : Bundle) (format : OutputFormat) :
    Prints b format (bundleText b format) := by
  cases format with
  | text => exact .text (printsTexts_join b.snippets)
  | json => exact .json b.shownBy_toJson b.read_toJson

/-- What stands over the snippets of a recorded request: in a text its method and its URL. -/
inductive Heads (b : Bundle) : OutputFormat → String → Prop
  | text : Heads b .text ("## " ++ b.method ++ " " ++ b.url ++ "\n\n")
  | json : Heads b .json ""

theorem heads_recordedHeading (b : Bundle) (format : OutputFormat) :
    Heads b format (recordedHeading b format) := by
  cases format with
  | text => exact .text
  | json => exact .json

end Command

end RequestCode
