import CodeDigest.Analysis
import CodeDigest.Narration.Model
import CodeDigest.Proofs.Narration.Answers
import CodeDigest.Proofs.Text.Lines

/-!
# Aspects in the words of a model

A model may answer the question for aspects in several ways: with a list of texts or with one text,
and in the field that it was asked for or without it.  `Aspect.Replies lines` relates a list of
lines to the values that give it.

What is observed depends on the lines alone (`Aspect.identify_of_reply`).  The reason is that
cleaning trims each line and drops the empty ones, so that it makes no difference where texts are
cut into lines (`Aspect.ofLines_textLines`) or put together from them (`Aspect.ofLines_joined`).
-/

namespace CodeDigest

namespace Aspect

/-! ## Lines -/

lemma ofLine?_empty : ofLine? "" = none := rfl

lemma ofLine?_trimmed (line : String) : ofLine? (trimmed line) = ofLine? line := by
  simp only [ofLine?, trimmed, String.toList_ofList, Text.trim_trim]

/-- Texts say what the pieces between their newlines say. -/
lemma ofLines_eq (texts : List String) :
    ofLines texts = (texts.flatMap (pieces '\n')).filterMap ofLine? := by
  rw [ofLines, List.filterMap_flatMap, List.filterMap_flatMap]
  congr 1
  funext text
  exact filterMap_textLines ofLine?_empty ofLine?_trimmed text

/-- A text says what its lines say, one by one. -/
lemma ofLines_textLines (texts : List String) :
    ofLines (texts.flatMap textLines) = ofLines texts := by
  have hpieces : (texts.flatMap textLines).flatMap (pieces '\n') = texts.flatMap textLines := by
    rw [List.flatMap_congr fun line hline => pieces_of_not_mem ?_]
    · simp
    · obtain ⟨text, -, hmem⟩ := List.mem_flatMap.mp hline
      exact newline_not_mem_of_mem_textLines hmem
  rw [ofLines_eq, hpieces, ofLines]

/-- Texts that are joined with newlines say what they say one by one. -/
lemma ofLines_joined (groups : List (List String)) :
    ofLines (groups.map (joined "\n")) = ofLines groups.flatten := by
  rw [ofLines_eq, ofLines_eq, List.flatMap_map, List.filterMap_flatMap, List.flatten_eq_flatMap,
    List.flatMap_assoc, List.filterMap_flatMap]
  congr 1
  funext group
  rcases eq_or_ne group [] with rfl | hne
  · rfl
  · exact congrArg _ (pieces_joined_flatMap '\n' hne)

lemma ofLines_joined_all (lines : List String) : ofLines [joined "\n" lines] = ofLines lines := by
  simpa using ofLines_joined [lines]

/-- The rules observe only what a narrator has left to them. -/
lemma select_eq (answer : Option (List String)) (rules : List String) :
    select answer rules
      = if ofLines (answer.getD []) = [] then rules else ofLines (answer.getD []) := by
  unfold select
  cases answer with
  | none => rfl
  | some texts =>
      rw [Option.map_some, Option.getD_some]
      cases ofLines texts <;> rfl

/-! ## Replies -/

/-- A value that holds lines: an array of them, of which neighbours may have been joined with
newlines, or all of them as one text. -/
inductive Holds (lines : List String) : Json → Prop
  | list (groups : List (List String)) (h : groups.flatten = lines) :
      Holds lines (.strings (groups.map (joined "\n")))
  | text : Holds lines (.string (joined "\n" lines))

/-- A reply that gives lines: as it is, or in the field that was asked for. -/
inductive Replies (lines : List String) : Json → Prop
  | bare {reply : Json} (h : Holds lines reply) : Replies lines reply
  | field (members : List (String × Json)) {value : Json}
      (hfield : members.lookup "aspects" = some value) (h : Holds lines value) :
      Replies lines (.object members)

variable {σ : Type} {lines : List String} {reply value : Json}

/-- An array with one element for each line holds them. -/
lemma holds_strings (lines : List String) : Holds lines (.strings lines) := by
  have hsingle : joined "\n" ∘ (fun line => [line]) = id := by
    funext line
    simp [joined]
  have h := Holds.list (lines.map fun line => [line]) (List.flatMap_singleton' lines)
  rwa [List.map_map, hsingle, List.map_id] at h

lemma filterMap_string? (texts : List String) :
    (texts.map Json.string).filterMap Json.string? = texts := by
  rw [List.filterMap_map]
  exact List.filterMap_some

lemma nonempty?_getD (texts : List String) : (ModelValue.nonempty? texts).getD [] = texts := by
  cases texts <;> rfl

/-- What is read from a value that holds lines says what the lines say. -/
lemma Holds.ofLines_getD (h : Holds lines value) :
    ofLines ((ModelValue.lines? "aspects" value).getD []) = ofLines lines := by
  cases h with
  | list groups h =>
      rw [← h, ← ofLines_joined, ← ofLines_textLines (groups.map (joined "\n"))]
      simp only [ModelValue.lines?, Json.strings, filterMap_string?, nonempty?_getD]
  | text =>
      rw [← ofLines_joined_all lines, ← ofLines_textLines [joined "\n" lines]]
      simp only [ModelValue.lines?, nonempty?_getD, List.flatMap_singleton]

/-- A field is read like the value that stands in it. -/
lemma Holds.lines?_field {members : List (String × Json)} (h : Holds lines value)
    (hfield : members.lookup "aspects" = some value) :
    ModelValue.lines? "aspects" (.object members) = ModelValue.lines? "aspects" value := by
  cases h <;> simp [ModelValue.lines?, Json.get?, hfield, Json.strings]

lemma Replies.ofLines_getD (h : Replies lines reply) :
    ofLines ((ModelValue.lines? "aspects" reply).getD []) = ofLines lines := by
  cases h with
  | bare h => exact h.ofLines_getD
  | field members hfield h => rw [h.lines?_field hfield, h.ofLines_getD]

/-- **What is observed depends on the lines of a reply and not on its form.**  It is what the lines
say, if they say something, and what the rules observe otherwise. -/
theorem identify_of_reply (model : Model σ) (state : σ) (s : Statistics)
    (complexity : ComplexitySummary) (m : ComponentMap) (context : ProjectContext)
    (threshold : Float) (hreply : Replies lines reply)
    (hmodel : (model (Question.aspects s complexity m context).prompt
      (Question.aspects s complexity m context).schema state).1 = .ok reply) :
    (identify (.ofModel model) s complexity m context threshold state).1
      = if ofLines lines = [] then byRule s complexity m threshold else ofLines lines := by
  have hanswer : (Narrator.ofModel model (.aspects s complexity m context) state).1
      = ModelValue.lines? "aspects" reply := by
    simp only [Narrator.ofModel, bind_apply, hmodel]
    rfl
  simp only [identify, bind_apply, pure_apply]
  rw [hanswer, select_eq, hreply.ofLines_getD]

/-- Three lines, sent as an array and as two texts in a field, the second of them with a line of its
own and a carriage return.  The heading and the remark are dropped, the other loses its marker. -/
theorem identify_of_reply_in_field :
    let lines := ["# Notes\r", "- Controllers are kept apart from services", "2) short\r"]
    let inField := Json.object [("aspects", .strings
      ["# Notes\r", "- Controllers are kept apart from services\n2) short\r"])]
    ∀ reply ∈ [.strings lines, inField], Replies lines reply ∧
      (identify (.ofModel fun _ _ (state : Unit) => (.ok reply, state)) (Statistics.ofFiles [])
          (.noData "") .empty ⟨"java", [], [], none⟩ 10.0 ()).1
        = ["Controllers are kept apart from services"] := by
  intro lines inField reply hmem
  have hlines : ofLines lines = ["Controllers are kept apart from services"] := by decide
  have hreply : Replies lines reply := by
    simp only [List.mem_cons, List.not_mem_nil, or_false] at hmem
    rcases hmem with rfl | rfl
    · exact .bare (holds_strings lines)
    · exact .field _ rfl
        (.list [["# Notes\r"], ["- Controllers are kept apart from services", "2) short\r"]] rfl)
  refine ⟨hreply, ?_⟩
  rw [identify_of_reply _ () _ _ _ _ _ hreply rfl, hlines, if_neg (List.cons_ne_nil _ _)]

end Aspect

end CodeDigest
