import Mathlib.Data.List.Forall2
import CodeDigest.Narration.Model
import CodeDigest.Proofs.Narration.Answers
import CodeDigest.Proofs.Text.Splitting
import CodeDigest.Proofs.Text.Trimming

/-!
# Lists in the words of a model

A model may send a list of texts as an array, with other values among its elements, or as one text
with commas between the items and blanks around them.  `ModelValue.Holds items` relates a list of
items to the values that hold it.

* `ModelValue.said` is what texts say: each is trimmed, and one of which nothing is left is dropped.
  A list is read as what the texts that it lists say, and counts as missing when they say nothing
  (`ModelValue.list?_object`).
* Trimming takes away whatever blanks stand around an item, so that both forms of a list say what
  its items say (`ModelValue.Holds.exists_listed`).
* `ModelValue.lists_of_every_form` has this for recommendations, which may also come as an array
  without a field, and for the lists of a draft.
-/

namespace CodeDigest.ModelValue

variable {items padded : List String} {item text field : String} {value reply : Json}
  {members : List (String × Json)}

/-! ## What texts say -/

/-- What texts say: each is trimmed, and one of which nothing is left is dropped. -/
def said (texts : List String) : List String := (texts.map trimmed).filter (· != "")

/-- The texts that a value lists: those among the elements of an array, or those between the commas
of one text. -/
def listed? : Json → Option (List String)
  | .array elements => some (elements.filterMap Json.string?)
  | .string s => some (pieces ',' s)
  | _ => none

lemma trimmed?_eq (s : String) :
    trimmed? s = if trimmed s = "" then none else some (trimmed s) := by
  rw [trimmed?]
  simp only [String.isEmpty_iff]

lemma trimmedItems_eq (texts : List String) : trimmedItems texts = said texts := by
  induction texts with
  | nil => rfl
  | cons text texts ih =>
      rw [trimmedItems, said] at ih
      rw [trimmedItems, said, List.filterMap_cons, trimmed?_eq, List.map_cons]
      by_cases h : trimmed text = ""
      · rw [if_pos h, List.filter_cons_of_neg (by simp [h])]
        exact ih
      · rw [if_neg h, List.filter_cons_of_pos (by simp [h]), ← ih]

lemma nonempty?_trimmedItems (texts : List String) :
    nonempty? (trimmedItems texts) = if said texts = [] then none else some (said texts) := by
  rw [nonempty?, trimmedItems_eq]
  simp only [List.isEmpty_iff]

/-- A list in a field is what the texts that are listed there say, if they say anything. -/
lemma list?_object (field : String) (members : List (String × Json)) :
    list? field (.object members) = ((members.lookup field).bind listed?).bind fun texts =>
      if said texts = [] then none else some (said texts) := by
  simp only [list?, Json.get?]
  rcases members.lookup field with _ | value
  · rfl
  · cases value with
    | array elements => exact nonempty?_trimmedItems _
    | string s => exact nonempty?_trimmedItems _
    | _ => rfl

/-! ## Forms of a list -/

/-- A text with blanks around it. -/
def Padded (text padded : String) : Prop :=
  ∃ before after : List Char, (∀ c ∈ before ++ after, Text.isBlank c = true) ∧
    padded.toList = before ++ text.toList ++ after

/-- A value that holds items: an array with these texts among its elements, in their order, or one
text in which commas stand between the items, with any blanks around them. -/
inductive Holds (items : List String) : Json → Prop
  | array {elements : List Json} (h : elements.filterMap Json.string? = items) :
      Holds items (.array elements)
  | text {padded : List String} (h : List.Forall₂ Padded items padded) :
      Holds items (.string (joined "," padded))

/-- A reply that gives items: an array of them as it is, or an object that holds them in the field
that was asked for. -/
inductive Gives (field : String) (items : List String) : Json → Prop
  | bare {elements : List Json} (h : Holds items (.array elements)) :
      Gives field items (.array elements)
  | inField {members : List (String × Json)} {value : Json}
      (hfield : members.lookup field = some value) (h : Holds items value) :
      Gives field items (.object members)

/-! ## Items with blanks around them -/

lemma Padded.trimmed_eq (h : Padded item text) : trimmed text = trimmed item := by
  obtain ⟨before, after, hblank, htext⟩ := h
  rw [List.forall_mem_append] at hblank
  rw [trimmed, htext, Text.trim_append_blanks hblank.2, Text.trim_blanks_append hblank.1, trimmed]

/-- There is no comma among the blanks. -/
lemma Padded.comma_not_mem (h : Padded item text) (hcomma : ',' ∉ item.toList) :
    ',' ∉ text.toList := by
  obtain ⟨before, after, hblank, htext⟩ := h
  have hpad : ',' ∉ before ++ after := fun hmem => absurd (hblank ',' hmem) (by decide)
  rw [htext]
  simp only [List.mem_append, not_or] at hpad ⊢
  exact ⟨⟨hpad.1, hcomma⟩, hpad.2⟩

lemma said_of_padded (h : List.Forall₂ Padded items padded) : said padded = said items := by
  have hmap : padded.map trimmed = items.map trimmed := by
    induction h with
    | nil => rfl
    | cons h _ ih => rw [List.map_cons, List.map_cons, h.trimmed_eq, ih]
  rw [said, said, hmap]

lemma comma_not_mem_of_padded (h : List.Forall₂ Padded items padded)
    (hcommas : ∀ item ∈ items, ',' ∉ item.toList) : ∀ text ∈ padded, ',' ∉ text.toList := by
  induction h with
  | nil => exact fun _ hmem => absurd hmem List.not_mem_nil
  | cons h _ ih =>
      rw [List.forall_mem_cons] at hcommas ⊢
      exact ⟨h.comma_not_mem hcommas.1, ih hcommas.2⟩

/-- The pieces of a text with commas between the items say what the items say.  When there are no
items, the one piece is empty and says nothing either. -/
lemma said_pieces (h : List.Forall₂ Padded items padded)
    (hcommas : ∀ item ∈ items, ',' ∉ item.toList) :
    said (pieces ',' (joined "," padded)) = said items := by
  rcases eq_or_ne padded [] with rfl | hne
  · obtain rfl := List.forall₂_nil_right_iff.mp h
    rfl
  · have hpieces : pieces ',' (joined "," padded) = padded :=
      pieces_joined hne (comma_not_mem_of_padded h hcommas)
    rw [hpieces, said_of_padded h]

/-! ## Reading -/

/-- Whatever form a list has, the texts that it lists say what its items say. -/
lemma Holds.exists_listed (h : Holds items value) (hcommas : ∀ item ∈ items, ',' ∉ item.toList) :
    ∃ texts, listed? value = some texts ∧ said texts = said items := by
  cases h with
  | array h => exact ⟨_, rfl, congrArg said h⟩
  | text h => exact ⟨_, rfl, said_pieces h hcommas⟩

lemma Holds.list?_field (h : Holds items value) (hcommas : ∀ item ∈ items, ',' ∉ item.toList)
    (hfield : members.lookup field = some value) :
    list? field (.object members) = if said items = [] then none else some (said items) := by
  obtain ⟨texts, hlisted, hsaid⟩ := h.exists_listed hcommas
  rw [list?_object, hfield, Option.bind_some, hlisted, Option.bind_some, hsaid]

lemma Gives.list?_eq (h : Gives field items reply) (hcommas : ∀ item ∈ items, ',' ∉ item.toList) :
    list? field reply = if said items = [] then none else some (said items) := by
  cases h with
  | bare h =>
      cases h with
      | array h =>
          rw [← h]
          exact nonempty?_trimmedItems _
  | inField hfield h => exact h.list?_field hcommas hfield

/-- The lists of a draft, each with the field that it is read from. -/
def draftLists : List (String × (OverviewDraft → Option (List String))) :=
  [("key_technologies", OverviewDraft.keyTechnologies),
   ("main_features", OverviewDraft.mainFeatures),
   ("dependencies", OverviewDraft.dependencies)]

lemma draftLists_draft {part : String × (OverviewDraft → Option (List String))}
    (h : part ∈ draftLists) (members : List (String × Json)) :
    part.2 (draft (.object members)) = list? part.1 (.object members) := by
  simp only [draftLists, List.mem_cons, List.not_mem_nil, or_false] at h
  rcases h with rfl | rfl | rfl <;> rfl

variable {σ : Type}

/-- **A list is read the same in every form.**

Take items without commas.  Whether a model sends them as an array, in the field that was asked for
or without it, and with any other values among them, or as one text with commas between the items
and any blanks around them: what it recommends are the items, trimmed, without those that are blank.
Each list of a draft is read from its field in the same way, and is missing when nothing is left. -/
theorem lists_of_every_form (hcommas : ∀ item ∈ items, ',' ∉ item.toList) :
    (∀ (model : Model σ) (state : σ) (summary : String) (reply : Json),
      Gives "recommendations" items reply →
      (model (Question.recommendations summary).prompt (Question.recommendations summary).schema
        state).1 = .ok reply →
      (Narrator.ofModel model (.recommendations summary) state).1 = said items) ∧
    ∀ part ∈ draftLists, ∀ (members : List (String × Json)) (value : Json),
      members.lookup part.1 = some value → Holds items value →
      part.2 (draft (.object members)) = if said items = [] then none else some (said items) := by
  constructor
  · intro model state summary reply hreply hmodel
    have hanswer : (Narrator.ofModel model (.recommendations summary) state).1
        = (list? "recommendations" reply).getD [] := by
      simp only [Narrator.ofModel, bind_apply, hmodel]
      rfl
    rw [hanswer, hreply.list?_eq hcommas]
    by_cases h : said items = []
    · rw [if_pos h, h, Option.getD_none]
    · rw [if_neg h, Option.getD_some]
  · intro part hpart members value hfield hvalue
    rw [draftLists_draft hpart, hvalue.list?_field hcommas hfield]

/-- Two items and a blank one between them, as an array with a null in it and as one text.  The
blank item is dropped and the others lose their blanks, in recommendations and in the features of a
draft. -/
theorem lists_of_every_form_with_blank_item :
    let items := ["Add tests", " ", "Use DTOs"]
    let inArray := Json.array [.string "Add tests", .null, .string " ", .string "Use DTOs"]
    let inText := Json.string " Add tests ,\t ,Use DTOs"
    Holds items inText ∧ (∀ reply ∈ [inArray, .object [("recommendations", inText)]],
      Gives "recommendations" items reply ∧
        (Narrator.ofModel (fun _ _ (state : Unit) => (.ok reply, state)) (.recommendations "") ()).1
          = ["Add tests", "Use DTOs"]) ∧
      (draft (.object [("main_features", inText)])).mainFeatures
        = some ["Add tests", "Use DTOs"] := by
  intro items inArray inText
  have hcommas : ∀ item ∈ items, ',' ∉ item.toList := by decide
  have hsaid : said items = ["Add tests", "Use DTOs"] := by decide
  have hjoined : joined "," [" Add tests ", "\t ", "Use DTOs"] = " Add tests ,\t ,Use DTOs" := by
    decide
  have htext : Holds items inText := by
    simp only [inText, ← hjoined]
    have hfirst : Padded "Add tests" " Add tests " :=
      ⟨[' '], [' '], List.all_eq_true.mp (by decide), by decide⟩
    have hblank : Padded " " "\t " := ⟨['\t'], [], List.all_eq_true.mp (by decide), by decide⟩
    have hlast : Padded "Use DTOs" "Use DTOs" :=
      ⟨[], [], List.all_eq_true.mp (by decide), by decide⟩
    exact .text (.cons hfirst (.cons hblank (.cons hlast .nil)))
  refine ⟨htext, fun reply hmem => ?_, ?_⟩
  · have hreply : Gives "recommendations" items reply := by
      simp only [List.mem_cons, List.not_mem_nil, or_false] at hmem
      rcases hmem with rfl | rfl
      · exact .bare (.array rfl)
      · exact .inField rfl htext
    exact ⟨hreply, ((lists_of_every_form hcommas).1 _ () "" reply hreply rfl).trans hsaid⟩
  · have hpart : ("main_features", OverviewDraft.mainFeatures) ∈ draftLists := by
      simp [draftLists]
    have hfeatures := (lists_of_every_form (σ := Unit) hcommas).2 _ hpart
      [("main_features", inText)] inText rfl htext
    rwa [hsaid, if_neg (List.cons_ne_nil _ _)] at hfeatures

end CodeDigest.ModelValue
