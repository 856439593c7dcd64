import CodeDigest.Overview
import CodeDigest.Proofs.Narration.ItemLists

/-!
# Overviews in the words of a model

Any value may come back when a model is asked for an overview.  A part of the overview is taken from
it only if it is usable: the value is an object, and its field holds a text that is not blank
(`ProjectOverview.UsableText`), or a list that says something (`ProjectOverview.UsableList`).  Every
other part is the detected one, each on its own.

* `ProjectOverview.Follows` says this of an overview, part by part.  Dependencies are not among the
  parts: they are the detected ones in any case.
* `ProjectOverview.build_of_reply`: the overview of a run over a model follows the model's reply.
  If nothing in the reply is usable, this is the overview of a run without a model.
-/

namespace CodeDigest.ProjectOverview

open ModelValue

variable {σ α : Type} {reply : Option Json} {field text : String} {items : List String}

/-! ## What can be used of a reply -/

/-- The text in a field that can be used, without the blanks at its ends. -/
def UsableText (reply : Option Json) (field text : String) : Prop :=
  ∃ members s, reply = some (.object members) ∧ members.lookup field = some (.string s) ∧
    trimmed s = text ∧ text ≠ ""

/-- What the list in a field says, when this can be used. -/
def UsableList (reply : Option Json) (field : String) (items : List String) : Prop :=
  ∃ members value texts, reply = some (.object members) ∧ members.lookup field = some value ∧
    listed? value = some texts ∧ said texts = items ∧ items ≠ []

/-- What is usable is taken, and what was detected if nothing is. -/
structure Overlaid (Usable : α → Prop) (detected actual : α) : Prop where
  usable : ∀ a, Usable a → actual = a
  fallback : (∀ a, ¬Usable a) → actual = detected

/-- Each part of an overview is the usable one of a reply, or else the detected one. -/
structure Follows (detection : Detection) (reply : Option Json) (o : ProjectOverview) : Prop where
  projectName : Overlaid (UsableText reply "project_name") detection.projectName o.projectName
  description : Overlaid (UsableText reply "description")
    (titleCased detection.context.language ++ " project") o.description
  purpose : Overlaid (UsableText reply "purpose")
    ("Software project written in " ++ detection.context.language) o.purpose
  keyTechnologies : Overlaid (UsableList reply "key_technologies")
    (titleCased detection.context.language :: detection.context.frameworks) o.keyTechnologies
  architecturePattern : ∃ pattern, o.architecturePattern = some pattern ∧
    Overlaid (UsableText reply "architecture_pattern") "Unknown" pattern
  mainFeatures : Overlaid (UsableList reply "main_features") [] o.mainFeatures
  /-- Whatever the reply says, these are the ones of the build file, even if it names none, and the
  frameworks only if there is no such file. -/
  dependencies : o.dependencies =
    match detection.pomDependencies with
    | some named => named
    | none => detection.context.frameworks

/-- No part of an overview can be taken from the reply. -/
structure NothingUsable (reply : Option Json) : Prop where
  texts : ∀ field ∈ ["project_name", "description", "purpose", "architecture_pattern"],
    ∀ text, ¬UsableText reply field text
  lists : ∀ field ∈ ["key_technologies", "main_features"], ∀ items, ¬UsableList reply field items

/-! ## The draft in a reply -/

/-- The draft that is made of a reply. -/
def draftOf (reply : Option Json) : OverviewDraft := (reply.map draft).getD .empty

/-- What is read from a field of a reply, if the reply is an object. -/
def fieldOf? (read : String → Json → Option α) (reply : Option Json) (field : String) : Option α :=
  match reply with
  | some (.object members) => read field (.object members)
  | _ => none

/-- The parts of a draft are read one by one. -/
lemma draftOf_eq (reply : Option Json) :
    draftOf reply =
      { projectName := fieldOf? text? reply "project_name"
        description := fieldOf? text? reply "description"
        purpose := fieldOf? text? reply "purpose"
        keyTechnologies := fieldOf? list? reply "key_technologies"
        architecturePattern := fieldOf? text? reply "architecture_pattern"
        mainFeatures := fieldOf? list? reply "main_features"
        dependencies := fieldOf? list? reply "dependencies" } := by
  rcases reply with _ | value
  · rfl
  · cases value <;> rfl

lemma fieldOf?_eq_some_iff {read : String → Json → Option α} {a : α} :
    fieldOf? read reply field = some a ↔
      ∃ members, reply = some (.object members) ∧ read field (.object members) = some a := by
  unfold fieldOf?
  split
  next members => simp
  next h =>
    constructor
    · intro hnone
      cases hnone
    · rintro ⟨members, rfl, -⟩
      exact absurd rfl (h members)

lemma text?_object (field : String) (members : List (String × Json)) :
    text? field (.object members) = ((members.lookup field).bind Json.string?).bind trimmed? := rfl

lemma text?_object_eq_some_iff {members : List (String × Json)} :
    text? field (.object members) = some text ↔
      ∃ s, members.lookup field = some (.string s) ∧ trimmed s = text ∧ text ≠ "" := by
  simp only [text?_object, trimmed?_eq, Option.bind_eq_some_iff]
  constructor
  · rintro ⟨s, ⟨value, hvalue, hs⟩, htext⟩
    cases value with
    | string t =>
        -- a text that is blank is none after all
        obtain rfl := Option.some.inj hs
        split_ifs at htext with hempty
        obtain rfl := Option.some.inj htext
        exact ⟨t, hvalue, rfl, hempty⟩
    | _ => cases hs
  · rintro ⟨s, hs, rfl, hne⟩
    exact ⟨s, ⟨_, hs, rfl⟩, if_neg hne⟩

lemma list?_object_eq_some_iff {members : List (String × Json)} :
    list? field (.object members) = some items ↔
      ∃ value texts, members.lookup field = some value ∧ listed? value = some texts ∧
        said texts = items ∧ items ≠ [] := by
  simp only [list?_object, Option.bind_eq_some_iff]
  constructor
  · rintro ⟨texts, ⟨value, hvalue, hlisted⟩, hsaid⟩
    split_ifs at hsaid with hempty
    obtain rfl := Option.some.inj hsaid
    exact ⟨value, texts, hvalue, hlisted, rfl, hempty⟩
  · rintro ⟨value, texts, hvalue, hlisted, rfl, hne⟩
    exact ⟨texts, ⟨value, hvalue, hlisted⟩, if_neg hne⟩

lemma fieldOf?_text?_iff :
    fieldOf? text? reply field = some text ↔ UsableText reply field text := by
  rw [fieldOf?_eq_some_iff]
  simp only [text?_object_eq_some_iff, UsableText, exists_and_left]

lemma fieldOf?_list?_iff :
    fieldOf? list? reply field = some items ↔ UsableList reply field items := by
  rw [fieldOf?_eq_some_iff]
  simp only [list?_object_eq_some_iff, UsableList, exists_and_left]

/-! ## Completing a draft -/

section Parts

variable {o : Option α} {Usable : α → Prop}

/-- A part that holds what is usable is missing if nothing is. -/
lemma eq_none_iff_of_usable (h : ∀ {a}, o = some a ↔ Usable a) :
    o = none ↔ ∀ a, ¬Usable a := by
  rw [Option.eq_none_iff_forall_ne_some]
  exact forall_congr' fun a => not_congr h

lemma overlaid_getD (h : ∀ {a}, o = some a ↔ Usable a) (detected : α) :
    Overlaid Usable detected (o.getD detected) where
  usable := by
    intro a ha
    rw [h.mpr ha, Option.getD_some]
  fallback := by
    intro hnone
    rw [(eq_none_iff_of_usable h).mpr hnone, Option.getD_none]

end Parts

lemma fieldOf?_text?_eq_none_iff :
    fieldOf? text? reply field = none ↔ ∀ text, ¬UsableText reply field text :=
  eq_none_iff_of_usable fieldOf?_text?_iff

lemma fieldOf?_list?_eq_none_iff :
    fieldOf? list? reply field = none ↔ ∀ items, ¬UsableList reply field items :=
  eq_none_iff_of_usable fieldOf?_list?_iff

lemma follows_ofDraft (detection : Detection) (reply : Option Json) :
    (ofDraft (draftOf reply) detection).Follows detection reply := by
  rw [draftOf_eq]
  exact
    { projectName := overlaid_getD fieldOf?_text?_iff _
      description := overlaid_getD fieldOf?_text?_iff _
      purpose := overlaid_getD fieldOf?_text?_iff _
      keyTechnologies := overlaid_getD fieldOf?_list?_iff _
      architecturePattern := ⟨_, rfl, overlaid_getD fieldOf?_text?_iff _⟩
      mainFeatures := overlaid_getD fieldOf?_list?_iff _
      dependencies := by
        simp only [ofDraft]
        cases detection.pomDependencies <;> rfl }

/-- A reply of which nothing can be used is as good as none. -/
lemma ofDraft_of_nothingUsable (h : NothingUsable reply) (detection : Detection) :
    ofDraft (draftOf reply) detection = ofDraft .empty detection := by
  have htext : ∀ field ∈ ["project_name", "description", "purpose", "architecture_pattern"],
      fieldOf? text? reply field = none := fun field hfield =>
    fieldOf?_text?_eq_none_iff.mpr (h.texts field hfield)
  have hlist : ∀ field ∈ ["key_technologies", "main_features"],
      fieldOf? list? reply field = none := fun field hfield =>
    fieldOf?_list?_eq_none_iff.mpr (h.lists field hfield)
  rw [draftOf_eq, htext "project_name" (by simp), htext "description" (by simp),
    htext "purpose" (by simp), htext "architecture_pattern" (by simp),
    hlist "key_technologies" (by simp), hlist "main_features" (by simp)]
  rfl

/-! ## Runs -/

/-- An empty draft is kept back as no answer, which comes to the same when it is completed. -/
lemma getD_readAnswer (request : OverviewRequest) (value : Json) :
    ((Question.overview request).readAnswer value : Option OverviewDraft).getD .empty
      = draft value := by
  change (if draft value = .empty then none else some (draft value) : Option OverviewDraft).getD
    .empty = draft value
  split_ifs with hempty
  · exact hempty.symm
  · rfl

lemma getD_ofModel (model : Model σ) (request : OverviewRequest) (state : σ) :
    let question := Question.overview request
    ((Narrator.ofModel model question state).1 : Option OverviewDraft).getD .empty
      = draftOf (model question.prompt question.schema state).1.toOption := by
  intro question
  simp only [Narrator.ofModel, bind_apply]
  rcases (model question.prompt question.schema state).1 with _ | value
  · rfl
  · exact getD_readAnswer request value

lemma build_ofModel (model : Model σ) (t : FileTree) (root : String) (detection : Detection)
    (paths : List String) (state : σ) :
    let question := Question.overview (request t root detection paths)
    (build (.ofModel model) t root detection paths state).1
      = ofDraft (draftOf (model question.prompt question.schema state).1.toOption) detection :=
  congrArg (ofDraft · detection) (getD_ofModel model (request t root detection paths) state)

/-- **Nothing unusable or untrusted gets into an overview.**

Whatever value a model replies with, or if it fails, each text of the overview is the trimmed text
in its field, if the reply is an object with a text there that is not blank, and the detected one
otherwise; each list is what the list in its field says, if it says anything, and the detected one
otherwise.  There always is an architecture pattern, and the dependencies do not depend on the
reply.  If no part can be taken from the reply, the overview is the one of a run without a model. -/
theorem build_of_reply (model : Model σ) (t : FileTree) (root : String) (detection : Detection)
    (paths : List String) (state : σ) :
    let question := Question.overview (request t root detection paths)
    let reply := (model question.prompt question.schema state).1.toOption
    let overview := (build (.ofModel model) t root detection paths state).1
    overview.Follows detection reply ∧
      (NothingUsable reply → overview = (build .offline t root detection paths state).1) := by
  intro question reply overview
  have hoverview : overview = ofDraft (draftOf reply) detection :=
    build_ofModel model t root detection paths state
  rw [hoverview]
  exact ⟨follows_ofDraft detection reply, fun h => ofDraft_of_nothingUsable h detection⟩

/-- What was found out about a project with a build file that names no dependencies. -/
def rentalDetection : Detection where
  language := .java
  context := ⟨"java", ["Spring Boot"], ["Maven"], none⟩
  projectName := "rental-service"
  pomDependencies := some []
  buildFile := none

/-- The overview when a model replies with this value. -/
def overviewOf (reply : Json) : ProjectOverview :=
  (build (.ofModel fun _ _ (state : Unit) => (.ok reply, state)) ⟨.empty, []⟩ "." rentalDetection []
    ()).1

/-- A name in blanks is taken, a blank description is not, and neither are dependencies.  A reply
with a number for a text, a list without texts and dependencies that are made up is as good as
none. -/
theorem build_of_reply_in_part :
    let reply := Json.object
      [("project_name", .string " Car rental "), ("description", .string "  "),
       ("key_technologies", .string "Java, Spring Boot, "), ("dependencies", .strings ["made-up"])]
    let useless := Json.object
      [("purpose", .int 5), ("main_features", .array [.int 7, .string " "]),
       ("dependencies", .strings ["made-up"])]
    ((overviewOf reply).projectName = "Car rental" ∧
        (overviewOf reply).description = "Java project" ∧
        (overviewOf reply).keyTechnologies = ["Java", "Spring Boot"] ∧
        (overviewOf reply).dependencies = []) ∧
      NothingUsable (some useless) ∧
      overviewOf useless = (build .offline ⟨.empty, []⟩ "." rentalDetection [] ()).1 := by
  intro reply useless
  obtain ⟨hfollows, -⟩ := build_of_reply (fun _ _ (state : Unit) => (.ok reply, state)) ⟨.empty, []⟩
    "." rentalDetection [] ()
  have hdescription : ∀ text, ¬UsableText (some reply) "description" text :=
    fieldOf?_text?_eq_none_iff.mp (by decide)
  have huseless : NothingUsable (some useless) := by
    have htexts : ∀ field ∈ ["project_name", "description", "purpose", "architecture_pattern"],
        fieldOf? text? (some useless) field = none := by decide
    have hlists : ∀ field ∈ ["key_technologies", "main_features"],
        fieldOf? list? (some useless) field = none := by decide
    exact ⟨fun field hfield => fieldOf?_text?_eq_none_iff.mp (htexts field hfield),
      fun field hfield => fieldOf?_list?_eq_none_iff.mp (hlists field hfield)⟩
  refine ⟨⟨?_, ?_, ?_, hfollows.dependencies⟩, huseless, ?_⟩
  · exact hfollows.projectName.usable _ (fieldOf?_text?_iff.mp (by decide))
  · exact (hfollows.description.fallback hdescription).trans (by decide)
  · exact hfollows.keyTechnologies.usable _ (fieldOf?_list?_iff.mp (by decide))
  · exact (build_of_reply (fun _ _ (state : Unit) => (.ok useless, state)) ⟨.empty, []⟩ "."
      rentalDetection [] ()).2 huseless

end CodeDigest.ProjectOverview
