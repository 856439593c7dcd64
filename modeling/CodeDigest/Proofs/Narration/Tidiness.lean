import Mathlib.Data.List.TakeDrop
import CodeDigest.Narration.Model
import CodeDigest.Proofs.Decimal.Characters
import CodeDigest.Proofs.Narration.Aspects
import CodeDigest.Proofs.Text.Lines

/-!
# Tidy reports

Whatever a model replies, no blank text gets into a report, and no text with blanks at its ends.

* A narrative text is `Told` when something is said and no blank stands around it.  Every answer
  that is read from a value consists of such texts (`Question.proper_readAnswer`), and a run puts
  answers into its report as they are.
* An observation is tidy, has one line, and is long enough to say something
  (`Aspect.IsObservation`).  What is left of a model's lines is (`Aspect.isObservation_of_ofLine?`),
  and so are the texts of the rules, which all begin and end with words of their own and have only
  numbers in between (`Aspect.isObservation_of_mem_byRule`).

`Report.tidy_ofFiles` collects this for a whole run.
-/

namespace CodeDigest

variable {σ : Type} {narrator : Narrator σ} {s t : String}

/-! ## Narrative texts -/

/-- A text that may be missing. -/
def ToldIfAny (text : Option String) : Prop := ∀ t ∈ text, Told t

/-- A list of texts. -/
def AllTold (texts : List String) : Prop := ∀ t ∈ texts, Told t

namespace ModelValue

lemma told_of_text? {field : String} {value : Json} (h : text? field value = some t) : Told t := by
  obtain ⟨found, -, hfound⟩ := Option.bind_eq_some_iff.mp h
  exact told_of_trimmed? hfound

lemma told_of_mem_trimmedItems {texts : List String} (h : t ∈ trimmedItems texts) : Told t := by
  obtain ⟨text, -, htext⟩ := List.mem_filterMap.mp h
  exact told_of_trimmed? htext

lemma eq_of_nonempty? {texts items : List String} (h : nonempty? texts = some items) :
    items = texts := by
  unfold nonempty? at h
  split_ifs at h
  exact (Option.some.inj h).symm

lemma told_of_list? {field : String} {value : Json} {items : List String}
    (h : list? field value = some items) : AllTold items := by
  intro t ht
  simp only [list?] at h
  split at h
  · rw [eq_of_nonempty? h] at ht
    exact told_of_mem_trimmedItems ht
  · rw [eq_of_nonempty? h] at ht
    exact told_of_mem_trimmedItems ht
  · cases h

/-- Without quotation marks a text is tidy, though nothing may be left of it. -/
lemma tidy_unquoted (s : String) : Text.Tidy (unquoted s).toList := by
  rw [unquoted, String.toList_ofList]
  exact Text.tidy_trim _

end ModelValue

/-! ## Answers -/

/-- Every text in an answer is told.  Lines and drafts are worked up later and may be anything. -/
def Question.Proper : (q : Question) → q.Answer → Prop
  | complexity .., answer => ToldIfAny answer
  | method .., answer => ToldIfAny answer
  | recommendations _, answer => AllTold answer
  | aspects .., _ => True
  | overview _, _ => True

lemma Question.proper_noAnswer (q : Question) : q.Proper q.noAnswer := by
  cases q <;> simp [Proper, noAnswer, ToldIfAny, AllTold]

lemma Question.proper_readAnswer (q : Question) (value : Json) : q.Proper (q.readAnswer value) := by
  cases q with
  | complexity metrics context =>
      intro t ht
      exact ModelValue.told_of_text? ht
  | method signature className annotations =>
      intro t ht
      obtain ⟨ht, hne⟩ := Option.filter_eq_some_iff.mp ht
      obtain ⟨text, -, rfl⟩ := Option.map_eq_some_iff.mp ht
      exact ⟨by simpa using hne, ModelValue.tidy_unquoted text⟩
  | recommendations summary =>
      simp only [Proper, readAnswer]
      cases hitems : ModelValue.list? "recommendations" value with
      | none => exact fun _ h => absurd h List.not_mem_nil
      | some items => exact ModelValue.told_of_list? hitems
  | aspects _ _ _ _ => trivial
  | overview _ => trivial

/-- The narrator only says what is told. -/
def Narrator.Proper (narrator : Narrator σ) : Prop :=
  ∀ (q : Question) (state : σ), q.Proper (narrator q state).1

lemma Narrator.proper_ofModel (model : Model σ) : (ofModel model).Proper := by
  intro q state
  simp only [ofModel, bind_apply]
  cases (model q.prompt q.schema state).1 with
  | ok value => exact q.proper_readAnswer value
  | error _ => exact q.proper_noAnswer

lemma KeyMethod.told_of_mem_mapM (h : narrator.Proper) {ks : List KeyMethod} {k : KeyMethod}
    {state : σ} (hk : k ∈ ((ks.mapM (describe narrator)) state).1) : ToldIfAny k.description := by
  induction ks generalizing state with
  | nil => cases hk
  | cons first ks ih =>
      rw [List.mapM_cons, bind_apply, bind_apply, pure_apply, List.mem_cons] at hk
      rcases hk with rfl | hk
      · exact h (.method first.signature first.className first.annotations) state
      · exact ih hk

lemma KeyMethod.told_of_mem_describeAll (h : narrator.Proper) {wanted : Bool}
    {components : ComponentMap} {files : List SourceFile} {k : KeyMethod} {state : σ}
    (hk : k ∈ (describeAll narrator wanted (ofFiles components files) state).1) :
    ToldIfAny k.description := by
  cases wanted with
  | true => exact told_of_mem_mapM h hk
  | false =>
      have hnone : k.description = none :=
        (congrArg KeyMethod.description (bare_of_mem hk)).symm
      simp [hnone, ToldIfAny]

/-! ## Observations -/

namespace Aspect

/-- A text that observes something: one tidy line, long enough to say it. -/
structure IsObservation (text : String) : Prop where
  tidy : Text.Tidy text.toList
  oneLine : '\n' ∉ text.toList
  long : 20 ≤ text.length

lemma tidy_dropMarker {cs : List Char} (h : Text.Tidy cs) : Text.Tidy (dropMarker cs) := by
  unfold dropMarker
  split
  · exact Text.tidy_trim _
  · exact Text.tidy_trim _
  · exact Text.tidy_trim _
  · split
    · exact Text.tidy_trim _
    · exact Text.tidy_trim _
    · exact h

lemma span_subset {cs digits rest : List Char} {mark : Char}
    (h : cs.span Char.isDigit = (digits, mark :: rest)) : rest ⊆ cs := by
  rw [List.span_eq_takeWhile_dropWhile, Prod.mk.injEq] at h
  intro c hc
  exact (List.dropWhile_suffix Char.isDigit).subset (h.2 ▸ List.mem_cons_of_mem mark hc)

lemma dropMarker_subset (cs : List Char) : dropMarker cs ⊆ cs := by
  unfold dropMarker
  split
  · exact List.Subset.trans (Text.trim_subset _) (List.subset_cons_self _ _)
  · exact List.Subset.trans (Text.trim_subset _) (List.subset_cons_self _ _)
  · exact List.Subset.trans (Text.trim_subset _) (List.subset_cons_self _ _)
  · split
    next hspan => exact List.Subset.trans (Text.trim_subset _) (span_subset hspan)
    next hspan => exact List.Subset.trans (Text.trim_subset _) (span_subset hspan)
    · exact List.Subset.refl cs

lemma isObservation_of_ofLine? {line said : String} (hline : '\n' ∉ line.toList)
    (h : ofLine? line = some said) : IsObservation said := by
  have hlong := length_of_ofLine? h
  unfold ofLine? at h
  simp only at h
  split at h
  · cases h
  · split at h
    · obtain rfl := Option.some.inj h
      refine ⟨?_, ?_, hlong⟩
      · rw [String.toList_ofList]
        exact tidy_dropMarker (Text.tidy_trim _)
      · rw [String.toList_ofList]
        exact fun hmem => hline (Text.trim_subset _ (dropMarker_subset _ hmem))
    · cases h

lemma isObservation_of_mem_ofLines {texts : List String} {said : String}
    (h : said ∈ ofLines texts) : IsObservation said := by
  obtain ⟨line, hline, hsaid⟩ := List.mem_filterMap.mp h
  obtain ⟨text, -, hline⟩ := List.mem_flatMap.mp hline
  exact isObservation_of_ofLine? (newline_not_mem_of_mem_textLines hline) hsaid

/-! ### Rules -/

/-- Something solid at both ends, and enough of it, makes an observation of any line. -/
lemma isObservation_of_ends {first middle last : String} {c : Char} {cs : List Char}
    (hfirst : first.toList = c :: cs) (hc : Text.isBlank c = false)
    (hlast : Text.EndsSolid last.toList) (hline : '\n' ∉ (first ++ middle ++ last).toList)
    (hlong : 20 ≤ first.length + last.length) : IsObservation (first ++ middle ++ last) := by
  refine ⟨?_, hline, ?_⟩
  · rw [String.toList_append, String.toList_append, hfirst, List.cons_append]
    exact Text.tidy_of_ends hc hlast
  · simp only [String.length_append]
    omega

/-- Words that can stand at the beginning and at the end of an observation, whatever stands between
them. -/
def frames (first last : String) : Bool :=
  first.toList.head?.any (!Text.isBlank ·) && last.toList.getLast?.any (!Text.isBlank ·)
    && !first.toList.contains '\n' && !last.toList.contains '\n'
    && decide (20 ≤ first.length + last.length)

lemma isObservation_of_frames {first last : String} (h : frames first last = true)
    {middle : String} (hmiddle : '\n' ∉ middle.toList) :
    IsObservation (first ++ middle ++ last) := by
  simp only [frames, Bool.and_eq_true, Option.any_eq_true, Bool.not_eq_eq_eq_not, Bool.not_true,
    List.contains_eq_mem, decide_eq_false_iff_not, decide_eq_true_eq] at h
  obtain ⟨⟨⟨⟨⟨c, hc, hsolid⟩, d, hd, hsolid'⟩, hfirst⟩, hlast⟩, hlong⟩ := h
  obtain ⟨cs, hcs⟩ := List.head?_eq_some_iff.mp hc
  obtain ⟨ds, hds⟩ := List.getLast?_eq_some_iff.mp hd
  refine isObservation_of_ends hcs hsolid (hds ▸ Text.endsSolid_concat hsolid' ds) ?_ hlong
  simp [hfirst, hmiddle, hlast]

lemma newline_not_mem_toString (n : Nat) : '\n' ∉ (toString n).toList := by
  rw [Decimal.toList_toString]
  exact (Decimal.numeric_digitsOf n).newline_not_mem

lemma newline_not_mem_roundedNumber (places : Nat) (x : Float) :
    '\n' ∉ (roundedNumber places x).toList :=
  (Decimal.numeric_fixedPlaces places _).newline_not_mem

lemma newline_not_mem_plainNumber (x : Float) : '\n' ∉ (plainNumber x).toList :=
  (Decimal.numeric_write _ _).newline_not_mem

variable {text : String}

lemma isObservation_of_mem_onLayers {m : ComponentMap} (h : text ∈ onLayers m) :
    IsObservation text := by
  unfold onLayers at h
  split_ifs at h
  · have htext : text = "Well-structured MVC architecture with "
        ++ (toString (m.count .controllers) ++ " controllers and " ++ toString (m.count .services))
        ++ " services" := by
      rw [List.mem_singleton.mp h]
      simp only [String.append_assoc]
    rw [htext]
    refine isObservation_of_frames (by decide) ?_
    simp only [String.toList_append, List.mem_append, not_or]
    exact ⟨⟨newline_not_mem_toString _, by decide⟩, newline_not_mem_toString _⟩
  · cases h

lemma isObservation_of_mem_onEntities {m : ComponentMap} (h : text ∈ onEntities m) :
    IsObservation text := by
  unfold onEntities at h
  split_ifs at h
  · rw [List.mem_singleton.mp h]
    exact isObservation_of_frames (by decide) (newline_not_mem_toString _)
  · cases h

/-- The one text of the rules that begins with a number. -/
lemma isObservation_highComplexity (count : Nat) (threshold : Float) :
    IsObservation (toString count ++ " files with high complexity (>" ++ plainNumber threshold
      ++ ") need attention") := by
  obtain ⟨c, cs, hcs⟩ := List.exists_cons_of_ne_nil (Nat.toDigits_ne_nil (n := count) (b := 10))
  have hdigit : c.isDigit = true :=
    Nat.isDigit_of_mem_toDigits (by decide) (by decide) (hcs ▸ List.mem_cons_self)
  have hfirst : (toString count ++ " files with high complexity (>").toList
      = c :: (cs ++ " files with high complexity (>".toList) := by
    rw [String.toList_append, Decimal.toList_toString, Decimal.digitsOf, hcs, List.cons_append]
  have hlast : Text.EndsSolid ") need attention".toList :=
    Text.endsSolid_concat (c := 'n') (by decide) ") need attentio".toList
  refine isObservation_of_ends hfirst (Text.not_blank_of_isDigit hdigit) hlast ?_ ?_
  · simp only [String.toList_append, List.mem_append, not_or]
    exact ⟨⟨⟨newline_not_mem_toString count, by decide⟩, newline_not_mem_plainNumber threshold⟩,
      by decide⟩
  · rw [String.length_append]
    have hlong : 20 ≤ " files with high complexity (>".length := by decide
    omega

lemma isObservation_of_mem_onComplexity {threshold : Float} {metrics : ComplexityMetrics}
    (h : text ∈ onComplexity threshold metrics) : IsObservation text := by
  unfold onComplexity at h
  rcases List.mem_append.mp h with h | h
  · split_ifs at h
    · rw [List.mem_singleton.mp h]
      exact isObservation_of_frames (by decide) (newline_not_mem_roundedNumber _ _)
    · rw [List.mem_singleton.mp h]
      exact isObservation_of_frames (by decide) (newline_not_mem_roundedNumber _ _)
    · cases h
  · split_ifs at h
    · cases h
    · rw [List.mem_singleton.mp h]
      exact isObservation_highComplexity _ _

lemma isObservation_of_mem_onSize {s : Statistics} (h : text ∈ onSize s) : IsObservation text := by
  unfold onSize at h
  split_ifs at h
  · rw [List.mem_singleton.mp h]
    exact isObservation_of_frames (by decide) (newline_not_mem_toString _)
  · rw [List.mem_singleton.mp h]
    exact isObservation_of_frames (by decide) (newline_not_mem_toString _)
  · cases h

lemma isObservation_of_mem_onClasses {s : Statistics} (h : text ∈ onClasses s) :
    IsObservation text := by
  unfold onClasses at h
  split_ifs at h
  · rw [List.mem_singleton.mp h]
    exact isObservation_of_frames (by decide) (newline_not_mem_roundedNumber _ _)
  · cases h

lemma isObservation_of_mem_onSecurity {m : ComponentMap} (h : text ∈ onSecurity m) :
    IsObservation text := by
  unfold onSecurity at h
  split_ifs at h
  · rw [List.mem_singleton.mp h]
    exact ⟨by decide, by decide, by decide⟩
  · cases h

/-- Whatever the figures are, the rules observe something about them. -/
lemma isObservation_of_mem_byRule {s : Statistics} {complexity : ComplexitySummary}
    {m : ComponentMap} {threshold : Float} (h : text ∈ byRule s complexity m threshold) :
    IsObservation text := by
  simp only [byRule, List.mem_append] at h
  rcases h with ((((h | h) | h) | h) | h) | h
  · exact isObservation_of_mem_onLayers h
  · exact isObservation_of_mem_onEntities h
  · cases hmetrics : complexity.metrics? with
    | none => simp [hmetrics] at h
    | some metrics =>
        rw [hmetrics, Option.map_some, Option.getD_some] at h
        exact isObservation_of_mem_onComplexity h
  · exact isObservation_of_mem_onSize h
  · exact isObservation_of_mem_onClasses h
  · exact isObservation_of_mem_onSecurity h

/-- The narrator's lines and the rules observe alike. -/
lemma isObservation_of_mem_select {answer : Option (List String)} {rules : List String}
    (hrules : ∀ text ∈ rules, IsObservation text) (h : text ∈ select answer rules) :
    IsObservation text := by
  rw [select_eq] at h
  split_ifs at h
  · exact hrules text h
  · exact isObservation_of_mem_ofLines h

end Aspect

/-! ## Reports -/

/-- Every narrative text of a report is told, and every aspect observes something. -/
structure Report.Tidy (r : Report) : Prop where
  interpretation : ToldIfAny r.complexitySummary.interpretation?
  descriptions : ∀ k ∈ r.keyMethods, ToldIfAny k.description
  recommendations : AllTold r.recommendations
  aspects : ∀ text ∈ r.noteworthyAspects, Aspect.IsObservation text

lemma ComplexitySummary.told_interpretation? (narrator : Narrator σ) (interpret : Bool)
    (context : ProjectContext) (threshold : Float) (files : List SourceFile) (state : σ) :
    ToldIfAny (ofFiles narrator interpret context threshold files state).1.interpretation? := by
  obtain ⟨answer, hanswer, -⟩ := exists_answer narrator interpret context threshold files state
  rw [hanswer, ofAnswer]
  cases ComplexityMetrics.ofFiles? files threshold with
  | none => simp [ToldIfAny, interpretation?]
  | some metrics =>
      intro t ht
      obtain ⟨said, -, hsaid⟩ := Option.bind_eq_some_iff.mp ht
      exact told_of_trimmed? hsaid

/-- **No run over a model writes a blank or untrimmed text**, whatever the model replies or fails
with.  Interpretation, descriptions and recommendations say something and have no blanks at their
ends; every aspect, by the model or by the rules, is one such line of at least 20 characters. -/
theorem Report.tidy_ofFiles (model : Model σ) (options : AnalysisOptions)
    (files : List SourceFile) (overview : ProjectOverview) (context : ProjectContext) (state : σ) :
    ((ofFiles (.ofModel model) options files overview context state).1).Tidy := by
  have hproper := Narrator.proper_ofModel model
  simp only [ofFiles, bind_apply, pure_apply]
  exact
    { interpretation := ComplexitySummary.told_interpretation? _ _ _ _ _ _
      descriptions := fun _ hk => KeyMethod.told_of_mem_describeAll hproper hk
      recommendations := hproper (.recommendations _) _
      aspects := fun _ h =>
        Aspect.isObservation_of_mem_select (fun _ => Aspect.isObservation_of_mem_byRule) h }

end CodeDigest
