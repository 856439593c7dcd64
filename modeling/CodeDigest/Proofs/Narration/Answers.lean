import Mathlib.Data.List.Basic
import CodeDigest.Analysis

/-!
# The answers in a report

A run mixes what it computes with what a narrator says.  This file takes the two apart.

* `Answers` holds what was said in a run, and `Report.ofAnswers` is the report that it leads to: a
  function of the files and of the answers, without a narrator.
* `Report.exists_answers`: whatever the narrator, a run ends in the report of some answers, and in
  the report of no answers if the narrator is silent.
* `Report.figures` is the part of a report that nobody is asked for.  It is what every report has
  once the entries that were said are left out (`Report.bare_ofFiles`), and `Report.offline` adds to
  it what the rules observe (`Report.ofFiles_of_silent`).
-/

namespace CodeDigest

variable {σ : Type} {narrator : Narrator σ}

/-! ## Reports of answers -/

/-- What is said in a run. -/
structure Answers where
  interpretation : Option String
  /-- What is said about each of the key methods. -/
  description : Nat → Option String
  aspects : Option (List String)
  recommendations : List String

/-- Nothing is said. -/
def Answers.silent : Answers := ⟨none, fun _ => none, none, []⟩

/-- The complexity section with an answer. -/
def ComplexitySummary.ofAnswer (files : List SourceFile) (threshold : Float)
    (answer : Option String) : ComplexitySummary :=
  match ComplexityMetrics.ofFiles? files threshold with
  | none => noData noDataMessage
  | some metrics => measured metrics (answer.bind trimmed?)

/-- The complexity section without an interpretation. -/
def ComplexitySummary.bare : ComplexitySummary → ComplexitySummary
  | measured metrics _ => measured metrics none
  | noData message => noData message

/-- The method without its description. -/
def KeyMethod.bare (k : KeyMethod) : KeyMethod := { k with description := none }

/-- The methods with these descriptions. -/
def KeyMethod.withDescriptions (description : Nat → Option String) (ks : List KeyMethod) :
    List KeyMethod :=
  ks.mapIdx fun i k => { k with description := description i }

/-- The report that answers lead to. -/
def Report.ofAnswers (options : AnalysisOptions) (files : List SourceFile)
    (overview : ProjectOverview) (a : Answers) : Report :=
  let threshold := options.highComplexityThreshold
  let components := ComponentMap.ofFiles files
  let statistics := Statistics.ofFiles files
  let complexity := ComplexitySummary.ofAnswer files threshold a.interpretation
  { overview := overview
    statistics := statistics
    keyMethods := KeyMethod.withDescriptions a.description (KeyMethod.ofFiles components files)
    keyComponents := components
    complexitySummary := complexity
    recommendations := a.recommendations
    noteworthyAspects :=
      Aspect.select a.aspects (Aspect.byRule statistics complexity components threshold) }

/-- What a report says about the files, apart from what a narrator says. -/
def Report.figures (options : AnalysisOptions) (files : List SourceFile)
    (overview : ProjectOverview) : Report where
  overview := overview
  statistics := Statistics.ofFiles files
  keyMethods := KeyMethod.ofFiles (ComponentMap.ofFiles files) files
  keyComponents := ComponentMap.ofFiles files
  complexitySummary := ComplexitySummary.ofAnswer files options.highComplexityThreshold none
  recommendations := []
  noteworthyAspects := []

/-- The report when nothing is said: the rules observe what there is to observe. -/
def Report.offline (options : AnalysisOptions) (files : List SourceFile)
    (overview : ProjectOverview) : Report :=
  { figures options files overview with
    noteworthyAspects := Aspect.byRule (Statistics.ofFiles files)
      (ComplexitySummary.ofAnswer files options.highComplexityThreshold none)
      (ComponentMap.ofFiles files) options.highComplexityThreshold }

/-- The report without anything that was said. -/
def Report.bare (r : Report) : Report :=
  { r with
    keyMethods := r.keyMethods.map KeyMethod.bare
    complexitySummary := r.complexitySummary.bare
    recommendations := []
    noteworthyAspects := [] }

/-! ## Sections -/

/-- Running two computations in a row. -/
lemma bind_apply {α β : Type} (x : StateM σ α) (f : α → StateM σ β) (s : σ) :
    (x >>= f) s = f (x s).1 (x s).2 := rfl

lemma pure_apply {α : Type} (a : α) (s : σ) : (pure a : StateM σ α) s = (a, s) := rfl

lemma ComplexitySummary.bare_ofAnswer (files : List SourceFile) (threshold : Float)
    (answer : Option String) :
    (ofAnswer files threshold answer).bare = ofAnswer files threshold none := by
  unfold ofAnswer
  cases ComplexityMetrics.ofFiles? files threshold <;> rfl

/-- The rules look at the figures only. -/
lemma ComplexitySummary.metrics?_ofAnswer (files : List SourceFile) (threshold : Float)
    (answer : Option String) :
    (ofAnswer files threshold answer).metrics? = ComplexityMetrics.ofFiles? files threshold := by
  unfold ofAnswer
  cases ComplexityMetrics.ofFiles? files threshold <;> rfl

lemma Aspect.byRule_ofAnswer (s : Statistics) (files : List SourceFile) (m : ComponentMap)
    (threshold : Float) (answer : Option String) :
    byRule s (ComplexitySummary.ofAnswer files threshold answer) m threshold
      = byRule s (ComplexitySummary.ofAnswer files threshold none) m threshold := by
  simp only [byRule, ComplexitySummary.metrics?_ofAnswer]

@[simp] lemma KeyMethod.length_withDescriptions (description : Nat → Option String)
    (ks : List KeyMethod) : (withDescriptions description ks).length = ks.length :=
  List.length_mapIdx

@[simp] lemma KeyMethod.withDescriptions_cons (description : Nat → Option String) (k : KeyMethod)
    (ks : List KeyMethod) : withDescriptions description (k :: ks)
      = { k with description := description 0 }
        :: withDescriptions (fun i => description (i + 1)) ks := List.mapIdx_cons

lemma KeyMethod.map_bare_withDescriptions (description : Nat → Option String)
    (ks : List KeyMethod) : (withDescriptions description ks).map bare = ks.map bare := by
  induction ks generalizing description with
  | nil => rfl
  | cons k ks ih => rw [withDescriptions_cons, List.map_cons, ih, List.map_cons, bare, bare]

lemma KeyMethod.withDescriptions_none (ks : List KeyMethod) :
    withDescriptions (fun _ => none) ks = ks.map bare := by
  induction ks with
  | nil => rfl
  | cons k ks ih => rw [withDescriptions_cons, ih, List.map_cons, bare]

/-- Methods start without a description. -/
lemma KeyMethod.bare_of_mem {components : ComponentMap} {files : List SourceFile} {k : KeyMethod}
    (h : k ∈ ofFiles components files) : k.bare = k := by
  obtain ⟨c, -, hk⟩ := List.mem_flatMap.mp h
  unfold ofClass at hk
  split at hk
  next role _ =>
    split_ifs at hk
    · obtain ⟨m, -, rfl⟩ := List.mem_map.mp hk
      rfl
    · cases hk
  · cases hk

lemma KeyMethod.map_bare_ofFiles (components : ComponentMap) (files : List SourceFile) :
    (ofFiles components files).map bare = ofFiles components files := by
  rw [List.map_congr_left fun _ => bare_of_mem, List.map_id']

/-! ## Runs -/

/-- The narrator never says anything. -/
def Narrator.Silent (narrator : Narrator σ) : Prop := ∀ q s, (narrator q s).1 = q.noAnswer

lemma ComplexitySummary.exists_answer (narrator : Narrator σ) (interpret : Bool)
    (context : ProjectContext) (threshold : Float) (files : List SourceFile) (s : σ) :
    ∃ answer, (ofFiles narrator interpret context threshold files s).1
        = ofAnswer files threshold answer ∧ (narrator.Silent → answer = none) := by
  unfold ofFiles ofAnswer
  cases ComplexityMetrics.ofFiles? files threshold with
  | none => exact ⟨none, rfl, fun _ => rfl⟩
  | some metrics =>
      cases interpret with
      | false => exact ⟨none, rfl, fun _ => rfl⟩
      | true => exact ⟨(narrator (.complexity metrics context) s).1, rfl, fun h => h _ _⟩

/-- The descriptions of methods are asked for one by one. -/
lemma KeyMethod.exists_mapM (narrator : Narrator σ) (ks : List KeyMethod) (s : σ) :
    ∃ description, ((ks.mapM (describe narrator)) s).1 = withDescriptions description ks ∧
      (narrator.Silent → description = fun _ => none) := by
  induction ks generalizing s with
  | nil => exact ⟨fun _ => none, rfl, fun _ => rfl⟩
  | cons k ks ih =>
      obtain ⟨description, hrest, hsilent⟩ := ih (describe narrator k s).2
      refine ⟨fun i => i.casesOn (narrator (.method k.signature k.className k.annotations) s).1
        description, ?_, fun h => ?_⟩
      · rw [List.mapM_cons, bind_apply, bind_apply, pure_apply, hrest, withDescriptions_cons]
        rfl
      · funext i
        cases i with
        | zero => exact h _ _
        | succ i => exact congrFun (hsilent h) i

lemma KeyMethod.exists_describeAll (narrator : Narrator σ) (wanted : Bool) {ks : List KeyMethod}
    (hks : ks.map bare = ks) (s : σ) :
    ∃ description, (describeAll narrator wanted ks s).1 = withDescriptions description ks ∧
      (narrator.Silent → description = fun _ => none) := by
  cases wanted with
  | false => exact ⟨fun _ => none, by rw [withDescriptions_none, hks]; rfl, fun _ => rfl⟩
  | true => exact exists_mapM narrator ks s

/-- **Every run ends in the report of some answers**, and in the report of none if the narrator is
silent. -/
theorem Report.exists_answers (narrator : Narrator σ) (options : AnalysisOptions)
    (files : List SourceFile) (overview : ProjectOverview) (context : ProjectContext) (s : σ) :
    ∃ a, (ofFiles narrator options files overview context s).1
        = ofAnswers options files overview a ∧ (narrator.Silent → a = Answers.silent) := by
  simp only [ofFiles, bind_apply, pure_apply]
  obtain ⟨interpretation, hcomplexity, hi⟩ := ComplexitySummary.exists_answer narrator
    options.interpretComplexity context options.highComplexityThreshold files s
  rw [hcomplexity]
  obtain ⟨description, hmethods, hd⟩ := KeyMethod.exists_describeAll narrator
    options.describeMethods (KeyMethod.map_bare_ofFiles (ComponentMap.ofFiles files) files)
    (ComplexitySummary.ofFiles narrator options.interpretComplexity context
      options.highComplexityThreshold files s).2
  rw [hmethods]
  refine ⟨⟨interpretation, description, _, _⟩, rfl, fun h => ?_⟩
  rw [hi h, hd h]
  exact congrArg₂ (Answers.mk none fun _ => none) (h (.aspects ..) _) (h (.recommendations _) _)

lemma Report.bare_ofAnswers (options : AnalysisOptions) (files : List SourceFile)
    (overview : ProjectOverview) (a : Answers) :
    (ofAnswers options files overview a).bare = figures options files overview := by
  simp only [bare, ofAnswers, figures, KeyMethod.map_bare_withDescriptions,
    KeyMethod.map_bare_ofFiles, ComplexitySummary.bare_ofAnswer]

lemma Report.ofAnswers_silent (options : AnalysisOptions) (files : List SourceFile)
    (overview : ProjectOverview) :
    ofAnswers options files overview Answers.silent
      = offline options files overview := by
  simp only [ofAnswers, offline, figures, Answers.silent, KeyMethod.withDescriptions_none,
    KeyMethod.map_bare_ofFiles]
  rfl

/-- **What nobody is asked for is the same for every narrator.** -/
theorem Report.bare_ofFiles (narrator : Narrator σ) (options : AnalysisOptions)
    (files : List SourceFile) (overview : ProjectOverview) (context : ProjectContext) (s : σ) :
    (ofFiles narrator options files overview context s).1.bare
      = figures options files overview := by
  obtain ⟨a, ha, -⟩ := exists_answers narrator options files overview context s
  rw [ha, bare_ofAnswers]

/-- A silent narrator gives the report of a run without one. -/
theorem Report.ofFiles_of_silent (h : narrator.Silent) (options : AnalysisOptions)
    (files : List SourceFile) (overview : ProjectOverview) (context : ProjectContext) (s : σ) :
    (ofFiles narrator options files overview context s).1 = offline options files overview := by
  obtain ⟨a, ha, hsilent⟩ := exists_answers narrator options files overview context s
  rw [ha, hsilent h, ofAnswers_silent]

lemma Narrator.silent_offline : (offline : Narrator σ).Silent := fun _ _ => rfl

end CodeDigest
