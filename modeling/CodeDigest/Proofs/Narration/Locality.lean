import CodeDigest.Proofs.Narration.Answers

/-!
# Every answer stays in its place

A narrator with a script gives a fixed sequence of answers, one a call, whatever it is asked.
`Report.fed` lists the entries of the report that the calls of a run feed, in the order of the
calls.

* `Report.ofFiles_scripted`: a run with a script makes exactly these calls, and its report is that
  of the answers at their places in the script.
* `Report.sameBut_of_scripts`: scripts that differ in one answer lead to reports that differ at most
  in the entry this answer feeds.
-/

namespace CodeDigest

/-! ## Scripts -/

/-- An answer for each kind of question, whatever the question says. -/
structure FixedAnswer where
  text : Option String
  lines : Option (List String)
  items : List String
  draft : Option OverviewDraft

/-- The answer to a question. -/
def FixedAnswer.to (a : FixedAnswer) : (q : Question) → q.Answer
  | .complexity .. => a.text
  | .method .. => a.text
  | .aspects .. => a.lines
  | .recommendations _ => a.items
  | .overview _ => a.draft

/-- The narrator that gives the answers of a script, one a call.  It remembers how many calls there
have been. -/
def Narrator.scripted (script : Nat → FixedAnswer) : Narrator Nat :=
  fun q n => ((script n).to q, n + 1)

/-! ## Entries -/

namespace Report

/-- The entries of a report that an answer is for. -/
inductive Entry where
  | interpretation
  | description (i : Nat)
  | aspects
  | recommendations
deriving Repr, DecidableEq

/-- The report with one entry left out. -/
def without (r : Report) : Entry → Report
  | .interpretation => { r with complexitySummary := r.complexitySummary.bare }
  | .description i => { r with keyMethods := r.keyMethods.modify i KeyMethod.bare }
  | .aspects => { r with noteworthyAspects := [] }
  | .recommendations => { r with recommendations := [] }

/-- Two reports are the same, except perhaps in one entry. -/
def SameBut (e : Option Entry) (r r' : Report) : Prop :=
  match e with
  | some e => r.without e = r'.without e
  | none => r = r'

section Calls

variable (options : AnalysisOptions) (files : List SourceFile)

/-- The number of key methods. -/
def methodCount : Nat := (KeyMethod.ofFiles (ComponentMap.ofFiles files) files).length

/-- Whether it is asked what the complexity figures say. -/
def asksComplexity : Bool :=
  options.interpretComplexity
    && (ComplexityMetrics.ofFiles? files options.highComplexityThreshold).isSome

/-- The entries that answers on complexity feed. -/
def fedByComplexity : List Entry :=
  if asksComplexity options files then [.interpretation] else []

/-- The entries that answers on methods feed. -/
def fedByMethods : List Entry :=
  if options.describeMethods then (List.range (methodCount files)).map .description else []

/-- The entries that the answers of a run feed, in the order of the calls. -/
def fed : List Entry :=
  fedByComplexity options files ++ fedByMethods options files ++ [.aspects, .recommendations]

end Calls

end Report

/-- The answers that a run takes from a script. -/
def Answers.ofScript (options : AnalysisOptions) (files : List SourceFile)
    (script : Nat → FixedAnswer) : Answers :=
  let methods := (Report.fedByComplexity options files).length
  let rest := methods + (Report.fedByMethods options files).length
  { interpretation := if Report.asksComplexity options files then (script 0).text else none
    description := fun i =>
      if options.describeMethods then (script (methods + i)).text else none
    aspects := (script rest).lines
    recommendations := (script (rest + 1)).items }

/-! ## Runs with a script -/

variable {options : AnalysisOptions} {files : List SourceFile} {script script' : Nat → FixedAnswer}

lemma ComplexitySummary.ofFiles_scripted (options : AnalysisOptions) (files : List SourceFile)
    (context : ProjectContext) (script : Nat → FixedAnswer) :
    ofFiles (.scripted script) options.interpretComplexity context options.highComplexityThreshold
        files 0
      = (ofAnswer files options.highComplexityThreshold
          (Answers.ofScript options files script).interpretation,
        (Report.fedByComplexity options files).length) := by
  unfold ofFiles ofAnswer Answers.ofScript Report.fedByComplexity Report.asksComplexity
  cases ComplexityMetrics.ofFiles? files options.highComplexityThreshold <;>
    cases options.interpretComplexity <;> rfl

lemma KeyMethod.mapM_scripted (script : Nat → FixedAnswer) (ks : List KeyMethod) (n : Nat) :
    (ks.mapM (describe (.scripted script))) n
      = (withDescriptions (fun i => (script (n + i)).text) ks, n + ks.length) := by
  induction ks generalizing n with
  | nil => rfl
  | cons k ks ih =>
      have hstep : describe (.scripted script) k n
          = ({ k with description := (script n).text }, n + 1) := rfl
      have hshift : (fun i => (script (n + 1 + i)).text)
          = fun i => (script (n + (i + 1))).text := by
        funext i
        rw [Nat.add_assoc, Nat.add_comm 1 i]
      rw [List.mapM_cons, bind_apply, bind_apply, pure_apply, hstep, ih, hshift,
        withDescriptions_cons, List.length_cons, Nat.add_assoc, Nat.add_comm 1]
      rfl

lemma KeyMethod.describeAll_scripted (options : AnalysisOptions) (files : List SourceFile)
    (script : Nat → FixedAnswer) :
    describeAll (.scripted script) options.describeMethods
        (ofFiles (ComponentMap.ofFiles files) files) (Report.fedByComplexity options files).length
      = (withDescriptions (Answers.ofScript options files script).description
          (ofFiles (ComponentMap.ofFiles files) files),
        (Report.fedByComplexity options files).length
          + (Report.fedByMethods options files).length) := by
  unfold Answers.ofScript Report.fedByMethods
  cases options.describeMethods with
  | false =>
      have hnone : withDescriptions (fun _ => none) (ofFiles (ComponentMap.ofFiles files) files)
          = ofFiles (ComponentMap.ofFiles files) files := by
        rw [withDescriptions_none, map_bare_ofFiles]
      exact Prod.ext hnone.symm rfl
  | true =>
      simp only [describeAll, if_true, List.length_map, List.length_range]
      exact mapM_scripted script _ _

/-- **A run with a script** ends in the report of its answers, each taken from its own place, and
has made one call for each entry that is fed. -/
theorem Report.ofFiles_scripted (options : AnalysisOptions) (files : List SourceFile)
    (overview : ProjectOverview) (context : ProjectContext) (script : Nat → FixedAnswer) :
    ofFiles (.scripted script) options files overview context 0
      = (ofAnswers options files overview (.ofScript options files script),
        (fed options files).length) := by
  simp only [ofFiles, bind_apply, pure_apply, ComplexitySummary.ofFiles_scripted,
    KeyMethod.describeAll_scripted]
  refine Prod.ext rfl ?_
  simp only [fed, List.length_append]
  rfl

/-! ## The entry of a call -/

/-- Answers that are the same, except perhaps the one for an entry. -/
structure Answers.SameBut (files : List SourceFile) (e : Option Report.Entry) (a a' : Answers) :
    Prop where
  interpretation : e ≠ some .interpretation → a.interpretation = a'.interpretation
  description : ∀ i < Report.methodCount files,
    e ≠ some (.description i) → a.description i = a'.description i
  aspects : e ≠ some .aspects → a.aspects = a'.aspects
  recommendations : e ≠ some .recommendations → a.recommendations = a'.recommendations

/-- A call that feeds no entry but this one is another call. -/
lemma Report.ne_of_fed {e : Report.Entry} {n m : Nat} (hm : (fed options files)[m]? = some e)
    (hn : (fed options files)[n]? ≠ some e) : m ≠ n := by
  rintro rfl
  exact hn hm

/-- Scripts that differ in one answer give a run answers that differ at most for one entry. -/
lemma Answers.sameBut_of_scripts {n : Nat} (h : ∀ m, m ≠ n → script m = script' m) :
    SameBut files (Report.fed options files)[n]? (ofScript options files script)
      (ofScript options files script') := by
  refine ⟨fun hn => ?_, fun i hi hn => ?_, fun hn => ?_, fun hn => ?_⟩
  · simp only [ofScript]
    cases hasks : Report.asksComplexity options files with
    | false => rfl
    | true =>
        have hfed : (Report.fed options files)[0]? = some .interpretation := by
          simp [Report.fed, Report.fedByComplexity, hasks]
        rw [h 0 (Report.ne_of_fed hfed hn)]
  · simp only [ofScript]
    cases hwanted : options.describeMethods with
    | false => rfl
    | true =>
        have hfed : (Report.fed options files)[(Report.fedByComplexity options files).length + i]?
            = some (.description i) := by
          simp [Report.fed, Report.fedByMethods, hwanted, List.getElem?_append, hi]
        rw [h _ (Report.ne_of_fed hfed hn)]
  · simp only [ofScript]
    have hfed : (Report.fed options files)[(Report.fedByComplexity options files).length
        + (Report.fedByMethods options files).length]? = some .aspects := by
      simp [Report.fed]
    rw [h _ (Report.ne_of_fed hfed hn)]
  · simp only [ofScript]
    have hfed : (Report.fed options files)[(Report.fedByComplexity options files).length
        + (Report.fedByMethods options files).length + 1]? = some .recommendations := by
      rw [Report.fed, List.getElem?_append_right (by simp), List.length_append,
        Nat.add_sub_cancel_left]
      rfl
    rw [h _ (Report.ne_of_fed hfed hn)]

/-! ## Reports of answers that differ for one entry -/

lemma KeyMethod.withDescriptions_congr {description description' : Nat → Option String}
    {ks : List KeyMethod} (h : ∀ i < ks.length, description i = description' i) :
    withDescriptions description ks = withDescriptions description' ks := by
  refine List.ext_getElem (by simp) fun i hi _ => ?_
  rw [length_withDescriptions] at hi
  simp [withDescriptions, h i hi]

/-- Without one description, methods are the same whatever that description was. -/
lemma KeyMethod.modify_withDescriptions {description description' : Nat → Option String}
    {ks : List KeyMethod} {n : Nat}
    (h : ∀ i < ks.length, i ≠ n → description i = description' i) :
    (withDescriptions description ks).modify n bare
      = (withDescriptions description' ks).modify n bare := by
  refine List.ext_getElem (by simp) fun i hi _ => ?_
  rw [List.length_modify, length_withDescriptions] at hi
  rw [List.getElem_modify, List.getElem_modify]
  split_ifs with hin
  · simp [withDescriptions, bare]
  · simp [withDescriptions, h i hi (Ne.symm hin)]

/-- **Answers that differ for one entry lead to reports that differ in this entry only.** -/
theorem Report.sameBut_of_answers {e : Option Entry} {a a' : Answers} (overview : ProjectOverview)
    (h : Answers.SameBut files e a a') :
    SameBut e (ofAnswers options files overview a) (ofAnswers options files overview a') := by
  obtain ⟨hi, hd, ha, hr⟩ := h
  have hmethods : (∀ i, e ≠ some (.description i)) →
      KeyMethod.withDescriptions a.description
          (KeyMethod.ofFiles (ComponentMap.ofFiles files) files)
        = KeyMethod.withDescriptions a'.description
            (KeyMethod.ofFiles (ComponentMap.ofFiles files) files) := fun hne =>
    KeyMethod.withDescriptions_congr fun i hlt => hd i hlt (hne i)
  cases e with
  | none =>
      have hreport := hmethods (by simp)
      simp only [SameBut, ofAnswers, hi (by simp), hreport, ha (by simp), hr (by simp)]
  | some e =>
      cases e with
      | interpretation =>
          have hreport := hmethods (by simp)
          have hrules := fun answer => Aspect.byRule_ofAnswer (Statistics.ofFiles files) files
            (ComponentMap.ofFiles files) options.highComplexityThreshold answer
          simp only [SameBut, without, ofAnswers, hreport, ha (by simp), hr (by simp),
            ComplexitySummary.bare_ofAnswer]
          rw [hrules a.interpretation, hrules a'.interpretation]
      | description i =>
          have hreport := KeyMethod.modify_withDescriptions (n := i) fun j hj hne =>
            hd j hj (by simpa using Ne.symm hne)
          simp only [SameBut, without, ofAnswers, hi (by simp), hreport, ha (by simp), hr (by simp)]
      | aspects =>
          have hreport := hmethods (by simp)
          simp only [SameBut, without, ofAnswers, hi (by simp), hreport, hr (by simp)]
      | recommendations =>
          have hreport := hmethods (by simp)
          simp only [SameBut, without, ofAnswers, hi (by simp), hreport, ha (by simp)]

/-! ## Locality -/

/-- **Every answer stays in its place.**

Scripts that differ in one answer lead to reports that differ at most in the entry which this answer
feeds, and a run makes one call for each entry that is fed.  What nobody is asked for is the same
for every narrator, and a silent narrator gives the report of a run without one. -/
theorem Report.ofFiles_locality (options : AnalysisOptions) (files : List SourceFile)
    (overview : ProjectOverview) (context : ProjectContext) :
    (∀ (script script' : Nat → FixedAnswer) (n : Nat), (∀ m, m ≠ n → script m = script' m) →
      SameBut (fed options files)[n]?
        (ofFiles (.scripted script) options files overview context 0).1
        (ofFiles (.scripted script') options files overview context 0).1) ∧
    (∀ script : Nat → FixedAnswer,
      (ofFiles (.scripted script) options files overview context 0).2
        = (fed options files).length) ∧
    (∀ {σ : Type} (narrator : Narrator σ) (s : σ),
      (ofFiles narrator options files overview context s).1.bare = figures options files overview) ∧
    (∀ {σ : Type} (narrator : Narrator σ), narrator.Silent → ∀ s : σ,
      (ofFiles narrator options files overview context s).1 = offline options files overview) := by
  refine ⟨fun script script' n h => ?_, fun script => ?_, fun narrator s => ?_,
    fun narrator hsilent s => ?_⟩
  · rw [ofFiles_scripted, ofFiles_scripted]
    exact sameBut_of_answers overview (Answers.sameBut_of_scripts h)
  · rw [ofFiles_scripted]
  · exact bare_ofFiles narrator options files overview context s
  · exact ofFiles_of_silent hsilent options files overview context s

/-- A file with one class, a controller with one method. -/
def shopFile : SourceFile where
  path := "Shop.java"
  fileType := "java"
  package := none
  imports := []
  classes := [⟨"ShopController", none, [],
    [⟨"order", "void order()", none, none, none, [], true, 0⟩]⟩]
  totalLines := 9
  codeLines := 9
  commentLines := 0
  complexity := none

/-- What is known about a project with nothing but this file. -/
def shopOverview : ProjectOverview := ⟨"Shop", "", "", ["Java"], none, [], []⟩

/-- Its technologies. -/
def shopContext : ProjectContext := ⟨"java", [], [], none⟩

/-- A script with one answer, to the first call. -/
def firstOnly : Nat → FixedAnswer
  | 0 => ⟨some "Takes an order.", none, [], none⟩
  | _ => ⟨none, none, [], none⟩

/-- The first call asks about the only method, and its answer changes nothing else.  Without a
narrator nothing is said about the method. -/
theorem Report.ofFiles_locality_of_one_method :
    SameBut (some (.description 0))
        (ofFiles (.scripted firstOnly) .standard [shopFile] shopOverview shopContext 0).1
        (ofFiles (.scripted fun _ => ⟨none, none, [], none⟩) .standard [shopFile] shopOverview
          shopContext 0).1 ∧
      (ofFiles .offline .standard [shopFile] shopOverview shopContext ()).1
        = offline .standard [shopFile] shopOverview := by
  have hlocal := ofFiles_locality .standard [shopFile] shopOverview shopContext
  have hfed : (fed .standard [shopFile])[0]? = some (.description 0) := by rfl
  refine ⟨hfed ▸ hlocal.1 _ _ 0 fun m hm => ?_, hlocal.2.2.2 _ Narrator.silent_offline ()⟩
  cases m with
  | zero => exact absurd rfl hm
  | succ m => rfl

end CodeDigest
