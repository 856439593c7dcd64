import CodeDigest.Narration.Model
import CodeDigest.Proofs.Narration.Answers

/-!
# What a model is asked in a run

A run over a language model sends prompts with schemas.  `Model.logged` keeps a list of them and
answers as before, and `requests` is the list of a run: what the complexity figures say, what each
key method does, what is noteworthy, what should be done.  It is a function of the files, the
overview, the technologies and the settings, so nothing that a model replies is sent on to it.

The one answer that a later question carries is the interpretation of the complexity figures, in the
summary that the question for aspects is about; its prompt quotes the figures only
(`Question.request_aspects`).

* `Logs` relates a computation over a logged model to the same computation over the model, and
  `Logs.bind` puts two such computations in a row.
* `Report.logs_ofFiles` follows a whole run, `Report.requests_of_run` says what it sends.
-/

namespace CodeDigest

variable {σ τ α β : Type} {model : Model σ}

/-! ## Requests -/

/-- What is sent to a model: a prompt and a schema. -/
abbrev Request := String × Json

/-- The request for an answer to a question. -/
def Question.request (q : Question) : Request := (q.prompt, q.schema)

/-- The model that keeps a list of what it is sent. -/
def Model.logged (model : Model σ) : Model (σ × List Request) := fun prompt schema s =>
  let reply := model prompt schema s.1
  (reply.1, reply.2, s.2 ++ [(prompt, schema)])

/-- The request for a description of a method. -/
def KeyMethod.request (k : KeyMethod) : Request :=
  (Question.method k.signature k.className k.annotations).request

/-- The request for an interpretation of the complexity figures, if there are any and it is
wanted. -/
def interpretationRequests (options : AnalysisOptions) (files : List SourceFile)
    (context : ProjectContext) : List Request :=
  if options.interpretComplexity then
    ((ComplexityMetrics.ofFiles? files options.highComplexityThreshold).map fun metrics =>
      (Question.complexity metrics context).request).toList
  else []

/-- The requests for descriptions of methods, if they are wanted. -/
def descriptionRequests (options : AnalysisOptions) (ks : List KeyMethod) : List Request :=
  if options.describeMethods then ks.map KeyMethod.request else []

/-- The request for noteworthy aspects. -/
def aspectsRequest (options : AnalysisOptions) (files : List SourceFile)
    (context : ProjectContext) : Request :=
  (Question.aspects (Statistics.ofFiles files)
    (ComplexitySummary.ofAnswer files options.highComplexityThreshold none)
    (ComponentMap.ofFiles files) context).request

/-- The request for recommendations. -/
def recommendationsRequest (files : List SourceFile) (overview : ProjectOverview) : Request :=
  (Question.recommendations
    (Recommendation.summary (Statistics.ofFiles files) overview.keyTechnologies)).request

/-- What a run sends. -/
def requests (options : AnalysisOptions) (files : List SourceFile) (overview : ProjectOverview)
    (context : ProjectContext) : List Request :=
  interpretationRequests options files context
    ++ descriptionRequests options (KeyMethod.ofFiles (ComponentMap.ofFiles files) files)
    ++ [aspectsRequest options files context, recommendationsRequest files overview]

/-- The question for aspects quotes the figures of a complexity section and not what was said about
them. -/
lemma Question.request_aspects (s : Statistics) (m : ComponentMap) (context : ProjectContext)
    {complexity complexity' : ComplexitySummary} (h : complexity.metrics? = complexity'.metrics?) :
    (Question.aspects s complexity m context).request
      = (Question.aspects s complexity' m context).request := by
  simp only [request, prompt, schema, Prompt.aspects, h]

/-! ## Computations over a logged model -/

/-- Over a logged model a computation does what it does over the model, and sends these requests. -/
def Logs (x : StateM (σ × List Request) α) (y : StateM σ α) (sent : List Request) : Prop :=
  ∀ (s : σ) (log : List Request), x (s, log) = ((y s).1, (y s).2, log ++ sent)

lemma logs_pure (a : α) : Logs (pure a : StateM (σ × List Request) α) (pure a) [] := by
  intro s log
  rw [List.append_nil]
  rfl

/-- Computations in a row send their requests in a row, when what the second one sends is the same
for every result that the first one can have. -/
lemma Logs.bind {x : StateM (σ × List Request) α} {y : StateM σ α}
    {f : α → StateM (σ × List Request) β} {g : α → StateM σ β} {sent later : List Request}
    (P : α → Prop) (hx : Logs x y sent) (hP : ∀ s, P (y s).1)
    (hf : ∀ a, P a → Logs (f a) (g a) later) : Logs (x >>= f) (y >>= g) (sent ++ later) := by
  intro s log
  rw [bind_apply, bind_apply, hx s log, hf _ (hP s), List.append_assoc]

/-- The same when the second one sends the same for every result. -/
lemma Logs.andThen {x : StateM (σ × List Request) α} {y : StateM σ α}
    {f : α → StateM (σ × List Request) β} {g : α → StateM σ β} {sent later : List Request}
    (hx : Logs x y sent) (hf : ∀ a, Logs (f a) (g a) later) :
    Logs (x >>= f) (y >>= g) (sent ++ later) :=
  hx.bind (fun _ => True) (fun _ => trivial) fun a _ => hf a

/-- Each question is one request, whatever becomes of it. -/
lemma logs_question (model : Model σ) (q : Question) :
    Logs (Narrator.ofModel model.logged q) (Narrator.ofModel model q) [q.request] := by
  intro s log
  simp only [Narrator.ofModel, bind_apply, Model.logged, Question.request]
  cases (model q.prompt q.schema s).1 <;> rfl

/-! ## The stages of a run -/

variable {options : AnalysisOptions} {files : List SourceFile} {overview : ProjectOverview}
  {context : ProjectContext}

lemma ComplexitySummary.logs_ofFiles (model : Model σ) :
    Logs (ofFiles (.ofModel model.logged) options.interpretComplexity context
        options.highComplexityThreshold files)
      (ofFiles (.ofModel model) options.interpretComplexity context
        options.highComplexityThreshold files)
      (interpretationRequests options files context) := by
  unfold ofFiles interpretationRequests
  cases ComplexityMetrics.ofFiles? files options.highComplexityThreshold with
  | none => cases options.interpretComplexity <;> exact logs_pure _
  | some metrics =>
      cases options.interpretComplexity with
      | false => exact logs_pure _
      | true =>
          exact (logs_question model _).andThen fun _ => logs_pure _

lemma KeyMethod.logs_mapM (model : Model σ) (ks : List KeyMethod) :
    Logs (ks.mapM (describe (.ofModel model.logged))) (ks.mapM (describe (.ofModel model)))
      (ks.map request) := by
  induction ks with
  | nil => exact logs_pure []
  | cons k ks ih =>
      have hdescribe : Logs (describe (.ofModel model.logged) k) (describe (.ofModel model) k)
          ([k.request] ++ []) :=
        (logs_question model _).andThen fun _ => logs_pure _
      rw [List.mapM_cons, List.mapM_cons, List.map_cons, ← List.append_nil (ks.map request)]
      exact hdescribe.andThen fun _ => ih.andThen fun _ => logs_pure _

lemma KeyMethod.logs_describeAll (model : Model σ) (ks : List KeyMethod) :
    Logs (describeAll (.ofModel model.logged) options.describeMethods ks)
      (describeAll (.ofModel model) options.describeMethods ks)
      (descriptionRequests options ks) := by
  unfold describeAll descriptionRequests
  cases options.describeMethods with
  | false => exact logs_pure ks
  | true => exact logs_mapM model ks

/-- The aspects are asked for in the same words whatever was said about the complexity figures. -/
lemma Aspect.logs_identify (model : Model σ) {complexity : ComplexitySummary}
    (h : complexity.metrics? = ComplexityMetrics.ofFiles? files options.highComplexityThreshold) :
    Logs (identify (.ofModel model.logged) (Statistics.ofFiles files) complexity
        (ComponentMap.ofFiles files) context options.highComplexityThreshold)
      (identify (.ofModel model) (Statistics.ofFiles files) complexity
        (ComponentMap.ofFiles files) context options.highComplexityThreshold)
      [aspectsRequest options files context] := by
  rw [aspectsRequest, Question.request_aspects _ _ _
    ((ComplexitySummary.metrics?_ofAnswer _ _ _).trans h.symm)]
  exact (logs_question model _).andThen fun _ => logs_pure _

/-- A run over a logged model is the run over the model, and sends the requests of a run. -/
theorem Report.logs_ofFiles (model : Model σ) :
    Logs (ofFiles (.ofModel model.logged) options files overview context)
      (ofFiles (.ofModel model) options files overview context)
      (requests options files overview context) := by
  have hmetrics : ∀ s, (ComplexitySummary.ofFiles (.ofModel model) options.interpretComplexity
      context options.highComplexityThreshold files s).1.metrics?
        = ComplexityMetrics.ofFiles? files options.highComplexityThreshold := by
    intro s
    obtain ⟨answer, ha, -⟩ := ComplexitySummary.exists_answer (.ofModel model)
      options.interpretComplexity context options.highComplexityThreshold files s
    rw [ha, ComplexitySummary.metrics?_ofAnswer]
  have hrest : requests options files overview context
      = interpretationRequests options files context
        ++ (descriptionRequests options (KeyMethod.ofFiles (ComponentMap.ofFiles files) files)
          ++ ([aspectsRequest options files context]
            ++ ([recommendationsRequest files overview] ++ []))) := by
    simp [requests]
  rw [hrest]
  refine (ComplexitySummary.logs_ofFiles model).bind
    (fun c => c.metrics? = ComplexityMetrics.ofFiles? files options.highComplexityThreshold)
    hmetrics fun complexity hcomplexity => ?_
  refine (KeyMethod.logs_describeAll model _).andThen fun _ => ?_
  refine (Aspect.logs_identify model hcomplexity).andThen fun _ => ?_
  exact (logs_question model _).andThen fun _ => logs_pure _

/-! ## The requests and the report -/

/-- There are figures when a file has a complexity. -/
lemma ComplexityMetrics.isSome_ofFiles? (files : List SourceFile) (threshold : Float) :
    (ofFiles? files threshold).isSome = files.any (·.complexity.isSome) := by
  unfold ofFiles?
  split
  next h =>
    rw [List.filterMap_eq_nil_iff] at h
    simpa using h
  next h =>
    obtain ⟨c, hc⟩ := List.exists_mem_of_ne_nil _ h
    obtain ⟨f, hf, hfc⟩ := List.mem_filterMap.mp hc
    exact (List.any_eq_true.mpr ⟨f, hf, by simp [hfc]⟩).symm

/-- An interpretation is asked for if it is wanted and some file has a complexity. -/
lemma length_interpretationRequests (options : AnalysisOptions) (files : List SourceFile)
    (context : ProjectContext) :
    (interpretationRequests options files context).length
      = if options.interpretComplexity && files.any (·.complexity.isSome) then 1 else 0 := by
  rw [← ComplexityMetrics.isSome_ofFiles? files options.highComplexityThreshold]
  unfold interpretationRequests
  cases options.interpretComplexity <;>
    cases ComplexityMetrics.ofFiles? files options.highComplexityThreshold <;> simp

lemma descriptionRequests_bare (options : AnalysisOptions) (ks : List KeyMethod) :
    descriptionRequests options (ks.map KeyMethod.bare) = descriptionRequests options ks := by
  simp only [descriptionRequests, List.map_map]
  rfl

/-- **What a run sends.**

Whatever the model replies or fails with, a run over it sends at most one request for an
interpretation, which it sends if that is wanted and some file has a complexity; then, if they are
wanted, one request for the description of each key method, in the order of the report; then the
requests for aspects and for recommendations.  No part of a request depends on the model. -/
theorem Report.requests_of_run (options : AnalysisOptions) (files : List SourceFile)
    (overview : ProjectOverview) (context : ProjectContext) (model : Model σ) (model' : Model τ)
    (s : σ) (s' : τ) :
    let report := (ofFiles (.ofModel model) options files overview context s).1
    let sent := (ofFiles (.ofModel model.logged) options files overview context (s, [])).2.2
    let sent' := (ofFiles (.ofModel model'.logged) options files overview context (s', [])).2.2
    sent = interpretationRequests options files context
        ++ descriptionRequests options report.keyMethods
        ++ [aspectsRequest options files context, recommendationsRequest files overview] ∧
      (interpretationRequests options files context).length
        = (if options.interpretComplexity && files.any (·.complexity.isSome) then 1 else 0) ∧
      (ofFiles (.ofModel model.logged) options files overview context (s, [])).1 = report ∧
      sent = requests options files overview context ∧ sent' = sent := by
  intro report sent sent'
  have hrun : ofFiles (.ofModel model.logged) options files overview context (s, [])
      = (report, (ofFiles (.ofModel model) options files overview context s).2,
          requests options files overview context) := logs_ofFiles model s []
  have hrun' : sent' = requests options files overview context :=
    congrArg (·.2.2) (logs_ofFiles model' s' [])
  have hsent : sent = requests options files overview context := congrArg (·.2.2) hrun
  have hmethods : report.keyMethods.map KeyMethod.bare
      = KeyMethod.ofFiles (ComponentMap.ofFiles files) files :=
    congrArg keyMethods (bare_ofFiles (.ofModel model) options files overview context s)
  refine ⟨?_, ?_, congrArg (·.1) hrun, hsent, hrun'.trans hsent.symm⟩
  · rw [hsent, requests, ← hmethods, descriptionRequests_bare]
  · exact length_interpretationRequests options files context

end CodeDigest
