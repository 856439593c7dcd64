import CodeDigest.Proofs.Settings.Choices
import CodeDigest.Proofs.Toml.Documents

/-!
# Settings that are written can be loaded

The settings are written as a document of four tables, and the document is read as a layer: the same
tables, but that a text which is missing is left out and that the temperature comes back in double
precision (`Settings.ofString?_document_toJson`).  A setting that is left out has no standard value
that could take its place, so the layer settles every setting as it was, the secret key apart
(`Settings.settled_writtenLayer`).  Hence a file that settings have been written to is loaded as
these settings (`Settings.loadFile_render`).
-/

namespace CodeDigest

open Json Toml

/-- What is read back for the settings on the language model. -/
def ModelSettings.written (s : ModelSettings) (temperature : Float) : List (String × Json) :=
  ("enabled", .bool s.enabled) :: ("provider", .string s.provider) ::
    ((s.model.map fun model => ("model", Json.string model)).toList ++
      ((s.endpoint.map fun endpoint => ("api_base", Json.string endpoint)).toList ++
        [("timeout_secs", nat s.timeout), ("temperature", double temperature),
          ("max_tokens", nat s.maxTokens)]))

namespace Settings

variable {s : Settings} {x : Float}

/-- The settings without the secret key. -/
def withoutKey (s : Settings) : Settings := { s with model := { s.model with key := none } }

/-- The key makes no difference to whether settings can be used. -/
lemma Fit.withoutKey (h : s.Fit) : s.withoutKey.Fit :=
  ⟨h.temperature, h.timeout, h.maxTokens, h.provider, h.threshold, h.maxFileSize, h.language⟩

/-- The whole numbers in settings. -/
def wholeNumbers (s : Settings) : List ℕ :=
  [s.codebase.maxFileSize, s.model.timeout, s.model.maxTokens]

/-- What is read back for settings. -/
def writtenLayer (s : Settings) (temperature : Float) : Json :=
  .object
    [("analysis", s.codebase.toJson),
     ("llm", .object (s.model.written temperature)),
     ("pipeline", s.analysis.toJson),
     ("rules", s.rules.toJson)]

/-! ## The document -/

lemma exists_codebase (hsize : s.codebase.maxFileSize < wholeLimit) :
    ∃ ms, s.codebase.toJson = .object ms ∧ (ms.map Prod.fst).Nodup ∧
      TableBack ("analysis", ms) ("analysis", ms) := by
  have hname : IsPlain "analysis" := by decide
  refine ⟨_, rfl, by simp, rfl, hname, ?_⟩
  exact .string (by decide) _ <| .string (by decide) _ <| .string (by decide) _ <|
    .strings (by decide) _ <| .strings (by decide) _ <| .nat (by decide) hsize .nil

lemma exists_model (htimeout : s.model.timeout < wholeLimit)
    (htokens : s.model.maxTokens < wholeLimit)
    (hx : scalar? (floatText (.ofSingle s.model.temperature)).toList = some (double x)) :
    ∃ ms, s.model.toJson = .object ms ∧ TableBack ("llm", ms) ("llm", s.model.written x) := by
  have hname : IsPlain "llm" := by decide
  refine ⟨_, rfl, rfl, hname, ?_⟩
  exact .bool (by decide) _ <| .string (by decide) _ <| .option (by decide) _ <|
    .option (by decide) _ <| .nat (by decide) htimeout <| .single (by decide) hx <|
    .nat (by decide) htokens .nil

lemma exists_analysis (hthreshold : DoubleReadsBack s.analysis.highComplexityThreshold) :
    ∃ ms, s.analysis.toJson = .object ms ∧ (ms.map Prod.fst).Nodup ∧
      TableBack ("pipeline", ms) ("pipeline", ms) := by
  have hname : IsPlain "pipeline" := by decide
  refine ⟨_, rfl, by simp, rfl, hname, ?_⟩
  exact .double (by decide) hthreshold <| .bool (by decide) _ <| .bool (by decide) _ .nil

lemma exists_rules (s : Settings) :
    ∃ ms, s.rules.toJson = .object ms ∧ (ms.map Prod.fst).Nodup ∧
      TableBack ("rules", ms) ("rules", ms) := by
  have hname : IsPlain "rules" := by decide
  refine ⟨_, rfl, by simp, rfl, hname, ?_⟩
  exact .strings (by decide) _ <| .strings (by decide) _ <| .strings (by decide) _ .nil

lemma nodup_written (s : ModelSettings) (x : Float) : ((s.written x).map Prod.fst).Nodup := by
  rw [ModelSettings.written]
  cases s.model <;> cases s.endpoint <;> simp

/-- The document of settings is read. -/
lemma ofString?_document_toJson (hwhole : ∀ n ∈ s.wholeNumbers, n < wholeLimit)
    (hthreshold : DoubleReadsBack s.analysis.highComplexityThreshold)
    (hx : scalar? (floatText (.ofSingle s.model.temperature)).toList = some (double x)) :
    Toml.ofString? (Toml.document s.toJson) = some (s.writtenLayer x) := by
  simp only [wholeNumbers, List.forall_mem_cons] at hwhole
  obtain ⟨hsize, htimeout, htokens, -⟩ := hwhole
  obtain ⟨codebase, hcodebase, hkeys₁, htable₁⟩ := exists_codebase hsize
  obtain ⟨model, hmodel, htable₂⟩ := exists_model htimeout htokens hx
  obtain ⟨analysis, hanalysis, hkeys₃, htable₃⟩ := exists_analysis hthreshold
  obtain ⟨rules, hrules, hkeys₄, htable₄⟩ := exists_rules s
  have htables := List.Forall₂.cons htable₁ <| .cons htable₂ <| .cons htable₃ <|
    .cons htable₄ .nil
  have hkeys : ∀ b ∈ [("analysis", codebase), ("llm", s.model.written x), ("pipeline", analysis),
      ("rules", rules)], (b.2.map Prod.fst).Nodup := by
    simp only [List.forall_mem_cons]
    exact ⟨hkeys₁, nodup_written s.model x, hkeys₃, hkeys₄, by simp⟩
  have hread := ofString?_document htables (by simp) hkeys
  rw [toJson, writtenLayer, hcodebase, hmodel, hanalysis, hrules]
  exact hread

/-! ## The layer -/

lemma isLayer_writtenLayer (s : Settings) (x : Float) : IsLayer (s.writtenLayer x) := by
  refine isLayer_of_members fun m hm => ?_
  simp only [List.mem_cons, List.not_mem_nil, or_false] at hm
  obtain rfl | rfl | rfl | rfl := hm
  all_goals exact ⟨_, rfl⟩

/-- What has been written settles every setting as it was, but for the secret key. -/
lemma settled_writtenLayer (hwhole : ∀ n ∈ s.wholeNumbers, n < wholeLimit)
    (hx : singleOfDouble x = s.model.temperature) :
    ∀ y ∈ Setting.all, y.settled [s.writtenLayer x] = some (y.get s.withoutKey) := by
  have hnat : ∀ n ∈ s.wholeNumbers, readNat (nat n) = some n := fun n hn =>
    readNat_nat ((hwhole n hn).trans (by decide))
  simp only [wholeNumbers, List.forall_mem_cons] at hnat
  obtain ⟨hsize, htimeout, htokens, -⟩ := hnat
  obtain ⟨codebase, ⟨enabled, provider, model, endpoint, key, timeout, temperature, maxTokens⟩,
    analysis, rules⟩ := s
  obtain rfl : singleOfDouble x = temperature := hx
  simp only [Setting.all, List.forall_mem_cons]
  cases model <;> cases endpoint
  all_goals
    exact ⟨rfl, rfl, rfl, readStrings_strings _, readStrings_strings _, hsize, rfl, rfl, rfl, rfl,
      rfl, htimeout, rfl, htokens, rfl, rfl, rfl, readStrings_strings _, readStrings_strings _,
      readStrings_strings _, by simp⟩

/-- **Settings that are written can be loaded.**  The text of settings that can be used, once it has
been written to a file, is loaded as these settings, but for the secret key, which is not written.
The whole numbers have to fit a settings file, and the two numbers with a point have to be read as
they are printed. -/
theorem loadFile_render (hcheck : s.check = .ok s) (hwhole : ∀ n ∈ s.wholeNumbers, n < wholeLimit)
    (hthreshold : DoubleReadsBack s.analysis.highComplexityThreshold)
    (htemperature : SingleReadsBack s.model.temperature) :
    ∃ text, s.render false = .ok text ∧ ∀ (t t' : FileTree) (path : String), t.HasHere →
      t.write path text.toUTF8 = .ok t' → loadFile t' path = .ok s.withoutKey := by
  obtain ⟨x, hx, hround⟩ := htemperature
  have hfault : s.fault? = none := (check_eq_ok_iff.mp hcheck).2
  have hfits : ¬s.wholeNumbers.any (wholeLimit ≤ ·) = true := by
    simpa using fun n hn => hwhole n hn
  refine ⟨Toml.document s.toJson, by rw [render, if_neg (by simp)]; exact if_neg hfits, ?_⟩
  intro t t' path hhere hwrite
  obtain ⟨-, -, names, hloc, -⟩ := FileTree.write_spec hhere hwrite
  have hfile : t'.node? path = some (.file (Toml.document s.toJson).toUTF8) := by
    simp only [FileTree.node?, hloc]
  have hlayers : ofLayers [s.writtenLayer x] = .ok s.withoutKey :=
    ofLayers_eq_ok_iff.mpr ⟨(ofJson?_foldl_eq_some_iff (List.forall_mem_singleton.mpr
      (isLayer_writtenLayer s x))).mpr (settled_writtenLayer hwhole hround),
      fault?_eq_none_iff.mpr (fault?_eq_none_iff.mp hfault).withoutKey⟩
  rw [loadFile, ofFile_of_node? hfile (ofString?_document_toJson hwhole hthreshold hx)]
  exact hlayers

/-- Settings with texts that need each of the ways to quote, an empty list, a text that is missing,
and a secret key. -/
def quotedSettings : Settings :=
  { Settings.standard with
    codebase :=
      { CodebaseSettings.standard with
        path := "C:\\new \"code\""
        output := "one\ntwo ''' \"\"\" \x01"
        include_ := ["it's", "\\d+\n'", "été \"\"", ""]
        exclude := [] }
    model := { ModelSettings.standard with model := some "a\tb", key := some "secret" } }

/-- They are written to a file of an empty project and loaded again. -/
theorem loadFile_quotedSettings : ∃ text t', quotedSettings.render false = .ok text ∧
    (FileTree.project []).write "./settings.toml" text.toUTF8 = .ok t' ∧
    loadFile t' "./settings.toml" = .ok quotedSettings.withoutKey := by
  have hfault : quotedSettings.fault? = none := by decide +kernel
  have hcheck : quotedSettings.check = .ok quotedSettings := check_eq_ok_iff.mpr ⟨rfl, hfault⟩
  have hthreshold : DoubleReadsBack quotedSettings.analysis.highComplexityThreshold := by
    rw [DoubleReadsBack]
    decide +kernel
  have htemperature : SingleReadsBack quotedSettings.model.temperature :=
    ⟨0.1, by decide +kernel, by decide +kernel⟩
  obtain ⟨text, hrender, hload⟩ := loadFile_render hcheck (by decide) hthreshold htemperature
  have hlocate : (FileTree.project []).locate true "./settings.toml"
      = .ok (.missing ["project"] "settings.toml") := by
    rw [FileTree.locate_project ["settings.toml"] ⟨by decide, by decide, by decide⟩ (by decide)
      (by decide), FileTree.walk_entry ⟨by decide, by decide, by decide, by decide⟩]
    rfl
  have hwrite : (FileTree.project []).write "./settings.toml" text.toUTF8
      = .ok ((FileTree.project []).put ["project", "settings.toml"] (.file text.toUTF8)) := by
    have htrailing : FileTree.withoutTrailing "./settings.toml" = "./settings.toml" := by decide
    rw [FileTree.write, htrailing, hlocate]
    rfl
  exact ⟨text, _, hrender, hwrite, hload _ _ _ FileTree.hasHere_project hwrite⟩

end Settings

end CodeDigest
