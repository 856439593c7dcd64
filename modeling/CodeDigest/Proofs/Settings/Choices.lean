import CodeDigest.Proofs.Settings.Layers

/-!
# Choices on a command line

The choices of an analysis take the place of settings, but only once the settings that have been
loaded have passed on their own.  So an analysis goes on when both the loaded settings and the
chosen ones pass (`CommandLine.prepare_of_merged`).  Where they differ in whether they pass, the
choices have replaced a provider or a language (`Settings.fit_and_apply_iff`).
-/

namespace CodeDigest

namespace Settings

variable {s : Settings} {t : FileTree} {env : Environment} {given : Option String}

/-- Settings that can be used. -/
structure Fit (s : Settings) : Prop where
  temperature : fitsTemperature s.model.temperature = true
  timeout : s.model.timeout ≠ 0
  maxTokens : s.model.maxTokens ≠ 0
  provider : supportedProviders.contains s.model.provider = true
  threshold : fitsThreshold s.analysis.highComplexityThreshold = true
  maxFileSize : s.codebase.maxFileSize ≠ 0
  language : ∃ l, s.codebase.language = .ok l

theorem fault?_eq_none_iff : s.fault? = none ↔ s.Fit := by
  constructor
  · intro h
    unfold fault? at h
    split_ifs at h with h₁ h₂ h₃ h₄ h₅ h₆
    refine ⟨by simpa using h₁, h₂, h₃, by simpa using h₄, by simpa using h₅, h₆, ?_⟩
    split at h
    · next l hl => exact ⟨l, hl⟩
    · cases h
  · rintro ⟨h₁, h₂, h₃, h₄, h₅, h₆, l, hl⟩
    simp only [fault?, h₁, h₂, h₃, h₄, h₅, h₆, hl]
    rfl

/-- What can be read is loaded when it passes. -/
lemma load_of_merged (hgiven : ∀ path ∈ given, t.isFile path = true)
    (hs : merged? t env (files env given) = some s) : load t env given = s.check := by
  have hload : load t env given = loadFiles t env (files env given) := by
    cases given with
    | none => rfl
    | some path => rw [load, if_pos (hgiven path rfl), files]
  rw [hload, loadFiles]
  unfold merged? at hs
  split at hs
  · next layers hlayers =>
    rw [hlayers]
    change ofLayers (layers ++ [ofVariables env]) = s.check
    rw [ofLayers, hs]
  · cases hs

variable {choices : Overrides}

/-- The language depends on its name alone. -/
lemma language_congr {a b : CodebaseSettings} (h : a.targetLanguage = b.targetLanguage) :
    a.language = b.language := by
  rw [CodebaseSettings.language, CodebaseSettings.language, h]

/-- Choices can make up for nothing but a provider or a language that cannot be used. -/
theorem fit_and_apply_iff : s.Fit ∧ (choices.apply s).Fit ↔ (choices.apply s).Fit ∧
    (choices.provider.isSome = true → supportedProviders.contains s.model.provider = true) ∧
    (choices.language.isSome = true → ∃ l, s.codebase.language = .ok l) := by
  constructor
  · rintro ⟨hs, hchosen⟩
    exact ⟨hchosen, fun _ => hs.provider, fun _ => hs.language⟩
  · rintro ⟨hchosen, hprovider, hlanguage⟩
    have htemperature : fitsTemperature s.model.temperature = true := by
      simpa only [Overrides.apply] using hchosen.temperature
    have hthreshold : fitsThreshold s.analysis.highComplexityThreshold = true := by
      simpa only [Overrides.apply] using hchosen.threshold
    refine ⟨⟨htemperature, hchosen.timeout, hchosen.maxTokens, ?_, hthreshold,
      hchosen.maxFileSize, ?_⟩, hchosen⟩
    · cases h : choices.provider with
      | none => simpa [Overrides.apply, h] using hchosen.provider
      | some provider => exact hprovider (by rw [h]; rfl)
    · by_cases h : choices.language.isSome = true
      · exact hlanguage h
      · have hsame : (choices.apply s).codebase.targetLanguage = s.codebase.targetLanguage := by
          rw [Overrides.apply, Option.not_isSome_iff_eq_none.mp h]
          rfl
        exact language_congr hsame ▸ hchosen.language

end Settings

namespace CommandLine

open Settings

variable {s : Surroundings} {given : Option String} {choices : Overrides} {m : Settings}

/-- **Settings are checked before and after the choices.**  An analysis goes on just when the chosen
settings pass, the provider that a choice replaces is known, and so is the language that a choice
replaces; if not, it ends with the first fault. -/
theorem prepare_of_merged (hgiven : ∀ path ∈ given, s.tree.isFile path = true)
    (hm : merged? s.tree s.environment (files s.environment given) = some m) :
    prepare s given choices = (match m.fault?.or (choices.apply m).fault? with
      | some fault => .error (.settings fault)
      | none => (NarratorChoice.ofSettings s.environment (choices.apply m).model).map
          ((choices.apply m), ·)) ∧
    (m.fault?.or (choices.apply m).fault? = none ↔ (choices.apply m).fault? = none ∧
      (choices.provider.isSome = true → supportedProviders.contains m.model.provider = true) ∧
      (choices.language.isSome = true → ∃ l, m.codebase.language = .ok l)) := by
  constructor
  · rw [prepare, load_of_merged hgiven hm, check]
    cases m.fault? with
    | some fault => rfl
    | none =>
        rw [Option.none_or]
        change (choices.apply m).check >>= _ = _
        rw [check]
        cases (choices.apply m).fault? with
        | some fault => rfl
        | none =>
            change NarratorChoice.ofSettings s.environment (choices.apply m).model >>= _ = _
            cases NarratorChoice.ofSettings s.environment (choices.apply m).model <;> rfl
  · rw [Option.or_eq_none_iff, fault?_eq_none_iff, fault?_eq_none_iff]
    exact fit_and_apply_iff

/-- In a project without files a variable that sets one thing about the model is the only layer. -/
lemma sources_of_variable {name key value : String} (hglobal : globalFile? [(name, value)] = none)
    (hkeys : keysOf? name = some ["llm", key]) (hvalue : Variable.ofText value = .string value) :
    sources (.project []) [(name, value)] (files [(name, value)] none)
      = .ok [.object [("llm", .object [(key, .string value)])]] := by
  have hunnamed : ".codebrief" ∉ (FileTree.project []).root.entryNames := by decide
  have hshown : (FileTree.project []).shown projectFile = none :=
    FileTree.shown_of_unnamed (n := ".codebrief") [] ["config.toml"] (by decide) (by simp)
      ⟨by decide, by decide, by decide, by decide⟩ hunnamed
  have hfiles : (files [(name, value)] none).filter (FileTree.project []).pathExists = [] := by
    simp [files, hglobal, FileTree.pathExists_eq_shown, hshown]
  have hvariables : variableLayers [(name, value)]
      = [.object [("llm", .object [(key, .string value)])]] := by
    simp [variableLayers, hkeys, hvalue, nested]
  rw [sources, hfiles, hvariables]
  rfl

/-- A project without files, and a variable that sets the provider. -/
def withProvider (provider : String) : Surroundings :=
  ⟨.project [], [("CODEBRIEF_LLM_PROVIDER", provider)], "2024-05-01T12:00:00+00:00"⟩

/-- The settings that the variable makes up. -/
def settingsWithProvider (provider : String) : Settings :=
  { Settings.standard with model := { ModelSettings.standard with provider } }

lemma merged?_withProvider {provider : String} (h : Variable.ofText provider = .string provider) :
    merged? (withProvider provider).tree (withProvider provider).environment
      (files (withProvider provider).environment none) = some (settingsWithProvider provider) := by
  have hkeys : keysOf? "CODEBRIEF_LLM_PROVIDER" = some ["llm", "provider"] := by decide +kernel
  have hsources : sources (withProvider provider).tree (withProvider provider).environment
      (files (withProvider provider).environment none)
      = .ok [.object [("llm", .object [("provider", .string provider)])]] :=
    sources_of_variable rfl hkeys h
  refine (merged?_eq_some_iff fun vs hvs => ?_).mpr ⟨_, hsources, ?_⟩
  · obtain rfl := Except.ok.inj (hsources.symm.trans hvs)
    exact List.forall_mem_singleton.mpr (isLayer_of_members (by simp))
  · simp only [Setting.all, List.forall_mem_cons]
    exact ⟨rfl, rfl, rfl, rfl, rfl, rfl, rfl, rfl, rfl, rfl, rfl, rfl, rfl, rfl, rfl, rfl, rfl, rfl,
      rfl, rfl, by simp⟩

/-- A provider is chosen, and no model is to be asked. -/
def choosingOpenAi : Overrides := ⟨none, none, some "openai", none, none, true⟩

/-- The provider that a choice replaces is known. -/
theorem prepare_replacing_ollama : prepare (withProvider "ollama") none choosingOpenAi
    = .ok (choosingOpenAi.apply (settingsWithProvider "ollama"), .offline) := by
  have hvalue : Variable.ofText "ollama" = .string "ollama" := by decide +kernel
  refine (prepare_of_merged (by simp) (merged?_withProvider hvalue)).1.trans ?_
  have hfault : (settingsWithProvider "ollama").fault?.or
      (choosingOpenAi.apply (settingsWithProvider "ollama")).fault? = none := by decide +kernel
  rw [hfault]
  rfl

/-- The provider that a choice replaces is not known; the analysis is refused although the settings
that it would go by can be used. -/
theorem run_replacing_unknown_provider : ∃ m : Settings, ∃ choices : Overrides,
    merged? (withProvider "gemini").tree (withProvider "gemini").environment
      (files (withProvider "gemini").environment none) = some m ∧
    Invocation.ofArguments? ["analyze", "--offline", "--provider", "openai"]
      = some ⟨none, false, .analyze choices⟩ ∧
    (choices.apply m).fault? = none ∧
    (run Transport.none (withProvider "gemini")
        ["analyze", "--offline", "--provider", "openai"] ()).1
      = .failure "" (.settings (.provider "gemini")) (withProvider "gemini").tree := by
  have hvalue : Variable.ofText "gemini" = .string "gemini" := by decide +kernel
  have hwords : Invocation.ofArguments? ["analyze", "--offline", "--provider", "openai"]
      = some ⟨none, false, .analyze choosingOpenAi⟩ := by rfl
  have hload : load (withProvider "gemini").tree (withProvider "gemini").environment none
      = (settingsWithProvider "gemini").check :=
    load_of_merged (by simp) (merged?_withProvider hvalue)
  have hfault : (settingsWithProvider "gemini").fault? = some (.provider "gemini") := by
    decide +kernel
  have hprepare : prepare (withProvider "gemini") none choosingOpenAi
      = .error (.settings (.provider "gemini")) := by
    rw [prepare, hload, check, hfault]
    rfl
  refine ⟨_, _, merged?_withProvider hvalue, hwords, by decide +kernel, ?_⟩
  simp only [run, hwords, perform, analyze, hprepare]
  rfl

end CommandLine

end CodeDigest
