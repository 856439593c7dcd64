import Mathlib.Data.List.Forall2
import CodeDigest.Proofs.Narration.Answers
import CodeDigest.Proofs.Settings.Choices

/-!
# The key stays secret

Two runs whose settings differ in the key alone, seen from outside.  What is shown of the settings
is the same text (`Settings.render_withKey`), and so is what is written of them for a provider.  The
providers that they describe are the same but for the key (`Provider.ofSettings_withKey`); asked the
same, with the same answer from the server, they give the same result, and the requests that they
send differ in one header at most (`Provider.ask_withKey`).  `Settings.key_stays_secret` is all of
this.

The server is a transport that records the requests that it is given and brings a fixed answer.
-/

namespace CodeDigest

variable {key key' : String} {service : Service} {p : Provider}

/-- A key that is not blank, of visible characters. -/
structure IsKey (key : String) : Prop where
  nonblank : (trimmed key).isEmpty = false
  visible : (key.toList.all fun c => ' ' ≤ c && c ≤ '~') = true

/-! ## Headers -/

/-- The header that carries the key of a service. -/
def Service.keyHeader? : Service → Option String
  | openai => some "authorization"
  | anthropic => some "x-api-key"
  | ollama => none

lemma isHeaderText_append {s t : String} :
    isHeaderText (s ++ t) = (isHeaderText s && isHeaderText t) := by
  rw [isHeaderText, String.toList_append, List.all_append]
  rfl

/-- Visible characters can stand in a header. -/
lemma IsKey.isHeaderText (h : IsKey key) : isHeaderText key = true := by
  refine List.all_eq_true.mpr fun c hc => ?_
  obtain ⟨hspace, htilde⟩ : ' ' ≤ c ∧ c ≤ '~' := by
    simpa using List.all_eq_true.mp h.visible c hc
  have hdelete : c.toNat ≠ 127 := by
    have hle : c.toNat ≤ '~'.toNat := htilde
    have htilde : '~'.toNat = 126 := rfl
    omega
  simp [hspace, hdelete]

lemma IsKey.all_keyHeaders (h : IsKey key) (service : Service) :
    (Provider.keyHeaders service key).all (fun header => CodeDigest.isHeaderText header.2)
      = true := by
  have hbearer : CodeDigest.isHeaderText "Bearer " = true := by decide
  have hversion : CodeDigest.isHeaderText "2023-06-01" = true := by decide
  cases service <;>
    simp [Provider.keyHeaders, isHeaderText_append, h.isHeaderText, hbearer, hversion]

/-- Two lists of headers are the same but for the value of one of them. -/
def SameHeadersBut (secret : Option String) : (hs hs' : List (String × String)) → Prop :=
  List.Forall₂ fun h h' => h.1 = h'.1 ∧ (secret ≠ some h.1 → h.2 = h'.2)

/-- Two requests are the same but for the value of one header. -/
structure HttpRequest.SameBut (secret : Option String) (r r' : HttpRequest) : Prop where
  url : r.url = r'.url
  body : r.body = r'.body
  headers : SameHeadersBut secret r.headers r'.headers

lemma sameHeadersBut_keyHeaders (service : Service) (key key' : String) :
    SameHeadersBut service.keyHeader? (Provider.keyHeaders service key)
      (Provider.keyHeaders service key') := by
  cases service <;> simp [SameHeadersBut, Provider.keyHeaders, Service.keyHeader?]

lemma SameHeadersBut.refl (secret : Option String) (hs : List (String × String)) :
    SameHeadersBut secret hs hs := List.forall₂_same.mpr fun _ _ => ⟨rfl, fun _ => rfl⟩

/-! ## Providers -/

/-- A transport that keeps the requests and always brings the same answer. -/
def Transport.recording (answer : Option HttpAnswer) : Transport (List HttpRequest) :=
  fun request => do
    modify (· ++ [request])
    return answer

namespace Provider

/-- A provider with a key in the place of its own, if its service needs one. -/
def withKey (p : Provider) (key : String) : Provider :=
  { p with key := p.service.keyVariable?.map fun _ => key }

/-- A key that is given is taken, and nothing else of a provider depends on it. -/
theorem ofSettings_withKey (hkey : IsKey key) (env : Environment) (s : ProviderSettings) :
    ofSettings env { s with key := some key }
      = match Service.ofName? s.provider with
        | none => .error (.provider s.provider)
        | some service => (findEndpoint service s.endpoint).map fun endpoint =>
            withKey ⟨service, none, endpoint, s.model.getD service.standardModel, s.temperature,
              s.maxTokens⟩ key := by
  unfold ofSettings
  cases Service.ofName? s.provider with
  | none => rfl
  | some service =>
      have hfind : findKey env service (some key)
          = .ok (service.keyVariable?.map fun _ => key) := by
        have hkept : (some key).filter (fun key => !(trimmed key).isEmpty) = some key := by
          rw [Option.filter_some, hkey.nonblank]
          rfl
        cases service <;> simp only [findKey, Service.keyVariable?, Option.some_or, hkept] <;> rfl
      simp only [hfind]
      cases findEndpoint service s.endpoint <;> rfl

lemma hasHeaders_withKey (hkey : IsKey key) (p : Provider) : (p.withKey key).hasHeaders = true := by
  have htype : isHeaderText "application/json" = true := by decide
  rw [hasHeaders, headers, List.all_append, Bool.and_eq_true]
  refine ⟨?_, by simp [htype]⟩
  change List.all ((p.service.keyVariable?.map fun _ => key).elim [] (keyHeaders p.service)) _
    = true
  cases p.service.keyVariable? with
  | none => rfl
  | some _ => exact hkey.all_keyHeaders p.service

/-- The request with a key that can stand in a header. -/
lemma request?_withKey (hkey : IsKey key) (p : Provider) (prompt : String) (schema : Json) :
    (p.withKey key).request? prompt schema
      = match Address.ofString (p.endpoint ++ requestPath p.service) with
        | .ok (.web url) =>
          some ⟨url, (p.withKey key).headers, p.requestBody prompt schema⟩
        | _ => none := by
  simp only [request?, hasHeaders_withKey hkey]
  rfl

/-- Why there is no request has nothing to do with a key that can stand in a header. -/
lemma requestFault_withKey (hkey : IsKey key) (hkey' : IsKey key') (p : Provider) :
    (p.withKey key).requestFault = (p.withKey key').requestFault := by
  simp only [requestFault, hasHeaders_withKey hkey, hasHeaders_withKey hkey']
  rfl

lemma sameHeadersBut_headers (p : Provider) (key key' : String) :
    SameHeadersBut p.service.keyHeader? (p.withKey key).headers (p.withKey key').headers := by
  refine List.rel_append ?_ (SameHeadersBut.refl _ _)
  change SameHeadersBut p.service.keyHeader?
    ((p.service.keyVariable?.map fun _ => key).elim [] (keyHeaders p.service))
    ((p.service.keyVariable?.map fun _ => key').elim [] (keyHeaders p.service))
  cases p.service.keyVariable? with
  | none => exact .nil
  | some _ => exact sameHeadersBut_keyHeaders p.service key key'

/-- **Two providers that are the same but for the key** give the same result on the same answer, and
their requests differ in the header of the key at most. -/
theorem ask_withKey (hkey : IsKey key) (hkey' : IsKey key') (p : Provider) (prompt : String)
    (schema : Json) (answer : Option HttpAnswer) :
    let asked := (p.withKey key).ask (Transport.recording answer) prompt schema []
    let asked' := (p.withKey key').ask (Transport.recording answer) prompt schema []
    asked.1 = asked'.1 ∧
      List.Forall₂ (HttpRequest.SameBut p.service.keyHeader?) asked.2 asked'.2 := by
  simp only [ask, request?_withKey hkey, request?_withKey hkey', requestFault_withKey hkey hkey']
  split
  next url _ =>
    have hsame : HttpRequest.SameBut p.service.keyHeader?
        ⟨url, (p.withKey key).headers, p.requestBody prompt schema⟩
        ⟨url, (p.withKey key').headers, p.requestBody prompt schema⟩ :=
      ⟨rfl, rfl, sameHeadersBut_headers p key key'⟩
    cases answer with
    | none => exact ⟨rfl, .cons hsame .nil⟩
    | some answer => exact ⟨rfl, .cons hsame .nil⟩
  · exact ⟨rfl, .nil⟩

/-- Two attempts to set up a provider cannot be told apart: they fail for the same reason, or their
providers are the same but for the key, and so is what they send and what they make of any
answer. -/
inductive Alike : (x y : Except SettingsFault Provider) → Prop
  | fault (fault : SettingsFault) : Alike (.error fault) (.error fault)
  | provider {p q : Provider} (same : { p with key := q.key } = q)
      (asked : ∀ prompt schema answer,
        let sent := p.ask (Transport.recording answer) prompt schema []
        let sent' := q.ask (Transport.recording answer) prompt schema []
        sent.1 = sent'.1 ∧
          List.Forall₂ (HttpRequest.SameBut p.service.keyHeader?) sent.2 sent'.2) :
      Alike (.ok p) (.ok q)

theorem alike_withKey (hkey : IsKey key) (hkey' : IsKey key') (env env' : Environment)
    (s : ProviderSettings) :
    Alike (ofSettings env { s with key := some key })
      (ofSettings env' { s with key := some key' }) := by
  rw [ofSettings_withKey hkey, ofSettings_withKey hkey']
  cases Service.ofName? s.provider with
  | none => exact .fault _
  | some service =>
      simp only
      cases findEndpoint service s.endpoint with
      | error fault => exact .fault fault
      | ok endpoint => exact .provider rfl (ask_withKey hkey hkey' _)

end Provider

/-! ## Settings -/

namespace Settings

/-- Settings with a key in the place of the one that they have. -/
def withKey (s : Settings) (key : String) : Settings :=
  { s with model := { s.model with key := some key } }

/-- No text of settings depends on the key. -/
lemma render_withKey (s : Settings) (key : String) (asJson : Bool) :
    (s.withKey key).render asJson = s.render asJson := rfl

/-- Whether settings can be used does not depend on the key. -/
lemma Fit.withKey {s : Settings} (h : s.Fit) (key : String) : (s.withKey key).Fit :=
  ⟨h.temperature, h.timeout, h.maxTokens, h.provider, h.threshold, h.maxFileSize, h.language⟩

/-- **The key stays secret.**

Of two settings that differ in the key alone, the same text is shown, whatever they have been loaded
from, and the same is written for a provider.  The providers that they describe send the same,
except for the header with the key, and give the same results and failures. -/
theorem key_stays_secret (s : Settings) (hkey : IsKey key) (hkey' : IsKey key') :
    (∀ (x y : Surroundings) (file file' : Option String) (format : String),
      load x.tree x.environment file = .ok (s.withKey key) →
      load y.tree y.environment file' = .ok (s.withKey key') →
      let shown := CommandLine.showSettings x file format
      let shown' := CommandLine.showSettings y file' format
      (shown.status, shown.output, shown.errors) = (shown'.status, shown'.output, shown'.errors)) ∧
    (s.withKey key).model.forProvider.toJson = (s.withKey key').model.forProvider.toJson ∧
    ∀ env env', Provider.Alike (Provider.ofSettings env (s.withKey key).model.forProvider)
      (Provider.ofSettings env' (s.withKey key').model.forProvider) := by
  refine ⟨fun x y file file' format hload hload' => ?_, rfl, fun env env' =>
    Provider.alike_withKey hkey hkey' env env' s.model.forProvider⟩
  simp only [CommandLine.showSettings, hload, hload', bind, Except.bind, render_withKey]
  split <;> rfl

/-- A project without files, and a variable that sets the key. -/
def keyedProject (key : String) : Surroundings :=
  ⟨.project [], [("CODEBRIEF_LLM_API_KEY", key)], "2024-05-01T12:00:00+00:00"⟩

lemma load_keyedProject (h : Variable.ofText key = .string key) :
    load (keyedProject key).tree (keyedProject key).environment none
      = .ok (standard.withKey key) := by
  have hkeys : keysOf? "CODEBRIEF_LLM_API_KEY" = some ["llm", "api_key"] := by decide +kernel
  have hsources : sources (keyedProject key).tree (keyedProject key).environment
      (files (keyedProject key).environment none)
      = .ok [.object [("llm", .object [("api_key", .string key)])]] :=
    CommandLine.sources_of_variable rfl hkeys h
  have hmerged : merged? (keyedProject key).tree (keyedProject key).environment
      (files (keyedProject key).environment none) = some (standard.withKey key) := by
    refine (merged?_eq_some_iff fun vs hvs => ?_).mpr ⟨_, hsources, ?_⟩
    · obtain rfl := Except.ok.inj (hsources.symm.trans hvs)
      exact List.forall_mem_singleton.mpr (isLayer_of_members (by simp))
    · simp only [Setting.all, List.forall_mem_cons]
      exact ⟨rfl, rfl, rfl, rfl, rfl, rfl, rfl, rfl, rfl, rfl, rfl, rfl, rfl, rfl, rfl, rfl, rfl,
        rfl, rfl, rfl, by simp⟩
  have hfit : standard.Fit := fault?_eq_none_iff.mp (by decide +kernel)
  have hfault : (standard.withKey key).fault? = none := fault?_eq_none_iff.mpr (hfit.withKey key)
  rw [load_of_merged (by simp) hmerged, check, hfault]

/-- Two keys, each set by a variable. -/
theorem key_stays_secret_of_variable :
    let x := keyedProject "sk-first"
    let y := keyedProject "sk-second key"
    let shown := CommandLine.showSettings x none "toml"
    let shown' := CommandLine.showSettings y none "toml"
    shown.status = 0 ∧
    (shown.status, shown.output, shown.errors) = (shown'.status, shown'.output, shown'.errors) ∧
    Provider.Alike
      (Provider.ofSettings x.environment (standard.withKey "sk-first").model.forProvider)
      (Provider.ofSettings y.environment
        (standard.withKey "sk-second key").model.forProvider) := by
  have hkey : IsKey "sk-first" := ⟨by decide +kernel, by decide +kernel⟩
  have hkey' : IsKey "sk-second key" := ⟨by decide +kernel, by decide +kernel⟩
  have hvalue : Variable.ofText "sk-first" = .string "sk-first" := by decide +kernel
  have hvalue' : Variable.ofText "sk-second key" = .string "sk-second key" := by decide +kernel
  intro x y shown shown'
  obtain ⟨hshown, -, halike⟩ := key_stays_secret standard hkey hkey'
  refine ⟨?_, hshown x y none none "toml" (load_keyedProject hvalue) (load_keyedProject hvalue'),
    halike _ _⟩
  obtain ⟨text, htext⟩ : ∃ text, standard.render false = .ok text := ⟨_, rfl⟩
  simp only [shown, CommandLine.showSettings, bind, Except.bind, x, load_keyedProject hvalue,
    render_withKey, htext]
  rfl

end Settings

end CodeDigest
