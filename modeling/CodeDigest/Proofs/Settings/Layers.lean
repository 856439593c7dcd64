import CodeDigest.Proofs.CommandLine.Project
import CodeDigest.Proofs.Json.Equality
import CodeDigest.Proofs.Json.Fields
import CodeDigest.Proofs.Text.Splitting
import CodeDigest.Proofs.Text.Trimming

/-!
# The last source that sets a setting decides

Settings are read from layers that have been laid over each other, table by table.  Here they are
described one by one: `Setting.all` lists them, each with the table and the key it stands under and
the way its value is read.
-/

namespace CodeDigest

open Json

/-! ## Values laid over each other -/

namespace Json

variable {key table : String} {v w : Json} {below above : List (String × Json)}

lemma lookup_filter_ne {α : Type} {name : String} (hne : name ≠ key) (ms : List (String × α)) :
    (ms.filter (·.1 != key)).lookup name = ms.lookup name := by
  induction ms with
  | nil => rfl
  | cons m ms ih =>
      obtain ⟨k, v⟩ := m
      rcases eq_or_ne k key with rfl | hk
      · rw [List.filter_cons_of_neg (by simp), ih, lookup_cons, if_neg hne]
      · rw [List.filter_cons_of_pos (by simpa using hk), lookup_cons, lookup_cons, ih]

/-- A member that both have is laid over, any other stays. -/
lemma lookup_overlayMembers (below above : List (String × Json)) (key : String) :
    (overlayMembers below above).lookup key
      = match below.lookup key, above.lookup key with
        | some v, some w => some (v.overlay w)
        | some v, none => some v
        | none, found => found := by
  induction below generalizing above with
  | nil => rw [overlayMembers, List.lookup_nil]
  | cons m below ih =>
      obtain ⟨k, v⟩ := m
      rw [overlayMembers, lookup_cons, lookup_cons]
      split_ifs with hk
      · subst hk
        cases above.lookup key <;> rfl
      · rw [ih, lookup_filter_ne hk]

/-- Anything but an object takes the place of what is there. -/
lemma overlay_of_not_object (v : Json) (h : ∀ ms, w ≠ .object ms) : v.overlay w = w := by
  cases v with
  | object below =>
      cases w with
      | object above => exact absurd rfl (h above)
      | _ => rw [overlay]; simp
  | _ => rw [overlay]; simp

end Json

/-! ## Settings one by one -/

/-- A setting: the table and the key that it stands under, how its value is read, and the value that
it has in settings. -/
structure Setting where
  table : String
  key : String
  {Value : Type}
  read : Json → Option Value
  get : Settings → Value

namespace Setting

/-- Every setting. -/
def all : List Setting :=
  [⟨"analysis", "path", readString, (·.codebase.path)⟩,
   ⟨"analysis", "output", readString, (·.codebase.output)⟩,
   ⟨"analysis", "target_language", readString, (·.codebase.targetLanguage)⟩,
   ⟨"analysis", "include", readStrings, (·.codebase.include_)⟩,
   ⟨"analysis", "exclude", readStrings, (·.codebase.exclude)⟩,
   ⟨"analysis", "max_file_size", readNat, (·.codebase.maxFileSize)⟩,
   ⟨"llm", "enabled", readBool, (·.model.enabled)⟩,
   ⟨"llm", "provider", readString, (·.model.provider)⟩,
   ⟨"llm", "model", readNullable readString, (·.model.model)⟩,
   ⟨"llm", "api_base", readNullable readString, (·.model.endpoint)⟩,
   ⟨"llm", "api_key", readNullable readString, (·.model.key)⟩,
   ⟨"llm", "timeout_secs", readNat, (·.model.timeout)⟩,
   ⟨"llm", "temperature", readSingle, (·.model.temperature)⟩,
   ⟨"llm", "max_tokens", readNat, (·.model.maxTokens)⟩,
   ⟨"pipeline", "high_complexity_threshold", readDouble, (·.analysis.highComplexityThreshold)⟩,
   ⟨"pipeline", "interpret_complexity", readBool, (·.analysis.interpretComplexity)⟩,
   ⟨"pipeline", "describe_methods", readBool, (·.analysis.describeMethods)⟩,
   ⟨"rules", "utility_methods", readStrings, (·.rules.utilityMethods)⟩,
   ⟨"rules", "business_annotations", readStrings, (·.rules.businessAnnotations)⟩,
   ⟨"rules", "business_keywords", readStrings, (·.rules.businessKeywords)⟩]

end Setting

/-! ## Reading them -/

/-- The value of a member, or a standard value where there is no such member. -/
def readOr {α : Type} (ms : List (String × Json)) (key : String) (read : Json → Option α)
    (standard : α) : Option α :=
  ((ms.lookup key).map read).getD (some standard)

lemma fieldOr_eq_bind {α β : Type} (name : String) (read : Json → Option α) (standard : α)
    (k : α → RecordReader β) (ms : List (String × Json)) :
    (fieldOr name read standard >>= k) (.named ms)
      = (readOr ms name read standard).bind fun a => k a (.named ms) := by
  rw [fieldOr_named, readOr]
  cases ((ms.lookup name).map read).getD (some standard) <;> rfl

section Tables

variable {ms : List (String × Json)}

lemma CodebaseSettings.ofJson?_eq_some_iff {c : CodebaseSettings} :
    ofJson? (.object ms) = some c ↔
      readOr ms "path" readString standard.path = some c.path ∧
      readOr ms "output" readString standard.output = some c.output ∧
      readOr ms "target_language" readString standard.targetLanguage = some c.targetLanguage ∧
      readOr ms "include" readStrings standard.include_ = some c.include_ ∧
      readOr ms "exclude" readStrings standard.exclude = some c.exclude ∧
      readOr ms "max_file_size" readNat standard.maxFileSize = some c.maxFileSize := by
  obtain ⟨_, _, _, _, _, _⟩ := c
  simp only [ofJson?, readRecord, fieldOr_eq_bind, RecordReader.pure_apply, Option.map_bind,
    Option.bind_eq_some_iff, Function.comp, Option.map_some, Option.some.injEq, mk.injEq]
  grind

lemma ModelSettings.ofJson?_eq_some_iff {c : ModelSettings} :
    ofJson? (.object ms) = some c ↔
      readOr ms "enabled" readBool standard.enabled = some c.enabled ∧
      readOr ms "provider" readString standard.provider = some c.provider ∧
      readOr ms "model" (readNullable readString) standard.model = some c.model ∧
      readOr ms "api_base" (readNullable readString) standard.endpoint = some c.endpoint ∧
      readOr ms "api_key" (readNullable readString) standard.key = some c.key ∧
      readOr ms "timeout_secs" readNat standard.timeout = some c.timeout ∧
      readOr ms "temperature" readSingle standard.temperature = some c.temperature ∧
      readOr ms "max_tokens" readNat standard.maxTokens = some c.maxTokens := by
  obtain ⟨_, _, _, _, _, _, _, _⟩ := c
  simp only [ofJson?, readRecord, optionOr, fieldOr_eq_bind, RecordReader.pure_apply,
    Option.map_bind, Option.bind_eq_some_iff, Function.comp, Option.map_some, Option.some.injEq,
    mk.injEq]
  grind

lemma AnalysisOptions.ofJson?_eq_some_iff {c : AnalysisOptions} :
    ofJson? (.object ms) = some c ↔
      readOr ms "high_complexity_threshold" readDouble standard.highComplexityThreshold
        = some c.highComplexityThreshold ∧
      readOr ms "interpret_complexity" readBool standard.interpretComplexity
        = some c.interpretComplexity ∧
      readOr ms "describe_methods" readBool standard.describeMethods
        = some c.describeMethods := by
  obtain ⟨_, _, _⟩ := c
  simp only [ofJson?, readRecord, fieldOr_eq_bind, RecordReader.pure_apply, Option.map_bind,
    Option.bind_eq_some_iff, Function.comp, Option.map_some, Option.some.injEq, mk.injEq]
  grind

lemma BusinessRules.ofJson?_eq_some_iff {c : BusinessRules} :
    ofJson? (.object ms) = some c ↔
      readOr ms "utility_methods" readStrings standard.utilityMethods = some c.utilityMethods ∧
      readOr ms "business_annotations" readStrings standard.businessAnnotations
        = some c.businessAnnotations ∧
      readOr ms "business_keywords" readStrings standard.businessKeywords
        = some c.businessKeywords := by
  obtain ⟨_, _, _⟩ := c
  simp only [ofJson?, readRecord, fieldOr_eq_bind, RecordReader.pure_apply, Option.map_bind,
    Option.bind_eq_some_iff, Function.comp, Option.map_some, Option.some.injEq, mk.injEq]
  grind

end Tables

/-! ## Layers -/

/-- A layer is an object, and the tables that it has are objects. -/
structure IsLayer (v : Json) : Prop where
  object : ∃ ms, v = .object ms
  tables : ∀ x ∈ Setting.all, ∀ w, v.get? x.table = some w → ∃ ms, w = .object ms

lemma isLayer_of_members {ms : List (String × Json)}
    (h : ∀ m ∈ ms, ∃ inner, m.2 = .object inner) : IsLayer (.object ms) := by
  refine ⟨⟨ms, rfl⟩, fun x _ w hw => ?_⟩
  obtain ⟨front, behind, rfl, -⟩ := List.lookup_eq_some_iff.mp hw
  exact h (x.table, w) (by simp)

lemma Settings.isLayer_toJson (s : Settings) : IsLayer s.toJson := by
  refine isLayer_of_members fun m hm => ?_
  simp only [List.mem_cons, List.not_mem_nil, or_false] at hm
  obtain rfl | rfl | rfl | rfl := hm
  all_goals exact ⟨_, rfl⟩

/-- The members of a table in a layer; a layer without the table has none. -/
def membersIn (table : String) (v : Json) : List (String × Json) :=
  match v.get? table with
  | some (.object ms) => ms
  | _ => []

/-- The value of a setting in a layer. -/
def Setting.valueIn (x : Setting) (v : Json) : Option x.Value :=
  readOr (membersIn x.table v) x.key x.read (x.get .standard)

variable {v w : Json} {s : Settings}

lemma readOr_table {α : Type} {ms : List (String × Json)} {table : String}
    (read : Json → Option α) (standard : α) (hstandard : read (.object []) = some standard)
    (htable : ∀ w, get? table (.object ms) = some w → ∃ inner, w = .object inner) :
    readOr ms table read standard = read (.object (membersIn table (.object ms))) := by
  rw [readOr, membersIn]
  rw [get?] at htable ⊢
  cases hlookup : ms.lookup table with
  | none => rw [hstandard]; rfl
  | some w =>
      obtain ⟨inner, rfl⟩ := htable w hlookup
      rfl

/-- **Settings are read one by one.** -/
theorem Settings.ofJson?_eq_some_iff (h : IsLayer v) :
    ofJson? v = some s ↔ ∀ x ∈ Setting.all, x.valueIn v = some (x.get s) := by
  obtain ⟨⟨ms, rfl⟩, htables⟩ := h
  simp only [Setting.all, List.forall_mem_cons] at htables
  obtain ⟨hanalysis, -, -, -, -, -, hllm, -, -, -, -, -, -, -, hpipeline, -, -, hrules, -⟩ :=
    htables
  obtain ⟨codebase, model, analysis, rules⟩ := s
  have hsections : ofJson? (.object ms) = some ⟨codebase, model, analysis, rules⟩ ↔
      CodebaseSettings.ofJson? (.object (membersIn "analysis" (.object ms))) = some codebase ∧
      ModelSettings.ofJson? (.object (membersIn "llm" (.object ms))) = some model ∧
      AnalysisOptions.ofJson? (.object (membersIn "pipeline" (.object ms))) = some analysis ∧
      BusinessRules.ofJson? (.object (membersIn "rules" (.object ms))) = some rules := by
    rw [← readOr_table CodebaseSettings.ofJson? .standard rfl hanalysis,
      ← readOr_table ModelSettings.ofJson? .standard rfl hllm,
      ← readOr_table AnalysisOptions.ofJson? .standard rfl hpipeline,
      ← readOr_table BusinessRules.ofJson? .standard rfl hrules]
    simp only [ofJson?, readRecord, fieldOr_eq_bind, RecordReader.pure_apply, Option.map_bind,
      Option.bind_eq_some_iff, Function.comp, Option.map_some, Option.some.injEq, mk.injEq]
    grind
  rw [hsections, CodebaseSettings.ofJson?_eq_some_iff, ModelSettings.ofJson?_eq_some_iff,
    AnalysisOptions.ofJson?_eq_some_iff, BusinessRules.ofJson?_eq_some_iff]
  simp only [Setting.all, List.forall_mem_cons, Setting.valueIn, and_assoc, List.not_mem_nil,
    false_implies, implies_true, and_true]
  rfl

/-! ## Layers over each other -/

namespace Setting

variable {x : Setting} {a b : Json}

/-- What a layer has for a setting. -/
def setBy? (x : Setting) (v : Json) : Option Json := (v.get? x.table).bind (get? x.key)

/-- The value that a layer gives to a setting, if it has the setting. -/
def given? (x : Setting) (v : Json) : Option (Option x.Value) := (x.setBy? v).map x.read

lemma valueIn_eq (hx : x ∈ all) (hv : IsLayer v) :
    x.valueIn v = (x.given? v).getD (some (x.get .standard)) := by
  rw [valueIn, readOr, membersIn, given?, setBy?]
  cases htable : v.get? x.table with
  | none => rfl
  | some w =>
      obtain ⟨ms, rfl⟩ := hv.tables x hx w htable
      rfl

lemma read_object (hx : x ∈ all) (ms : List (String × Json)) : x.read (.object ms) = none := by
  have h : ∀ x ∈ all, x.read (.object ms) = none := by
    simp only [all, List.forall_mem_cons]
    exact ⟨rfl, rfl, rfl, rfl, rfl, rfl, rfl, rfl, rfl, rfl, rfl, rfl, rfl, rfl, rfl, rfl, rfl, rfl,
      rfl, rfl, by simp⟩
  exact h x hx

/-- What is read from a value is not changed by another one below it. -/
lemma read_overlay (hx : x ∈ all) (a b : Json) : x.read (a.overlay b) = x.read b := by
  cases b with
  | object above =>
      cases a with
      | object below => rw [overlay, read_object hx, read_object hx]
      | _ => rw [overlay]; simp
  | _ => rw [overlay_of_not_object a (by simp)]

/-- The upper of two layers decides. -/
theorem given?_overlay (hx : x ∈ all) (ha : IsLayer a) (hb : IsLayer b) :
    x.given? (a.overlay b) = (x.given? b).or (x.given? a) := by
  obtain ⟨⟨below, rfl⟩, ha⟩ := ha
  obtain ⟨⟨above, rfl⟩, hb⟩ := hb
  rw [overlay, given?, given?, given?, setBy?, setBy?, setBy?, get?, get?, get?,
    lookup_overlayMembers]
  cases hbelow : below.lookup x.table with
  | none => simp
  | some v =>
      obtain ⟨vs, rfl⟩ := ha x hx v hbelow
      cases habove : above.lookup x.table with
      | none => simp
      | some w =>
          obtain ⟨ws, rfl⟩ := hb x hx w habove
          simp only [overlay, Option.bind_some, get?, lookup_overlayMembers]
          cases vs.lookup x.key <;> cases ws.lookup x.key <;> simp [read_overlay hx]

end Setting

variable {a b : Json} {vs : List Json}

/-- A layer over a layer is a layer. -/
lemma IsLayer.overlay (ha : IsLayer a) (hb : IsLayer b) : IsLayer (a.overlay b) := by
  obtain ⟨⟨below, rfl⟩, ha⟩ := ha
  obtain ⟨⟨above, rfl⟩, hb⟩ := hb
  refine ⟨⟨_, by rw [Json.overlay]⟩, fun x hx w hw => ?_⟩
  rw [Json.overlay, get?, lookup_overlayMembers] at hw
  cases hbelow : below.lookup x.table with
  | none =>
      rw [hbelow] at hw
      exact hb x hx w hw
  | some v =>
      obtain ⟨vs, rfl⟩ := ha x hx v hbelow
      cases habove : above.lookup x.table with
      | none =>
          rw [hbelow, habove] at hw
          exact ⟨vs, (Option.some.inj hw).symm⟩
      | some u =>
          obtain ⟨us, rfl⟩ := hb x hx u habove
          rw [hbelow, habove] at hw
          exact ⟨_, by rw [← Option.some.inj hw, Json.overlay]⟩

lemma isLayer_foldl (hbase : IsLayer a) (hvs : ∀ v ∈ vs, IsLayer v) :
    IsLayer (vs.foldl Json.overlay a) :=
  vs.foldlRecOn Json.overlay hbase fun _ hb v hv => hb.overlay (hvs v hv)

namespace Setting

variable {x : Setting}

/-- What the last of several layers that have a setting has for it. -/
def lastOf (x : Setting) (vs : List Json) : Option Json := (vs.filterMap x.setBy?).getLast?

/-- The value of a setting that several layers make up: the one in the last layer that has the
setting, or else the standard one. -/
def settled (x : Setting) (vs : List Json) : Option x.Value :=
  match x.lastOf vs with
  | some v => x.read v
  | none => some (x.get .standard)

lemma settled_eq (x : Setting) (vs : List Json) :
    x.settled vs = ((x.lastOf vs).map x.read).getD (some (x.get .standard)) := by
  rw [settled]
  cases x.lastOf vs <;> rfl

lemma lastOf_append (x : Setting) (vs ws : List Json) :
    x.lastOf (vs ++ ws) = (x.lastOf ws).or (x.lastOf vs) := by
  rw [lastOf, List.filterMap_append, List.getLast?_append]
  rfl

@[simp] lemma lastOf_singleton (x : Setting) (v : Json) : x.lastOf [v] = x.setBy? v := by
  cases h : x.setBy? v <;> simp [lastOf, h]

/-- The last of the layers that have a setting decides, or else what is below them all. -/
theorem given?_foldl (hx : x ∈ all) (ha : IsLayer a) (hvs : ∀ v ∈ vs, IsLayer v) :
    x.given? (vs.foldl Json.overlay a) = ((x.lastOf vs).map x.read).or (x.given? a) := by
  induction vs generalizing a with
  | nil => rfl
  | cons v vs ih =>
      obtain ⟨hv, hvs⟩ := List.forall_mem_cons.mp hvs
      have hlast : x.lastOf (v :: vs) = (x.lastOf vs).or (x.setBy? v) := by
        rw [← List.singleton_append, lastOf_append, lastOf_singleton]
      rw [List.foldl_cons, ih (ha.overlay hv) hvs, given?_overlay hx ha hv, hlast, Option.map_or,
        Option.or_assoc]
      rfl

end Setting

/-! ## Names of environment variables -/

namespace Settings

open Text

/-- What becomes of a character of a variable's name. -/
lemma toLower_of_isAlphanum {c : Char} (h : c.isAlphanum = true) :
    isBlank c = false ∧ isBlank c.toLower = false ∧ c.toLower ≠ '_' ∧ c.toLower ≠ '.' := by
  have hall : ∀ n < 128, (Char.ofNat n).isAlphanum = true → isBlank (Char.ofNat n) = false ∧
      isBlank (Char.ofNat n).toLower = false ∧ (Char.ofNat n).toLower ≠ '_' ∧
      (Char.ofNat n).toLower ≠ '.' := by decide
  simpa using hall c.toNat (toNat_lt_of_isAlphanum h) (by simpa using h)

/-- Only the first underscore behind the mark divides a name. -/
theorem keysOf?_underscore {front behind : List Char} (hfront : front ≠ []) (hbehind : behind ≠ [])
    (hf : ∀ c ∈ front, c.isAlphanum = true) (hb : ∀ c ∈ behind, c.isAlphanum = true ∨ c = '_') :
    keysOf? (String.ofList ("CODEBRIEF_".toList ++ (front ++ '_' :: behind)))
      = some [String.ofList (front.map Char.toLower), String.ofList (behind.map Char.toLower)] := by
  have hf' : ∀ c ∈ front.map Char.toLower, isBlank c = false ∧ (c != '_') = true ∧ '.' ≠ c := by
    simp only [List.forall_mem_map]
    intro c hc
    have hc := toLower_of_isAlphanum (hf c hc)
    exact ⟨hc.2.1, by simpa using hc.2.2.1, hc.2.2.2.symm⟩
  have hb' : ∀ c ∈ behind, isBlank c = false ∧ isBlank c.toLower = false ∧ '.' ≠ c.toLower := by
    intro c hc
    rcases hb c hc with h | rfl
    · have hc := toLower_of_isAlphanum h
      exact ⟨hc.1, hc.2.1, hc.2.2.2.symm⟩
    · decide
  have hname : trim ("CODEBRIEF_".toList ++ (front ++ '_' :: behind))
      = "CODEBRIEF_".toList ++ (front ++ '_' :: behind) := by
    have hmark : "CODEBRIEF_".toList.all (!isBlank ·) = true := by decide
    refine (tidy_of_forall ?_).trim_eq
    simp only [List.forall_mem_append, List.forall_mem_cons]
    exact ⟨by simpa using List.all_eq_true.mp hmark,
      fun c hc => (toLower_of_isAlphanum (hf c hc)).1, by decide, fun c hc => (hb' c hc).1⟩
  have hlower : CodebaseSettings.asciiLower
      (trimmed (String.ofList ("CODEBRIEF_".toList ++ (front ++ '_' :: behind))))
      = String.ofList (variableMark.toList ++
          (front.map Char.toLower ++ '_' :: behind.map Char.toLower)) := by
    rw [CodebaseSettings.asciiLower, trimmed, String.toList_ofList, String.toList_ofList, hname,
      List.map_append, List.map_append, List.map_cons]
    rfl
  have hmark : dropPrefix? variableMark.toList (variableMark.toList ++
      (front.map Char.toLower ++ '_' :: behind.map Char.toLower))
      = some (front.map Char.toLower ++ '_' :: behind.map Char.toLower) :=
    dropPrefix?_eq_some_iff.mpr rfl
  have hspan : (front.map Char.toLower ++ '_' :: behind.map Char.toLower).span (· != '_')
      = (front.map Char.toLower, '_' :: behind.map Char.toLower) :=
    Text.span_run (fun c hc => (hf' c hc).2.1) (by decide) _
  have hdotted : trim (front.map Char.toLower ++ '.' :: behind.map Char.toLower)
      = front.map Char.toLower ++ '.' :: behind.map Char.toLower := by
    refine (tidy_of_forall ?_).trim_eq
    simp only [List.forall_mem_append, List.forall_mem_cons, List.forall_mem_map]
    simp only [List.forall_mem_map] at hf'
    exact ⟨fun c hc => (hf' c hc).1, by decide, fun c hc => (hb' c hc).2.1⟩
  have hsplit : split '.' (front.map Char.toLower ++ '.' :: behind.map Char.toLower)
      = [front.map Char.toLower, behind.map Char.toLower] := by
    rw [split_append_cons, split_of_not_mem fun h => (hf' _ h).2.2 rfl, split_of_not_mem]
    · rfl
    · simpa using fun c hc => (hb' c hc).2.2.symm
  simp only [keysOf?, hlower, String.toList_ofList, hmark, hspan, List.isEmpty_cons, List.drop_one,
    List.tail_cons]
  simp [hdotted, hsplit, hfront, hbehind]

/-- The environment variable of a setting. -/
def variableOf (x : Setting) : String :=
  String.ofList ("CODEBRIEF_".toList ++
    (x.table.toList.map Char.toUpper ++ '_' :: x.key.toList.map Char.toUpper))

/-- A setting is set by the variable that is named for its table and its key. -/
lemma keysOf?_variableOf {x : Setting} (hx : x ∈ Setting.all) :
    keysOf? (variableOf x) = some [x.table, x.key] := by
  have hnames : ∀ x ∈ Setting.all, x.table.toList.map Char.toUpper ≠ [] ∧
      x.key.toList.map Char.toUpper ≠ [] ∧
      (x.table.toList.map Char.toUpper).all Char.isAlphanum = true ∧
      (x.key.toList.map Char.toUpper).all (fun c => c.isAlphanum || c == '_') = true ∧
      String.ofList ((x.table.toList.map Char.toUpper).map Char.toLower) = x.table ∧
      String.ofList ((x.key.toList.map Char.toUpper).map Char.toLower) = x.key := by
    decide +kernel
  obtain ⟨htable, hkey, hfront, hbehind, htable', hkey'⟩ := hnames x hx
  have hbehind' : ∀ c ∈ x.key.toList.map Char.toUpper, c.isAlphanum = true ∨ c = '_' :=
    fun c hc => by simpa using List.all_eq_true.mp hbehind c hc
  exact (keysOf?_underscore htable hkey (List.all_eq_true.mp hfront) hbehind').trans
    (congrArg₂ (fun table key => some [table, key]) htable' hkey')

end Settings

namespace Settings

variable {t : FileTree} {env : Environment} {paths : List String}

/-- The layers of environment variables, one for each, in the order of the environment. -/
def variableLayers (env : Environment) : List Json :=
  env.filterMap fun (name, text) =>
    (keysOf? name).map fun keys => nested keys (Variable.ofText text)

lemma ofVariables_eq (env : Environment) :
    ofVariables env = (variableLayers env).foldl Json.overlay (.object []) := by
  rw [ofVariables, variableLayers]
  generalize Json.object [] = base
  induction env generalizing base with
  | nil => rfl
  | cons v env ih =>
      obtain ⟨name, text⟩ := v
      rw [List.foldl_cons, ih, List.filterMap_cons]
      dsimp only
      generalize keysOf? name = keys
      cases keys <;> rfl

/-- Where settings come from: the files that are there, and then the environment variables. -/
def sources (t : FileTree) (env : Environment) (paths : List String) :
    Except Failure (List Json) :=
  ((paths.filter t.pathExists).mapM (ofFile t)).map (· ++ variableLayers env)

lemma check_eq_ok_iff {r : Settings} : s.check = .ok r ↔ s = r ∧ s.fault? = none := by
  rw [check]
  cases s.fault? <;> simp

/-- Settings can be used when they can be read and pass. -/
lemma ofLayers_eq_ok_iff {layers : List Json} : ofLayers layers = .ok s ↔
    ofJson? (layers.foldl Json.overlay standard.toJson) = some s ∧ s.fault? = none := by
  rw [ofLayers]
  cases hread : ofJson? (layers.foldl Json.overlay standard.toJson) with
  | none => simp
  | some r =>
      rw [check_eq_ok_iff, Option.some.injEq]
      exact and_congr_right fun heq => by rw [heq]

/-- What layers on the standard settings make up is settled by the last of them. -/
theorem ofJson?_foldl_eq_some_iff (hvs : ∀ v ∈ vs, IsLayer v) :
    ofJson? (vs.foldl Json.overlay standard.toJson) = some s ↔
      ∀ x ∈ Setting.all, x.settled vs = some (x.get s) := by
  have hbase : IsLayer standard.toJson := isLayer_toJson .standard
  have hlayer : IsLayer (vs.foldl Json.overlay standard.toJson) := isLayer_foldl hbase hvs
  have hsettled : ∀ x ∈ Setting.all,
      x.valueIn (vs.foldl Json.overlay standard.toJson) = x.settled vs := by
    intro x hx
    have hstandard : (x.given? standard.toJson).getD (some (x.get .standard))
        = some (x.get .standard) := by
      rw [← Setting.valueIn_eq hx hbase]
      exact (ofJson?_eq_some_iff hbase).mp rfl x hx
    rw [Setting.valueIn_eq hx hlayer, Setting.given?_foldl hx hbase hvs, Setting.settled_eq]
    cases x.lastOf vs with
    | some v => rfl
    | none => exact hstandard
  rw [ofJson?_eq_some_iff hlayer]
  exact forall₂_congr fun x hx => by rw [hsettled x hx]

/-- Environment variables can be taken one by one. -/
lemma settled_ofVariables {x : Setting} (hx : x ∈ Setting.all) (files : List Json)
    (hvariables : ∀ v ∈ variableLayers env, IsLayer v) :
    x.settled (files ++ [ofVariables env]) = x.settled (files ++ variableLayers env) := by
  have hempty : IsLayer (.object []) := isLayer_of_members (by simp)
  have hgiven : (x.setBy? (ofVariables env)).map x.read
      = (x.lastOf (variableLayers env)).map x.read := by
    have hfold := Setting.given?_foldl hx hempty hvariables
    rw [← ofVariables_eq] at hfold
    exact hfold.trans (Option.or_none ..)
  rw [Setting.settled_eq, Setting.settled_eq, Setting.lastOf_append, Setting.lastOf_append,
    Setting.lastOf_singleton, Option.map_or, Option.map_or, hgiven]

/-- The settings that files and environment variables make up, before they are checked. -/
def merged? (t : FileTree) (env : Environment) (paths : List String) : Option Settings :=
  match (paths.filter t.pathExists).mapM (ofFile t) with
  | .ok layers => ofJson? ((layers ++ [ofVariables env]).foldl Json.overlay standard.toJson)
  | .error _ => none

lemma loadFiles_eq_ok_iff :
    loadFiles t env paths = .ok s ↔ merged? t env paths = some s ∧ s.fault? = none := by
  rw [loadFiles, merged?]
  cases (paths.filter t.pathExists).mapM (ofFile t) with
  | error failure => exact iff_of_false (by rintro ⟨⟩) (by rintro ⟨⟨⟩, _⟩)
  | ok layers => exact ofLayers_eq_ok_iff

theorem merged?_eq_some_iff (h : ∀ vs, sources t env paths = .ok vs → ∀ v ∈ vs, IsLayer v) :
    merged? t env paths = some s ↔ ∃ vs, sources t env paths = .ok vs ∧
      ∀ x ∈ Setting.all, x.settled vs = some (x.get s) := by
  rw [sources] at h ⊢
  rw [merged?]
  cases hfiles : (paths.filter t.pathExists).mapM (ofFile t) with
  | error failure => exact iff_of_false (by rintro ⟨⟩) (by rintro ⟨vs, ⟨⟩, _⟩)
  | ok files =>
      rw [hfiles] at h
      have hsources := h _ rfl
      obtain ⟨hlayers, hvariables⟩ := List.forall_mem_append.mp hsources
      have hempty : IsLayer (.object []) := isLayer_of_members (by simp)
      have habove : IsLayer (ofVariables env) :=
        ofVariables_eq env ▸ isLayer_foldl hempty hvariables
      have hsettled : (∀ x ∈ Setting.all, x.settled (files ++ [ofVariables env]) = some (x.get s)) ↔
          ∀ x ∈ Setting.all, x.settled (files ++ variableLayers env) = some (x.get s) :=
        forall₂_congr fun x hx => by rw [settled_ofVariables hx files hvariables]
      refine (ofJson?_foldl_eq_some_iff (List.forall_mem_append.mpr
        ⟨hlayers, List.forall_mem_singleton.mpr habove⟩)).trans (hsettled.trans ?_)
      constructor
      · exact fun hs => ⟨_, rfl, hs⟩
      · rintro ⟨vs, ⟨⟩, hs⟩
        exact hs

/-- **The last source that sets a setting decides.**  Settings can be loaded just when each file
that is there can be read and what the sources settle can be used.  A setting then has the value of
the last source that has it: of the last environment variable for it, or else of the last file, or
else the standard one.  Files that are not there make no difference, and neither does anything in
another table. -/
theorem loadFiles_layered (h : ∀ vs, sources t env paths = .ok vs → ∀ v ∈ vs, IsLayer v) :
    (∀ s, loadFiles t env paths = .ok s ↔ ∃ vs, sources t env paths = .ok vs ∧
      s.fault? = none ∧ ∀ x ∈ Setting.all, x.settled vs = some (x.get s)) ∧
    (∀ x ∈ Setting.all, keysOf? (variableOf x) = some [x.table, x.key]) ∧
    (∀ front path behind, t.pathExists path = false →
      loadFiles t env (front ++ path :: behind) = loadFiles t env (front ++ behind)) ∧
    ∀ x ∈ Setting.all, ∀ vs ws : List Json,
      vs.filterMap (get? x.table) = ws.filterMap (get? x.table) → x.settled vs = x.settled ws := by
  refine ⟨fun s => ?_, fun x => keysOf?_variableOf, fun front path behind hpath => ?_,
    fun x _ vs ws htable => ?_⟩
  · rw [loadFiles_eq_ok_iff, merged?_eq_some_iff h]
    constructor
    · rintro ⟨⟨vs, hvs, hsettled⟩, hfault⟩
      exact ⟨vs, hvs, hfault, hsettled⟩
    · rintro ⟨vs, hvs, hfault, hsettled⟩
      exact ⟨⟨vs, hvs, hsettled⟩, hfault⟩
  · rw [loadFiles, loadFiles, List.filter_append, List.filter_append,
      List.filter_cons_of_neg (by simp [hpath])]
  · have hlast : ∀ vs, x.lastOf vs
        = ((vs.filterMap (get? x.table)).filterMap (get? x.key)).getLast? := fun vs => by
      rw [List.filterMap_filterMap]
      rfl
    rw [Setting.settled, Setting.settled, hlast, hlast, htable]

/-- A settings file that sets a list and two numbers. -/
def someSettings : String :=
  "[analysis]\nexclude = [\"**/old/**\"]\n[llm]\nmax_tokens = 100\ntimeout_secs = 7\n"

/-- The project that has it. -/
def someProject : FileTree :=
  .project [(".codebrief", .directory [("config.toml", .file someSettings.toUTF8)])]

lemma ofString?_someSettings : Toml.ofString? someSettings
    = some (.object [("analysis", .object [("exclude", strings ["**/old/**"])]),
        ("llm", .object [("max_tokens", nat 100), ("timeout_secs", nat 7)])]) := by
  decide +kernel

/-- One of the two numbers is set by a variable as well; the list takes the place of the standard
one. -/
theorem loadFiles_someProject :
    loadFiles someProject [("CODEBRIEF_LLM_MAX_TOKENS", "200")] ["missing.toml", projectFile] = .ok
      { Settings.standard with
        codebase := { CodebaseSettings.standard with exclude := ["**/old/**"] }
        model := { ModelSettings.standard with maxTokens := 200, timeout := 7 } } := by
  have hfile : someProject.node? projectFile = some (.file someSettings.toUTF8) :=
    FileTree.node?_settingsFile rfl
  have hexists : someProject.pathExists projectFile = true := by
    rw [FileTree.pathExists, hfile]
    rfl
  have hmissing : someProject.pathExists "missing.toml" = false := by
    have hnowhere : someProject.shown "missing.toml" = none :=
      FileTree.shown_of_unnamed (n := "missing.toml") [] [] (by decide) (by simp)
        ⟨by decide, by decide, by decide, by decide⟩ (by decide)
    rw [FileTree.pathExists_eq_shown, hnowhere]
    rfl
  have hkeys : keysOf? "CODEBRIEF_LLM_MAX_TOKENS" = some ["llm", "max_tokens"] := by
    decide +kernel
  have hvalue : Variable.ofText "200" = nat 200 := by decide +kernel
  have hsources : sources someProject [("CODEBRIEF_LLM_MAX_TOKENS", "200")]
      ["missing.toml", projectFile] = .ok
        [.object [("analysis", .object [("exclude", strings ["**/old/**"])]),
          ("llm", .object [("max_tokens", nat 100), ("timeout_secs", nat 7)])],
         .object [("llm", .object [("max_tokens", nat 200)])]] := by
    have hpaths : ["missing.toml", projectFile].filter someProject.pathExists = [projectFile] := by
      simp [hexists, hmissing]
    have hvariables : variableLayers [("CODEBRIEF_LLM_MAX_TOKENS", "200")]
        = [.object [("llm", .object [("max_tokens", nat 200)])]] := by
      simp [variableLayers, hkeys, hvalue, nested]
    rw [sources, hpaths, hvariables, List.mapM_cons, List.mapM_nil,
      ofFile_of_node? hfile ofString?_someSettings]
    rfl
  refine ((loadFiles_layered fun vs hvs => ?_).1 _).mpr ⟨_, hsources, by decide +kernel, ?_⟩
  · obtain rfl := Except.ok.inj (hsources.symm.trans hvs)
    simp only [List.forall_mem_cons]
    exact ⟨isLayer_of_members (by simp), isLayer_of_members (by simp), by simp⟩
  · simp only [Setting.all, List.forall_mem_cons]
    exact ⟨rfl, rfl, rfl, rfl, rfl, rfl, rfl, rfl, rfl, rfl, rfl, rfl, rfl, rfl, rfl, rfl, rfl, rfl,
      rfl, rfl, by simp⟩

end Settings

end CodeDigest
