import CodeDigest.Proofs.Json.Fields
import CodeDigest.Proofs.Json.Printing
import CodeDigest.Report

/-!
# Written reports read back

A report is written as a document with a section about the run, and the document is read as a
report again.  `Report.readBack_render` says that nothing is lost on the way, whatever characters
its texts have.

Two facts meet.  The text of the document is read as the value it was written from
(`Json.ofString?_toPretty`), for which every key and every number has to survive
(`Report.readsBack_members`).  And each record is read from the members that it is written to
(`Report.ofJson?_document`): a missing text from a null or from a member that is not there.
-/

namespace CodeDigest

open Json

variable {room : Nat}

/-! ## Records are read from their members -/

@[simp] lemma ProjectOverview.ofJson?_toJson (o : ProjectOverview) :
    ofJson? o.toJson = some o := by
  simp [ofJson?, toJson, readRecord, lookup_cons]

namespace Statistics

/-- The counts of files, lines, classes and methods, and those of the file types. -/
def counts (s : Statistics) : List Nat :=
  [s.totalFiles, s.totalLines, s.totalCodeLines, s.totalClasses, s.totalMethods, s.averageFileSize,
    s.averageMethodsPerClass] ++ s.fileTypes.map Prod.snd

/-- What holds of counts that are kept in words of 64 bits, and in a table in the order of its
keys. -/
structure Storable (s : Statistics) : Prop where
  word : ∀ n ∈ s.counts, n < 0x10000000000000000
  keys : (s.fileTypes.map Prod.fst).Pairwise (· < ·)

variable {s : Statistics}

lemma ofJson?_toJson (h : s.Storable) : ofJson? s.toJson = some s := by
  obtain ⟨hword, hkeys⟩ := h
  have htypes : ∀ e ∈ s.fileTypes, readNat (nat e.2) = some e.2 := fun e he =>
    readNat_nat (hword e.2 (List.mem_append_right _ (List.mem_map_of_mem he)))
  have htable := readTable_map htypes hkeys
  simp only [counts, List.cons_append, List.forall_mem_cons] at hword
  obtain ⟨hfiles, hlines, hcode, hclasses, hmethods, hsize, hper, -⟩ := hword
  simp [ofJson?, toJson, readRecord, lookup_cons, readNat_nat, *]

end Statistics

@[simp] lemma Role.readNullable_ofJson? (role : Option Role) :
    readNullable Role.ofJson? (stringOrNull (role.map Role.name)) = some role := by
  cases role with
  | none => rfl
  | some role => simp [stringOrNull, orNull, readNullable, Role.ofJson?, Role.ofName?_name]

@[simp] lemma KeyMethod.ofJson?_toJson (k : KeyMethod) : ofJson? k.toJson = some k := by
  simp [ofJson?, toJson, readRecord, lookup_cons]

@[simp] lemma ComponentMap.ofJson?_toJson (c : ComponentMap) : ofJson? c.toJson = some c := by
  simp [ofJson?, toJson, readRecord, rows, Role.all, Role.name, get, lookup_cons]

@[simp] lemma ComplexitySummary.ofJson?_toJson (c : ComplexitySummary) :
    ofJson? c.toJson = some c := by
  rcases c with ⟨metrics, interpretation⟩ | message
  · cases interpretation <;> simp [ofJson?, toJson, ComplexityMetrics.members,
      ComplexityMetrics.reader, readNamed, optionOr, lookup_cons]
  · -- the members of the figures are not there, so the message is read
    simp [ofJson?, toJson, ComplexityMetrics.reader, readNamed, readRecord, lookup_cons]

lemma ReportMetadata.ofJson?_toJson (m : ReportMetadata) : ofJson? m.toJson = some m := by
  simp [ofJson?, toJson, readRecord, lookup_cons]

/-! ## The text of a document is read as the document -/

lemma readsBack_nat {n : Nat} (h : n < 0x10000000000000000) : ReadsBack room (nat n) :=
  .number (Number.readsBack_nat h)

lemma readsBack_strings (xs : List String) : ReadsBack (room + 1) (strings xs) :=
  .array <| List.forall_mem_map.mpr fun s _ => .string s

lemma readsBack_stringOrNull (s : Option String) : ReadsBack room (stringOrNull s) := by
  cases s with
  | none => exact .null
  | some s => exact .string s

lemma ProjectOverview.readsBack_toJson (o : ProjectOverview) : ReadsBack (room + 2) o.toJson := by
  refine .object (by simp) ?_
  simp [ReadsBack.string, readsBack_strings, readsBack_stringOrNull]

lemma Statistics.readsBack_toJson {s : Statistics} (h : s.Storable) :
    ReadsBack (room + 2) s.toJson := by
  obtain ⟨hword, hkeys⟩ := h
  have htypes : ReadsBack (room + 1) (.object (s.fileTypes.map fun e => (e.1, nat e.2))) := by
    refine .object ?_ (List.forall_mem_map.mpr fun e he => readsBack_nat ?_)
    · rw [List.map_map]
      exact hkeys.imp Std.ne_of_lt
    · exact hword e.2 (List.mem_append_right _ (List.mem_map_of_mem he))
  simp only [counts, List.cons_append, List.forall_mem_cons] at hword
  obtain ⟨hfiles, hlines, hcode, hclasses, hmethods, hsize, hper, -⟩ := hword
  refine .object (by simp) ?_
  simp [readsBack_nat, *]

lemma KeyMethod.readsBack_toJson (k : KeyMethod) : ReadsBack (room + 2) k.toJson := by
  refine .object (by simp) ?_
  simp [ReadsBack.string, readsBack_strings, readsBack_stringOrNull]

lemma ComponentMap.readsBack_toJson (c : ComponentMap) : ReadsBack (room + 2) c.toJson := by
  refine .object (by simp [rows, Role.all, Role.name]) ?_
  simp [rows, Role.all, readsBack_strings]

/-- The numbers of floating point in a section. -/
def ComplexitySummary.doubles (c : ComplexitySummary) : List Float :=
  (c.metrics?.map fun m => [m.average, m.max, m.min]).getD []

lemma ComplexitySummary.readsBack_toJson {c : ComplexitySummary}
    (h : ∀ x ∈ c.doubles, (Number.double x).ReadsBack) : ReadsBack (room + 2) c.toJson := by
  have hdouble : ∀ x ∈ c.doubles, ReadsBack (room + 1) (double x) := fun x hx => .number (h x hx)
  rcases c with ⟨metrics, interpretation⟩ | message
  · simp only [doubles, metrics?, Option.map_some, Option.getD_some,
      List.forall_mem_cons] at hdouble
    obtain ⟨haverage, hmax, hmin, -⟩ := hdouble
    cases interpretation <;> refine .object (by simp [ComplexityMetrics.members]) ?_
    all_goals simp [ComplexityMetrics.members, ReadsBack.string, readsBack_strings, *]
  · exact .object (by simp) (by simp [ReadsBack.string])

lemma ReportMetadata.readsBack_toJson (m : ReportMetadata) : ReadsBack (room + 1) m.toJson :=
  .object (by simp) (by simp [ReadsBack.string])

namespace Report

/-- The keys of a document. -/
def sections : List String :=
  ["overview", "statistics", "key_methods", "key_components", "complexity_summary",
    "recommendations", "noteworthy_aspects", "metadata"]

variable (r : Report) (m : ReportMetadata)

/-- The report is read from its document; the section about the run is passed over. -/
lemma ofJson?_document (h : r.statistics.Storable) : ofJson? (r.document m) = some r := by
  simp [ofJson?, document, members, readRecord, lookup_cons, Statistics.ofJson?_toJson h,
    readList_map KeyMethod.ofJson?_toJson]

lemma readsBack_members (h : r.statistics.Storable)
    (hdoubles : ∀ x ∈ r.complexitySummary.doubles, (Number.double x).ReadsBack) :
    ∀ e ∈ r.members ++ [("metadata", m.toJson)], ReadsBack (room + 3) e.2 := by
  have hmethods : ReadsBack (room + 3) (.array (r.keyMethods.map KeyMethod.toJson)) :=
    .array <| List.forall_mem_map.mpr fun k _ => k.readsBack_toJson
  simp [members, ProjectOverview.readsBack_toJson, Statistics.readsBack_toJson h, hmethods,
    ComponentMap.readsBack_toJson, ComplexitySummary.readsBack_toJson hdoubles, readsBack_strings,
    ReportMetadata.readsBack_toJson]

lemma sections_nodup : sections.Nodup := by decide

/-- **A written report reads back.**  The text is that of a JSON document whose keys are the
sections of a report and the section about the run.  Reading it brings back the report, the section
about the run, and a list for each role.  That the digits of a finite number of floating point are
read as this number is a hypothesis. -/
theorem readBack_render {r : Report} (m : ReportMetadata) (hstorable : r.statistics.Storable)
    (hfinite : ∀ x ∈ r.complexitySummary.doubles, x.isFinite = true)
    (hreads : ∀ x ∈ r.complexitySummary.doubles,
      x.isFinite = true → (Number.double x).ReadsBack) :
    (∃ (d : Document) (gap : Gap) (ns : List (Json.Entry Tree)), d.text = (r.render m).toList ∧
        d.root = .object gap ns ∧ ns.map Json.Entry.name = sections ∧ sections.Nodup) ∧
      ∃ v, Json.ofString? (r.render m) = some v ∧
        ofJson? v = some r ∧
        (v.get? "metadata").bind ReportMetadata.ofJson? = some m ∧
        ∃ roles, v.get? "key_components" = some (.object roles) ∧
          roles.map Prod.fst = Role.all.map Role.name := by
  have hdoubles : ∀ x ∈ r.complexitySummary.doubles, (Number.double x).ReadsBack := fun x hx =>
    hreads x hx (hfinite x hx)
  have hmembers : ∀ e ∈ r.members ++ [("metadata", m.toJson)], ReadsBack (maxDepth - 1) e.2 :=
    readsBack_members r m hstorable hdoubles
  have hkeys : ((r.members ++ [("metadata", m.toJson)]).map Prod.fst).Nodup := sections_nodup
  constructor
  · obtain ⟨gap, ns, hnames, htree⟩ := exists_object_indented hkeys fun e he =>
      exists_tree (hmembers e he) 1
    obtain ⟨d, hroot, htext⟩ := exists_document htree
    exact ⟨d, gap, ns, htext, hroot, hnames, sections_nodup⟩
  · exact ⟨r.document m, ofString?_toPretty (.object hkeys hmembers),
      ofJson?_document r m hstorable,
      by simp [document, members, get?, lookup_cons, ReportMetadata.ofJson?_toJson],
      _, by simp [document, members, get?, lookup_cons]; rfl, rfl⟩

/-- A report whose texts have to be escaped and some of whose texts are missing. -/
def escaping : Report where
  overview := ⟨"the \"shop\"", "C:\\shop", "sell\tthings\u0007", ["Java", ""], none, [], ["/\\/"]⟩
  statistics := ⟨2, 90, 72, 3, 5, [("java", 2), ("xml", 1)], 45, 1⟩
  keyMethods :=
    [⟨"Shop", "buy", "Bill buy(\"all\")", none, ["@Bean(\"b\")"], none⟩,
     ⟨"Shop", "sell", "void sell()", some "sells\n\"it\"", [], some .controllers⟩]
  keyComponents := ⟨["Shop"], [], [], ["Bill"], []⟩
  complexitySummary := .measured ⟨4.5, 12, 1, ["src\\Shop.java"]⟩ (some "a \"hot\" spot")
  recommendations := ["mind the \u0000"]
  noteworthyAspects := []

/-- A run with a model of an odd name. -/
def escapingRun : ReportMetadata := ⟨"2024-05-01T10:00:00Z", "0.1.0", "openai", "\"\\\u001f\""⟩

theorem readBack_render_of_escaping :
    escaping.complexitySummary.doubles = [4.5, 12, 1] ∧
      ∃ v, Json.ofString? (escaping.render escapingRun) = some v ∧ ofJson? v = some escaping ∧
        (v.get? "metadata").bind ReportMetadata.ofJson? = some escapingRun := by
  have hstorable : escaping.statistics.Storable := ⟨by decide, by decide⟩
  have hfinite : ∀ x ∈ [(4.5 : Float), 12, 1], x.isFinite = true := by
    simp only [List.forall_mem_cons, List.not_mem_nil, false_imp_iff, implies_true, and_true]
    decide
  have hreads : ∀ x ∈ [(4.5 : Float), 12, 1], x.isFinite = true → (Number.double x).ReadsBack := by
    simp only [List.forall_mem_cons, List.not_mem_nil, false_imp_iff, implies_true, and_true]
    exact ⟨fun _ => rfl, fun _ => rfl, fun _ => rfl⟩
  obtain ⟨-, v, hv, hreport, hrun, -⟩ := readBack_render escapingRun hstorable hfinite hreads
  exact ⟨rfl, v, hv, hreport, hrun⟩

end Report

end CodeDigest
