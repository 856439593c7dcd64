import CodeDigest.Proofs.Codebase.SourceFiles

/-!
# Running an analysis again

An offline analysis puts a report into the tree that it has analysed, and the next one finds it
there.  `ReportApart` says that the first run has changed nothing that a run looks at: no settings
file, ignore file or build file shows anything new, the language is the same, and the report is
chosen by no scan.  Then a second run succeeds as the first one did, says the same and writes the
same report (`CommandLine.run_again`).  What is listed and read on the way is the same because the
tree has only grown (`ReportApart.ofTree`), and the report can be written because it has been
written before.

In a project in a known language a report of another kind only has to leave the files alone that are
looked up by name (`ReportApart.of_known_language`).  Otherwise nothing keeps the program from
reading its own report: a project of unknown language has one more file in the second report than in
the first (`CommandLine.run_again_counts_report`).
-/

namespace CodeDigest

variable {σ τ : Type}

/-! ## What the first run must leave alone -/

/-- What has been written to a tree is apart from what an analysis with these settings looks at.
The tree `t'` is the one after the first run. -/
structure ReportApart (s : Surroundings) (settingsFile : Option String) (settings : Settings)
    (t' : FileTree) : Prop where
  /-- No settings file shows anything new, in the current directory or above it. -/
  settingsFiles : ∀ d, d <+: s.tree.here → ∀ path ∈ Settings.files s.environment settingsFile,
    (t'.startingAt d).shown path = (s.tree.startingAt d).shown path
  /-- No ignore file shows anything new, in any directory. -/
  ignoreFiles : ∀ d, ∀ name ∈ Ignore.fileNames,
    (t'.startingAt d).shown name = (s.tree.startingAt d).shown name
  /-- No build file shows anything new. -/
  buildFiles : ∀ name ∈ Detection.buildFiles,
    t'.shown (Path.join settings.codebase.path name)
      = s.tree.shown (Path.join settings.codebase.path name)
  /-- The language is the same. -/
  language : Codebase.languageIn t' settings = Codebase.languageIn s.tree settings
  /-- The report is chosen by no scan, before or after. -/
  unchosen : ∀ names, t'.canonical? settings.codebase.output = some names →
    names ∉ Codebase.chosenNames s.tree settings ∧ names ∉ Codebase.chosenNames t' settings

section Again

variable {s : Surroundings} {settingsFile : Option String} {settings : Settings}
  {choices : Overrides} {t' : FileTree} {c : Codebase} {keeps : List String → Bool}

/-- The settings are the same, and so is the choice of the narrator. -/
lemma ReportApart.prepare (h : ReportApart s settingsFile settings t')
    (hhere : t'.here = s.tree.here)
    (timestamp : String) : CommandLine.prepare ⟨t', s.environment, timestamp⟩ settingsFile choices
      = CommandLine.prepare s settingsFile choices := by
  rw [CommandLine.prepare, CommandLine.prepare, Settings.load_congr hhere h.settingsFiles]

lemma Codebase.mem_chosenNames {t : FileTree} {choice : FileChoice} {f : Found}
    (hchoice : FileChoice.ofOptions (scanOptions settings.codebase (languageIn t settings))
      = .ok choice) (hf : f ∈ chosenFiles t settings.codebase.path choice) :
    f.names ∈ chosenNames t settings := by
  rw [chosenNames, hchoice]
  exact List.mem_map_of_mem hf

/-- **The code base is the same** in the tree after the first run, which has grown by the report. -/
theorem ReportApart.ofTree (h : ReportApart s settingsFile settings t') (hs : s.tree.WellFormed)
    (hgrows : s.tree.Grows keeps t')
    (hkeeps : ∀ names, keeps names = false → t'.canonical? settings.codebase.output = some names)
    (hc : Codebase.ofTree s.tree settings = .ok c) : ∃ c', Codebase.ofTree t' settings = .ok c' ∧
      c'.offlineReport settings = c.offlineReport settings := by
  obtain ⟨given, choice, hgiven, hdetect, hchoice, hpaths, hfiles⟩ :=
    Codebase.ofTree_eq_ok_iff.mp hc
  obtain ⟨names, es, hroot⟩ :=
    FileTree.isDirectory_iff.mp (Codebase.isDirectory_of_detect hdetect)
  obtain ⟨es', hroot'⟩ := hgrows.locate_directory hroot
  -- what is detected is the same, but for the path of the build file
  have hlanguage := Codebase.language_of_detect hgiven hdetect
  have hdetected : Detection.detect t' settings.codebase.path given
      = .ok { c.detection with
          buildFile := Detection.buildFile? t' settings.codebase.path c.detection.language } := by
    have hcanonical : t'.canonical? settings.codebase.path
        = s.tree.canonical? settings.codebase.path := by
      rw [FileTree.canonical?, FileTree.canonical?, hroot, hroot']
    have hdir : t'.isDirectory settings.codebase.path = s.tree.isDirectory settings.codebase.path :=
      (FileTree.isDirectory_iff.mpr ⟨names, es', hroot'⟩).trans
        (FileTree.isDirectory_iff.mpr ⟨names, es, hroot⟩).symm
    rw [Detection.detect_congr h.buildFiles hcanonical hdir, hdetect]
    · rfl
    · rintro rfl
      simpa [Codebase.languageIn, hgiven] using h.language
  -- the report is the only file that may have changed, and it is not chosen
  have hrules : ∀ d, ∀ n ∈ Ignore.fileNames,
      Ignore.rulesAt t' d n = Ignore.rulesAt s.tree d n := fun d n hn =>
    Ignore.rulesAt_congr (h.ignoreFiles d n hn)
  have hold : ∀ f ∈ chosenFiles s.tree settings.codebase.path choice, keeps f.names = true := by
    intro f hf
    by_contra hne
    refine (h.unchosen f.names (hkeeps _ (by simpa using hne))).1 (Codebase.mem_chosenNames ?_ hf)
    rw [← hlanguage, hchoice]
  have hnew : ∀ f ∈ chosenFiles t' settings.codebase.path choice, keeps f.names = true := by
    intro f hf
    by_contra hne
    refine (h.unchosen f.names (hkeeps _ (by simpa using hne))).2 (Codebase.mem_chosenNames ?_ hf)
    rw [h.language, ← hlanguage, hchoice]
  refine ⟨⟨_, c.paths, c.files⟩, Codebase.ofTree_eq_ok_iff.mpr
    ⟨given, choice, hgiven, hdetected, hchoice, ?_, ?_⟩, rfl⟩
  · rw [hpaths, chosenPaths_of_grows hgrows hroot hrules hold hnew]
  · rw [hfiles, sourceFiles_of_grows hgrows hroot hrules hold hnew hs]

end Again

/-! ## Projects in a known language -/

section KnownLanguage

variable {s : Surroundings} {settingsFile : Option String} {settings : Settings} {t t' : FileTree}
  {names : List String} {n : String}

lemma extensions_of_ofOptions {o : ScanOptions} {choice : FileChoice}
    (h : FileChoice.ofOptions o = .ok choice) : choice.extensions = o.extensions := by
  obtain ⟨include_, -, h⟩ := bind_eq_ok.mp h
  obtain ⟨exclude, -, h⟩ := bind_eq_ok.mp h
  obtain rfl := Except.ok.inj h
  rfl

/-- In a project in a known language no file of another kind is chosen. -/
lemma Codebase.not_mem_chosenNames (ht : t.WellFormed)
    (hdir : t.isDirectory settings.codebase.path = true)
    (hknown : (languageIn t settings).isKnown = true) (hlast : names.getLast? = some n)
    (hn : Language.ofPath n = .unknown) : names ∉ chosenNames t settings := by
  intro hmem
  unfold chosenNames at hmem
  split at hmem
  next choice hchoice =>
    obtain ⟨f, hf, rfl⟩ := List.mem_map.mp hmem
    have hextensions := extensions_of_ofOptions hchoice
    simp only [scanOptions] at hextensions
    have hwanted : choice.extensions ≠ [] := by
      rw [hextensions]
      exact Language.extensions_ne_nil hknown
    obtain ⟨m, e, hm, he, hmem⟩ := exists_extension_of_mem_chosenFiles ht hdir hwanted hf
    obtain rfl := Option.some.inj (hm.symm.trans hlast)
    rw [hextensions] at hmem
    have hlower := Language.lowercased_of_mem_extensions hmem
    have hlanguage := (Language.ofPath_eq_iff hknown).mpr ⟨e, he, hlower.symm ▸ hmem⟩
    rw [← hlanguage, hn] at hknown
    cases hknown
  · cases hmem

/-- **In a project in a known language** a report of another kind is neither chosen nor does it
change the language, so only the files that are looked up by name must be left alone. -/
theorem ReportApart.of_known_language (hs : s.tree.WellFormed) (ht' : t'.WellFormed)
    (hdir : s.tree.isDirectory settings.codebase.path = true)
    (hknown : (Codebase.languageIn s.tree settings).isKnown = true)
    (hcanonical : t'.canonical? settings.codebase.output = some names)
    (hgrows : ∀ keeps, keeps names = false → s.tree.Grows keeps t')
    (hlast : names.getLast? = some n) (hn : Detection.Neutral n)
    (hsettings : ∀ d, d <+: s.tree.here → ∀ path ∈ Settings.files s.environment settingsFile,
      (t'.startingAt d).shown path = (s.tree.startingAt d).shown path)
    (hignore : ∀ d, ∀ name ∈ Ignore.fileNames,
      (t'.startingAt d).shown name = (s.tree.startingAt d).shown name)
    (hbuild : ∀ name ∈ Detection.buildFiles,
      t'.shown (Path.join settings.codebase.path name)
        = s.tree.shown (Path.join settings.codebase.path name)) :
    ReportApart s settingsFile settings t' := by
  have hgrown : s.tree.Grows (fun below => below != names) t' := hgrows _ (by simp)
  have hlanguage : Codebase.languageIn t' settings = Codebase.languageIn s.tree settings := by
    have hdetected : Detection.detectLanguage t' settings.codebase.path
        = Detection.detectLanguage s.tree settings.codebase.path := by
      refine Detection.detectLanguage_of_grows hgrown hdir fun below hbelow m hm => ?_
      obtain rfl : below = names := by simpa using hbelow
      obtain rfl := Option.some.inj (hlast.symm.trans hm)
      exact hn
    rw [Codebase.languageIn, Codebase.languageIn, hdetected]
  have hknown' : (Codebase.languageIn t' settings).isKnown = true := by rw [hlanguage, hknown]
  refine ⟨hsettings, hignore, hbuild, hlanguage, fun names' hnames' => ?_⟩
  obtain rfl := Option.some.inj (hcanonical.symm.trans hnames')
  exact ⟨Codebase.not_mem_chosenNames hs hdir hknown hlast hn.source,
    Codebase.not_mem_chosenNames ht' (hgrown.isDirectory hdir) hknown' hlast hn.source⟩

end KnownLanguage

/-! ## Running the same command again -/

namespace CommandLine

open FileTree

variable {s : Surroundings} {settingsFile : Option String} {settings : Settings}
  {choices : Overrides} {quiet : Bool} {es : List (String × Node)}

/-- An analysis that has succeeded succeeds again with the same report, if what it has written is
apart. -/
theorem analyze_again (hs : s.tree.WellFormed)
    (hprepare : prepare s settingsFile choices = .ok (settings, .offline))
    (transport : Transport σ) (state : σ) {first : Outcome}
    (hfirst : (analyze transport s settingsFile quiet choices state).1 = first)
    (hstatus : first.status = 0) (hapart : ReportApart s settingsFile settings first.tree)
    (transport' : Transport τ) (state' : τ) (timestamp : String) :
    ∃ (report : Report) (t'' : FileTree),
      first.tree.readText? settings.codebase.output = some (report.render (metadata s .offline)) ∧
      (analyze transport' ⟨first.tree, s.environment, timestamp⟩ settingsFile quiet choices
        state').1 = { first with tree := t'' } ∧
      t''.readText? settings.codebase.output
        = some (report.render (metadata ⟨first.tree, s.environment, timestamp⟩ .offline)) := by
  rw [analyze_offline hprepare] at hfirst
  split at hfirst
  · rw [← hfirst] at hstatus
    cases hstatus
  next c hc =>
    rw [← hfirst] at hstatus
    obtain ⟨t', names, hdeliver, hread, hcanonical, hgrows, hagain⟩ := deliver_spec hs.here hstatus
    have htree : first.tree = t' := by rw [← hfirst, hdeliver]; rfl
    rw [htree] at hapart ⊢
    -- the report is the only file that may have changed
    have hgrown : s.tree.Grows (fun below => below != names) t' := hgrows _ (by simp)
    have honly : ∀ below, (below != names) = false →
        t'.canonical? settings.codebase.output = some below := by
      intro below hbelow
      obtain rfl : below = names := by simpa using hbelow
      exact hcanonical
    obtain ⟨c', hc', hreport⟩ := hapart.ofTree hs hgrown honly hc
    obtain ⟨t'', hdeliver', hread'⟩ := hagain timestamp (c.offlineReport settings)
    have hprepare' : prepare ⟨t', s.environment, timestamp⟩ settingsFile choices
        = .ok (settings, .offline) := (hapart.prepare hgrown.here timestamp).trans hprepare
    refine ⟨c.offlineReport settings, t'', hread, ?_, hread'⟩
    rw [analyze_offline hprepare', hc', ← hfirst, hdeliver]
    simp only [hreport, hdeliver']
    rfl

/-- **The same command again.**

Let an offline analysis succeed, and let what it has written be apart from what an analysis looks
at.  Then the same command, run in the tree that the first run has left and at any time, succeeds as
well, prints the same and writes the same report, with the new time in its section about the run. -/
theorem run_again {words : List String} {i : Invocation}
    (hwords : Invocation.ofArguments? words = some i) (hcommand : i.command = .analyze choices)
    (hs : s.tree.WellFormed)
    (hprepare : prepare s i.settingsFile choices = .ok (settings, .offline))
    (transport : Transport σ) (state : σ)
    (hstatus : (run transport s words state).1.status = 0)
    (hapart : ReportApart s i.settingsFile settings (run transport s words state).1.tree)
    (transport' : Transport τ) (state' : τ) (timestamp : String) :
    let first := (run transport s words state).1
    let later : Surroundings := ⟨first.tree, s.environment, timestamp⟩
    let second := (run transport' later words state').1
    (second.status, second.output, second.errors) = (first.status, first.output, first.errors) ∧
      ∃ report : Report,
        first.tree.readText? settings.codebase.output
          = some (report.render (metadata s .offline)) ∧
        second.tree.readText? settings.codebase.output
          = some (report.render (metadata later .offline)) := by
  have hrun : ∀ {ρ : Type} (transport : Transport ρ) (s : Surroundings) (state : ρ),
      run transport s words state = analyze transport s i.settingsFile i.quiet choices state := by
    intro ρ transport s state
    simp only [run, hwords, perform, hcommand]
  intro first later second
  obtain ⟨report, t'', hread, hsecond, hread'⟩ := analyze_again hs hprepare transport state
    (congrArg Prod.fst (hrun transport s state)).symm hstatus hapart transport' state' timestamp
  have hsecond' : second = { first with tree := t'' } :=
    (congrArg Prod.fst (hrun transport' later state')).trans hsecond
  refine ⟨by rw [hsecond'], report, hread, ?_⟩
  rw [hsecond']
  exact hread'

/-- **In a project in a known language**, with no file that is looked up by name, the report that is
written when nothing is set is apart. -/
theorem reportApart_project (hbare : (project es).Bare) (hnodup : (es.map Prod.fst).Nodup)
    (hes : ∀ e ∈ es, Path.IsName e.1 ∧ e.2.HasNames) (houtput : es.lookup "output" = none)
    (hknown : (Detection.detectLanguage (project es) ".").isKnown = true) (content : ByteArray)
    (timestamp : String) : ReportApart ⟨project es, [], timestamp⟩ none offlineSettings
      (project (withReport content es)) := by
  have hbare' := bare_withReport hbare content
  have hreport := locate_report houtput content
  have hcanonical : (project (withReport content es)).canonical? "./output/analysis_results.json"
      = some ["project", "output", "analysis_results.json"] := by
    rw [canonical?, hreport]
  obtain ⟨hgrows₁, -⟩ := makeParent_spec hasHere_project (makeParent_project houtput)
  obtain ⟨-, -, names, hloc, hgrows⟩ := write_spec hasHere_project (write_project houtput content)
  obtain ⟨rfl, -⟩ := Place.at.inj (Except.ok.inj (hreport.symm.trans hloc))
  refine ReportApart.of_known_language (wellFormed_project (Node.hasNames_directory hnodup hes))
    (wellFormed_project (hasNames_withReport hnodup hes houtput content))
    isDirectory_project_here hknown hcanonical
    (fun keeps hkeeps => (hgrows₁ keeps).trans (hgrows keeps hkeeps)) rfl
    ⟨by decide +kernel, by decide⟩ ?_ ?_ ?_
  · intro d _ path hpath
    obtain rfl := List.mem_singleton.mp hpath
    rw [hbare.shown_settingsFile, hbare'.shown_settingsFile]
  · intro d name hname
    rw [hbare.shown_ignoreFile d hname, hbare'.shown_ignoreFile d hname]
  · intro name hname
    exact (hbare'.shown_buildFile hname).trans (hbare.shown_buildFile hname).symm

/-- A project with one source file. -/
def mainOnly : List (String × Node) := [("Main.java", .file "class Main \x7b\x7d\n".toUTF8)]

/-- A Java project is analysed with nothing set, and again on the next day. -/
theorem run_again_of_java_project :
    let words := ["analyze", "--offline"]
    let s : Surroundings := ⟨project mainOnly, [], "2024-05-01T12:00:00+00:00"⟩
    let first := (run Transport.none s words ()).1
    let later : Surroundings := ⟨first.tree, [], "2024-05-02T08:30:00+00:00"⟩
    let second := (run Transport.none later words ()).1
    (second.status, second.output, second.errors) = (first.status, first.output, first.errors) ∧
      ∃ report : Report,
        first.tree.readText? "./output/analysis_results.json"
          = some (report.render (metadata s .offline)) ∧
        second.tree.readText? "./output/analysis_results.json"
          = some (report.render (metadata later .offline)) := by
  have hnames : (project mainOnly).root.entryNames = ["project", "Main.java"] := rfl
  have hbare : (project mainOnly).Bare := by
    rw [Bare, hnames]
    decide
  have hlanguage : Detection.detectLanguage (project mainOnly) "." = .java := by
    rw [detectLanguage_project ["Main.java"] rfl]
    decide +kernel
  have hentries : ∀ e ∈ mainOnly, Path.IsName e.1 ∧ e.2.HasNames := by
    have hname : Path.IsName "Main.java" := ⟨by decide, by decide, by decide, by decide⟩
    intro e he
    obtain rfl := List.mem_singleton.mp he
    exact ⟨hname, Node.hasNames_file _⟩
  have hnodup : (mainOnly.map Prod.fst).Nodup := by decide
  obtain ⟨filters, hfilters, -⟩ := exists_standardFilters
  obtain ⟨buildFile, hc⟩ := ofTree_project hbare hlanguage hfilters
  have hrun := (run_of_bare hbare hc "2024-05-01T12:00:00+00:00").trans (deliver_project rfl rfl ..)
  refine run_again ofArguments?_offline rfl
    (wellFormed_project (Node.hasNames_directory hnodup hentries)) (prepare_of_bare hbare _)
    Transport.none () ?_ ?_ Transport.none () _
  · rw [hrun]
    rfl
  · rw [hrun]
    exact reportApart_project hbare hnodup hentries rfl (by rw [hlanguage]; rfl) _ _

end CommandLine

/-! ## The text of a report -/

open Json in
/-- The text of an object up to the first number in its second member. -/
def Json.upToNumber (k₁ : String) (v : Json) (k₂ k₃ : String) : List Char :=
  ['{'] ++ newLine 1 ++ quoted k₁ ++ [':', ' '] ++ indented 1 v ++ [','] ++ newLine 1 ++ quoted k₂
    ++ [':', ' ', '{'] ++ newLine 2 ++ quoted k₃ ++ [':', ' ']

open Json in
lemma Json.exists_indented_eq (k₁ : String) (v : Json) (k₂ k₃ k₄ : String) (n : Number) (w : Json)
    (ms more : List (String × Json)) : ∃ rest,
    indented 0 (.object ((k₁, v) :: (k₂, .object ((k₃, .number n) :: (k₄, w) :: ms)) :: more))
      = upToNumber k₁ v k₂ k₃ ++ (n.write ++ ',' :: rest) := by
  refine ⟨newLine 2 ++ quoted k₄ ++ [':', ' '] ++ indented 2 w ++ indentedMembers false 2 ms
    ++ newLine 1 ++ ['}'] ++ indentedMembers false 1 more ++ newLine 0 ++ ['}'], ?_⟩
  simp [indented, indentedMembers, upToNumber, writeLeaf]

/-- The digits of the number of files end at a comma. -/
lemma Report.exists_render_eq (r : Report) (m : ReportMetadata) : ∃ rest, (r.render m).toList
    = Json.upToNumber "overview" r.overview.toJson "statistics" "total_files"
      ++ (Nat.toDigits 10 r.statistics.totalFiles ++ ',' :: rest) := by
  have hdigits : (Json.Number.whole r.statistics.totalFiles).write
      = Nat.toDigits 10 r.statistics.totalFiles := Nat.toList_repr
  rw [render, Json.toPretty, String.toList_ofList, ← hdigits]
  exact Json.exists_indented_eq ..

/-- **A report shows the number of files**, whatever stands in its section about the run. -/
theorem Report.totalFiles_of_render_eq {r r' : Report} {m m' : ReportMetadata}
    (hoverview : r.overview = r'.overview) (h : r.render m = r'.render m') :
    r.statistics.totalFiles = r'.statistics.totalFiles := by
  obtain ⟨rest, hrest⟩ := r.exists_render_eq m
  obtain ⟨rest', hrest'⟩ := r'.exists_render_eq m'
  have hdigits : ∀ (n : Nat) (cs : List Char),
      (Nat.toDigits 10 n ++ ',' :: cs).takeWhile Char.isDigit = Nat.toDigits 10 n := by
    intro n cs
    rw [List.takeWhile_append_of_pos fun c hc =>
      Nat.isDigit_of_mem_toDigits (by decide) (by decide) hc]
    simp
  rw [h, hrest', hoverview] at hrest
  have hsame := congrArg (List.takeWhile Char.isDigit) (List.append_cancel_left hrest)
  rw [hdigits, hdigits] at hsame
  rw [← Nat.ofDigitChars_ten_toDigits (n := r.statistics.totalFiles), ← hsame,
    Nat.ofDigitChars_ten_toDigits]

lemma utf8ByteSize_ofList_le (cs : List Char) :
    (String.ofList cs).utf8ByteSize ≤ 4 * cs.length := by
  induction cs with
  | nil => decide
  | cons c cs ih =>
      have hc := Char.utf8Size_le_four c
      rw [String.ofList_cons, String.utf8ByteSize_append, String.utf8ByteSize_singleton,
        List.length_cons]
      omega

lemma Report.size_render_le (r : Report) (m : ReportMetadata) :
    (r.render m).toUTF8.size ≤ 4 * (Json.indented 0 (r.document m)).length :=
  utf8ByteSize_ofList_le _

/-! ## A report that is counted -/

namespace CommandLine

open FileTree

/-- In a project without files the report is the only file, and it is chosen. -/
lemma chosenPaths_report {filters : List PathFilter}
    (hfilters : filters.any (·.matchesPath "output/analysis_results.json") = false)
    {content : ByteArray} (hsize : content.size ≤ standardSizeLimit)
    (hbare : (project (withReport content [])).Bare) :
    chosenPaths (project (withReport content [])) "." (standardChoice filters .unknown)
      = ["output/analysis_results.json"] := by
  have hpath : joined "/" ["output", "analysis_results.json"] = "output/analysis_results.json" := by
    decide
  have hadmits : ∀ names isDirectory, names.getLast? ≠ some ".git" →
      admitsEntry (project (withReport content [])) names isDirectory = true := by
    intro names isDirectory hlast
    rw [admitsEntry, hbare.isIgnored, repositoryDirectory]
    simpa using hlast
  have hwalk : ∀ admits : List String → Bool → Bool,
      (∀ names isDirectory, names.getLast? ≠ some ".git" → admits names isDirectory = true) →
      Node.filesOfEntries admits ["project"] (withReport content [])
        = [⟨["project", "output", "analysis_results.json"], content⟩] := by
    intro admits hadmits
    simp [withReport, Node.filesOfEntries, Node.filesFrom, hadmits]
  have haccepts : (standardChoice filters .unknown).accepts
      ⟨"output/analysis_results.json", content.size⟩ = true := by
    simp [FileChoice.accepts, standardChoice, hfilters, hsize, Language.extensions]
  have hchosen : chosenFiles (project (withReport content [])) "." (standardChoice filters .unknown)
      = [⟨["project", "output", "analysis_results.json"], content⟩] := by
    rw [chosenFiles_of_locate locate_project_here, hwalk _ hadmits, List.filter_cons_of_pos]
    · rfl
    · exact haccepts
  rw [chosenPaths, hchosen, depthOf_of_locate locate_project_here]
  simp only [List.map_cons, List.map_nil, sortedByPath, List.mergeSort_singleton]
  exact congrArg (fun path => [path]) hpath

/-- What is detected of a project without a known language. -/
def unknownProject (buildFile : Option String) : Detection :=
  ⟨.unknown, ⟨"unknown", [], [], none⟩, "project", none, buildFile⟩

/-- A project without any file. -/
def emptyProject : Surroundings := ⟨project [], [], "2024-05-01T12:00:00+00:00"⟩

/-- The report on no file is a short text. -/
lemma size_emptyReport (buildFile : Option String) :
    ((Codebase.offlineReport offlineSettings ⟨unknownProject buildFile, [], []⟩).render
      (metadata emptyProject .offline)).toUTF8.size ≤ standardSizeLimit := by
  have hsame : Codebase.offlineReport offlineSettings ⟨unknownProject buildFile, [], []⟩
      = Codebase.offlineReport offlineSettings ⟨unknownProject none, [], []⟩ := rfl
  have hlength : 4 * (Json.indented 0 (Report.document
      (Codebase.offlineReport offlineSettings ⟨unknownProject none, [], []⟩)
      (metadata emptyProject .offline))).length ≤ standardSizeLimit := by
    decide +kernel
  rw [hsame]
  exact (Report.size_render_le _ _).trans hlength

/-- In a project without files no file is read. -/
lemma run_empty : ∃ report : Report, report.overview = .ofDraft .empty (unknownProject none) ∧
    report.statistics.totalFiles = 0 ∧
    (report.render (metadata emptyProject .offline)).toUTF8.size ≤ standardSizeLimit ∧
    (run Transport.none emptyProject ["analyze", "--offline"] ()).1
      = deliver emptyProject false offlineSettings .offline report := by
  obtain ⟨filters, hfilters, -⟩ := exists_standardFilters
  have hlanguage : Detection.detectLanguage (project []) "." = .unknown := by
    rw [detectLanguage_project [] rfl]
    decide +kernel
  have hpaths : chosenPaths (project []) "." (standardChoice filters .unknown) = [] := by
    rw [chosenPaths, chosenFiles_of_locate locate_project_here]
    simp [Node.filesOfEntries, sortedByPath]
  obtain ⟨buildFile, hc⟩ := ofTree_project bare_empty hlanguage hfilters
  rw [hpaths] at hc
  exact ⟨_, rfl, rfl, size_emptyReport buildFile, run_of_bare bare_empty hc _⟩

/-- With a report in it, one file is read. -/
lemma run_report {text : String} (hsize : text.toUTF8.size ≤ standardSizeLimit)
    (timestamp : String) : ∃ report : Report,
    report.overview = .ofDraft .empty (unknownProject none) ∧ report.statistics.totalFiles = 1 ∧
    (run Transport.none ⟨project (withReport text.toUTF8 []), [], timestamp⟩
        ["analyze", "--offline"] ()).1
      = deliver ⟨project (withReport text.toUTF8 []), [], timestamp⟩ false offlineSettings .offline
          report := by
  obtain ⟨filters, hfilters, hkept⟩ := exists_standardFilters
  have hbare := bare_withReport bare_empty text.toUTF8
  have hlanguage : Detection.detectLanguage (project (withReport text.toUTF8 [])) "."
      = .unknown := by
    rw [detectLanguage_project ["analysis_results.json"] rfl]
    decide +kernel
  have hread : (project (withReport text.toUTF8 [])).readText?
      (Path.join "." "output/analysis_results.json") = some text := by
    have hpath : Path.join "." "output/analysis_results.json"
        = "./output/analysis_results.json" := by decide
    rw [hpath]
    exact readText?_of_locate (locate_report rfl text.toUTF8)
  obtain ⟨buildFile, hc⟩ := ofTree_project hbare hlanguage hfilters
  rw [chosenPaths_report hkept hsize hbare, SourceFile.ofTree, List.filterMap_cons, hread] at hc
  exact ⟨_, rfl, rfl, run_of_bare hbare hc timestamp⟩

/-- **A second run counts the report of the first.**  In a project without files, with nothing set,
the first report is about no file and the second one, written at the same time, about one. -/
theorem run_again_counts_report :
    let words := ["analyze", "--offline"]
    let first := (run Transport.none emptyProject words ()).1
    let later : Surroundings := ⟨first.tree, emptyProject.environment, emptyProject.timestamp⟩
    let second := (run Transport.none later words ()).1
    first.status = 0 ∧ second.status = 0 ∧ ∃ report report' : Report,
      first.tree.readText? "./output/analysis_results.json"
        = some (report.render (metadata emptyProject .offline)) ∧
      second.tree.readText? "./output/analysis_results.json"
        = some (report'.render (metadata later .offline)) ∧
      report.statistics.totalFiles = 0 ∧ report'.statistics.totalFiles = 1 ∧
      ∀ m m', report.render m ≠ report'.render m' := by
  intro words first later second
  obtain ⟨report, hoverview, hnone, hsize, hrun⟩ := run_empty
  have hdelivered := hrun.trans (deliver_project rfl rfl ..)
  have hstatus : (deliver emptyProject false offlineSettings .offline report).status = 0 := by
    rw [← hrun, hdelivered]
    rfl
  obtain ⟨t', names, hdeliver, hread, -, -, hagain⟩ := deliver_spec hasHere_project hstatus
  have hfirst : first = .success (deliveredText false offlineSettings .offline report) t' :=
    hrun.trans hdeliver
  have htree :
      t' = project (withReport (report.render (metadata emptyProject .offline)).toUTF8 []) :=
    congrArg Outcome.tree (hfirst.symm.trans hdelivered)
  -- the report of the first run is small enough to be read by the second one
  obtain ⟨report', hoverview', hone, hrun'⟩ := run_report hsize emptyProject.timestamp
  obtain ⟨t'', hdeliver', hread'⟩ := hagain emptyProject.timestamp report'
  rw [← htree] at hrun'
  have hlater : later = ⟨t', [], emptyProject.timestamp⟩ := by
    change (⟨first.tree, [], emptyProject.timestamp⟩ : Surroundings) = _
    rw [hfirst]
    rfl
  have hsecond : second = .success (deliveredText false offlineSettings .offline report') t'' := by
    change (run Transport.none later words ()).1 = _
    rw [hlater]
    exact hrun'.trans hdeliver'
  refine ⟨by rw [hfirst]; rfl, by rw [hsecond]; rfl, report, report', ?_, ?_, hnone, hone,
    fun m m' h => ?_⟩
  · rw [hfirst]
    exact hread
  · rw [hsecond, hlater]
    exact hread'
  · have hsame := Report.totalFiles_of_render_eq (hoverview.trans hoverview'.symm) h
    rw [hnone, hone] at hsame
    exact Nat.zero_ne_one hsame

end CommandLine

end CodeDigest
