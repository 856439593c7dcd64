import CodeDigest.Proofs.CommandLine.Delivery

/-!
# A project in a directory of its own

The plainest surroundings of a run: a file system with nothing but a project, the current directory
in it, no environment variables, and no file that is looked up by name.  When nothing is set either,
the settings are the standard ones (`CommandLine.prepare_of_bare`), the code base is the files in
the language that is detected (`CommandLine.ofTree_project`), and the report goes to a directory
that is made for it (`CommandLine.deliver_project`).
-/

namespace CodeDigest

/-- A file system with nothing but a project, the directory of which is the current one. -/
def FileTree.project (es : List (String × Node)) : FileTree :=
  ⟨.directory [("project", .directory es)], ["project"]⟩

/-- The entries of a project with a report where it is written when nothing is set. -/
def withReport (content : ByteArray) (es : List (String × Node)) : List (String × Node) :=
  es ++ [("output", .directory [("analysis_results.json", .file content)])]

namespace FileTree

variable {es inner : List (String × Node)} {node : Node} {path name : String} {follow : Bool}

lemma get?_project (names : List String) :
    (project es).root.get? ("project" :: names) = (Node.directory es).get? names := by
  simp [project]

lemma get?_output (h : es.lookup "output" = some node) :
    (project es).root.get? ["project", "output"] = some node := by
  rw [get?_project, Node.get?_cons_directory, h]
  exact Node.get?_nil node

lemma locate_project (rest : List String) (husable : Usable path)
    (hpieces : pieces '/' path = "." :: rest) (hrelative : Path.isAbsolute path = false) :
    (project es).locate follow path
      = walk (project es).root follow linkLimit ["project"] rest := by
  rw [locate_of_usable husable, startOf, hrelative, hpieces, walk_skip (.inr rfl)]
  rfl

lemma locate_project_here :
    (project es).locate follow "." = .ok (.at ["project"] (.directory es)) := by
  rw [locate_project [] ⟨by decide, by decide, by decide⟩ (by decide) (by decide), walk,
    get?_project, Node.get?_nil]

lemma isDirectory_project_here : (project es).isDirectory "." = true :=
  isDirectory_iff.mpr ⟨["project"], es, locate_project_here⟩

lemma hasHere_project : (project es).HasHere := ⟨es, get?_project []⟩

/-- A file right in the project is read. -/
lemma readText?_project (husable : Usable path) (hpieces : pieces '/' path = [".", name])
    (hrelative : Path.isAbsolute path = false) (hname : IsEntryName name) {text : String}
    (h : es.lookup name = some (.file text.toUTF8)) :
    (project es).readText? path = some text := by
  have hlocate : (project es).locate true path
      = .ok (.at ["project", name] (.file text.toUTF8)) := by
    rw [locate_project [name] husable hpieces hrelative, walk_entry hname, List.singleton_append,
      get?_project, Node.get?_cons_directory, h]
    rfl
  exact readText?_of_locate hlocate

/-- There is nothing to read where the project has no entry. -/
lemma readText?_project_missing (husable : Usable path) (hpieces : pieces '/' path = [".", name])
    (hrelative : Path.isAbsolute path = false) (hname : IsEntryName name)
    (h : es.lookup name = none) : (project es).readText? path = none := by
  have hlocate : (project es).locate true path = .ok (.missing ["project"] name) := by
    rw [locate_project [name] husable hpieces hrelative, walk_entry hname, List.singleton_append,
      get?_project, Node.get?_cons_directory, h]
    rfl
  simp only [readText?, node?, hlocate]

/-- The settings file of a project. -/
lemma node?_settingsFile {content : ByteArray}
    (h : es.lookup ".codebrief" = some (.directory [("config.toml", .file content)])) :
    (project es).node? Settings.projectFile = some (.file content) := by
  have hdirectory : (project es).root.get? (["project"] ++ [".codebrief"])
      = some (.directory [("config.toml", .file content)]) := by
    rw [List.singleton_append, get?_project, Node.get?_cons_directory, h]
    exact Node.get?_nil _
  have hlocate : (project es).locate true Settings.projectFile
      = .ok (.at ["project", ".codebrief", "config.toml"] (.file content)) := by
    have hpieces : pieces '/' Settings.projectFile = [".codebrief", "config.toml"] := by decide
    have hrelative : Path.isAbsolute Settings.projectFile = false := by decide
    rw [locate_of_usable ⟨by decide, by decide, by decide⟩, startOf, hrelative, hpieces]
    change walk _ _ _ ["project"] _ = _
    rw [walk_directory ⟨by decide, by decide, by decide, by decide⟩ hdirectory,
      walk_entry ⟨by decide, by decide, by decide, by decide⟩, Node.get?_concat hdirectory]
    rfl
  rw [node?, hlocate]

lemma put_project (h : es.lookup "output" = none) (node : Node) :
    (project es).put ["project", "output"] node = project (es ++ [("output", node)]) := by
  simp [put, project, Node.put, Node.setEntry, Node.setEntry_of_lookup h]

/-- The way to the report goes through the directory that is made for it. -/
lemma locate_in_output (h : es.lookup "output" = some (.directory inner)) :
    (project es).locate follow "./output/analysis_results.json"
      = walk (project es).root follow linkLimit ["project", "output"]
          ["analysis_results.json"] := by
  have houtput : (project es).root.get? (["project"] ++ ["output"]) = some (.directory inner) :=
    get?_output h
  rw [locate_project ["output", "analysis_results.json"] ⟨by decide, by decide, by decide⟩
      (by decide) (by decide),
    walk_directory ⟨by decide, by decide, by decide, by decide⟩ houtput]
  rfl

/-- The directory of the report is made when nothing is set. -/
lemma makeParent_project (h : es.lookup "output" = none) :
    (project es).makeParent "./output/analysis_results.json"
      = .ok (project (es ++ [("output", .empty)])) := by
  have hparent : Path.parent? "./output/analysis_results.json" = some "./output" := by decide
  obtain ⟨outer, houter⟩ : ∃ outer, Path.withParents "./output" = "./output" :: outer := ⟨_, rfl⟩
  have hget : (project es).root.get? (["project"] ++ ["output"]) = none := by
    rw [List.singleton_append, get?_project]
    simp [h]
  have hlocate : (project es).locate false "./output" = .ok (.missing ["project"] "output") := by
    rw [locate_project ["output"] ⟨by decide, by decide, by decide⟩ (by decide) (by decide),
      walk_entry ⟨by decide, by decide, by decide, by decide⟩, hget]
    rfl
  have htrailing : withoutTrailing "./output" = "./output" := by decide
  rw [makeParent, tryParent, hparent]
  simp only [houter, makeOutward, makeDirectory, htrailing, hlocate]
  rw [List.singleton_append, put_project h]
  rfl

lemma write_project (h : es.lookup "output" = none) (content : ByteArray) :
    (project (es ++ [("output", .empty)])).write "./output/analysis_results.json" content
      = .ok (project (withReport content es)) := by
  have hentry : (es ++ [("output", Node.empty)]).lookup "output" = some .empty := by
    simp [List.lookup_append, h]
  have hlocate : (project (es ++ [("output", .empty)])).locate true "./output/analysis_results.json"
      = .ok (.missing ["project", "output"] "analysis_results.json") := by
    rw [locate_in_output hentry, walk_entry ⟨by decide, by decide, by decide, by decide⟩,
      Node.get?_concat (get?_output hentry)]
    rfl
  have hput : (Node.directory (es ++ [("output", .empty)])).put
      ["output", "analysis_results.json"] (.file content) = .directory (withReport content es) := by
    rw [Node.put_cons hentry, ← Node.setEntry_of_lookup h, Node.setEntry_setEntry,
      Node.setEntry_of_lookup h]
    rfl
  have hproject : (project (es ++ [("output", .empty)])).put
      ["project", "output", "analysis_results.json"] (.file content)
        = project (withReport content es) := by
    rw [put, project, Node.put_cons rfl, hput]
    rfl
  have htrailing : withoutTrailing "./output/analysis_results.json"
      = "./output/analysis_results.json" := by decide
  rw [write, htrailing, hlocate]
  simp only [List.cons_append, List.nil_append, hproject]
  rfl

/-- The path leads to the report. -/
lemma locate_report (h : es.lookup "output" = none) (content : ByteArray) :
    (project (withReport content es)).locate true "./output/analysis_results.json"
      = .ok (.at ["project", "output", "analysis_results.json"] (.file content)) := by
  have hentry : (withReport content es).lookup "output"
      = some (.directory [("analysis_results.json", .file content)]) := by
    simp [withReport, List.lookup_append, h]
  rw [locate_in_output hentry, walk_entry ⟨by decide, by decide, by decide, by decide⟩,
    Node.get?_concat (get?_output hentry)]
  rfl

lemma bare_empty : (project []).Bare := by
  have hnames : (project []).root.entryNames = ["project"] := rfl
  rw [Bare, hnames]
  decide

/-- A report adds no name that is looked up. -/
lemma bare_withReport (h : (project es).Bare) (content : ByteArray) :
    (project (withReport content es)).Bare := by
  intro n hn hmem
  have happend : ∀ xs ys : List (String × Node),
      Node.entryNamesOf (xs ++ ys) = Node.entryNamesOf xs ++ Node.entryNamesOf ys := by
    intro xs ys
    induction xs with
    | nil => rfl
    | cons x xs ih => simp [Node.entryNamesOf, ih]
  have hnames : (project (withReport content es)).root.entryNames
      = (project es).root.entryNames ++ ["output", "analysis_results.json"] := by
    simp [project, withReport, Node.entryNames, Node.entryNamesOf, happend]
  rw [hnames, List.mem_append] at hmem
  have hother : ∀ n ∈ lookedUp, n ∉ ["output", "analysis_results.json"] := by decide
  exact hmem.elim (h n hn) (hother n hn)

lemma wellFormed_project (h : (Node.directory es).HasNames) : (project es).WellFormed :=
  ⟨hasHere_project, Node.hasNames_singleton ⟨by decide, by decide, by decide, by decide⟩ h⟩

lemma hasNames_withReport (hnodup : (es.map Prod.fst).Nodup)
    (hes : ∀ e ∈ es, Path.IsName e.1 ∧ e.2.HasNames) (h : es.lookup "output" = none)
    (content : ByteArray) : (Node.directory (withReport content es)).HasNames := by
  have hreport : (Node.directory [("analysis_results.json", .file content)]).HasNames :=
    Node.hasNames_singleton ⟨by decide, by decide, by decide, by decide⟩
      (Node.hasNames_file content)
  have houtput : Path.IsName "output" := ⟨by decide, by decide, by decide, by decide⟩
  refine Node.hasNames_directory ?_ fun e he => ?_
  · rw [withReport, List.map_append, List.nodup_append]
    refine ⟨hnodup, by simp, fun n hn m hm => ?_⟩
    obtain rfl := List.mem_singleton.mp hm
    obtain ⟨e, he, rfl⟩ := List.mem_map.mp hn
    exact fun heq => bne_iff_ne.mp (List.lookup_eq_none_iff.mp h e he) heq.symm
  · rcases List.mem_append.mp he with he | he
    · exact hes e he
    · obtain rfl := List.mem_singleton.mp he
      exact ⟨houtput, hreport⟩

lemma detectLanguage_project (names : List String)
    (hnames : (Node.filesOfEntries Detection.admitsEntry ["project"] es).filterMap
      (·.names.getLast?) = names) :
    Detection.detectLanguage (project es) "." = Detection.languageOfNames names := by
  rw [Detection.detectLanguage, Detection.fileNames, filesUnder, locate_project_here]
  exact congrArg Detection.languageOfNames hnames

end FileTree

namespace CommandLine

open FileTree

variable {es : List (String × Node)} {t : FileTree}

/-- What is chosen on a command line that only says that the analysis is to be offline. -/
def offlineChoices : Overrides := ⟨none, none, none, none, none, true⟩

/-- The settings of such an analysis when nothing else is set. -/
def offlineSettings : Settings :=
  { Settings.standard with model := { ModelSettings.standard with enabled := false } }

lemma ofArguments?_offline : Invocation.ofArguments? ["analyze", "--offline"]
    = some ⟨none, false, .analyze offlineChoices⟩ := by
  rfl

lemma prepare_of_bare (h : t.Bare) (timestamp : String) :
    prepare ⟨t, [], timestamp⟩ none offlineChoices = .ok (offlineSettings, .offline) := by
  have hload : Settings.load t [] none = .ok .standard :=
    Settings.load_of_unset (h.shown_settingsFile t.here)
  have hfault : (offlineChoices.apply .standard).fault? = none := by decide +kernel
  simp only [prepare, hload, bind, Except.bind, Settings.check, hfault]
  rfl

/-- The patterns that are left out when nothing is set do not leave out the report. -/
lemma exists_standardFilters : ∃ filters, PathFilter.ofTexts standardExclude = .ok filters ∧
    filters.any (·.matchesPath "output/analysis_results.json") = false := by
  have hevaluated : ((PathFilter.ofTexts standardExclude).map
      (·.any (·.matchesPath "output/analysis_results.json"))).toOption = some false := by
    decide +kernel
  cases hfilters : PathFilter.ofTexts standardExclude with
  | error failure => rw [hfilters] at hevaluated; cases hevaluated
  | ok filters =>
      rw [hfilters] at hevaluated
      exact ⟨filters, rfl, Option.some.inj hevaluated⟩

/-- The choice of files in a language when nothing is set. -/
def standardChoice (filters : List PathFilter) (l : Language) : FileChoice :=
  ⟨[], filters, l.extensions, standardSizeLimit⟩

/-- The code base of a project without build files is the files of its language. -/
lemma ofTree_project (h : (project es).Bare) {l : Language}
    (hl : Detection.detectLanguage (project es) "." = l) {filters : List PathFilter}
    (hfilters : PathFilter.ofTexts standardExclude = .ok filters) : ∃ buildFile,
      Codebase.ofTree (project es) offlineSettings = .ok
        { detection := ⟨l, ⟨l.tag, [], [], none⟩, "project", none, buildFile⟩
          paths := chosenPaths (project es) "." (standardChoice filters l)
          files := SourceFile.ofTree .standard l (project es) "."
            (chosenPaths (project es) "." (standardChoice filters l)) } := by
  have hroot : (project es).locate true "." = .ok (.at ([] ++ ["project"]) (.directory es)) :=
    locate_project_here
  obtain ⟨buildFile, hdetect⟩ :=
    Detection.detect_of_bare (fun name hname => h.shown_buildFile hname) hroot
  rw [hl] at hdetect
  have hchoice : FileChoice.ofOptions (Codebase.scanOptions offlineSettings.codebase l)
      = .ok (standardChoice filters l) := by
    rw [FileChoice.ofOptions]
    change (PathFilter.ofTexts [] >>= fun include_ => PathFilter.ofTexts standardExclude >>= _) = _
    rw [hfilters]
    rfl
  exact ⟨buildFile, Codebase.ofTree_eq_ok_iff.mpr
    ⟨none, standardChoice filters l, by rfl, hdetect, hchoice, rfl, rfl⟩⟩

lemma deliver_project {s : Surroundings} (hs : s.tree = project es) (h : es.lookup "output" = none)
    (quiet : Bool) (choice : NarratorChoice) (report : Report) :
    deliver s quiet offlineSettings choice report
      = .success (deliveredText quiet offlineSettings choice report)
          (project (withReport (report.render (metadata s choice)).toUTF8 es)) :=
  deliver_of_write (by rw [hs]; exact makeParent_project h) (write_project h _)

/-- An offline analysis, when nothing is set, delivers the report on the code base. -/
lemma run_of_bare (h : t.Bare) {c : Codebase} (hc : Codebase.ofTree t offlineSettings = .ok c)
    (timestamp : String) :
    (run Transport.none ⟨t, [], timestamp⟩ ["analyze", "--offline"] ()).1
      = deliver ⟨t, [], timestamp⟩ false offlineSettings .offline
          (c.offlineReport offlineSettings) := by
  simp only [run, ofArguments?_offline, perform]
  rw [analyze_offline (prepare_of_bare h timestamp)]
  simp only [hc]

end CommandLine

end CodeDigest
