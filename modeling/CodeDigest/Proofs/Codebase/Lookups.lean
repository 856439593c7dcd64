import CodeDigest.Settings.Layer
import CodeDigest.Proofs.Codebase.Scanning

/-!
# Files that are looked up by name

Besides the files that it comes by on its walk, a run looks up some files by their names: settings
files, ignore files in every directory on the way, and a few build files right at the root.  All
that it can tell of such a file is whether something is there and the content if that is a file
(`FileTree.shown`).  So two trees in which these paths show the same have the same settings
(`Settings.load_congr`), leave out the same entries (`Ignore.rulesAt_congr`), and are the same to
detection but for the language and the path of the build file (`Detection.detect_congr`).

A name that no entry of a tree has leads nowhere (`FileTree.shown_of_unnamed`).
-/

namespace CodeDigest

/-- The content of a file; other nodes have none. -/
def Node.content? : Node → Option ByteArray
  | .file content => some content
  | _ => none

namespace FileTree

variable {t t' : FileTree} {path : String}

/-- What a run can tell of a path: whether it leads to anything, and the content if that is a
file. -/
def shown (t : FileTree) (path : String) : Option (Option ByteArray) :=
  (t.node? path).map Node.content?

/-- The tree with another current directory. -/
def startingAt (t : FileTree) (directory : List String) : FileTree := { t with here := directory }

lemma startingAt_here (t : FileTree) : t.startingAt t.here = t := rfl

lemma pathExists_eq_shown (t : FileTree) (path : String) :
    t.pathExists path = (t.shown path).isSome := by
  rw [pathExists, shown, Option.isSome_map]

lemma isFile_eq_shown (t : FileTree) (path : String) :
    t.isFile path = (t.shown path).join.isSome := by
  unfold isFile shown
  cases t.node? path with
  | none => rfl
  | some node => cases node <;> rfl

lemma readText?_eq_shown (t : FileTree) (path : String) :
    t.readText? path = (t.shown path).join.bind String.fromUTF8? := by
  unfold readText? shown
  cases t.node? path with
  | none => rfl
  | some node => cases node <;> rfl

end FileTree

/-! ## Ignore files -/

namespace Ignore

variable {t t' : FileTree} {d : List String} {name : String}

lemma rulesAt_eq_shown (t : FileTree) (d : List String) (name : String) :
    rulesAt t d name = (((t.startingAt d).shown name).join.map rulesOf).getD [] := by
  unfold rulesAt FileTree.shown FileTree.startingAt
  cases ({ t with here := d } : FileTree).node? name with
  | none => rfl
  | some node => cases node <;> rfl

/-- An ignore file that shows the same has the same rules. -/
lemma rulesAt_congr (h : (t'.startingAt d).shown name = (t.startingAt d).shown name) :
    rulesAt t' d name = rulesAt t d name := by
  rw [rulesAt_eq_shown, rulesAt_eq_shown, h]

/-- Where there are no rules nothing is ignored. -/
lemma isIgnored_of_no_rules (h : ∀ d, ∀ name ∈ fileNames, rulesAt t d name = [])
    (names : List String) (isDirectory : Bool) : isIgnored t names isDirectory = false := by
  have hverdict : verdict? t names isDirectory = none := by
    refine List.findSome?_eq_none_iff.mpr fun name hname =>
      List.findSome?_eq_none_iff.mpr ?_
    rintro ⟨d, below⟩ -
    simp only [h d name hname]
    rfl
  rw [isIgnored, hverdict]
  rfl

end Ignore

/-! ## Settings files -/

namespace Settings

variable {t t' : FileTree} {env : Environment} {given : Option String} {path : String}

/-- The settings files of a run. -/
def files (env : Environment) : (given : Option String) → List String
  | some path => [path]
  | none => (globalFile? env).toList ++ [projectFile]

/-- The directories that a settings file is looked for in. -/
def searched (t : FileTree) (path : String) : List (List String) :=
  if Path.isAbsolute path then [t.here]
  else (List.range (t.here.length + 1)).reverse.map t.here.take

lemma prefix_of_mem_searched {d : List String} (hd : d ∈ searched t path) : d <+: t.here := by
  unfold searched at hd
  split_ifs at hd
  · rw [List.mem_singleton.mp hd]
  · obtain ⟨n, -, rfl⟩ := List.mem_map.mp hd
    exact List.take_prefix n t.here

lemma locate?_eq_shown (t : FileTree) (path : String) :
    locate? t path = (searched t path).findSome? fun d => ((t.startingAt d).shown path).join := by
  change List.findSome? _ (searched t path) = _
  congr 1
  funext d
  unfold FileTree.shown FileTree.startingAt
  cases ({ t with here := d } : FileTree).node? path with
  | none => rfl
  | some node => cases node <;> rfl

/-- A file that the path leads to comes before those further up. -/
lemma locate?_of_node? {content : ByteArray} (h : t.node? path = some (.file content)) :
    locate? t path = some content := by
  have hshown : ((t.startingAt t.here).shown path).join = some content := by
    rw [FileTree.startingAt_here, FileTree.shown, h]
    rfl
  have hfirst : ∃ further, searched t path = t.here :: further := by
    unfold searched
    split_ifs
    · exact ⟨[], rfl⟩
    · rw [List.range_succ, List.reverse_concat, List.map_cons, List.take_length]
      exact ⟨_, rfl⟩
  obtain ⟨further, hfirst⟩ := hfirst
  rw [locate?_eq_shown, hfirst, List.findSome?_cons, hshown]

lemma ofFile_of_node? {text : String} {v : Json} (h : t.node? path = some (.file text.toUTF8))
    (hread : Toml.ofString? text = some v) : ofFile t path = .ok v := by
  have hvalid : text.toUTF8.IsValidUTF8 := text.isValidUTF8
  have htext : String.fromUTF8? text.toUTF8 = some text := by
    rw [String.fromUTF8?, dif_pos hvalid]
    rfl
  simp only [ofFile, locate?_of_node? h, htext, Option.bind_some, hread]

lemma locate?_congr (hhere : t'.here = t.here)
    (h : ∀ d, d <+: t.here → (t'.startingAt d).shown path = (t.startingAt d).shown path) :
    locate? t' path = locate? t path := by
  have hsearched : searched t' path = searched t path := by rw [searched, searched, hhere]
  rw [locate?_eq_shown, locate?_eq_shown, hsearched, ← List.head?_filterMap, ← List.head?_filterMap,
    List.filterMap_congr fun d hd => by rw [h d (prefix_of_mem_searched hd)]]

lemma ofFile_congr (h : locate? t' path = locate? t path) : ofFile t' path = ofFile t path := by
  rw [ofFile, ofFile, h]

lemma mapM_ofFile_congr {paths : List String} (h : ∀ path ∈ paths, ofFile t' path = ofFile t path) :
    paths.mapM (ofFile t') = paths.mapM (ofFile t) := by
  induction paths with
  | nil => rfl
  | cons path paths ih =>
      rw [List.mapM_cons, List.mapM_cons, h path List.mem_cons_self,
        ih fun p hp => h p (List.mem_cons_of_mem path hp)]

lemma loadFiles_congr {paths : List String}
    (hexists : ∀ path ∈ paths, t'.pathExists path = t.pathExists path)
    (hfile : ∀ path ∈ paths, ofFile t' path = ofFile t path) :
    loadFiles t' env paths = loadFiles t env paths := by
  rw [loadFiles, loadFiles, List.filter_congr hexists,
    mapM_ofFile_congr fun path hpath => hfile path (List.mem_of_mem_filter hpath)]

/-- **Settings files that show the same** give the same settings. -/
theorem load_congr (hhere : t'.here = t.here)
    (h : ∀ d, d <+: t.here → ∀ path ∈ files env given,
      (t'.startingAt d).shown path = (t.startingAt d).shown path) :
    load t' env given = load t env given := by
  have hshown : ∀ path ∈ files env given, t'.shown path = t.shown path := by
    intro path hpath
    have hsame := h t.here List.prefix_rfl path hpath
    rwa [← hhere, FileTree.startingAt_here, hhere] at hsame
  have hexists : ∀ path ∈ files env given, t'.pathExists path = t.pathExists path :=
    fun path hpath => by
      rw [FileTree.pathExists_eq_shown, FileTree.pathExists_eq_shown, hshown path hpath]
  have hfile : ∀ path ∈ files env given, ofFile t' path = ofFile t path := fun path hpath =>
    ofFile_congr (locate?_congr hhere fun d hd => h d hd path hpath)
  cases given with
  | none => exact loadFiles_congr hexists hfile
  | some path =>
      have hpath : path ∈ files env (some path) := List.mem_singleton_self path
      have hloaded : loadFiles t' env [path] = loadFiles t env [path] :=
        loadFiles_congr hexists hfile
      simp only [load, FileTree.isFile_eq_shown, hshown path hpath, hloaded]

/-- Without settings files and environment variables the settings are the standard ones. -/
lemma load_of_unset (h : t.shown projectFile = none) : load t [] none = .ok standard := by
  have hvariables : ofVariables [] = .object [] := by simp [ofVariables]
  have hexists : t.pathExists projectFile = false := by rw [FileTree.pathExists_eq_shown, h]; rfl
  have hoverlay : Json.overlay standard.toJson (.object []) = standard.toJson :=
    Json.overlay_empty _
  have hread : ofJson? standard.toJson = some standard := by rfl
  have hfault : standard.fault? = none := by decide +kernel
  have hlayers : ofLayers [.object []] = .ok standard := by
    rw [ofLayers, List.foldl_cons, List.foldl_nil, hoverlay, hread]
    simp only [check, hfault]
  have hfiles : ([projectFile].filter t.pathExists) = [] := by simp [hexists]
  have hnone : (globalFile? []).toList ++ [projectFile] = [projectFile] := rfl
  rw [load, hnone, loadFiles, hfiles, hvariables]
  exact hlayers

end Settings

/-! ## Build files -/

namespace Detection

variable {t t' : FileTree} {root : String} {given : Option Language}

/-- The build files that are read, or of which it counts whether they are there. -/
def buildFiles : List String := technologyFiles.map (·.1) ++ ["build.gradle", "setup.py"]

lemma technologies_congr
    (h : ∀ name ∈ buildFiles, t'.shown (Path.join root name) = t.shown (Path.join root name)) :
    technologies t' root = technologies t root := by
  have hread : ∀ name ∈ buildFiles, readAt? t' root name = readAt? t root name :=
    fun name hname => by
      rw [readAt?, readAt?, FileTree.readText?_eq_shown, FileTree.readText?_eq_shown, h name hname]
  have hexists : ∀ name ∈ buildFiles,
      t'.pathExists (Path.join root name) = t.pathExists (Path.join root name) :=
    fun name hname => by
      rw [FileTree.pathExists_eq_shown, FileTree.pathExists_eq_shown, h name hname]
  have htable : ∀ entry ∈ technologyFiles, entry.1 ∈ buildFiles := fun entry hentry =>
    List.mem_append_left _ (List.mem_map_of_mem hentry)
  have hpresent : technologyFiles.filter (fun entry => isPresent t' root entry.1)
      = technologyFiles.filter fun entry => isPresent t root entry.1 :=
    List.filter_congr fun entry hentry => by
      rw [isPresent, isPresent, hread _ (htable entry hentry), hexists _ (htable entry hentry)]
  have hmentioned : (technologyFiles.filter fun entry => isPresent t root entry.1).flatMap
        (fun entry => mentioned entry.2.1 ((readAt? t' root entry.1).getD ""))
      = (technologyFiles.filter fun entry => isPresent t root entry.1).flatMap
        fun entry => mentioned entry.2.1 ((readAt? t root entry.1).getD "") :=
    List.flatMap_congr fun entry hentry => by
      rw [hread _ (htable entry (List.mem_of_mem_filter hentry))]
  rw [technologies, technologies, hpresent, hmentioned, hread "pom.xml" (by decide),
    hexists "build.gradle" (by decide)]

lemma nameOf_congr
    (h : ∀ name ∈ buildFiles, t'.shown (Path.join root name) = t.shown (Path.join root name))
    (hroot : t'.canonical? root = t.canonical? root) : nameOf t' root = nameOf t root := by
  have hread : ∀ name ∈ buildFiles, readAt? t' root name = readAt? t root name :=
    fun name hname => by
      rw [readAt?, readAt?, FileTree.readText?_eq_shown, FileTree.readText?_eq_shown, h name hname]
  rw [nameOf, nameOf, hread "package.json" (by decide), hread "pom.xml" (by decide),
    hread "setup.py" (by decide), hroot]

/-- **Build files that show the same** lead to the same findings, as far as the language is the same
too; only the path of the build file, which is not read again, may be another one. -/
theorem detect_congr
    (h : ∀ name ∈ buildFiles, t'.shown (Path.join root name) = t.shown (Path.join root name))
    (hroot : t'.canonical? root = t.canonical? root)
    (hdir : t'.isDirectory root = t.isDirectory root)
    (hlanguage : given = none → detectLanguage t' root = detectLanguage t root) :
    detect t' root given
      = (detect t root given).map fun d =>
          { d with buildFile := buildFile? t' root d.language } := by
  have hl : given.getD (detectLanguage t' root) = given.getD (detectLanguage t root) := by
    cases given with
    | none => exact hlanguage rfl
    | some l => rfl
  have hmaven : mavenDependencies? t' root = mavenDependencies? t root := by
    rw [mavenDependencies?, mavenDependencies?, readAt?, readAt?, FileTree.readText?_eq_shown,
      FileTree.readText?_eq_shown, h "pom.xml" (by decide)]
  unfold detect
  rw [hdir, hl, technologies_congr h, nameOf_congr h hroot, hmaven]
  split <;> rfl

/-- Without build files nothing is known of a project but its language and its directory. -/
lemma detect_of_bare {names : List String} {n : String} {es : List (String × Node)}
    (h : ∀ name ∈ buildFiles, t.shown (Path.join root name) = none)
    (hroot : t.locate true root = .ok (.at (names ++ [n]) (.directory es))) :
    ∃ buildFile, detect t root none
      = .ok
        { language := detectLanguage t root
          context := ⟨(detectLanguage t root).tag, [], [], none⟩
          projectName := n
          pomDependencies := none
          buildFile } := by
  have hread : ∀ name ∈ buildFiles, readAt? t root name = none := fun name hname => by
    rw [readAt?, FileTree.readText?_eq_shown, h name hname]
    rfl
  have hexists : ∀ name ∈ buildFiles, t.pathExists (Path.join root name) = false :=
    fun name hname => by rw [FileTree.pathExists_eq_shown, h name hname]; rfl
  have hpresent : technologyFiles.filter (fun entry => isPresent t root entry.1) = [] := by
    refine List.filter_eq_nil_iff.mpr fun entry hentry => ?_
    have hname : entry.1 ∈ buildFiles := List.mem_append_left _ (List.mem_map_of_mem hentry)
    rw [isPresent, hread _ hname, hexists _ hname]
    simp
  have htechnologies : technologies t root = ⟨"", [], [], none⟩ := by
    rw [technologies, hpresent, hread "pom.xml" (by decide), hexists "build.gradle" (by decide)]
    rfl
  have hname : nameOf t root = n := by
    rw [nameOf, hread "package.json" (by decide), hread "pom.xml" (by decide),
      hread "setup.py" (by decide), FileTree.canonical?, hroot]
    simp
  have hmaven : mavenDependencies? t root = none := by
    rw [mavenDependencies?, hread "pom.xml" (by decide)]
    rfl
  refine ⟨buildFile? t root (detectLanguage t root), ?_⟩
  rw [detect, if_pos (FileTree.isDirectory_iff.mpr ⟨_, _, hroot⟩), htechnologies, hname, hmaven]
  simp

end Detection

/-! ## The language -/

namespace Detection

/-- A file of this name says nothing about the language of a project. -/
structure Neutral (name : String) : Prop where
  source : Language.ofPath name = .unknown
  build : ∀ entry ∈ indicators, entry.1 ≠ name

variable {t t' : FileTree} {root : String} {keeps : List String → Bool} {names names' : List String}

lemma foldl_moreFrequent (hcount : ∀ l, l.isKnown = true → countOf names' l = countOf names l)
    {ls : List Language} (hls : ∀ l ∈ ls, l.isKnown = true) {best : Option Language}
    (hbest : ∀ l ∈ best, l.isKnown = true) :
    ls.foldl (moreFrequent names') best = ls.foldl (moreFrequent names) best := by
  induction ls generalizing best with
  | nil => rfl
  | cons l ls ih =>
      obtain ⟨hl, hls⟩ := List.forall_mem_cons.mp hls
      have hmap : best.map (countOf names') = best.map (countOf names) :=
        Option.map_congr fun l hl => hcount l (hbest l hl)
      have hstep : moreFrequent names' best l = moreFrequent names best l := by
        rw [moreFrequent, moreFrequent, hmap, hcount l hl]
      rw [List.foldl_cons, List.foldl_cons, hstep]
      refine ih hls ?_
      unfold moreFrequent
      split
      · rintro _ ⟨⟩
        exact hl
      · exact hbest

lemma languageOfNames_congr
    (hcontains : ∀ entry ∈ indicators, names'.contains entry.1 = names.contains entry.1)
    (hcount : ∀ l, l.isKnown = true → countOf names' l = countOf names l) :
    languageOfNames names' = languageOfNames names := by
  have hindicated : indicated? names' = indicated? names := by
    rw [indicated?, indicated?, ← List.head?_filter, ← List.head?_filter,
      List.filter_congr hcontains]
  have hfrequent : mostFrequent? names' = mostFrequent? names :=
    foldl_moreFrequent hcount (fun l hl => (Language.mem_known_iff l).mp hl) (by simp)
  rw [languageOfNames, languageOfNames, hindicated, hfrequent]

/-- Names that say nothing may be left out. -/
lemma languageOfNames_filter {files : List Found}
    (h : ∀ f ∈ files, keeps f.names = false → ∀ n ∈ f.names.getLast?, Neutral n) :
    languageOfNames ((files.filter fun f => keeps f.names).filterMap (·.names.getLast?))
      = languageOfNames (files.filterMap (·.names.getLast?)) := by
  refine languageOfNames_congr (fun entry hentry => ?_) fun l hl => ?_
  · rw [Bool.eq_iff_iff, List.contains_iff_mem, List.contains_iff_mem, List.mem_filterMap,
      List.mem_filterMap]
    constructor
    · rintro ⟨f, hf, hlast⟩
      exact ⟨f, List.mem_of_mem_filter hf, hlast⟩
    · rintro ⟨f, hf, hlast⟩
      refine ⟨f, List.mem_filter.mpr ⟨hf, ?_⟩, hlast⟩
      by_contra hne
      exact (h f hf (by simpa using hne) entry.1 hlast).build entry hentry rfl
  · rw [countOf, countOf, List.countP_filterMap, List.countP_filterMap, List.countP_filter]
    refine List.countP_congr fun f hf => ?_
    cases hkeeps : keeps f.names with
    | true => simp
    | false =>
        cases hlast : f.names.getLast? with
        | none => simp
        | some n =>
            have hunknown := (h f hf hkeeps n hlast).source
            -- a file of unknown language counts for no language that is known
            have hne : Language.unknown ≠ l := by
              rintro rfl
              cases hl
            simp [hunknown, hne]

/-- **A tree that has grown is in the same language**, if the names of the files that may have been
added say nothing. -/
theorem detectLanguage_of_grows (hgrows : t.Grows keeps t') (hdir : t.isDirectory root = true)
    (hneutral : ∀ names, keeps names = false → ∀ n ∈ names.getLast?, Neutral n) :
    detectLanguage t' root = detectLanguage t root := by
  obtain ⟨names, es, hroot⟩ := FileTree.isDirectory_iff.mp hdir
  obtain ⟨es', hes', hfiles⟩ := hgrows.root.directory (FileTree.locate_eq_ok_iff.mp hroot).2.get?
  have hroot' : t'.locate true root = .ok (.at names (.directory es')) :=
    hgrows.locate hroot hes' (by simp)
  rw [detectLanguage, detectLanguage, fileNames, fileNames, filesUnder_of_locate hroot,
    filesUnder_of_locate hroot', ← languageOfNames_filter fun f _ hf => hneutral f.names hf, hfiles,
    languageOfNames_filter fun f _ hf => hneutral f.names hf]

end Detection

/-! ## Names that no entry has -/

namespace Node

mutual

/-- The names of all entries at or below a node. -/
def entryNames : Node → List String
  | .directory es => entryNamesOf es
  | _ => []

/-- The names of some entries of a directory, and of all entries below them. -/
def entryNamesOf : List (String × Node) → List String
  | [] => []
  | (n, node) :: es => n :: (entryNames node ++ entryNamesOf es)

end

lemma mem_entryNamesOf {n m : String} {es : List (String × Node)} {node : Node}
    (h : es.lookup m = some node) (hn : n = m ∨ n ∈ node.entryNames) : n ∈ entryNamesOf es := by
  induction es with
  | nil => cases h
  | cons e es ih =>
      obtain ⟨k, x⟩ := e
      rw [List.lookup_cons] at h
      split at h
      next hk =>
        obtain rfl := Option.some.inj h
        obtain rfl : m = k := by simpa using hk
        rcases hn with rfl | hn
        · exact List.mem_cons_self
        · exact List.mem_cons_of_mem _ (List.mem_append_left _ hn)
      · exact List.mem_cons_of_mem _ (List.mem_append_right _ (ih h))

lemma mem_entryNames {d : List String} {n : String} {node x : Node}
    (h : node.get? (d ++ [n]) = some x) : n ∈ node.entryNames := by
  induction d generalizing node with
  | nil =>
      obtain ⟨es, rfl⟩ := exists_directory_of_get? (List.cons_ne_nil n []) h
      obtain ⟨y, hlookup, -⟩ := Option.bind_eq_some_iff.mp h
      exact mem_entryNamesOf hlookup (.inl rfl)
  | cons m d ih =>
      obtain ⟨es, rfl⟩ := exists_directory_of_get? (List.cons_ne_nil m (d ++ [n])) h
      obtain ⟨y, hlookup, hy⟩ := Option.bind_eq_some_iff.mp h
      exact mem_entryNamesOf hlookup (.inr (ih hy))

end Node

namespace FileTree

variable {t : FileTree} {path n : String} {front rest : List String}

/-- On the way to a place there is an entry for the first name of the path. -/
lemma Leads.mem_entryNames {root node : Node} {links : Nat} {d names : List String}
    (h : Leads root true links d (front ++ n :: rest) (.at names node))
    (hfront : ∀ p ∈ front, p = "" ∨ p = ".") (hn : Path.IsName n) : n ∈ root.entryNames := by
  induction front generalizing d with
  | nil =>
      cases h with
      | skip unnamed => exact absurd unnamed (by simp [hn.nonempty, hn.not_here])
      | up => exact absurd rfl hn.not_up
      | directory _ get => exact Node.mem_entryNames get
      | file _ get => exact Node.mem_entryNames get
      | stop _ _ unfollowed => cases unfollowed
      | link _ get => exact Node.mem_entryNames get
  | cons p front ih =>
      obtain ⟨hp, hfront⟩ := List.forall_mem_cons.mp hfront
      have hentry : ¬IsEntryName p := fun entry =>
        hp.elim entry.nonempty entry.not_here
      rw [List.cons_append] at h
      generalize htail : front ++ n :: rest = tail at h
      cases h with
      | skip _ on => exact ih (htail ▸ on) hfront
      | up => exact absurd hp (by decide)
      | directory entry => exact absurd entry hentry
      | file entry => exact absurd entry hentry
      | stop entry => exact absurd entry hentry
      | link entry => exact absurd entry hentry

/-- **A path whose first name no entry has** leads nowhere. -/
theorem shown_of_unnamed (front rest : List String) (hpieces : pieces '/' path = front ++ n :: rest)
    (hfront : ∀ p ∈ front, p = "" ∨ p = ".") (hn : Path.IsName n)
    (h : n ∉ t.root.entryNames) : t.shown path = none := by
  unfold shown node?
  split
  next names node hloc =>
    have hleads := (locate_eq_ok_iff.mp hloc).2
    rw [hpieces] at hleads
    exact absurd (hleads.mem_entryNames hfront hn) h
  · rfl

end FileTree

/-- The names that the paths start with which are looked up when nothing is set. -/
def lookedUp : List String :=
  [".codebrief", ".ignore", ".gitignore", ".git"] ++ Detection.buildFiles

/-- No entry of a tree has a name that is looked up. -/
def FileTree.Bare (t : FileTree) : Prop := ∀ n ∈ lookedUp, n ∉ t.root.entryNames

namespace FileTree.Bare

variable {t : FileTree}

lemma shown_settingsFile (h : t.Bare) (d : List String) :
    (t.startingAt d).shown Settings.projectFile = none :=
  shown_of_unnamed [] ["config.toml"] (by decide) (by simp)
    ⟨by decide, by decide, by decide, by decide⟩ (h ".codebrief" (by decide))

lemma shown_ignoreFile (h : t.Bare) (d : List String) {name : String}
    (hname : name ∈ Ignore.fileNames) : (t.startingAt d).shown name = none := by
  simp only [Ignore.fileNames, List.mem_cons, List.not_mem_nil, or_false] at hname
  rcases hname with rfl | rfl | rfl
  · exact shown_of_unnamed [] [] (by decide) (by simp)
      ⟨by decide, by decide, by decide, by decide⟩ (h ".ignore" (by decide))
  · exact shown_of_unnamed [] [] (by decide) (by simp)
      ⟨by decide, by decide, by decide, by decide⟩ (h ".gitignore" (by decide))
  · exact shown_of_unnamed [] ["info", "exclude"] (by decide) (by simp)
      ⟨by decide, by decide, by decide, by decide⟩ (h ".git" (by decide))

lemma shown_buildFile (h : t.Bare) {name : String} (hname : name ∈ Detection.buildFiles) :
    t.shown (Path.join "." name) = none := by
  have hpieces : ∀ name ∈ Detection.buildFiles, pieces '/' (Path.join "." name) = [".", name] := by
    decide
  have hnames : ∀ name ∈ Detection.buildFiles,
      name ≠ "" ∧ name ≠ "." ∧ name ≠ ".." ∧ '/' ∉ name.toList := by decide
  obtain ⟨h₁, h₂, h₃, h₄⟩ := hnames name hname
  exact shown_of_unnamed ["."] [] (hpieces name hname) (by simp)
    ⟨h₁, h₂, h₃, h₄⟩ (h name (List.mem_append_right _ hname))

/-- A tree without ignore files has no ignore rules. -/
lemma rulesAt (h : t.Bare) (d : List String) {name : String} (hname : name ∈ Ignore.fileNames) :
    Ignore.rulesAt t d name = [] := by
  rw [Ignore.rulesAt_eq_shown, h.shown_ignoreFile d hname]
  rfl

/-- So it ignores nothing. -/
lemma isIgnored (h : t.Bare) (names : List String) (isDirectory : Bool) :
    Ignore.isIgnored t names isDirectory = false :=
  Ignore.isIgnored_of_no_rules (fun d _ hname => h.rulesAt d hname) names isDirectory

end FileTree.Bare

end CodeDigest
