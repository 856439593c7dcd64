import CodeDigest.Proofs.CommandLine.Project

/-!
# Files that count and files that are scanned

Detection counts a file for a language if the extension, put in lower case, is one of those that the
language has.  A scan for the files of the language compares the extension as it is written.  So the
two agree on a file if the extension is in lower case, and of the files that count those in lower
case are the ones that a scan finds (`Language.scan_of_counted`).

Two facts about the table of languages are behind this: an extension belongs to one language only,
and all of them are in lower case (`Language.ofExtension_eq_iff`,
`Language.lowercased_of_mem_extensions`).  For trees there is one more step.  The walk of a scan
comes by every source file that detection comes by (`mem_filesUnder_of_counted`), since where
nothing is ignored it passes over nothing but `.git`, and detection does not look in there either.
-/

namespace CodeDigest

variable {l : Language} {e path root : String} {t : FileTree} {f : Found} {limit : Nat}

/-! ## Extensions -/

/-- The extension of a path is in lower case, if there is one. -/
def Path.HasLowerExtension (path : String) : Prop := ∀ e ∈ extension? path, lowercased e = e

instance (path : String) : Decidable (Path.HasLowerExtension path) :=
  inferInstanceAs (Decidable (∀ e ∈ Path.extension? path, lowercased e = e))

/-- The files of a language, by their extensions, up to a size. -/
def FileChoice.ofLanguage (l : Language) (limit : Nat) : FileChoice := ⟨[], [], l.extensions, limit⟩

namespace Language

lemma extensions_ne_nil (hl : l.isKnown = true) : l.extensions ≠ [] := by
  cases l with
  | unknown => cases hl
  | _ => exact List.cons_ne_nil _ _

lemma lowercased_of_mem_extensions (he : e ∈ l.extensions) : lowercased e = e := by
  have hall : ∀ l ∈ unknown :: known, ∀ e ∈ l.extensions, lowercased e = e := by decide +kernel
  exact hall l (by cases l <;> decide) e he

/-- No extension is listed under two languages. -/
lemma eq_of_mem_extensions {m : Language} (hl : l ∈ known) (hm : m ∈ known)
    (he : e ∈ l.extensions) (he' : e ∈ m.extensions) : m = l := by
  have hall : ∀ l ∈ known, ∀ m ∈ known, ∀ e ∈ l.extensions, e ∈ m.extensions → m = l := by
    decide +kernel
  exact hall l hl m hm e he he'

/-- The extensions of a language, however they are written. -/
lemma ofExtension_eq_iff (hl : l.isKnown = true) :
    ofExtension e = l ↔ lowercased e ∈ l.extensions := by
  have hmem := (mem_known_iff l).mpr hl
  cases hfind : known.find? fun l => l.extensions.contains (lowercased e) with
  | none =>
      have hno := List.find?_eq_none.mp hfind l hmem
      simp only [ofExtension, hfind, Option.getD_none]
      constructor
      · rintro rfl
        cases hl
      · intro he
        exact absurd (List.contains_iff_mem.mpr he) hno
  | some m =>
      have hm : lowercased e ∈ m.extensions := by simpa using List.find?_some hfind
      simp only [ofExtension, hfind, Option.getD_some]
      constructor
      · rintro rfl
        exact hm
      · intro he
        exact eq_of_mem_extensions hmem (List.mem_of_find?_eq_some hfind) he hm

lemma ofPath_eq_iff (hl : l.isKnown = true) :
    ofPath path = l ↔ ∃ e, Path.extension? path = some e ∧ lowercased e ∈ l.extensions := by
  unfold ofPath
  cases Path.extension? path with
  | none =>
      simp only [reduceCtorEq, false_and, exists_false, iff_false]
      rintro rfl
      cases hl
  | some e => simp [ofExtension_eq_iff hl]

end Language

lemma FileChoice.accepts_ofLanguage (hl : l.isKnown = true) {file : ScannedFile} :
    (ofLanguage l limit).accepts file = true ↔
      (∃ e, Path.extension? file.path = some e ∧ e ∈ l.extensions) ∧ file.size ≤ limit := by
  have hwanted := Language.extensions_ne_nil hl
  simp only [accepts, ofLanguage, List.any_nil, Bool.not_false, List.isEmpty_nil, Bool.true_or,
    Bool.true_and, Bool.and_eq_true, Bool.or_eq_true, List.isEmpty_iff, hwanted, false_or,
    ScannedFile.extension?, Option.any_eq_true, List.contains_iff_mem]
  exact and_congr_right fun _ => decide_eq_true_iff

/-- A choice by a language takes the files that count for it and have an extension in lower case. -/
lemma FileChoice.accepts_ofLanguage_iff (hl : l.isKnown = true) {size : Nat}
    (hsize : size ≤ limit) :
    (ofLanguage l limit).accepts ⟨path, size⟩ = true ↔
      Language.ofPath path = l ∧ Path.HasLowerExtension path := by
  rw [accepts_ofLanguage hl, Language.ofPath_eq_iff hl, Path.HasLowerExtension]
  constructor
  · rintro ⟨⟨e, he, hmem⟩, -⟩
    have hlower := Language.lowercased_of_mem_extensions hmem
    refine ⟨⟨e, he, by rwa [hlower]⟩, ?_⟩
    rintro _ he'
    obtain rfl := Option.some.inj (he.symm.trans he')
    exact hlower
  · rintro ⟨⟨e, he, hmem⟩, hlower⟩
    exact ⟨⟨e, he, by rwa [hlower e he] at hmem⟩, hsize⟩

/-! ## Walks -/

namespace Node

variable {admits admits' : List String → Bool → Bool}

mutual

/-- A walk that goes into at least the same directories comes by every file that it admits. -/
lemma mem_filesFrom_of_admits
    (hdirs : ∀ names, admits names true = true → admits' names true = true)
    (hfile : admits' f.names false = true) {names : List String} {node : Node}
    (hf : f ∈ node.filesFrom admits names) : f ∈ node.filesFrom admits' names := by
  cases node with
  | file content => exact hf
  | directory es => exact mem_filesOfEntries_of_admits hdirs hfile hf
  | link target => cases hf

lemma mem_filesOfEntries_of_admits
    (hdirs : ∀ names, admits names true = true → admits' names true = true)
    (hfile : admits' f.names false = true) {names : List String} {es : List (String × Node)}
    (hf : f ∈ filesOfEntries admits names es) : f ∈ filesOfEntries admits' names es := by
  match es with
  | [] => cases hf
  | (n, node) :: rest =>
      rw [filesOfEntries, List.mem_append] at hf ⊢
      rcases hf with hf | hf
      · split at hf
        next hadmits =>
          have hfound := mem_filesFrom_of_admits hdirs hfile hf
          left
          rw [if_pos]
          · exact hfound
          · cases node with
            | directory es => exact hdirs _ hadmits
            | file content =>
                obtain rfl := List.mem_singleton.mp hf
                exact hfile
            | link target => cases hf
        · cases hf
      · exact Or.inr (mem_filesOfEntries_of_admits hdirs hfile hf)

end

end Node

/-! ## Counting -/

namespace Detection

/-- The files that count for a language, in the order of the walk. -/
def countedFiles (t : FileTree) (root : String) (l : Language) : List Found :=
  (t.filesUnder admitsEntry root).filter fun f => f.names.getLast?.any (Language.ofPath · = l)

/-- They are as many as are counted. -/
lemma length_countedFiles (t : FileTree) (root : String) (l : Language) :
    (countedFiles t root l).length = countOf (fileNames t root) l := by
  rw [countedFiles, countOf, fileNames, List.countP_filterMap, List.countP_eq_length_filter]
  congr 2
  funext f
  cases f.names.getLast? <;> rfl

variable {names : List String}

lemma countOf_pos_of_foldl {ls : List Language} {best : Option Language}
    (hbest : ∀ l ∈ best, 0 < countOf names l) (h : ls.foldl (moreFrequent names) best = some l) :
    0 < countOf names l := by
  induction ls generalizing best with
  | nil => exact hbest l h
  | cons m ls ih =>
      refine ih (fun k hk => ?_) h
      unfold moreFrequent at hk
      split at hk
      · obtain rfl := Option.some.inj hk
        omega
      · exact hbest k hk

/-- A language that no build file decides has source files. -/
lemma countOf_pos (hl : l.isKnown = true) (hindicated : indicated? names = none)
    (h : languageOfNames names = l) : 0 < countOf names l := by
  rw [languageOfNames, hindicated] at h
  cases hfrequent : mostFrequent? names with
  | none =>
      rw [hfrequent] at h
      obtain rfl := h
      cases hl
  | some m =>
      rw [hfrequent] at h
      obtain rfl := h
      exact countOf_pos_of_foldl (by simp) hfrequent

lemma mem_countedFiles (ht : t.WellFormed) (hdir : t.isDirectory root = true) :
    f ∈ countedFiles t root l ↔ f ∈ t.filesUnder admitsEntry root ∧
      Language.ofPath (f.scanned (depthOf t root)).path = l := by
  rw [countedFiles, List.mem_filter, and_congr_right_iff]
  intro hf
  obtain ⟨n, hn, hextension⟩ := extension?_scanned ht hdir hf
  have hlanguage : Language.ofPath (f.scanned (depthOf t root)).path = Language.ofPath n := by
    rw [Language.ofPath, Language.ofPath, hextension]
  rw [hn, hlanguage, Option.any_some, decide_eq_true_eq]

end Detection

/-! ## Scanning -/

/-- A scan comes by every file that counts, where nothing is ignored. -/
lemma mem_filesUnder_of_counted (hl : l.isKnown = true) (ht : t.WellFormed)
    (hdir : t.isDirectory root = true) (hignored : ∀ names d, Ignore.isIgnored t names d = false)
    (hf : f ∈ Detection.countedFiles t root l) : f ∈ t.filesUnder (admitsEntry t) root := by
  obtain ⟨hfound, hcounted⟩ := (Detection.mem_countedFiles ht hdir).mp hf
  obtain ⟨names, es, hroot⟩ := FileTree.isDirectory_iff.mp hdir
  obtain ⟨n, hn, hextension⟩ := extension?_scanned ht hdir hfound
  rw [filesUnder_of_locate hroot] at hfound ⊢
  refine Node.mem_filesOfEntries_of_admits (fun names hadmits => ?_) ?_ hfound
  · have hother : names.getLast? ≠ some repositoryDirectory := by
      intro hlast
      rw [Detection.admitsEntry, hlast] at hadmits
      revert hadmits
      decide
    simp [admitsEntry, hignored, hother]
  · -- a file of this name has no extension
    have hnone : Path.extension? repositoryDirectory = none := by decide
    have hother : n ≠ repositoryDirectory := by
      rintro rfl
      obtain ⟨e, he, -⟩ := (Language.ofPath_eq_iff hl).mp hcounted
      rw [hextension, hnone] at he
      cases he
    simp [admitsEntry, hignored, hn, hother]

/-- A scan finds the files that are accepted, of those that the walk comes by. -/
lemma mem_scan_iff {choice : FileChoice} {files : List ScannedFile} {file : ScannedFile}
    (h : scan t root choice = .ok files) : file ∈ files ↔
      (∃ f ∈ t.filesUnder (admitsEntry t) root, f.scanned (depthOf t root) = file) ∧
        choice.accepts file = true := by
  unfold scan at h
  split at h
  · obtain rfl := Except.ok.inj h
    rw [List.mem_filter, codebase, sortedByPath, List.mem_mergeSort, List.mem_map]
    rfl
  · cases h

/-- A file that detection comes by is found by a scan if it counts and its extension is in lower
case. -/
lemma scanned_mem_iff (hl : l.isKnown = true) (ht : t.WellFormed)
    (hdir : t.isDirectory root = true) (hignored : ∀ names d, Ignore.isIgnored t names d = false)
    {files : List ScannedFile} (hscan : scan t root (.ofLanguage l limit) = .ok files)
    (hf : f ∈ t.filesUnder Detection.admitsEntry root) (hsize : f.content.size ≤ limit) :
    f.scanned (depthOf t root) ∈ files ↔ f ∈ Detection.countedFiles t root l ∧
      Path.HasLowerExtension (f.scanned (depthOf t root)).path := by
  have haccepts : (FileChoice.ofLanguage l limit).accepts (f.scanned (depthOf t root)) = true ↔
      Language.ofPath (f.scanned (depthOf t root)).path = l ∧
        Path.HasLowerExtension (f.scanned (depthOf t root)).path :=
    FileChoice.accepts_ofLanguage_iff hl hsize
  rw [mem_scan_iff hscan, Detection.mem_countedFiles ht hdir]
  constructor
  · rintro ⟨-, haccepted⟩
    obtain ⟨hcounts, hlower⟩ := haccepts.mp haccepted
    exact ⟨⟨hf, hcounts⟩, hlower⟩
  · rintro ⟨hcounted, hlower⟩
    have hfound := mem_filesUnder_of_counted hl ht hdir hignored
      ((Detection.mem_countedFiles ht hdir).mpr hcounted)
    exact ⟨⟨f, hfound, rfl⟩, haccepts.mpr ⟨hcounted.2, hlower⟩⟩

/-- **Detection and scanning agree on the files with an extension in lower case**, and on no
others. -/
theorem Language.scan_of_counted (l : Language) (hl : l.isKnown = true) (limit : Nat) :
    (∀ path size, size ≤ limit → ((FileChoice.ofLanguage l limit).accepts ⟨path, size⟩ = true ↔
      ofPath path = l ∧ Path.HasLowerExtension path)) ∧
    ∀ (t : FileTree) (root : String), t.WellFormed → t.isDirectory root = true →
      (∀ d, ∀ n ∈ Ignore.fileNames, Ignore.rulesAt t d n = []) →
      (∀ f ∈ t.filesUnder Detection.admitsEntry root, f.content.size ≤ limit) →
      Detection.indicated? (Detection.fileNames t root) = none →
      Detection.detectLanguage t root = l →
      Detection.countedFiles t root l ≠ [] ∧
      ∃ files, scan t root (.ofLanguage l limit) = .ok files ∧
        (∀ f ∈ t.filesUnder Detection.admitsEntry root, f.scanned (depthOf t root) ∈ files ↔
          f ∈ Detection.countedFiles t root l ∧
            Path.HasLowerExtension (f.scanned (depthOf t root)).path) ∧
        ((∃ f ∈ Detection.countedFiles t root l,
          Path.HasLowerExtension (f.scanned (depthOf t root)).path) → files ≠ []) := by
  refine ⟨fun path size hsize => FileChoice.accepts_ofLanguage_iff hl hsize, ?_⟩
  intro t root ht hdir hrules hsizes hindicated hlanguage
  have hcount : 0 < (Detection.countedFiles t root l).length := by
    rw [Detection.length_countedFiles]
    exact Detection.countOf_pos hl hindicated hlanguage
  have hscan := scan_eq hdir (.ofLanguage l limit)
  have hscanned := fun f hf => scanned_mem_iff hl ht hdir (Ignore.isIgnored_of_no_rules hrules)
    hscan hf (hsizes f hf)
  refine ⟨List.ne_nil_of_length_pos hcount, _, hscan, hscanned, ?_⟩
  rintro ⟨f, hcounted, hlower⟩
  have hf := ((Detection.mem_countedFiles ht hdir).mp hcounted).1
  exact List.ne_nil_of_mem ((hscanned f hf).mpr ⟨hcounted, hlower⟩)

/-- A project with two Java files, the extension of one of them in upper case. -/
def mixedCase : List (String × Node) := [("A.java", .file .empty), ("B.JAVA", .file .empty)]

/-- Both files count, and the one in lower case is found. -/
theorem Language.scan_of_counted_in_mixed_case :
    (Detection.countedFiles (.project mixedCase) "." .java).length = 2 ∧
    ∃ files, scan (.project mixedCase) "." (.ofLanguage .java 0) = .ok files ∧
      ⟨"A.java", 0⟩ ∈ files ∧ ⟨"B.JAVA", 0⟩ ∉ files := by
  have hnames : (FileTree.project mixedCase).root.entryNames
      = ["project", "A.java", "B.JAVA"] := rfl
  have hbare : (FileTree.project mixedCase).Bare := by
    rw [FileTree.Bare, hnames]
    decide
  have hentries : ∀ e ∈ mixedCase, Path.IsName e.1 ∧ e.2.HasNames := by
    intro e he
    simp only [mixedCase, List.mem_cons, List.not_mem_nil, or_false] at he
    rcases he with rfl | rfl
    · exact ⟨⟨by decide, by decide, by decide, by decide⟩, Node.hasNames_file _⟩
    · exact ⟨⟨by decide, by decide, by decide, by decide⟩, Node.hasNames_file _⟩
  have hfiles : FileTree.filesUnder (.project mixedCase) Detection.admitsEntry "."
      = [⟨["project", "A.java"], .empty⟩, ⟨["project", "B.JAVA"], .empty⟩] := by
    rw [filesUnder_of_locate FileTree.locate_project_here]
    rfl
  have hdepth : depthOf (.project mixedCase) "." = 1 :=
    depthOf_of_locate FileTree.locate_project_here
  have hlanguage : Detection.detectLanguage (.project mixedCase) "." = .java := by
    rw [FileTree.detectLanguage_project ["A.java", "B.JAVA"] rfl]
    decide +kernel
  have hindicated : Detection.indicated? (Detection.fileNames (.project mixedCase) ".") = none := by
    rw [Detection.fileNames, hfiles]
    decide
  have hcounted : Detection.countedFiles (.project mixedCase) "." .java
      = [⟨["project", "A.java"], .empty⟩, ⟨["project", "B.JAVA"], .empty⟩] := by
    rw [Detection.countedFiles, hfiles]
    rfl
  have hpaths : joined "/" ["A.java"] = "A.java" ∧ joined "/" ["B.JAVA"] = "B.JAVA" := by decide
  have hwell := FileTree.wellFormed_project (Node.hasNames_directory (by decide) hentries)
  obtain ⟨-, files, hscan, hscanned, -⟩ := (scan_of_counted .java (by decide) 0).2
    (.project mixedCase) "." hwell FileTree.isDirectory_project_here
    (fun d _ hname => hbare.rulesAt d hname) (by simp [hfiles]) hindicated hlanguage
  rw [hfiles, hcounted, hdepth] at hscanned
  simp only [List.forall_mem_cons, Found.scanned, List.drop_succ_cons, List.drop_zero, hpaths]
    at hscanned
  refine ⟨by rw [hcounted]; rfl, files, hscan, ?_, ?_⟩
  · exact hscanned.1.mpr ⟨by simp, by decide +kernel⟩
  · intro hmem
    have hlower := (hscanned.2.1.mp hmem).2
    revert hlower
    decide +kernel

/-- **A file with an extension in upper case counts and is not found.** -/
theorem Language.not_found_of_counted_in_upper_case :
    Language.ofPath "A.JAVA" = .java ∧
    (FileChoice.ofLanguage .java standardSizeLimit).accepts ⟨"A.JAVA", 0⟩ = false ∧
    Detection.indicated? (Detection.fileNames (.project [("A.JAVA", .file .empty)]) ".") = none ∧
    Detection.detectLanguage (.project [("A.JAVA", .file .empty)]) "." = .java ∧
    scan (.project [("A.JAVA", .file .empty)]) "." (.ofLanguage .java standardSizeLimit)
      = .ok [] := by
  have hrefused :
      (FileChoice.ofLanguage .java standardSizeLimit).accepts ⟨"A.JAVA", 0⟩ = false := by
    decide +kernel
  have hnames : Detection.fileNames (.project [("A.JAVA", .file .empty)]) "." = ["A.JAVA"] := by
    rw [Detection.fileNames, filesUnder_of_locate FileTree.locate_project_here]
    rfl
  refine ⟨by decide +kernel, hrefused, ?_, ?_, ?_⟩
  · rw [hnames]
    decide
  · rw [Detection.detectLanguage, hnames]
    decide +kernel
  · have hchosen : chosenFiles (.project [("A.JAVA", .file .empty)]) "."
        (.ofLanguage .java standardSizeLimit) = [] := by
      rw [chosenFiles_of_locate FileTree.locate_project_here, List.filter_eq_nil_iff]
      intro f hf
      simp only [Node.filesOfEntries, Node.filesFrom, List.append_nil] at hf
      split at hf
      · obtain rfl := List.mem_singleton.mp hf
        simp [Found.scanned, joined, hrefused]
      · cases hf
    rw [scan_eq FileTree.isDirectory_project_here, hchosen, List.map_nil, sortedByPath,
      List.mergeSort_nil]

end CodeDigest
