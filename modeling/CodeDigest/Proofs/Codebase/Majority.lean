import Mathlib.Data.Finset.Card
import CodeDigest.Proofs.Codebase.SourceFiles
import CodeDigest.Proofs.FileTree.Listing

/-!
# The language by build files and by majority

Detection reads the names of all files below a root, except in directories that are skipped.  The
files count as a set, and all that it says of the language depends on that set.

* `Sees` says which files these are, and `mem_seen_iff` that the walk comes by them and by no
  others.
* `Winner` is the first of some languages with the most files.  One more language is compared with
  the winner so far (`Winner.concat`), and so the comparison of all ends with the winner of all
  (`winner_foldl`).
* `detectLanguage_congr`: two trees in which the same files are seen are in the same language.
* `detectLanguage_of_seen` is the law of detection: the first build file of the table decides, and
  otherwise the majority of the files.
-/

namespace CodeDigest.Detection

variable {names : List String} {count : Language → Nat} {ls : List Language} {l m : Language}
  {best best' : Option Language} {n root : String} {t t' : FileTree}

/-! ## The first of the most frequent -/

/-- The first of some languages with the most files, if any of them has some. -/
inductive Winner (count : Language → Nat) (ls : List Language) : Option Language → Prop
  | nobody (zero : ∀ m ∈ ls, count m = 0) : Winner count ls none
  | first {front back : List Language} {l : Language} (split : ls = front ++ l :: back)
      (pos : 0 < count l) (before : ∀ m ∈ front, count m < count l)
      (behind : ∀ m ∈ back, count m ≤ count l) : Winner count ls (some l)

namespace Winner

/-- No language has more files. -/
lemma le (h : Winner count ls best) (hm : m ∈ ls) : count m ≤ (best.map count).getD 0 := by
  cases h with
  | nobody zero => exact (zero m hm).le
  | first split _ before behind =>
      rw [split, List.mem_append, List.mem_cons] at hm
      rcases hm with hfront | rfl | hback
      · exact (before m hfront).le
      · exact le_rfl
      · exact behind m hback

/-- One more language wins if it has more files than the winner so far. -/
lemma concat (h : Winner (countOf names) ls best) (k : Language) :
    Winner (countOf names) (ls ++ [k]) (moreFrequent names best k) := by
  unfold moreFrequent
  split
  next hmore =>
    refine .first rfl (Nat.zero_lt_of_lt hmore) (fun m hm => ?_) nofun
    exact (h.le hm).trans_lt hmore
  next hless =>
    rw [Nat.not_lt] at hless
    cases h with
    | nobody zero =>
        refine .nobody fun m hm => ?_
        rcases List.mem_append.mp hm with hm | hm
        · exact zero m hm
        · obtain rfl := List.mem_singleton.mp hm
          exact Nat.le_zero.mp hless
    | @first front back l split pos before behind =>
        have hsplit : ls ++ [k] = front ++ l :: (back ++ [k]) := by simp [split]
        refine .first hsplit pos before fun m hm => ?_
        rcases List.mem_append.mp hm with hm | hm
        · exact behind m hm
        · obtain rfl := List.mem_singleton.mp hm
          exact hless

lemma mem (h : Winner count ls (some l)) : l ∈ ls := by
  cases h with
  | first split => simp [split]

/-- **There is one winner.**  Of two languages neither can stand in front of the other. -/
theorem unique (h : Winner count ls best) (h' : Winner count ls best') : best = best' := by
  cases h with
  | nobody zero =>
      cases h' with
      | nobody => rfl
      | @first _ _ l split pos => exact absurd (zero l (by simp [split])) pos.ne'
  | @first front back l split pos before behind =>
      cases h' with
      | nobody zero => exact absurd (zero l (by simp [split])) pos.ne'
      | @first front' back' l' split' pos' before' behind' =>
          rw [split, List.append_eq_append_iff] at split'
          rcases split' with ⟨between, hfront, hrest⟩ | ⟨between, hfront, hrest⟩
          all_goals rcases between with _ | ⟨k, between⟩
          case inl.nil | inr.nil => rw [(List.cons.inj hrest).1]
          case inl.cons =>
              obtain ⟨rfl, hback⟩ := List.cons.inj hrest
              have hless := before' l (by simp [hfront])
              have hmore := behind l' (by simp [hback])
              omega
          case inr.cons =>
              obtain ⟨rfl, hback⟩ := List.cons.inj hrest
              have hless := before l' (by simp [hfront])
              have hmore := behind' l (by simp [hback])
              omega

end Winner

/-- The comparison of all languages ends with the winner. -/
lemma winner_foldl (names : List String) (ls : List Language) :
    Winner (countOf names) ls (ls.foldl (moreFrequent names) none) := by
  induction ls using List.reverseRecOn with
  | nil => exact .nobody nofun
  | append_singleton ls k ih =>
      rw [List.foldl_append]
      exact ih.concat k

/-! ## The language of some names -/

/-- The first build file of the table decides. -/
lemma languageOfNames_of_indicator {front back : List (String × Language)}
    (hsplit : indicators = front ++ (n, l) :: back) (hn : n ∈ names)
    (hfront : ∀ row ∈ front, row.1 ∉ names) : languageOfNames names = l := by
  have hfind : indicators.find? (fun row => names.contains row.1) = some (n, l) :=
    List.find?_eq_some_iff_append.mpr ⟨List.contains_iff_mem.mpr hn, front, back, hsplit,
      fun row hrow => by simpa using hfront row hrow⟩
  rw [languageOfNames, indicated?, hfind]
  rfl

lemma indicated?_eq_none (h : ∀ row ∈ indicators, row.1 ∉ names) : indicated? names = none := by
  rw [indicated?, Option.map_eq_none_iff, List.find?_eq_none]
  exact fun row hrow => by simpa using h row hrow

/-- Without build files the winner of all known languages decides. -/
lemma languageOfNames_eq_iff (h : indicated? names = none) (hl : l.isKnown = true) :
    languageOfNames names = l ↔ Winner (countOf names) Language.known (some l) := by
  have hwinner : Winner (countOf names) Language.known (mostFrequent? names) :=
    winner_foldl names Language.known
  rw [languageOfNames, h]
  constructor
  · intro hlanguage
    cases hbest : mostFrequent? names with
    | none =>
        rw [hbest] at hlanguage
        obtain rfl := hlanguage
        cases hl
    | some m =>
        rw [hbest] at hlanguage hwinner
        obtain rfl := hlanguage
        exact hwinner
  · intro hfirst
    rw [hwinner.unique hfirst]
    rfl

lemma languageOfNames_eq_unknown_iff (h : indicated? names = none) :
    languageOfNames names = .unknown ↔ ∀ l, l.isKnown = true → countOf names l = 0 := by
  have hwinner : Winner (countOf names) Language.known (mostFrequent? names) :=
    winner_foldl names Language.known
  rw [languageOfNames, h]
  cases hbest : mostFrequent? names with
  | none =>
      rw [hbest] at hwinner
      cases hwinner with
      | nobody zero => exact iff_of_true rfl fun l hl => zero l ((Language.mem_known_iff l).mpr hl)
  | some m =>
      rw [hbest] at hwinner
      have hm := (Language.mem_known_iff m).mp hwinner.mem
      refine iff_of_false ?_ fun hzero => ?_
      · rintro rfl
        cases hm
      · cases hwinner with
        | first _ pos => exact pos.ne' (hzero m hm)

/-! ## The files that are seen -/

/-- A file is seen if it is below the root and no directory in between is skipped. -/
def Sees (t : FileTree) (root : String) (names : List String) : Prop :=
  ∃ base above n content, t.canonical? root = some base ∧ names = base ++ (above ++ [n]) ∧
    (∀ d ∈ above, d ∉ skippedDirectories) ∧ t.root.get? names = some (.file content)

/-- These names are below the root and in a directory that is skipped. -/
def Passes (t : FileTree) (root : String) (names : List String) : Prop :=
  ∃ base above n, t.canonical? root = some base ∧ names = base ++ (above ++ [n]) ∧
    ∃ d ∈ above, d ∈ skippedDirectories

/-- The files that detection comes by, by their names. -/
def seen (t : FileTree) (root : String) : Finset (List String) :=
  ((t.filesUnder admitsEntry root).map Found.names).toFinset

/-- The number of files in a language. -/
def filesIn (files : Finset (List String)) (l : Language) : Nat :=
  (files.filter fun names => names.getLast?.any (Language.ofPath · = l)).card

/-- Some file has a name. -/
def HasFile (files : Finset (List String)) (n : String) : Prop :=
  ∃ names ∈ files, names.getLast? = some n

lemma opens_admitsEntry_iff {base above : List String} :
    Node.Opens admitsEntry base (above ++ [n]) ↔ ∀ d ∈ above, d ∉ skippedDirectories := by
  induction above generalizing base with
  | nil => simp [Node.Opens, admitsEntry]
  | cons d above ih =>
      rw [List.cons_append, Node.Opens, ih, List.forall_mem_cons]
      simp [admitsEntry]

/-- **The walk comes by the files that are seen.** -/
theorem mem_seen_iff (ht : t.WellFormed) (hdir : t.isDirectory root = true) :
    names ∈ seen t root ↔ Sees t root names := by
  rw [seen, List.mem_toFinset, List.mem_map]
  constructor
  · rintro ⟨f, hf, rfl⟩
    obtain ⟨base, below, hbase, hbelow, hfile, hopens⟩ := (FileTree.mem_filesUnder_iff ht).mp hf
    rcases List.eq_nil_or_concat below with rfl | ⟨above, n, rfl⟩
    · -- the root is no file
      obtain ⟨names, es, hroot⟩ := FileTree.isDirectory_iff.mp hdir
      rw [FileTree.canonical?_eq_some_iff.mpr ⟨_, hroot⟩, Option.some.injEq] at hbase
      rw [hbelow, List.append_nil, ← hbase, (FileTree.locate_eq_ok_iff.mp hroot).2.get?] at hfile
      cases hfile
    · rw [List.concat_eq_append] at hbelow hopens
      exact ⟨base, above, n, f.content, hbase, hbelow, opens_admitsEntry_iff.mp hopens, hfile⟩
  · rintro ⟨base, above, n, content, hbase, hbelow, habove, hfile⟩
    exact ⟨⟨names, content⟩, (FileTree.mem_filesUnder_iff ht).mpr
      ⟨base, above ++ [n], hbase, hbelow, hfile, opens_admitsEntry_iff.mpr habove⟩, rfl⟩

lemma mem_fileNames_iff : n ∈ fileNames t root ↔ HasFile (seen t root) n := by
  rw [fileNames, List.mem_filterMap, HasFile]
  constructor
  · rintro ⟨f, hf, hlast⟩
    exact ⟨f.names, List.mem_toFinset.mpr (List.mem_map_of_mem hf), hlast⟩
  · rintro ⟨names, hnames, hlast⟩
    obtain ⟨f, hf, rfl⟩ := List.mem_map.mp (List.mem_toFinset.mp hnames)
    exact ⟨f, hf, hlast⟩

/-- As many files are seen as are counted. -/
lemma countOf_fileNames (ht : t.WellFormed) :
    countOf (fileNames t root) = filesIn (seen t root) := by
  funext l
  have hnodup := FileTree.nodup_names_filesUnder ht admitsEntry root
  rw [filesIn, seen, ← List.toFinset_filter, List.toFinset_card_of_nodup (hnodup.filter _),
    ← length_countedFiles, countedFiles, List.filter_map, List.length_map]
  rfl

/-- **The same files make the same language.** -/
theorem detectLanguage_congr (ht : t.WellFormed) (ht' : t'.WellFormed)
    (h : seen t' root = seen t root) : detectLanguage t' root = detectLanguage t root := by
  refine languageOfNames_congr (fun row _ => ?_) fun l _ => ?_
  · rw [Bool.eq_iff_iff, List.contains_iff_mem, List.contains_iff_mem, mem_fileNames_iff,
      mem_fileNames_iff, h]
  · rw [countOf_fileNames ht, countOf_fileNames ht', h]

/-- More directories are not seen, nor what else is added in directories that are skipped. -/
lemma seen_of_adds (ht : t.WellFormed) (ht' : t'.WellFormed) (hdir : t.isDirectory root = true)
    (h : t.Adds (fun names => Passes t root names ∨ t'.entry names = some .empty) t') :
    seen t' root = seen t root := by
  obtain ⟨base, es, hroot⟩ := FileTree.isDirectory_iff.mp hdir
  have hbase : t.canonical? root = some base := FileTree.canonical?_eq_some_iff.mpr ⟨_, hroot⟩
  have hbase' := h.canonical? hbase
  ext names
  rw [mem_seen_iff ht hdir, mem_seen_iff ht' (h.grows.isDirectory hdir), Sees, Sees, hbase, hbase']
  constructor
  · rintro ⟨base', above, n, content, hsome, hnames, habove, hfile⟩
    refine ⟨base', above, n, content, hsome, hnames, habove, ?_⟩
    obtain rfl := Option.some.inj hsome
    refine (h.file_cases hfile).resolve_right ?_
    rintro (⟨base', above', n', hsome', hnames', d, hd, hskipped⟩ | hempty)
    case inr =>
      rw [FileTree.entry, hfile] at hempty
      cases hempty
    obtain rfl := Option.some.inj (hbase.symm.trans hsome')
    have hbelow := List.append_cancel_left (hnames.symm.trans hnames')
    obtain ⟨rfl, -⟩ := List.append_inj' hbelow rfl
    exact habove d hd hskipped
  · rintro ⟨base', above, n, content, hsome, hnames, habove, hfile⟩
    exact ⟨base', above, n, content, hsome, hnames, habove, h.get?_file hfile⟩

/-! ## The law of detection -/

/-- **The language of a project** depends on the files that are seen.  The first build file of the
table decides that one of them is called; where none is, the known language with the most files, the
first of several, and no language if there is no file in a known one.  So neither the order in which
directories list their entries nor what is in directories that are skipped matters. -/
theorem detectLanguage_of_seen (ht : t.WellFormed) (hdir : t.isDirectory root = true) :
    ∃ files : Finset (List String), (∀ names, names ∈ files ↔ Sees t root names) ∧
      (∀ front n l back, indicators = front ++ (n, l) :: back → HasFile files n →
        (∀ row ∈ front, ¬HasFile files row.1) → detectLanguage t root = l) ∧
      ((∀ row ∈ indicators, ¬HasFile files row.1) →
        (∀ l, l.isKnown = true → (detectLanguage t root = l ↔
          Winner (filesIn files) Language.known (some l))) ∧
        (detectLanguage t root = .unknown ↔ ∀ l, l.isKnown = true → filesIn files l = 0)) ∧
      (∀ root', t.root.Reorders root' →
        detectLanguage { t with root := root' } root = detectLanguage t root) ∧
      ∀ t', t'.WellFormed →
        t.Adds (fun names => Passes t root names ∨ t'.entry names = some .empty) t' →
        detectLanguage t' root = detectLanguage t root := by
  refine ⟨seen t root, fun names => mem_seen_iff ht hdir, ?_, fun hnone => ?_, ?_, ?_⟩
  · intro front n l back hsplit hn hfront
    refine languageOfNames_of_indicator hsplit (mem_fileNames_iff.mpr hn) fun row hrow => ?_
    rw [mem_fileNames_iff]
    exact hfront row hrow
  · have hindicated : indicated? (fileNames t root) = none :=
      indicated?_eq_none fun row hrow => by
        rw [mem_fileNames_iff]
        exact hnone row hrow
    rw [← countOf_fileNames ht]
    exact ⟨fun l hl => languageOfNames_eq_iff hindicated hl,
      languageOfNames_eq_unknown_iff hindicated⟩
  · intro root' h
    obtain ⟨hrelists, hwell⟩ := FileTree.relists_of_reorders ht h
    exact detectLanguage_congr ht hwell (seen_of_adds ht hwell hdir (hrelists.adds _))
  · exact fun t' ht' h => detectLanguage_congr ht ht' (seen_of_adds ht ht' hdir h)

/-- **A build file in a directory that is skipped** leaves a project in the language of its
files. -/
theorem detectLanguage_of_seen_beside_target : ∃ files : Finset (List String),
    (∀ names, names ∈ files ↔
      Sees (.project [("A.java", .file .empty), ("target", .empty)]) "." names) ∧
    detectLanguage (.project [("A.java", .file .empty), ("target", .empty)]) "." = .java ∧
    detectLanguage (.project [("A.java", .file .empty),
      ("target", .directory [("setup.py", .file .empty)])]) "." = .java := by
  have hA : Path.IsName "A.java" := ⟨by decide, by decide, by decide, by decide⟩
  have htarget : Path.IsName "target" := ⟨by decide, by decide, by decide, by decide⟩
  have hsetup : Path.IsName "setup.py" := ⟨by decide, by decide, by decide, by decide⟩
  have hwell : ∀ es, (Node.directory es).HasNames →
      (FileTree.project [("A.java", .file .empty), ("target", .directory es)]).WellFormed := by
    intro es hes
    refine FileTree.wellFormed_project (Node.hasNames_directory (by simp) ?_)
    simpa [hA, htarget, hes] using Node.hasNames_file _
  have hempty := hwell [] (Node.hasNames_directory (by simp) (by simp))
  obtain ⟨files, hfiles, -, -, -, hadds⟩ :=
    detectLanguage_of_seen hempty FileTree.isDirectory_project_here
  have hlanguage : detectLanguage (.project [("A.java", .file .empty), ("target", .empty)]) "."
      = .java := by
    rw [FileTree.detectLanguage_project ["A.java"] rfl]
    decide +kernel
  refine ⟨files, hfiles, hlanguage, ?_⟩
  rw [← hlanguage]
  refine hadds _ (hwell _ (Node.hasNames_singleton hsetup (Node.hasNames_file _))) ?_
  have hget : (FileTree.project [("A.java", .file .empty), ("target", .empty)]).root.get?
      ["project", "target"] = some (.directory []) := rfl
  exact FileTree.adds_put hget rfl rfl (.inl ⟨["project"], ["target"], "setup.py",
    FileTree.canonical?_eq_some_iff.mpr ⟨_, FileTree.locate_project_here⟩, rfl, "target",
    by decide⟩)

end CodeDigest.Detection
