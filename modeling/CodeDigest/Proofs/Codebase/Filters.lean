import Mathlib.Data.List.Sort
import CodeDigest.Proofs.Codebase.SourceFiles
import CodeDigest.Proofs.FileTree.Listing

/-!
# Filters and the walk

A scan lists all files of a code base and then chooses some of them, each for itself.  So filters
and the walk have nothing to do with each other.

* `codebase_pairwise_lt`: the files of a code base are in the strict order of their paths.  A list
  in that order is known by its members, and so it does not matter in which order directories list
  their entries (`codebase_of_relists`).
* `ScanOptions.Chooses` says which files options choose, in terms of the patterns as they are
  written, and `FileChoice.accepts_iff_chooses` that this is what a scan goes by.
* `scan_of_options` has what follows for a scan.
-/

namespace CodeDigest

variable {t t' : FileTree} {root : String} {f : Found} {file : ScannedFile} {o o' : ScanOptions}
  {c c' : FileChoice}

/-! ## Trees that are listed otherwise -/

namespace FileTree

lemma Relists.startingAt (h : t.Relists t') (d : List String) :
    (t.startingAt d).Relists (t'.startingAt d) := ⟨rfl, h.entry⟩

/-- A run can tell the same of a path. -/
lemma Relists.shown (h : t.Relists t') (path : String) : t'.shown path = t.shown path := by
  have hcontent : Node.content? = Node.content? ∘ Node.withoutEntries := by
    funext node
    cases node <;> rfl
  rw [FileTree.shown, FileTree.shown, hcontent, ← Option.map_map, ← Option.map_map, h.node?]

/-- The same entries are ignored. -/
lemma Relists.admitsEntry (h : t.Relists t') : admitsEntry t' = admitsEntry t :=
  admitsEntry_congr fun d n _ => Ignore.rulesAt_congr ((h.startingAt d).shown n)

end FileTree

/-! ## The order of paths -/

/-- The names below a root can be read off the path. -/
lemma joined_injective {below below' : List String} (hne : below ≠ []) (hne' : below' ≠ [])
    (hnames : ∀ n ∈ below, Path.IsName n) (hnames' : ∀ n ∈ below', Path.IsName n)
    (h : joined "/" below = joined "/" below') : below = below' := by
  have hpieces := pieces_joined hne fun n hn => (hnames n hn).no_slash
  have hpieces' := pieces_joined hne' fun n hn => (hnames' n hn).no_slash
  have hslash : String.singleton '/' = "/" := by decide
  rw [hslash] at hpieces hpieces'
  rw [← hpieces, ← hpieces', h]

/-- Files that are found below a directory have different paths. -/
lemma nodup_paths (ht : t.WellFormed) (hdir : t.isDirectory root = true)
    (admits : List String → Bool → Bool) :
    (((t.filesUnder admits root).map (Found.scanned (depthOf t root))).map
      ScannedFile.path).Nodup := by
  obtain ⟨base, es, hroot⟩ := FileTree.isDirectory_iff.mp hdir
  have hget := (FileTree.locate_eq_ok_iff.mp hroot).2.get?
  have hbelow : ∀ f ∈ t.filesUnder admits root, ∃ below, below ≠ [] ∧ f.names = base ++ below ∧
      (∀ n ∈ below, Path.IsName n) ∧ (f.scanned (depthOf t root)).path = joined "/" below := by
    intro f hf
    have hfound : f ∈ (Node.directory es).filesFrom admits base := by
      rwa [filesUnder_of_locate hroot] at hf
    obtain ⟨hfile, below, hbelow, hnames⟩ := Node.get?_of_mem_filesFrom ht.names hget hfound
    refine ⟨below, ?_, hbelow, hnames, ?_⟩
    · rintro rfl
      rw [hbelow, List.append_nil, hget] at hfile
      cases hfile
    · rw [Found.scanned, depthOf_of_locate hroot, hbelow, List.drop_left]
  have hnodup := FileTree.nodup_names_filesUnder ht admits root
  rw [List.map_map]
  refine List.Nodup.map_on ?_ (hnodup.of_map _)
  intro f hf g hg hpath
  obtain ⟨below, hne, hfnames, hnames, hfpath⟩ := hbelow f hf
  obtain ⟨below', hne', hgnames, hnames', hgpath⟩ := hbelow g hg
  rw [Function.comp_apply, Function.comp_apply, hfpath, hgpath] at hpath
  obtain rfl := joined_injective hne hne' hnames hnames' hpath
  exact List.inj_on_of_nodup_map hnodup hf hg (hfnames.trans hgnames.symm)

lemma mem_codebase_iff : file ∈ codebase t root ↔
    ∃ f ∈ t.filesUnder (admitsEntry t) root, f.scanned (depthOf t root) = file := by
  rw [codebase, sortedByPath, List.mem_mergeSort, List.mem_map]
  rfl

/-- **The files of a code base are in the strict order of their paths.** -/
theorem codebase_pairwise_lt (ht : t.WellFormed) (hdir : t.isDirectory root = true) :
    (codebase t root).Pairwise fun a b => a.path < b.path := by
  have hnodup : ((codebase t root).map ScannedFile.path).Nodup :=
    ((List.mergeSort_perm _ _).map _).nodup_iff.mpr (nodup_paths ht hdir (admitsEntry t))
  have hne : (codebase t root).Pairwise fun a b => a.path ≠ b.path := List.pairwise_map.mp hnodup
  refine ((sortedByPath_pairwise _).and hne).imp fun {a b} hab => ?_
  obtain ⟨hle, hne⟩ := hab
  by_contra hnot
  exact hne (String.le_antisymm (String.not_lt.mp hle) (String.not_lt.mp hnot))

/-- Lists in the strict order of paths are the same if they have the same members. -/
lemma eq_of_pairwise_path_lt {xs ys : List ScannedFile}
    (hxs : xs.Pairwise fun a b => a.path < b.path) (hys : ys.Pairwise fun a b => a.path < b.path)
    (h : ∀ file, file ∈ xs ↔ file ∈ ys) : xs = ys := by
  have : Std.Irrefl fun a b : ScannedFile => a.path < b.path := ⟨fun a => String.lt_irrefl a.path⟩
  have : Std.Antisymm fun a b : ScannedFile => a.path < b.path :=
    ⟨fun a b hab hba => absurd hba (String.lt_asymm hab)⟩
  exact hxs.eq_of_mem_iff hys h

/-- **A code base is the same** in whatever order directories list their entries. -/
theorem codebase_of_relists (h : t.Relists t') (ht : t.WellFormed) (ht' : t'.WellFormed)
    (hdir : t.isDirectory root = true) : codebase t' root = codebase t root := by
  have hdir' := h.grows.isDirectory hdir
  refine eq_of_pairwise_path_lt (codebase_pairwise_lt ht' hdir') (codebase_pairwise_lt ht hdir)
    fun file => ?_
  rw [mem_codebase_iff, mem_codebase_iff, depthOf, depthOf, h.canonical?, h.admitsEntry]
  exact exists_congr fun f => and_congr_left fun _ => h.mem_filesUnder_iff ht ht'

/-! ## Patterns as they are written -/

namespace PathFilter

variable {text path : String} {texts texts' : List String} {filters : List PathFilter}

/-- The filter that a text stands for accepts a path. -/
def Matches (text path : String) : Prop := ∃ f, ofText text = .ok f ∧ f.matchesPath path = true

lemma ofTexts_eq_ok_iff : ofTexts texts = .ok filters ↔
    List.Forall₂ (fun text f => ofText text = .ok f) texts filters := by
  induction texts generalizing filters with
  | nil => simp [ofTexts, eq_comm]
  | cons text texts ih =>
      simp only [List.forall₂_cons_left_iff, ← ih, ofTexts]
      cases ofText text with
      | error flaw => simp
      | ok f =>
          cases ofTexts texts with
          | error failure => simp [Except.map]
          | ok rest => simp [Except.map, eq_comm]

/-- Some texts can be read if each of them can. -/
lemma exists_ofTexts_iff :
    (∃ filters, ofTexts texts = .ok filters) ↔ ∀ text ∈ texts, ∃ f, ofText text = .ok f := by
  simp only [ofTexts_eq_ok_iff]
  induction texts with
  | nil => simp
  | cons text texts ih =>
      rw [List.forall_mem_cons, ← ih]
      constructor
      · rintro ⟨_, _ | ⟨hf, hfs⟩⟩
        exact ⟨⟨_, hf⟩, _, hfs⟩
      · rintro ⟨⟨f, hf⟩, fs, hfs⟩
        exact ⟨f :: fs, .cons hf hfs⟩

lemma any_matchesPath_iff (h : ofTexts texts = .ok filters) :
    filters.any (·.matchesPath path) = true ↔ ∃ text ∈ texts, Matches text path := by
  induction ofTexts_eq_ok_iff.mp h with
  | nil => simp
  | @cons text f texts fs hf hfs ih =>
      have hmatches : Matches text path ↔ f.matchesPath path = true := by
        simp [Matches, hf]
      rw [List.any_cons, Bool.or_eq_true, ih (ofTexts_eq_ok_iff.mpr hfs), List.exists_mem_cons_iff,
        hmatches]

lemma isEmpty_ofTexts (h : ofTexts texts = .ok filters) : filters.isEmpty = true ↔ texts = [] := by
  cases ofTexts_eq_ok_iff.mp h <;> simp

end PathFilter

/-! ## The choice -/

/-- The files that options choose. -/
structure ScanOptions.Chooses (o : ScanOptions) (file : ScannedFile) : Prop where
  excluded : ∀ text ∈ o.exclude, ¬PathFilter.Matches text file.path
  included : o.include_ = [] ∨ ∃ text ∈ o.include_, PathFilter.Matches text file.path
  extension : o.extensions = [] ∨ ∃ e ∈ o.extensions, file.extension? = some e
  size : file.size ≤ o.sizeLimit

/-- Options with the same patterns and extensions, in any order and number. -/
structure ScanOptions.Alike (o o' : ScanOptions) : Prop where
  included : ∀ text, text ∈ o'.include_ ↔ text ∈ o.include_
  excluded : ∀ text, text ∈ o'.exclude ↔ text ∈ o.exclude
  extensions : ∀ e, e ∈ o'.extensions ↔ e ∈ o.extensions
  size : o'.sizeLimit = o.sizeLimit

lemma ScanOptions.Alike.symm (h : o.Alike o') : o'.Alike o :=
  ⟨fun text => (h.included text).symm, fun text => (h.excluded text).symm,
    fun e => (h.extensions e).symm, h.size.symm⟩

lemma ScanOptions.Alike.chooses (h : o.Alike o') (hfile : o.Chooses file) : o'.Chooses file := by
  have hempty : ∀ {xs ys : List String}, (∀ x, x ∈ ys ↔ x ∈ xs) → xs = [] → ys = [] := by
    rintro xs ys hmem rfl
    exact List.eq_nil_iff_forall_not_mem.mpr fun x hx => List.not_mem_nil ((hmem x).mp hx)
  refine ⟨fun text ht => hfile.excluded text ((h.excluded text).mp ht), ?_, ?_, ?_⟩
  · refine hfile.included.imp (hempty h.included) ?_
    rintro ⟨text, ht, hmatches⟩
    exact ⟨text, (h.included text).mpr ht, hmatches⟩
  · refine hfile.extension.imp (hempty h.extensions) ?_
    rintro ⟨e, he, hextension⟩
    exact ⟨e, (h.extensions e).mpr he, hextension⟩
  · rw [h.size]
    exact hfile.size

/-- They choose the same files. -/
lemma ScanOptions.Alike.chooses_iff (h : o.Alike o') : o'.Chooses file ↔ o.Chooses file :=
  ⟨h.symm.chooses, h.chooses⟩

/-- A file is left out by two lists of patterns if it is left out by one of them. -/
lemma ScanOptions.chooses_iff_of_exclude {e₁ e₂ : List String}
    (h : ∀ text, text ∈ o.exclude ↔ text ∈ e₁ ∨ text ∈ e₂) : o.Chooses file ↔
      { o with exclude := e₁ }.Chooses file ∧ { o with exclude := e₂ }.Chooses file := by
  constructor
  · rintro ⟨hexcluded, h₂, h₃, h₄⟩
    exact ⟨⟨fun text he => hexcluded text ((h text).mpr (.inl he)), h₂, h₃, h₄⟩,
      ⟨fun text he => hexcluded text ((h text).mpr (.inr he)), h₂, h₃, h₄⟩⟩
  · rintro ⟨⟨h₁, h₂, h₃, h₄⟩, ⟨h₁', -, -, -⟩⟩
    exact ⟨fun text ht => ((h text).mp ht).elim (h₁ text) (h₁' text), h₂, h₃, h₄⟩

namespace FileChoice

/-- The choice of every file up to a size. -/
def everything (limit : Nat) : FileChoice := ⟨[], [], [], limit⟩

lemma ofOptions_eq_ok_iff : ofOptions o = .ok c ↔
    PathFilter.ofTexts o.include_ = .ok c.include_ ∧ PathFilter.ofTexts o.exclude = .ok c.exclude ∧
      c.extensions = o.extensions ∧ c.sizeLimit = o.sizeLimit := by
  obtain ⟨included, excluded, extensions, sizeLimit⟩ := c
  unfold ofOptions
  cases PathFilter.ofTexts o.include_ with
  | error failure => simp [bind, Except.bind]
  | ok included' =>
      cases PathFilter.ofTexts o.exclude with
      | error failure => simp [bind, Except.bind]
      | ok excluded' =>
          simp only [bind, Except.bind, pure, Except.pure, Except.ok.injEq, mk.injEq]
          rw [eq_comm (a := extensions), eq_comm (a := sizeLimit)]

/-- Options can be read if there are no patterns in them but those of options that can be read. -/
lemma exists_ofOptions_of_subset (h : ofOptions o = .ok c) (hincluded : o'.include_ ⊆ o.include_)
    (hexcluded : o'.exclude ⊆ o.exclude) : ∃ c', ofOptions o' = .ok c' := by
  obtain ⟨hincludes, hexcludes, -, -⟩ := ofOptions_eq_ok_iff.mp h
  have hreads := PathFilter.exists_ofTexts_iff.mp ⟨_, hincludes⟩
  have hreads' := PathFilter.exists_ofTexts_iff.mp ⟨_, hexcludes⟩
  obtain ⟨included, hincluded⟩ :=
    PathFilter.exists_ofTexts_iff.mpr fun text ht => hreads text (hincluded ht)
  obtain ⟨excluded, hexcluded⟩ :=
    PathFilter.exists_ofTexts_iff.mpr fun text ht => hreads' text (hexcluded ht)
  exact ⟨⟨included, excluded, o'.extensions, o'.sizeLimit⟩,
    ofOptions_eq_ok_iff.mpr ⟨hincluded, hexcluded, rfl, rfl⟩⟩

/-- **A scan goes by the files that the options choose.** -/
theorem accepts_iff_chooses (h : ofOptions o = .ok c) :
    c.accepts file = true ↔ o.Chooses file := by
  obtain ⟨hincluded, hexcluded, hextensions, hsize⟩ := ofOptions_eq_ok_iff.mp h
  have hexclude : (!c.exclude.any (·.matchesPath file.path)) = true ↔
      ∀ text ∈ o.exclude, ¬PathFilter.Matches text file.path := by
    rw [Bool.not_eq_true', ← Bool.not_eq_true, PathFilter.any_matchesPath_iff hexcluded]
    simp
  have hextension : (file.extension?.any o.extensions.contains) = true ↔
      ∃ e ∈ o.extensions, file.extension? = some e := by
    rw [Option.any_eq_true]
    exact exists_congr fun e => by rw [List.contains_iff_mem, and_comm]
  rw [accepts, Bool.and_eq_true, Bool.and_eq_true, Bool.and_eq_true, Bool.or_eq_true,
    Bool.or_eq_true, hexclude, PathFilter.isEmpty_ofTexts hincluded,
    PathFilter.any_matchesPath_iff hincluded, hextensions, hsize, List.isEmpty_iff, hextension,
    decide_eq_true_iff]
  constructor
  · rintro ⟨⟨⟨hexcluded, hincluded⟩, hextension⟩, hsize⟩
    exact ⟨hexcluded, hincluded, hextension, hsize⟩
  · rintro ⟨hexcluded, hincluded, hextension, hsize⟩
    exact ⟨⟨⟨hexcluded, hincluded⟩, hextension⟩, hsize⟩

lemma accepts_everything {limit : Nat} :
    (everything limit).accepts file = true ↔ file.size ≤ limit :=
  decide_eq_true_iff

end FileChoice

/-! ## Scans -/

lemma scan_of_isDirectory (hdir : t.isDirectory root = true) (c : FileChoice) :
    scan t root c = .ok ((codebase t root).filter c.accepts) := if_pos hdir

lemma mem_filter_accepts_iff (h : FileChoice.ofOptions o = .ok c) :
    file ∈ (codebase t root).filter c.accepts ↔ file ∈ codebase t root ∧ o.Chooses file := by
  rw [List.mem_filter, FileChoice.accepts_iff_chooses h]

/-- Options that choose the same files give the same scan. -/
lemma scan_congr (h : FileChoice.ofOptions o = .ok c) (h' : FileChoice.ofOptions o' = .ok c')
    (hchooses : ∀ file, o'.Chooses file ↔ o.Chooses file) : scan t root c' = scan t root c := by
  have haccepts : c'.accepts = c.accepts := by
    funext file
    rw [Bool.eq_iff_iff, FileChoice.accepts_iff_chooses h, FileChoice.accepts_iff_chooses h',
      hchooses]
  rw [scan, scan, haccepts]

lemma scan_of_reorders {root' : Node} (ht : t.WellFormed) (hdir : t.isDirectory root = true)
    (h : t.root.Reorders root') (c : FileChoice) :
    scan { t with root := root' } root c = scan t root c := by
  obtain ⟨hrelists, hwell⟩ := FileTree.relists_of_reorders ht h
  rw [scan_of_isDirectory hdir, scan_of_isDirectory (hrelists.grows.isDirectory hdir),
    codebase_of_relists hrelists ht hwell hdir]

/-- **A scan finds the files that the options choose**, of those that are found without patterns and
extensions and for any size, in the strict order of their paths.  Neither the order in which
directories list their entries nor that of the patterns matters, and two lists of patterns that
leave out files leave out what either of them does. -/
theorem scan_of_options (ht : t.WellFormed) (hdir : t.isDirectory root = true)
    (hread : FileChoice.ofOptions o = .ok c) :
    ∃ all files,
      (∀ limit, (∀ file ∈ all, file.size ≤ limit) → scan t root (.everything limit) = .ok all) ∧
      scan t root c = .ok files ∧
      (∀ file, file ∈ files ↔ file ∈ all ∧ o.Chooses file) ∧
      (files.Pairwise fun a b => a.path < b.path) ∧
      (∀ root', t.root.Reorders root' → scan { t with root := root' } root c = .ok files) ∧
      (∀ o', o.Alike o' → ∃ c', FileChoice.ofOptions o' = .ok c' ∧ scan t root c' = .ok files) ∧
      ∀ e₁ e₂, (∀ text, text ∈ o.exclude ↔ text ∈ e₁ ∨ text ∈ e₂) →
        ∃ c₁ c₂ files₁ files₂,
          FileChoice.ofOptions { o with exclude := e₁ } = .ok c₁ ∧
          FileChoice.ofOptions { o with exclude := e₂ } = .ok c₂ ∧
          scan t root c₁ = .ok files₁ ∧ scan t root c₂ = .ok files₂ ∧
          ∀ file, file ∈ files ↔ file ∈ files₁ ∧ file ∈ files₂ := by
  have hscan := scan_of_isDirectory hdir
  refine ⟨codebase t root, (codebase t root).filter c.accepts, ?_, hscan c,
    fun file => mem_filter_accepts_iff hread, (codebase_pairwise_lt ht hdir).filter _, ?_, ?_, ?_⟩
  · intro limit hlimit
    have hall : (codebase t root).filter (FileChoice.everything limit).accepts = codebase t root :=
      List.filter_eq_self.mpr fun file hfile =>
        FileChoice.accepts_everything.mpr (hlimit file hfile)
    rw [hscan, hall]
  · exact fun root' h => (scan_of_reorders ht hdir h c).trans (hscan c)
  · intro o' halike
    obtain ⟨c', hread'⟩ := FileChoice.exists_ofOptions_of_subset hread
      (fun text => (halike.included text).mp) fun text => (halike.excluded text).mp
    exact ⟨c', hread', (scan_congr hread hread' fun file => halike.chooses_iff).trans (hscan c)⟩
  · intro e₁ e₂ hexclude
    obtain ⟨c₁, hread₁⟩ : ∃ c₁, FileChoice.ofOptions { o with exclude := e₁ } = .ok c₁ :=
      FileChoice.exists_ofOptions_of_subset hread (List.Subset.refl _)
        fun text ht => (hexclude text).mpr (.inl ht)
    obtain ⟨c₂, hread₂⟩ : ∃ c₂, FileChoice.ofOptions { o with exclude := e₂ } = .ok c₂ :=
      FileChoice.exists_ofOptions_of_subset hread (List.Subset.refl _)
        fun text ht => (hexclude text).mpr (.inr ht)
    refine ⟨c₁, c₂, _, _, hread₁, hread₂, hscan c₁, hscan c₂, fun file => ?_⟩
    rw [mem_filter_accepts_iff hread, mem_filter_accepts_iff hread₁, mem_filter_accepts_iff hread₂,
      ScanOptions.chooses_iff_of_exclude hexclude]
    tauto

/-- The options to leave out files with a name that starts with a capital B. -/
def withoutCapitalB : ScanOptions := ⟨["*"], ["B*"], [], 0⟩

/-- Of two files one is chosen, in whichever order they are listed. -/
theorem scan_of_options_in_mixed_case :
    ∃ c files, FileChoice.ofOptions withoutCapitalB = .ok c ∧
      scan (.project mixedCase) "." c = .ok files ∧
      ⟨"A.java", 0⟩ ∈ files ∧ ⟨"B.JAVA", 0⟩ ∉ files ∧
      scan (.project mixedCase.reverse) "." c = .ok files := by
  have hentries : ∀ e ∈ mixedCase, Path.IsName e.1 ∧ e.2.HasNames := by
    intro e he
    simp only [mixedCase, List.mem_cons, List.not_mem_nil, or_false] at he
    rcases he with rfl | rfl
    · exact ⟨⟨by decide, by decide, by decide, by decide⟩, Node.hasNames_file _⟩
    · exact ⟨⟨by decide, by decide, by decide, by decide⟩, Node.hasNames_file _⟩
  have hwell := FileTree.wellFormed_project (Node.hasNames_directory (by decide) hentries)
  have hread : FileChoice.ofOptions withoutCapitalB
      = .ok ⟨[[.anyText]], [[.char 'B', .anyText]], [], 0⟩ := rfl
  have hnames : (FileTree.project mixedCase).root.entryNames
      = ["project", "A.java", "B.JAVA"] := rfl
  have hbare : (FileTree.project mixedCase).Bare := by
    rw [FileTree.Bare, hnames]
    decide
  have hfiles : ⟨["project", "A.java"], .empty⟩
      ∈ (FileTree.project mixedCase).filesUnder (admitsEntry (.project mixedCase)) "." := by
    have hadmits : admitsEntry (.project mixedCase) ["project", "A.java"] false = true := by
      rw [admitsEntry, hbare.isIgnored]
      decide
    exact (FileTree.mem_filesUnder_iff hwell).mpr ⟨["project"], ["A.java"],
      FileTree.canonical?_eq_some_iff.mpr ⟨_, FileTree.locate_project_here⟩, rfl, rfl, hadmits,
      trivial⟩
  have hdepth : depthOf (.project mixedCase) "." = 1 :=
    depthOf_of_locate FileTree.locate_project_here
  obtain ⟨all, files, hall, hscan, hmem, -, hreorders, -⟩ :=
    scan_of_options hwell FileTree.isDirectory_project_here hread
  refine ⟨_, files, hread, hscan, ?_, ?_, ?_⟩
  · have hA : Found.scanned 1 ⟨["project", "A.java"], .empty⟩ = ⟨"A.java", 0⟩ := by decide
    exact (mem_scan_iff hscan).mpr ⟨⟨_, hfiles, by rw [hdepth, hA]⟩, by decide⟩
  · intro hB
    exact ((hmem _).mp hB).2.excluded "B*" List.mem_cons_self ⟨_, rfl, by decide⟩
  · refine hreorders _ ?_
    exact .inside [] [] "project" (.directory (List.reverse_perm mixedCase).symm)

end CodeDigest
