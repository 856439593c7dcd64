import CodeDigest.Codebase
import CodeDigest.Proofs.FileTree.Finding

/-!
# Scanning a tree that has grown

A scan puts the files below a root in order and then chooses some of them.  It may as well choose
first (`scan_eq`), since leaving files out of a sorted list leaves it sorted
(`filter_sortedByPath`).  So two trees of which one has grown from the other give the same scan if
the ignore rules are the same and no file that may have changed is chosen in either
(`chosenFiles_of_grows`), and what is then read of the chosen files is the same as well
(`sourceFiles_of_grows`).
-/

namespace CodeDigest

variable {keeps : List String → Bool} {t t' : FileTree} {root : String} {choice : FileChoice}
  {names : List String} {es : List (String × Node)}

/-! ## Sorting and choosing -/

section Sorting

variable {α : Type} {le : α → α → Bool} {q : α → Bool}

/-- The first element of a list stands, once the list is sorted, between the elements before which
it may not stand and those before which it may. -/
lemma exists_mergeSort_cons (trans : ∀ a b c, le a b = true → le b c = true → le a c = true)
    (total : ∀ a b, (le a b || le b a) = true) (a : α) (l : List α) :
    ∃ front back, (a :: l).mergeSort le = front ++ a :: back ∧ l.mergeSort le = front ++ back ∧
      (∀ b ∈ front, le a b = false) ∧ ∀ b ∈ back, le a b = true := by
  obtain ⟨front, back, hcons, hrest, hfront⟩ := List.mergeSort_cons trans total a l
  refine ⟨front, back, hcons, hrest, fun b hb => by simpa using hfront b hb, fun b hb => ?_⟩
  have hsorted := List.pairwise_mergeSort trans total (a :: l)
  rw [hcons, List.pairwise_append] at hsorted
  exact (List.pairwise_cons.mp hsorted.2.1).1 b hb

/-- There is one place to divide a list into elements without and elements with a property. -/
lemma eq_of_append_eq_append {front front' back back' : List α}
    (h : front ++ back = front' ++ back')
    (hfront : ∀ b ∈ front, q b = false) (hback : ∀ b ∈ back, q b = true)
    (hfront' : ∀ b ∈ front', q b = false) (hback' : ∀ b ∈ back', q b = true) :
    front = front' ∧ back = back' := by
  have hfilter : ∀ {xs ys : List α}, (∀ b ∈ xs, q b = false) → (∀ b ∈ ys, q b = true) →
      (xs ++ ys).filter (fun b => !q b) = xs ∧ (xs ++ ys).filter q = ys := by
    intro xs ys hxs hys
    constructor
    · rw [List.filter_append, List.filter_eq_self.mpr (by simpa using hxs),
        List.filter_eq_nil_iff.mpr (by simpa using hys), List.append_nil]
    · rw [List.filter_append, List.filter_eq_nil_iff.mpr (by simpa using hxs),
        List.filter_eq_self.mpr hys, List.nil_append]
  obtain ⟨h₁, h₂⟩ := hfilter hfront hback
  obtain ⟨h₁', h₂'⟩ := hfilter hfront' hback'
  exact ⟨by rw [← h₁, h, h₁'], by rw [← h₂, h, h₂']⟩

/-- Elements may be left out of a list before or after it is sorted. -/
lemma filter_mergeSort (trans : ∀ a b c, le a b = true → le b c = true → le a c = true)
    (total : ∀ a b, (le a b || le b a) = true) (p : α → Bool) (l : List α) :
    (l.mergeSort le).filter p = (l.filter p).mergeSort le := by
  induction l with
  | nil => simp
  | cons a l ih =>
      obtain ⟨front, back, hcons, hrest, hfront, hback⟩ := exists_mergeSort_cons trans total a l
      rw [hrest, List.filter_append] at ih
      cases hp : p a with
      | false => rw [hcons, List.filter_append, List.filter_cons_of_neg (by simp [hp]), ih,
          List.filter_cons_of_neg (by simp [hp])]
      | true =>
          -- the place of `a` among the others is the same, whether they are filtered or not
          obtain ⟨front', back', hcons', hrest', hfront', hback'⟩ :=
            exists_mergeSort_cons trans total a (l.filter p)
          rw [hrest'] at ih
          obtain ⟨h₁, h₂⟩ := eq_of_append_eq_append ih
            (fun b hb => hfront b (List.mem_of_mem_filter hb))
            (fun b hb => hback b (List.mem_of_mem_filter hb)) hfront' hback'
          rw [hcons, List.filter_append, List.filter_cons_of_pos hp, List.filter_cons_of_pos hp,
            hcons', h₁, h₂]

end Sorting

/-- The order of paths is transitive. -/
lemma byPath_trans (a b c : ScannedFile) (hab : (!decide (b.path < a.path)) = true)
    (hbc : (!decide (c.path < b.path)) = true) : (!decide (c.path < a.path)) = true := by
  simp only [Bool.not_eq_true', decide_eq_false_iff_not, String.not_lt] at hab hbc ⊢
  exact String.le_trans hab hbc

/-- Of two paths one may stand in front of the other. -/
lemma byPath_total (a b : ScannedFile) :
    (!decide (b.path < a.path) || !decide (a.path < b.path)) = true := by
  simp only [Bool.or_eq_true, Bool.not_eq_true', decide_eq_false_iff_not, String.not_lt]
  exact String.le_total a.path b.path

lemma filter_sortedByPath (p : ScannedFile → Bool) (files : List ScannedFile) :
    (sortedByPath files).filter p = sortedByPath (files.filter p) :=
  filter_mergeSort byPath_trans byPath_total p files

lemma sortedByPath_pairwise (files : List ScannedFile) :
    (sortedByPath files).Pairwise fun a b => ¬b.path < a.path := by
  have hsorted := List.pairwise_mergeSort byPath_trans byPath_total files
  refine hsorted.imp fun h => ?_
  simpa only [Bool.not_eq_true', decide_eq_false_iff_not] using h

/-! ## The files that are chosen -/

/-- The number of names that lead to a root. -/
def depthOf (t : FileTree) (root : String) : Nat := ((t.canonical? root).getD []).length

/-- A file as a scan sees it, below a root that so many names lead to. -/
def Found.scanned (depth : Nat) (f : Found) : ScannedFile :=
  ⟨joined "/" (f.names.drop depth), f.content.size⟩

/-- The files below a root that a scan chooses, in the order of the walk. -/
def chosenFiles (t : FileTree) (root : String) (choice : FileChoice) : List Found :=
  (t.filesUnder (admitsEntry t) root).filter fun f => choice.accepts (f.scanned (depthOf t root))

/-- Their paths below the root, in order. -/
def chosenPaths (t : FileTree) (root : String) (choice : FileChoice) : List String :=
  (sortedByPath ((chosenFiles t root choice).map (Found.scanned (depthOf t root)))).map (·.path)

/-- **A scan** gives the chosen files in the order of their paths. -/
theorem scan_eq (h : t.isDirectory root = true) (choice : FileChoice) : scan t root choice
    = .ok (sortedByPath ((chosenFiles t root choice).map (Found.scanned (depthOf t root)))) := by
  rw [scan, if_pos h, codebase, filter_sortedByPath, List.filter_map]
  rfl

lemma depthOf_of_locate (h : t.locate true root = .ok (.at names (.directory es))) :
    depthOf t root = names.length := by
  rw [depthOf, FileTree.canonical?, h]
  rfl

lemma filesUnder_of_locate (h : t.locate true root = .ok (.at names (.directory es)))
    (admits : List String → Bool → Bool) :
    t.filesUnder admits root = Node.filesOfEntries admits names es := by
  rw [FileTree.filesUnder, h]
  rfl

lemma chosenFiles_of_locate (h : t.locate true root = .ok (.at names (.directory es)))
    (choice : FileChoice) : chosenFiles t root choice
      = (Node.filesOfEntries (admitsEntry t) names es).filter fun f =>
          choice.accepts (f.scanned names.length) := by
  rw [chosenFiles, filesUnder_of_locate h, depthOf_of_locate h]

lemma extension?_joined {below : List String} (hne : below ≠ [])
    (hnames : ∀ n ∈ below, Path.IsName n) :
    Path.extension? (joined "/" below) = below.getLast?.bind Path.extensionOf? := by
  have hparts : Path.parts (joined "/" below) = below := by
    have hpieces := pieces_joined hne fun n hn => (hnames n hn).no_slash
    have hslash : String.singleton '/' = "/" := by decide
    rw [hslash] at hpieces
    rw [Path.parts, hpieces, List.filter_eq_self]
    exact fun n hn => by simp [(hnames n hn).nonempty, (hnames n hn).not_here]
  have hlast : Path.fileName? (joined "/" below) = below.getLast? := by
    rw [Path.fileName?, hparts]
    split
    next h => exact absurd rfl (hnames _ (List.mem_of_getLast? h)).not_up
    · rfl
  rw [Path.extension?, hlast]

/-- A file that is found has a name, and its path below the root has the extension of the name. -/
lemma extension?_scanned {admits : List String → Bool → Bool} (ht : t.WellFormed)
    (hdir : t.isDirectory root = true) {f : Found} (hf : f ∈ t.filesUnder admits root) :
    ∃ n, f.names.getLast? = some n ∧
      Path.extension? (f.scanned (depthOf t root)).path = Path.extension? n := by
  obtain ⟨names, es, hroot⟩ := FileTree.isDirectory_iff.mp hdir
  have hget := (FileTree.locate_eq_ok_iff.mp hroot).2.get?
  have hfound : f ∈ (Node.directory es).filesFrom admits names := by
    rwa [filesUnder_of_locate hroot] at hf
  obtain ⟨hfile, below, hbelow, hnames⟩ := Node.get?_of_mem_filesFrom ht.names hget hfound
  have hne : below ≠ [] := by
    rintro rfl
    rw [hbelow, List.append_nil, hget] at hfile
    cases hfile
  obtain ⟨n, hn⟩ := Option.isSome_iff_exists.mp (List.getLast?_isSome.mpr hne)
  refine ⟨n, by rw [hbelow, List.getLast?_append, hn]; rfl, ?_⟩
  have hname : ∀ m ∈ [n], Path.IsName m := by simpa using hnames n (List.mem_of_getLast? hn)
  have hextension := extension?_joined (List.cons_ne_nil n []) hname
  rw [joined, String.intercalate_singleton, List.getLast?_singleton] at hextension
  rw [Found.scanned, depthOf_of_locate hroot, hbelow, List.drop_left, extension?_joined hne hnames,
    hn, hextension]

/-- **A file that is chosen by its extension** has one of the extensions that are wanted. -/
theorem exists_extension_of_mem_chosenFiles (ht : t.WellFormed) (hdir : t.isDirectory root = true)
    (hwanted : choice.extensions ≠ []) {f : Found} (hf : f ∈ chosenFiles t root choice) :
    ∃ n e, f.names.getLast? = some n ∧ Path.extension? n = some e ∧ e ∈ choice.extensions := by
  obtain ⟨hfound, haccepts⟩ := List.mem_filter.mp hf
  obtain ⟨n, hn, hextension⟩ := extension?_scanned ht hdir hfound
  simp only [FileChoice.accepts, Bool.and_eq_true, Bool.or_eq_true, List.isEmpty_iff, hwanted,
    false_or, ScannedFile.extension?, hextension] at haccepts
  obtain ⟨e, he, hmem⟩ := (Option.any_eq_true ..).mp haccepts.1.2
  exact ⟨n, e, hn, he, by simpa using hmem⟩

/-- Ignore files that read the same leave out the same. -/
lemma admitsEntry_congr
    (h : ∀ d, ∀ n ∈ Ignore.fileNames, Ignore.rulesAt t' d n = Ignore.rulesAt t d n) :
    admitsEntry t' = admitsEntry t := by
  funext names isDirectory
  have hverdict : Ignore.verdict? t' names isDirectory = Ignore.verdict? t names isDirectory := by
    simp only [Ignore.fileNames, List.forall_mem_cons] at h
    have hignore := fun d => (h d).1
    have hgit := fun d => (h d).2.1
    have hexclude := fun d => (h d).2.2.1
    simp only [Ignore.verdict?, Ignore.fileNames, List.findSome?_cons, List.findSome?_nil, hignore,
      hgit, hexclude]
  rw [admitsEntry, admitsEntry, Ignore.isIgnored, Ignore.isIgnored, hverdict]

/-- A choice of elements of which each has some property makes no use of the others. -/
lemma filter_eq_filter_filter {α : Type} {p q : α → Bool} {l : List α}
    (h : ∀ a ∈ l.filter p, q a = true) : l.filter p = (l.filter q).filter p := by
  rw [List.filter_filter]
  refine List.filter_congr fun a ha => ?_
  cases hp : p a with
  | true => rw [h a (List.mem_filter.mpr ⟨ha, hp⟩)]; rfl
  | false => rfl

/-! ## Growth -/

section Growth

variable (hgrows : t.Grows keeps t')
  (hroot : t.locate true root = .ok (.at names (.directory es)))
  (hrules : ∀ d, ∀ n ∈ Ignore.fileNames, Ignore.rulesAt t' d n = Ignore.rulesAt t d n)
  (hold : ∀ f ∈ chosenFiles t root choice, keeps f.names = true)
  (hnew : ∀ f ∈ chosenFiles t' root choice, keeps f.names = true)

include hgrows hroot hrules hold hnew

/-- **A tree that has grown gives the same scan** if its ignore rules are the same and no file that
may have changed is chosen, before or after. -/
theorem chosenFiles_of_grows : chosenFiles t' root choice = chosenFiles t root choice := by
  obtain ⟨es', hes', hfiles⟩ := hgrows.root.directory (FileTree.locate_eq_ok_iff.mp hroot).2.get?
  have hroot' : t'.locate true root = .ok (.at names (.directory es')) :=
    hgrows.locate hroot hes' (by simp)
  rw [chosenFiles_of_locate hroot] at hold ⊢
  rw [chosenFiles_of_locate hroot'] at hnew ⊢
  rw [filter_eq_filter_filter hold, filter_eq_filter_filter hnew, admitsEntry_congr hrules,
    hfiles (admitsEntry t)]

/-- The paths are the same, too. -/
lemma chosenPaths_of_grows : chosenPaths t' root choice = chosenPaths t root choice := by
  obtain ⟨es', hroot'⟩ := hgrows.locate_directory hroot
  rw [chosenPaths, chosenPaths, chosenFiles_of_grows hgrows hroot hrules hold hnew,
    depthOf_of_locate hroot, depthOf_of_locate hroot']

/-- **A tree that has grown gives the same records.** -/
theorem sourceFiles_of_grows (ht : t.WellFormed) (rules : BusinessRules) (language : Language) :
    SourceFile.ofTree rules language t' root (chosenPaths t' root choice)
      = SourceFile.ofTree rules language t root (chosenPaths t root choice) := by
  rw [chosenPaths_of_grows hgrows hroot hrules hold hnew]
  refine List.filterMap_congr fun path hpath => ?_
  simp only [chosenPaths, sortedByPath, List.mem_map, List.mem_mergeSort] at hpath
  obtain ⟨_, ⟨f, hf, rfl⟩, rfl⟩ := hpath
  have hkeeps := hold f hf
  rw [chosenFiles_of_locate hroot, List.mem_filter] at hf
  have hread := FileTree.readText?_of_grows ht hgrows hroot hf.1 hkeeps
  simp only [depthOf_of_locate hroot, Found.scanned, hread]

end Growth

end CodeDigest
