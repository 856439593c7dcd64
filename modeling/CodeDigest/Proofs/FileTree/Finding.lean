import CodeDigest.Proofs.FileTree.Writing

/-!
# Files that are found are read

A walk lists files by the names that lead to them, and a file is read by a path.  In a well-formed
tree, where a directory has each name once and names are names, the path of a listed file leads to
that file.  So what is read of it is the same once the tree has grown, unless the file itself is one
that may have changed (`FileTree.readText?_of_grows`).
-/

namespace CodeDigest

variable {admits : List String → Bool → Bool} {f : Found} {root : Node} {keeps : List String → Bool}

namespace Node

/-- Every directory below a root has each name once, and no name that a path cannot have. -/
def HasNames (root : Node) : Prop := ∀ above es, root.get? above = some (.directory es) →
  (es.map Prod.fst).Nodup ∧ ∀ e ∈ es, Path.IsName e.1

lemma hasNames_file (content : ByteArray) : (file content).HasNames := by
  rintro (_ | ⟨n, above⟩) es h <;> cases h

lemma hasNames_directory {es : List (String × Node)} (hnodup : (es.map Prod.fst).Nodup)
    (hes : ∀ e ∈ es, Path.IsName e.1 ∧ e.2.HasNames) : (directory es).HasNames := by
  intro above inner h
  rcases above with _ | ⟨n, above⟩
  · rw [get?_nil] at h
    obtain rfl := directory.inj (Option.some.inj h)
    exact ⟨hnodup, fun e he => (hes e he).1⟩
  · obtain ⟨x, hx, hinner⟩ := Option.bind_eq_some_iff.mp h
    obtain ⟨before, after, rfl, -⟩ := List.lookup_eq_some_iff.mp hx
    exact (hes (n, x) (by simp)).2 above inner hinner

lemma hasNames_singleton {n : String} {node : Node} (hn : Path.IsName n) (hnode : node.HasNames) :
    (directory [(n, node)]).HasNames :=
  hasNames_directory (by simp) fun e he => by
    obtain rfl := List.mem_singleton.mp he
    exact ⟨hn, hnode⟩

lemma lookup_of_mem {es : List (String × Node)} (hnodup : (es.map Prod.fst).Nodup)
    {e : String × Node} (he : e ∈ es) : es.lookup e.1 = some e.2 := by
  induction es with
  | nil => cases he
  | cons first es ih =>
      obtain ⟨n, x⟩ := first
      obtain ⟨hn, hes⟩ := List.nodup_cons.mp hnodup
      rcases List.mem_cons.mp he with rfl | he'
      · simp
      · have hne : (e.1 == n) = false := by
          rw [beq_eq_false_iff_ne]
          rintro rfl
          exact hn (List.mem_map.mpr ⟨e, he', rfl⟩)
        rw [List.lookup_cons, hne]
        exact ih hes he'

mutual

/-- **The names of a file that is found lead to it.** -/
theorem get?_of_mem_filesFrom {names : List String} {node : Node} (hroot : root.HasNames)
    (hget : root.get? names = some node) (hf : f ∈ node.filesFrom admits names) :
    root.get? f.names = some (.file f.content) ∧
      ∃ below, f.names = names ++ below ∧ ∀ n ∈ below, Path.IsName n := by
  cases node with
  | file content =>
      obtain rfl := List.mem_singleton.mp hf
      exact ⟨hget, [], by simp⟩
  | directory es =>
      obtain ⟨hnodup, hnames⟩ := hroot names es hget
      refine get?_of_mem_filesOfEntries hroot (fun e he => ⟨?_, hnames e he⟩) hf
      rw [get?_concat hget, lookup_of_mem hnodup he]
  | link target => cases hf

theorem get?_of_mem_filesOfEntries {names : List String} {es : List (String × Node)}
    (hroot : root.HasNames)
    (hes : ∀ e ∈ es, root.get? (names ++ [e.1]) = some e.2 ∧ Path.IsName e.1)
    (hf : f ∈ filesOfEntries admits names es) : root.get? f.names = some (.file f.content) ∧
      ∃ below, f.names = names ++ below ∧ ∀ n ∈ below, Path.IsName n := by
  match es with
  | [] => cases hf
  | (n, node) :: rest =>
      obtain ⟨⟨hget, hn⟩, hrest⟩ := List.forall_mem_cons.mp hes
      rw [filesOfEntries, List.mem_append] at hf
      rcases hf with hf | hf
      · split at hf
        · obtain ⟨hfile, below, hbelow, hnames⟩ := get?_of_mem_filesFrom hroot hget hf
          exact ⟨hfile, n :: below, by simp [hbelow], List.forall_mem_cons.mpr ⟨hn, hnames⟩⟩
        · cases hf
      · exact get?_of_mem_filesOfEntries hroot hrest hf

end

end Node

/-- A file tree as there are: the current directory is there, and the names in directories are names
and differ. -/
structure FileTree.WellFormed (t : FileTree) : Prop where
  here : t.HasHere
  names : t.root.HasNames

namespace FileTree

variable {t t' : FileTree} {path : String} {names below : List String} {es : List (String × Node)}

/-! ## Paths of files -/

lemma isAbsolute_append (hpath : path ≠ "") (s : String) :
    Path.isAbsolute (path ++ s) = Path.isAbsolute path := by
  obtain ⟨c, cs, hcs⟩ := List.exists_cons_of_ne_nil fun hnil : path.toList = [] =>
    hpath (by simpa using hnil)
  rw [Path.isAbsolute, Path.isAbsolute, String.toList_append, hcs]
  rfl

lemma isAbsolute_joined (hne : below ≠ []) (hnames : ∀ n ∈ below, Path.IsName n) :
    Path.isAbsolute (joined "/" below) = false := by
  obtain ⟨n, rest, rfl⟩ := List.exists_cons_of_ne_nil hne
  have hn := hnames n (by simp)
  have hfirst : Path.isAbsolute n = false := by
    rw [Path.isAbsolute, beq_eq_false_iff_ne]
    exact fun hslash => hn.no_slash (List.mem_of_head? hslash)
  rcases rest with _ | ⟨m, rest⟩
  · exact hfirst
  · rw [joined_cons_cons, String.append_assoc, isAbsolute_append hn.nonempty, hfirst]

/-- The pieces of a path below another one are those of the other one, but for a slash at its end,
and the names. -/
lemma pieces_join (hpath : path ≠ "") (hne : below ≠ []) (hnames : ∀ n ∈ below, Path.IsName n) :
    ∃ front n, pieces '/' path = front ++ List.replicate n "" ∧
      pieces '/' (Path.join path (joined "/" below)) = front ++ below ∧
      Path.isAbsolute (Path.join path (joined "/" below)) = Path.isAbsolute path := by
  have hslash : String.singleton '/' = "/" := by decide
  have hbelow : pieces '/' (joined "/" below) = below := by
    have hjoined := pieces_joined hne fun n hn => (hnames n hn).no_slash
    rwa [hslash] at hjoined
  have hcond : ¬(Path.isAbsolute (joined "/" below) || path.isEmpty) = true := by
    simp [isAbsolute_joined hne hnames, hpath]
  rw [Path.join, if_neg hcond]
  split
  next hlast =>
    have hlast' : path.toList.getLast? = some '/' := by simpa using hlast
    obtain ⟨front, hfront⟩ := List.getLast?_eq_some_iff.mp hlast'
    have hpathfront : path = String.ofList front ++ String.singleton '/' ++ "" := by
      apply String.toList_injective
      simp [hfront]
    refine ⟨pieces '/' (String.ofList front), 1, ?_, ?_, isAbsolute_append hpath _⟩
    · conv_lhs => rw [hpathfront, pieces_append]
      rfl
    · have hwhole : path ++ joined "/" below
          = String.ofList front ++ String.singleton '/' ++ joined "/" below := by
        rw [hpathfront, String.append_empty]
      rw [hwhole, pieces_append, hbelow]
  · refine ⟨pieces '/' path, 0, (List.append_nil _).symm, ?_, ?_⟩
    · rw [← hslash, pieces_append, hslash, hbelow]
    · rw [String.append_assoc, isAbsolute_append hpath]

/-- **A file that is found is read as before** in a tree that has grown, if it is one that is
kept. -/
theorem readText?_of_grows (ht : t.WellFormed) (hgrows : Grows keeps t t')
    (hroot : t.locate true path = .ok (.at names (.directory es)))
    (hf : f ∈ Node.filesOfEntries admits names es) (hkeeps : keeps f.names = true) :
    t'.readText? (Path.join path (joined "/" (f.names.drop names.length)))
      = t.readText? (Path.join path (joined "/" (f.names.drop names.length))) := by
  obtain ⟨husable, hleads⟩ := locate_eq_ok_iff.mp hroot
  obtain ⟨es', hroot'⟩ := hgrows.locate_directory hroot
  have hleads' := (locate_eq_ok_iff.mp hroot').2
  have hfound : f ∈ (Node.directory es).filesFrom admits names := hf
  obtain ⟨hfile, below, hbelow, hnames⟩ := Node.get?_of_mem_filesFrom ht.names hleads.get? hfound
  obtain ⟨content, hfile', hcontent⟩ := hgrows.root.file hfile
  obtain rfl := hcontent hkeeps
  rw [hbelow] at hfile hfile'
  have hne : below ≠ [] := by
    rintro rfl
    rw [List.append_nil, hleads.get?] at hfile
    cases hfile
  rw [hbelow, List.drop_left]
  -- in both trees the way to the directory is walked, and the same names from there
  obtain ⟨front, n, hpieces, hjoin, habsolute⟩ := pieces_join husable.nonempty hne hnames
  rw [hpieces] at hleads hleads'
  obtain ⟨left, hleft⟩ := walk_append hleads.without_blanks
  obtain ⟨left', hleft'⟩ := walk_append hleads'.without_blanks
  have hlocate : t'.locate true (Path.join path (joined "/" below))
      = t.locate true (Path.join path (joined "/" below)) := by
    have hstart : ∀ t : FileTree, t.startOf (Path.join path (joined "/" below)) = t.startOf path :=
      fun t => by rw [startOf, startOf, habsolute]
    have hwalk : walk t'.root true linkLimit (t'.startOf path) (front ++ below)
        = walk t.root true linkLimit (t.startOf path) (front ++ below) := by
      rw [hleft, hleft', walk_below hne hnames hfile, walk_below hne hnames hfile']
    rw [← hjoin, ← hstart, ← hstart t] at hwalk
    exact locate_congr hwalk
  rw [readText?, readText?, node?, node?, hlocate]

end FileTree

end CodeDigest
