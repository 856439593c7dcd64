import Mathlib.Data.List.Nodup
import CodeDigest.Proofs.FileTree.Finding
import CodeDigest.Proofs.FileTree.Frame

/-!
# What a walk lists

A walk is a recursion on the tree, and lists files in the order in which directories list their
entries.  This file says what it lists without either.

* `Node.Opens` says that a walk goes all the way down some names.
* `Node.mem_filesFrom_iff`: a file is listed if and only if it is where its names say and the walk
  goes down these names.  It is listed once (`Node.nodup_names_filesFrom`).
* `FileTree.Adds` relates a tree to one with more entries.  What paths lead to stays
  (`FileTree.Adds.locate`).
* `FileTree.Relists` relates two trees with the same entry at all names, so that only the order in
  directories may differ.  The same paths lead to the same places in both, and walks list the same
  files (`FileTree.Relists.mem_filesUnder_iff`).
* `Node.Reorders` puts the entries of directories in another order, at any depth, and this is what
  the relation is about (`FileTree.relists_of_reorders`).
-/

namespace CodeDigest

namespace Node

variable {admits : List String → Bool → Bool} {names below : List String} {n : String}
  {node x : Node} {es es' : List (String × Node)} {f : Found}

/-! ## Names on the way -/

/-- A walk that has come by some names goes all the way down some more, to what is no directory. -/
def Opens (admits : List String → Bool → Bool) (names : List String) : List String → Prop
  | [] => True
  | n :: below =>
    admits (names ++ [n]) (!below.isEmpty) = true ∧ Opens admits (names ++ [n]) below

lemma HasNames.of_get? (h : node.HasNames) (hx : node.get? names = some x) : x.HasNames :=
  fun above inner hinner => h (names ++ above) inner (by rw [get?_append, hx]; exact hinner)

lemma HasNames.of_lookup (h : (directory es).HasNames) (hx : es.lookup n = some x) :
    x.HasNames := by
  have hget : (directory es).get? [n] = some x := by simp [hx]
  exact h.of_get? hget

lemma HasNames.nodup (h : (directory es).HasNames) : (es.map Prod.fst).Nodup :=
  (h [] es (get?_nil _)).1

lemma HasNames.mem_iff (h : (directory es).HasNames) : (n, x) ∈ es ↔ es.lookup n = some x := by
  constructor
  · exact fun hmem => lookup_of_mem h.nodup hmem
  · intro hlookup
    obtain ⟨before, after, rfl, -⟩ := List.lookup_eq_some_iff.mp hlookup
    simp

/-- What is a directory has something below it if a file is found there. -/
lemma isDirectory_eq_of_get? {content : ByteArray} (h : x.get? below = some (.file content)) :
    x.isDirectory = !below.isEmpty := by
  rcases below with _ | ⟨n, below⟩
  · obtain rfl := Option.some.inj ((get?_nil x).symm.trans h)
    rfl
  · obtain ⟨es, rfl⟩ := exists_directory_of_get? (List.cons_ne_nil n below) h
    rfl

lemma eq_file_of_withoutEntries {content : ByteArray} (h : x.withoutEntries = .file content) :
    x = .file content := by
  cases x with
  | file => exact h
  | directory | link => cases h

/-! ## Files that are listed -/

lemma filesOfEntries_eq_flatMap (es : List (String × Node)) : filesOfEntries admits names es
    = es.flatMap fun e => entryFiles admits names e.1 e.2 := by
  induction es with
  | nil => rfl
  | cons e es ih => rw [List.flatMap_cons, filesOfEntries_cons, ih]

lemma mem_entryFiles_iff : f ∈ entryFiles admits names n x ↔
    admits (names ++ [n]) x.isDirectory = true ∧ f ∈ x.filesFrom admits (names ++ [n]) := by
  unfold entryFiles
  split
  next h => simp [h]
  next h => simp [h]

/-- What is listed for an entry starts with its name. -/
lemma exists_names_of_mem_entryFiles (h : f ∈ entryFiles admits names n x) :
    ∃ below, f.names = names ++ n :: below := by
  obtain ⟨below, hbelow⟩ := names_of_mem_filesFrom (mem_entryFiles_iff.mp h).2
  exact ⟨below, by simpa using hbelow⟩

/-- **A file is listed** if and only if it is where its names say and the walk goes down these
names. -/
theorem mem_filesFrom_iff {content : ByteArray} (hnode : node.HasNames) :
    ⟨names ++ below, content⟩ ∈ node.filesFrom admits names ↔
      node.get? below = some (.file content) ∧ Opens admits names below := by
  induction below generalizing names node with
  | nil =>
      rw [List.append_nil, get?_nil]
      cases node with
      | file content' => simp [filesFrom, Opens, eq_comm]
      | directory es =>
          refine iff_of_false (fun hmem => ?_) (by simp)
          rw [filesFrom, filesOfEntries_eq_flatMap] at hmem
          obtain ⟨e, -, he⟩ := List.mem_flatMap.mp hmem
          obtain ⟨below, hbelow⟩ := exists_names_of_mem_entryFiles he
          simp at hbelow
      | link target => simp [filesFrom]
  | cons n below ih =>
      cases node with
      | file content' => simp [filesFrom, get?]
      | link target => simp [filesFrom, get?]
      | directory es =>
          have hentry : ⟨names ++ n :: below, content⟩ ∈ filesOfEntries admits names es ↔
              ∃ x, es.lookup n = some x ∧
                ⟨names ++ n :: below, content⟩ ∈ entryFiles admits names n x := by
            rw [filesOfEntries_eq_flatMap, List.mem_flatMap]
            constructor
            · rintro ⟨⟨m, x⟩, hmem, hx⟩
              obtain ⟨rest, hrest⟩ := exists_names_of_mem_entryFiles hx
              obtain ⟨rfl, -⟩ := List.cons.inj (List.append_cancel_left hrest)
              exact ⟨x, hnode.mem_iff.mp hmem, hx⟩
            · rintro ⟨x, hlookup, hx⟩
              exact ⟨(n, x), hnode.mem_iff.mpr hlookup, hx⟩
          have hbelow : names ++ n :: below = names ++ [n] ++ below := by simp
          rw [filesFrom, hentry, get?_cons_directory, Option.bind_eq_some_iff, ← exists_and_right]
          refine exists_congr fun x => ?_
          rw [and_assoc]
          refine and_congr_right fun hlookup => ?_
          rw [mem_entryFiles_iff, hbelow, ih (hnode.of_lookup hlookup), Opens, and_left_comm]
          exact and_congr_right fun hfile => by rw [isDirectory_eq_of_get? hfile]

/-- Every file that is listed has a place below the names of the node. -/
lemma exists_of_mem_filesFrom (hnode : node.HasNames) (h : f ∈ node.filesFrom admits names) :
    ∃ below, f.names = names ++ below ∧ node.get? below = some (.file f.content) ∧
      Opens admits names below := by
  obtain ⟨below, hbelow⟩ := names_of_mem_filesFrom h
  obtain ⟨_, content⟩ := f
  obtain rfl := hbelow
  exact ⟨below, rfl, (mem_filesFrom_iff hnode).mp h⟩

mutual

/-- **A file is listed once.** -/
theorem nodup_names_filesFrom {names : List String} {node : Node} (hnode : node.HasNames) :
    ((node.filesFrom admits names).map Found.names).Nodup := by
  cases node with
  | file content => exact List.nodup_singleton names
  | directory es =>
      refine nodup_names_filesOfEntries hnode.nodup fun e he => ?_
      exact hnode.of_lookup (hnode.mem_iff.mp he)
  | link target => exact List.nodup_nil

theorem nodup_names_filesOfEntries {names : List String} {es : List (String × Node)}
    (hes : (es.map Prod.fst).Nodup) (hnodes : ∀ e ∈ es, e.2.HasNames) :
    ((filesOfEntries admits names es).map Found.names).Nodup := by
  match es with
  | [] => exact List.nodup_nil
  | (n, x) :: rest =>
      obtain ⟨hx, hrest⟩ := List.forall_mem_cons.mp hnodes
      obtain ⟨hn, hnodup⟩ := List.nodup_cons.mp hes
      rw [filesOfEntries_cons, List.map_append]
      refine List.nodup_append.mpr ⟨?_, nodup_names_filesOfEntries hnodup hrest, ?_⟩
      · unfold entryFiles
        split
        · exact nodup_names_filesFrom hx
        · exact List.nodup_nil
      · -- what is listed for two entries differs in the name of the entry
        intro a ha b hb hab
        obtain ⟨f, hf, rfl⟩ := List.mem_map.mp ha
        obtain ⟨g, hg, rfl⟩ := List.mem_map.mp hb
        rw [filesOfEntries_eq_flatMap] at hg
        obtain ⟨e, he, hg⟩ := List.mem_flatMap.mp hg
        obtain ⟨below, hbelow⟩ := exists_names_of_mem_entryFiles hf
        obtain ⟨below', hbelow'⟩ := exists_names_of_mem_entryFiles hg
        rw [hbelow, hbelow'] at hab
        have hname : n = e.1 := (List.cons.inj (List.append_cancel_left hab)).1
        exact hn (List.mem_map.mpr ⟨e, he, hname.symm⟩)

end

end Node

namespace FileTree

variable {t t' : FileTree} {path root : String} {names base : List String} {node : Node} {f : Found}
  {admits : List String → Bool → Bool}

/-! ## Files below a root -/

lemma canonical?_eq_some_iff :
    t.canonical? path = some names ↔ ∃ node, t.locate true path = .ok (.at names node) := by
  unfold canonical?
  split
  next names' node hloc => simp [hloc, eq_comm]
  next hnot => exact iff_of_false nofun fun ⟨node, hloc⟩ => hnot names node hloc

lemma filesUnder_of_locate_at (h : t.locate true root = .ok (.at base node)) :
    t.filesUnder admits root = node.filesFrom admits base := by
  rw [filesUnder, h]

/-- **A file is listed below a root** if and only if it is in the tree, below what the root leads
to, and the walk goes down the names in between. -/
theorem mem_filesUnder_iff (ht : t.WellFormed) : f ∈ t.filesUnder admits root ↔
    ∃ base below, t.canonical? root = some base ∧ f.names = base ++ below ∧
      t.root.get? f.names = some (.file f.content) ∧ Node.Opens admits base below := by
  constructor
  · intro hf
    obtain ⟨base, node, hloc⟩ : ∃ base node, t.locate true root = .ok (.at base node) := by
      unfold filesUnder at hf
      split at hf
      next base node hloc => exact ⟨base, node, hloc⟩
      · cases hf
    have hget := (locate_eq_ok_iff.mp hloc).2.get?
    rw [filesUnder_of_locate_at hloc] at hf
    obtain ⟨below, hbelow, hfile, hopens⟩ := Node.exists_of_mem_filesFrom (ht.names.of_get? hget) hf
    refine ⟨base, below, canonical?_eq_some_iff.mpr ⟨node, hloc⟩, hbelow, ?_, hopens⟩
    rw [hbelow, Node.get?_append, hget]
    exact hfile
  · rintro ⟨base, below, hbase, hbelow, hfile, hopens⟩
    obtain ⟨node, hloc⟩ := canonical?_eq_some_iff.mp hbase
    have hget := (locate_eq_ok_iff.mp hloc).2.get?
    obtain ⟨_, content⟩ := f
    obtain rfl := hbelow
    rw [Node.get?_append, hget] at hfile
    rw [filesUnder_of_locate_at hloc]
    exact (Node.mem_filesFrom_iff (ht.names.of_get? hget)).mpr ⟨hfile, hopens⟩

/-- A file is listed once below a root. -/
lemma nodup_names_filesUnder (ht : t.WellFormed) (admits : List String → Bool → Bool)
    (root : String) : ((t.filesUnder admits root).map Found.names).Nodup := by
  unfold filesUnder
  split
  next base node hloc =>
    exact Node.nodup_names_filesFrom (ht.names.of_get? (locate_eq_ok_iff.mp hloc).2.get?)
  · exact List.nodup_nil

/-! ## More entries -/

/-- The new tree has the entries of the old one, and maybe others, of which the names are among
those that `more` allows.  Directories may list their entries in another order. -/
structure Adds (more : List String → Prop) (t t' : FileTree) : Prop where
  here : t'.here = t.here
  entry : ∀ names, t'.entry names = t.entry names ∨ t.entry names = none ∧ more names

namespace Adds

variable {more : List String → Prop}

/-- What is at some names is the same apart from what is below it. -/
lemma get? (h : t.Adds more t') (hget : t.root.get? names = some node) :
    ∃ node', t'.root.get? names = some node' ∧ node'.withoutEntries = node.withoutEntries := by
  rcases h.entry names with hentry | ⟨hnone, -⟩
  · rw [FileTree.entry, FileTree.entry, hget, Option.map_some, Option.map_eq_some_iff] at hentry
    exact hentry
  · rw [entry_eq_none.mp hnone] at hget
    cases hget

lemma get?_file (h : t.Adds more t') {content : ByteArray}
    (hget : t.root.get? names = some (.file content)) :
    t'.root.get? names = some (.file content) := by
  obtain ⟨node', hnode', heq⟩ := h.get? hget
  rw [hnode', Node.eq_file_of_withoutEntries heq]

lemma get?_link (h : t.Adds more t') {target : String}
    (hget : t.root.get? names = some (.link target)) :
    t'.root.get? names = some (.link target) := by
  obtain ⟨node', hnode', heq⟩ := h.get? hget
  cases node' with
  | link => exact hnode'.trans (congrArg some heq)
  | directory | file => cases heq

/-- A file is an old one or one of those that may be new. -/
lemma file_cases (h : t.Adds more t') {content : ByteArray}
    (hget : t'.root.get? names = some (.file content)) :
    t.root.get? names = some (.file content) ∨ more names := by
  rcases h.entry names with hentry | ⟨-, hmore⟩
  · left
    rw [FileTree.entry, hget, FileTree.entry, Option.map_some, eq_comm,
      Option.map_eq_some_iff] at hentry
    obtain ⟨node, hnode, heq⟩ := hentry
    rw [hnode, Node.eq_file_of_withoutEntries heq]
  · exact .inr hmore

/-- What matters for where paths lead stays. -/
lemma grows (h : t.Adds more t') : t.Grows (fun _ => false) t' := by
  refine ⟨h.here, ?_, ?_, ?_⟩
  · intro names es hget
    obtain ⟨node', hnode', heq⟩ := h.get? hget
    obtain ⟨es', rfl⟩ := Node.exists_of_withoutEntries heq
    exact ⟨es', hnode', fun _ => by simp⟩
  · exact fun hget => ⟨_, h.get?_file hget, nofun⟩
  · exact fun hget => h.get?_link hget

/-- **A path leads to the same place.** -/
lemma locate (h : t.Adds more t') (hloc : t.locate true path = .ok (.at names node)) :
    ∃ node', t'.locate true path = .ok (.at names node') ∧
      node'.withoutEntries = node.withoutEntries := by
  obtain ⟨node', hnode', heq⟩ := h.get? (locate_eq_ok_iff.mp hloc).2.get?
  exact ⟨node', h.grows.locate hloc hnode' (by simp), heq⟩

lemma canonical? (h : t.Adds more t') (hnames : t.canonical? path = some names) :
    t'.canonical? path = some names := by
  obtain ⟨node, hloc⟩ := canonical?_eq_some_iff.mp hnames
  obtain ⟨node', hloc', -⟩ := h.locate hloc
  exact canonical?_eq_some_iff.mpr ⟨node', hloc'⟩

end Adds

/-- One entry is put where nothing was. -/
lemma adds_put {more : List String → Prop} {d : List String} {n : String} {new : Node}
    {es : List (String × Node)} (hd : t.root.get? d = some (.directory es))
    (hn : es.lookup n = none) (hnew : new.withoutEntries = new) (hmore : more (d ++ [n])) :
    t.Adds more (t.put (d ++ [n]) new) := by
  refine ⟨rfl, fun names => ?_⟩
  rw [entry_put hd n new hnew (by simp [hn])]
  split
  next heq =>
    right
    rw [heq, entry_eq_none, Node.get?_concat hd, hn]
    exact ⟨rfl, hmore⟩
  · exact .inl rfl

/-! ## The same tree, listed otherwise -/

/-- The same entry stands at all names.  Directories may list their entries in another order. -/
structure Relists (t t' : FileTree) : Prop where
  here : t'.here = t.here
  entry : ∀ names, t'.entry names = t.entry names

lemma Relists.symm (h : t.Relists t') : t'.Relists t :=
  ⟨h.here.symm, fun names => (h.entry names).symm⟩

lemma Relists.adds (h : t.Relists t') (more : List String → Prop) : t.Adds more t' :=
  ⟨h.here, fun names => .inl (h.entry names)⟩

lemma Relists.grows (h : t.Relists t') : t.Grows (fun _ => false) t' :=
  (h.adds fun _ => False).grows

lemma Relists.canonical? (h : t.Relists t') (path : String) :
    t'.canonical? path = t.canonical? path :=
  Option.ext fun _ => ⟨(h.symm.adds fun _ => False).canonical?, (h.adds fun _ => False).canonical?⟩

lemma node?_eq_some_iff :
    t.node? path = some node ↔ ∃ names, t.locate true path = .ok (.at names node) := by
  unfold node?
  split
  next names node' hloc => simp [hloc, eq_comm]
  next hnot => exact iff_of_false nofun fun ⟨names, hloc⟩ => hnot names node hloc

/-- What a path leads to is the same apart from what is below it. -/
lemma Relists.node? (h : t.Relists t') (path : String) :
    (t'.node? path).map Node.withoutEntries = (t.node? path).map Node.withoutEntries := by
  have hsome : ∀ {t t' : FileTree}, t.Relists t' → ∀ x,
      (t.node? path).map Node.withoutEntries = some x →
      (t'.node? path).map Node.withoutEntries = some x := by
    intro t t' h x hx
    obtain ⟨node, hnode, rfl⟩ := Option.map_eq_some_iff.mp hx
    obtain ⟨names, hloc⟩ := node?_eq_some_iff.mp hnode
    obtain ⟨node', hloc', heq⟩ := (h.adds fun _ => False).locate hloc
    rw [node?_eq_some_iff.mpr ⟨names, hloc'⟩, Option.map_some, heq]
  exact Option.ext fun x => ⟨hsome h.symm x, hsome h x⟩

/-- **A walk lists the same files.** -/
theorem Relists.mem_filesUnder_iff (h : t.Relists t') (ht : t.WellFormed) (ht' : t'.WellFormed) :
    f ∈ t'.filesUnder admits root ↔ f ∈ t.filesUnder admits root := by
  have hfile : t'.root.get? f.names = some (.file f.content) ↔
      t.root.get? f.names = some (.file f.content) := 
    ⟨(h.symm.adds fun _ => False).get?_file, (h.adds fun _ => False).get?_file⟩
  rw [FileTree.mem_filesUnder_iff ht, FileTree.mem_filesUnder_iff ht', h.canonical?, hfile]

end FileTree

/-! ## Directories in another order -/

namespace Node

variable {names : List String} {n : String} {node node' x x' : Node} {es es' : List (String × Node)}

/-- A node and the same node with the entries of some directories in another order. -/
inductive Reorders : Node → Node → Prop where
  | refl (node : Node) : Reorders node node
  | directory {es es' : List (String × Node)} (perm : es.Perm es') :
      Reorders (.directory es) (.directory es')
  /-- In the directories below one entry. -/
  | inside (front back : List (String × Node)) (n : String) {x x' : Node} (entry : Reorders x x') :
      Reorders (.directory (front ++ (n, x) :: back)) (.directory (front ++ (n, x') :: back))
  | trans {a b c : Node} (first : Reorders a b) (second : Reorders b c) : Reorders a c

lemma hasNames_directory_iff : (directory es).HasNames ↔
    (es.map Prod.fst).Nodup ∧ ∀ e ∈ es, Path.IsName e.1 ∧ e.2.HasNames := by
  constructor
  · exact fun h => ⟨h.nodup, fun e he =>
      ⟨(h [] es (get?_nil _)).2 e he, h.of_lookup (h.mem_iff.mp he)⟩⟩
  · exact fun h => hasNames_directory h.1 h.2

/-- Names stay names, and the same entry stands at all of them. -/
lemma Reorders.spec (h : node.Reorders node') (hnode : node.HasNames) : node'.HasNames ∧
    ∀ names, (node'.get? names).map withoutEntries = (node.get? names).map withoutEntries := by
  induction h with
  | refl => exact ⟨hnode, fun _ => rfl⟩
  | @directory es es' perm =>
      have hnode' : (Node.directory es').HasNames := by
        rw [hasNames_directory_iff] at hnode ⊢
        exact ⟨(perm.map Prod.fst).nodup_iff.mp hnode.1,
          fun e he => hnode.2 e (perm.mem_iff.mpr he)⟩
      refine ⟨hnode', fun names => ?_⟩
      rcases names with _ | ⟨n, names⟩
      · simp [withoutEntries]
      · have hlookup : es'.lookup n = es.lookup n :=
          Option.ext fun x => by rw [← hnode.mem_iff, ← hnode'.mem_iff, perm.mem_iff]
        rw [get?_cons_directory, get?_cons_directory, hlookup]
  | @inside front back n x x' _ ih =>
      obtain ⟨hnodup, hes⟩ := hasNames_directory_iff.mp hnode
      obtain ⟨hn, hx⟩ := hes (n, x) (by simp)
      obtain ⟨hx', hsame⟩ := ih hx
      refine ⟨hasNames_directory_iff.mpr ⟨by simpa using hnodup, fun e he => ?_⟩, fun names => ?_⟩
      · rcases List.mem_append.mp he with hfront | hback
        · exact hes e (List.mem_append_left _ hfront)
        · rcases List.mem_cons.mp hback with rfl | hback
          · exact ⟨hn, hx'⟩
          · exact hes e (List.mem_append_right _ (List.mem_cons_of_mem _ hback))
      · rcases names with _ | ⟨m, names⟩
        · simp [withoutEntries]
        · rw [get?_cons_directory, get?_cons_directory, List.lookup_append, List.lookup_append,
            List.lookup_cons, List.lookup_cons]
          cases front.lookup m with
          | some y => rfl
          | none =>
              cases m == n with
              | true => exact hsame names
              | false => rfl
  | trans _ _ ih ih' =>
      obtain ⟨hmid, hfirst⟩ := ih hnode
      obtain ⟨hlast, hsecond⟩ := ih' hmid
      exact ⟨hlast, fun names => (hsecond names).trans (hfirst names)⟩

end Node

namespace FileTree

variable {t : FileTree} {root' : Node}

/-- A tree with the entries of some directories in another order is the same tree, listed
otherwise. -/
lemma relists_of_reorders (ht : t.WellFormed) (h : t.root.Reorders root') :
    t.Relists { t with root := root' } ∧ ({ t with root := root' } : FileTree).WellFormed := by
  obtain ⟨hnames, hentry⟩ := h.spec ht.names
  have hrelists : t.Relists { t with root := root' } := ⟨rfl, hentry⟩
  exact ⟨hrelists, hrelists.grows.hasHere ht.here, hnames⟩

end FileTree

end CodeDigest
