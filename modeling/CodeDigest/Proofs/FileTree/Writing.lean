import Mathlib.Data.List.TakeWhile
import CodeDigest.Proofs.FileTree.Walking

/-!
# Writing a file again

What a file tree is like when a file has been written into it, and that it can be written again.

* `FileTree.makeParent_spec`: making the directory of a path only makes the tree grow, and in every
  tree that has grown from the new one there is nothing left to make.
* `FileTree.write_spec`: writing a file makes the tree grow but for that file, and the path leads to
  the file.
* `FileTree.write_again`: where a path leads to a file the file can be written.
-/

namespace CodeDigest.FileTree

variable {t t' : FileTree} {path p : String} {follow : Bool} {place : Place} {names : List String}
  {keeps : List String → Bool} {es : List (String × Node)} {content : ByteArray}

/-! ## Paths -/

/-- A text that can be used as a path. -/
structure Usable (path : String) : Prop where
  nonempty : path ≠ ""
  no_nul : Char.ofNat 0 ∉ path.toList
  short : path.utf8ByteSize < pathLimit

/-- Where a path starts. -/
def startOf (t : FileTree) (path : String) : List String :=
  if Path.isAbsolute path then [] else t.here

lemma locate_of_usable (h : Usable path) (t : FileTree) (follow : Bool) : t.locate follow path
    = walk t.root follow linkLimit (t.startOf path) (pieces '/' path) := by
  rw [locate, if_neg (by simpa using h.nonempty), if_neg (by simpa using h.no_nul),
    if_neg (Nat.not_le.mpr h.short)]
  rfl

/-- Only the walk depends on the tree. -/
lemma locate_congr (h : walk t'.root follow linkLimit (t'.startOf path) (pieces '/' path)
    = walk t.root follow linkLimit (t.startOf path) (pieces '/' path)) :
    t'.locate follow path = t.locate follow path := by
  simp only [startOf] at h
  simp only [locate, h]

/-- **A path leads to a place** if it can be used and its pieces lead there. -/
theorem locate_eq_ok_iff : t.locate follow path = .ok place ↔
    Usable path ∧ Leads t.root follow linkLimit (t.startOf path) (pieces '/' path) place := by
  constructor
  · intro h
    have husable : Usable path := by
      refine ⟨fun hempty => ?_, fun hnul => ?_, Nat.not_le.mp fun hlong => ?_⟩
      · simp [locate, hempty] at h
      · simp only [locate, List.contains_iff_mem.mpr hnul, if_true] at h
        split at h <;> cases h
      · simp only [locate, if_pos hlong] at h
        split at h
        · cases h
        · split at h <;> cases h
    rw [locate_of_usable husable] at h
    exact ⟨husable, walk_eq_ok_iff.mp h⟩
  · rintro ⟨husable, hleads⟩
    rw [locate_of_usable husable]
    exact walk_eq_ok_iff.mpr hleads

lemma isDirectory_iff :
    t.isDirectory path = true ↔
      ∃ names es, t.locate true path = .ok (.at names (.directory es)) := by
  unfold isDirectory node?
  constructor
  · intro h
    split at h
    next es hes =>
      split at hes
      next names node hloc =>
        obtain rfl := Option.some.inj hes
        exact ⟨names, es, hloc⟩
      · cases hes
    · cases h
  · rintro ⟨names, es, hloc⟩
    rw [hloc]

lemma Usable.of_prefix (h : Usable path) (hp : p.toList <+: path.toList) (hne : p ≠ "") :
    Usable p := by
  obtain ⟨rest, hrest⟩ := hp
  have hpath : path = p ++ String.ofList rest := by
    apply String.toList_injective
    rw [← hrest, String.toList_append, String.toList_ofList]
  refine ⟨hne, fun hnul => h.no_nul (hrest ▸ List.mem_append_left rest hnul), ?_⟩
  have hshort := h.short
  rw [hpath, String.utf8ByteSize_append] at hshort
  omega

/-- A path is its part without the slashes at the end, and these slashes. -/
lemma exists_trailing (path : String) : ∃ n, path.toList
    = (withoutTrailing path).toList ++ List.replicate n '/' ∧
      (withoutTrailing path = "" → path = "") := by
  have hsplit : path.toList.reverse.takeWhile (· == '/') ++ path.toList.reverse.dropWhile (· == '/')
      = path.toList.reverse := List.takeWhile_append_dropWhile
  obtain ⟨n, hslashes⟩ : ∃ n, path.toList.reverse.takeWhile (· == '/') = List.replicate n '/' :=
    ⟨_, List.eq_replicate_iff.mpr ⟨rfl, fun c hc => by simpa using List.mem_takeWhile_imp hc⟩⟩
  unfold withoutTrailing
  split
  · exact ⟨0, by simp, id⟩
  next hne =>
    refine ⟨n, ?_, fun hempty => ?_⟩
    · rw [String.toList_ofList, ← List.reverse_replicate, ← hslashes, ← List.reverse_append, hsplit,
        List.reverse_reverse]
    · exact absurd (by simpa using congrArg String.toList hempty) hne

lemma withoutTrailing_of_getLast? (h : path.toList.getLast? ≠ some '/') :
    withoutTrailing path = path := by
  obtain ⟨n, hn, -⟩ := exists_trailing path
  rcases n with _ | n
  · rw [List.replicate_zero, List.append_nil] at hn
    exact (String.toList_injective hn).symm
  · rw [hn, List.replicate_succ', ← List.append_assoc, List.getLast?_concat] at h
    exact absurd rfl h

/-- The pieces of a path are those of its part without the slashes at the end, and empty ones. -/
lemma exists_pieces_withoutTrailing (t : FileTree) (path : String) :
    ∃ n, pieces '/' path = pieces '/' (withoutTrailing path) ++ List.replicate n "" ∧
      t.startOf (withoutTrailing path) = t.startOf path ∧
      (withoutTrailing path).toList <+: path.toList := by
  obtain ⟨n, hn, hempty⟩ := exists_trailing path
  refine ⟨n, ?_, ?_, ⟨_, hn.symm⟩⟩
  · rw [pieces, hn, Text.split_append_replicate, List.map_append, List.map_replicate]
    rfl
  · unfold startOf Path.isAbsolute
    rcases hfront : (withoutTrailing path).toList with _ | ⟨c, cs⟩
    · have hnil : withoutTrailing path = "" := by simpa using hfront
      rw [hempty hnil]
      rfl
    · rw [hn, hfront]
      rfl

lemma usable_withoutTrailing (h : Usable path) : Usable (withoutTrailing path) := by
  obtain ⟨n, hn, hempty⟩ := exists_trailing path
  exact h.of_prefix ⟨_, hn.symm⟩ fun hnil => h.nonempty (hempty hnil)

/-! ## Growth -/

/-- A file tree has grown, and the current directory is the same. -/
structure Grows (keeps : List String → Bool) (t t' : FileTree) : Prop where
  here : t'.here = t.here
  root : Node.Grows keeps t.root t'.root

lemma Grows.refl (keeps : List String → Bool) (t : FileTree) : Grows keeps t t :=
  ⟨rfl, Node.Grows.refl keeps t.root⟩

lemma Grows.trans {mid : FileTree} (h : Grows keeps t mid) (h' : Grows keeps mid t') :
    Grows keeps t t' :=
  ⟨h'.here.trans h.here, h.root.trans h'.root⟩

/-- The current directory is there. -/
def HasHere (t : FileTree) : Prop := ∃ es, t.root.get? t.here = some (.directory es)

lemma Grows.hasHere (h : Grows keeps t t') (ht : t.HasHere) : t'.HasHere := by
  obtain ⟨es, hes⟩ := ht
  obtain ⟨es', hes', -⟩ := h.root.directory hes
  exact ⟨es', h.here ▸ hes'⟩

lemma HasHere.startOf (h : t.HasHere) (path : String) :
    ∃ es, t.root.get? (t.startOf path) = some (.directory es) := by
  obtain ⟨es, hes⟩ := h
  exact exists_directory_linkStart hes path

lemma exists_directory_root (h : t.HasHere) : ∃ es, t.root.get? [] = some (.directory es) := by
  obtain ⟨es, hes⟩ := h
  exact exists_directory_linkStart hes "/"

lemma Grows.startOf (h : Grows keeps t t') (path : String) : t'.startOf path = t.startOf path := by
  simp only [FileTree.startOf, h.here]

/-- **In a tree that has grown a path leads to the same place.**  What was missing there is found if
it is there now and is no link. -/
theorem Grows.locate (h : Grows keeps t t') (hloc : t.locate follow path = .ok place) {node : Node}
    (hnode : t'.root.get? place.names = some node)
    (hlink : ∀ d n, place = .missing d n → ∀ target, node ≠ .link target) :
    t'.locate follow path = .ok (.at place.names node) := by
  obtain ⟨husable, hleads⟩ := locate_eq_ok_iff.mp hloc
  refine locate_eq_ok_iff.mpr ⟨husable, ?_⟩
  rw [h.startOf]
  exact hleads.of_grows h.root hnode hlink

/-- A directory stays a directory. -/
lemma Grows.locate_directory (h : Grows keeps t t')
    (hloc : t.locate true path = .ok (.at names (.directory es))) :
    ∃ es', t'.locate true path = .ok (.at names (.directory es')) := by
  obtain ⟨es', hes', -⟩ := h.root.directory (locate_eq_ok_iff.mp hloc).2.get?
  exact ⟨es', h.locate hloc hes' (by simp)⟩

lemma Grows.isDirectory (h : Grows keeps t t') (hdir : t.isDirectory path = true) :
    t'.isDirectory path = true := by
  obtain ⟨names, es, hloc⟩ := isDirectory_iff.mp hdir
  obtain ⟨es', hloc'⟩ := h.locate_directory hloc
  exact isDirectory_iff.mpr ⟨names, es', hloc'⟩

/-! ## Directories -/

lemma get?_put_self {d : List String} (hd : t.root.get? d = some (.directory es)) (n : String)
    (node : Node) : (t.put (d ++ [n]) node).root.get? (d ++ [n]) = some node := by
  rw [put, Node.get?_put hd, if_pos List.prefix_rfl]
  simp

/-- What is missing in a tree can be put there: the tree grows and the path leads to it. -/
lemma put_missing (ht : t.HasHere) {d : List String} {n : String} {node : Node}
    (hloc : t.locate follow path = .ok (.missing d n))
    (hnode : ∀ admits, (node.filesFrom admits (d ++ [n])).filter (fun f => keeps f.names) = [])
    (hlink : ∀ target, node ≠ .link target) : Grows keeps t (t.put (d ++ [n]) node) ∧
      (t.put (d ++ [n]) node).locate follow path = .ok (.at (d ++ [n]) node) := by
  obtain ⟨husable, hleads⟩ := locate_eq_ok_iff.mp hloc
  obtain ⟨es, hd, hnone⟩ := hleads.of_missing (ht.startOf path)
  have hgrows : Grows keeps t (t.put (d ++ [n]) node) := by
    refine ⟨rfl, Node.grows_put hd hnode fun old hold => ?_⟩
    rw [hnone] at hold
    cases hold
  exact ⟨hgrows, hgrows.locate hloc (get?_put_self hd n node) fun _ _ _ => hlink⟩

/-- A path leads to a directory also with slashes behind it. -/
lemma locate_of_withoutTrailing (husable : Usable path)
    (hloc : t.locate true (withoutTrailing path) = .ok (.at names (.directory es))) :
    t.locate true path = .ok (.at names (.directory es)) := by
  obtain ⟨n, hpieces, hstart, -⟩ := exists_pieces_withoutTrailing t path
  have hleads := (locate_eq_ok_iff.mp hloc).2.append_blanks n
  rw [← hpieces, hstart] at hleads
  exact locate_eq_ok_iff.mpr ⟨husable, hleads⟩

/-- Where a path leads to a directory something is there also without the slashes behind it, whether
or not a link is followed. -/
lemma exists_of_isDirectory (hdir : t.isDirectory path = true) :
    ∃ names node, t.locate false (withoutTrailing path) = .ok (.at names node) := by
  obtain ⟨names, es, hloc⟩ := isDirectory_iff.mp hdir
  obtain ⟨husable, hleads⟩ := locate_eq_ok_iff.mp hloc
  obtain ⟨n, hpieces, hstart, -⟩ := exists_pieces_withoutTrailing t path
  rw [hpieces, ← hstart] at hleads
  obtain ⟨names', node, hleads'⟩ := hleads.without_blanks.unfollowed
  exact ⟨names', node, locate_eq_ok_iff.mpr ⟨usable_withoutTrailing husable, hleads'⟩⟩

/-- Making a directory makes the tree grow, and the directory is there. -/
lemma makeDirectory_spec (ht : t.HasHere) (h : t.makeDirectory path = .ok t') :
    (∀ keeps, Grows keeps t t') ∧ (Usable path → t'.isDirectory path = true) := by
  unfold makeDirectory at h
  split at h
  next d n hloc =>
    obtain rfl := Except.ok.inj h
    have hfollowed : t.locate true (withoutTrailing path) = .ok (.missing d n) := by
      obtain ⟨husable, hleads⟩ := locate_eq_ok_iff.mp hloc
      exact locate_eq_ok_iff.mpr ⟨husable, hleads.followed⟩
    have hput : ∀ keeps, Grows keeps t (t.put (d ++ [n]) .empty) ∧
        (t.put (d ++ [n]) .empty).locate true (withoutTrailing path)
          = .ok (.at (d ++ [n]) .empty) :=
      fun keeps => put_missing ht hfollowed (fun _ => rfl) (by simp [Node.empty])
    exact ⟨fun keeps => (hput keeps).1,
      fun husable => isDirectory_iff.mpr
        ⟨_, _, locate_of_withoutTrailing husable (hput fun _ => true).2⟩⟩
  · cases h
  · cases h

lemma Attempt.result_eq_ok_iff {attempt : Attempt} :
    attempt.result = .ok t ↔ attempt = ⟨t, none⟩ := by
  obtain ⟨tree, _ | fault⟩ := attempt <;> simp [Attempt.result]

/-- Making directories outward makes the tree grow, also when it fails, and unless it does the
innermost one is there. -/
lemma makeOutward_spec (ht : t.HasHere) (paths : List String) :
    (∀ keeps, Grows keeps t (t.makeOutward paths).tree) ∧
      ((t.makeOutward paths).fault? = none → ∀ p outer, paths = p :: outer → Usable p →
        (t.makeOutward paths).tree.isDirectory p = true) := by
  induction paths with
  | nil => exact ⟨fun keeps => .refl keeps t, by simp⟩
  | cons path outer ih =>
      suffices hspec : (∀ keeps, Grows keeps t (t.makeOutward (path :: outer)).tree) ∧
          ((t.makeOutward (path :: outer)).fault? = none → Usable path →
            (t.makeOutward (path :: outer)).tree.isDirectory path = true) by
        refine ⟨hspec.1, fun hnone p _ hp => ?_⟩
        obtain rfl := (List.cons.inj hp).1
        exact hspec.2 hnone
      -- the directory is made, or made when the ones around it have been, or there already
      simp only [makeOutward]
      split
      next hempty =>
        have hnil : path = "" := by simpa using hempty
        exact ⟨fun keeps => .refl keeps t, fun _ husable => absurd hnil husable.nonempty⟩
      split
      next hmade =>
        obtain ⟨hgrows, hdir⟩ := makeDirectory_spec ht hmade
        exact ⟨hgrows, fun _ => hdir⟩
      · cases houter : t.makeOutward outer with
        | mk t₁ fault? =>
            rw [houter] at ih
            obtain ⟨hgrows, -⟩ := ih
            cases fault? with
            | some fault => exact ⟨hgrows, by simp⟩
            | none =>
                simp only
                split
                next hmade =>
                  have ht₁ := (hgrows fun _ => true).hasHere ht
                  obtain ⟨hgrows', hdir⟩ := makeDirectory_spec ht₁ hmade
                  exact ⟨fun keeps => (hgrows keeps).trans (hgrows' keeps), fun _ => hdir⟩
                next => exact ⟨hgrows, fun hnone _ => by simpa using hnone⟩
      · exact ⟨fun keeps => .refl keeps t, fun hnone _ => by simpa using hnone⟩

/-- Where the innermost directory is there, nothing is to be made. -/
lemma makeOutward_of_isDirectory {outer : List String} (h : p = "" ∨ t.isDirectory p = true) :
    t.makeOutward (p :: outer) = ⟨t, none⟩ := by
  rcases h with rfl | hdir
  · rfl
  · obtain ⟨names, node, hloc⟩ := exists_of_isDirectory hdir
    simp only [makeOutward, makeDirectory, hloc, hdir]
    split <;> rfl

/-! ## The directory of a path -/

lemma dropUnnamed_suffix (reversed : List String) : Path.dropUnnamed reversed <:+ reversed := by
  fun_induction Path.dropUnnamed reversed with
  | case1 => exact List.suffix_rfl
  | case2 => exact List.suffix_rfl
  | case3 piece outer _ _ ih => exact ih.trans (List.suffix_cons piece outer)
  | case4 => exact List.suffix_rfl

/-- The directory of a path can be used as a path, or is empty, if the path can be used. -/
lemma usable_parent (h : Usable path) (hp : Path.parent? path = some p) : p = "" ∨ Usable p := by
  unfold Path.parent? at hp
  split at hp
  · cases hp
  · split_ifs at hp
    exact .inl (Option.some.inj hp).symm
  next last outer _ heq =>
    obtain rfl := Option.some.inj hp
    have hsuffix : Path.dropUnnamed outer <:+ (pieces '/' path).reverse := by
      have hdrop := dropUnnamed_suffix (pieces '/' path).reverse
      rw [heq] at hdrop
      exact (dropUnnamed_suffix outer).trans ((List.suffix_cons last outer).trans hdrop)
    have hprefix : (Path.dropUnnamed outer).reverse <+: pieces '/' path := by
      simpa using List.reverse_prefix.mpr hsuffix
    unfold Path.ofPieces
    split
    · exact .inr ⟨by decide, by decide, by decide⟩
    · rcases eq_or_ne (Path.dropUnnamed outer) [] with hnil | hne
      · rw [hnil]
        exact .inl rfl
      · have hslash : String.singleton '/' = "/" := by decide
        have hjoined := toList_joined_prefix (by simpa using hne) hprefix
        rw [hslash] at hjoined
        exact or_iff_not_imp_left.mpr fun hempty => h.of_prefix hjoined hempty

/-- **The directory of a path**, once it has been made, is there to stay: the tree has grown, and in
every tree that has grown from it nothing is left to be made. -/
theorem makeParent_spec (ht : t.HasHere) (h : t.makeParent path = .ok t') :
    (∀ keeps, Grows keeps t t') ∧
      (Usable path → ∀ keeps t'', Grows keeps t' t'' → t''.makeParent path = .ok t'') := by
  simp only [makeParent, Attempt.result_eq_ok_iff, tryParent] at h ⊢
  cases hparent : Path.parent? path with
  | none =>
      rw [hparent] at h
      obtain rfl := congrArg Attempt.tree h
      exact ⟨fun keeps => .refl keeps t, fun _ _ _ _ => rfl⟩
  | some p =>
      rw [hparent] at h
      obtain ⟨outer, houter⟩ : ∃ outer, Path.withParents p = p :: outer := ⟨_, rfl⟩
      simp only [houter] at h ⊢
      obtain ⟨hgrows, hdir⟩ := makeOutward_spec ht (p :: outer)
      rw [h] at hgrows hdir
      refine ⟨hgrows, fun husable keeps t'' hgrows' => makeOutward_of_isDirectory ?_⟩
      rcases usable_parent husable hparent with hempty | hp
      · exact .inl hempty
      · exact .inr (hgrows'.isDirectory (hdir rfl p outer rfl hp))

/-! ## Files -/

/-- A text is written when its directory can be made and the file written in it. -/
lemma tryText_eq_iff {text : String} : t.tryText path text = ⟨t', none⟩ ↔
    ∃ t₁, t.makeParent path = .ok t₁ ∧ t₁.write path text.toUTF8 = .ok t' := by
  simp only [makeParent, Attempt.result_eq_ok_iff, tryText]
  generalize text.toUTF8 = content
  rcases t.tryParent path with ⟨t₁, _ | fault⟩
  · cases hwrite : t₁.write path content <;> simp [hwrite]
  · simp

/-- A file that is written is put below a directory, where nothing or a file was. -/
lemma exists_put_of_write (ht : t.HasHere) (h : t.write path content = .ok t') :
    path.toList.getLast? ≠ some '/' ∧ ∃ place d n es, t.locate true path = .ok place ∧
      place.names = d ++ [n] ∧ t.root.get? d = some (.directory es) ∧
      (∀ old, es.lookup n = some old → ∃ before, old = .file before) ∧
      t' = t.put (d ++ [n]) (.file content) := by
  unfold write at h
  split at h
  · cases h
  next place hloc =>
    split_ifs at h with hlast
    have hslash : path.toList.getLast? ≠ some '/' := by simpa using hlast
    rw [withoutTrailing_of_getLast? hslash] at hloc
    obtain ⟨-, hleads⟩ := locate_eq_ok_iff.mp hloc
    refine ⟨hslash, place, ?_⟩
    split at h
    next d n =>
      obtain ⟨es, hd, hnone⟩ := hleads.of_missing (ht.startOf path)
      exact ⟨d, n, es, hloc, rfl, hd, by simp [hnone], (Except.ok.inj h).symm⟩
    next names before =>
      have hget := hleads.get?
      rcases List.eq_nil_or_concat' names with rfl | ⟨d, n, rfl⟩
      · -- the root is no file, since the current directory is there
        obtain ⟨es, hes⟩ := exists_directory_root ht
        rw [hes] at hget
        cases hget
      obtain ⟨es, hd⟩ := Node.exists_directory_above (List.cons_ne_nil n []) hget
      refine ⟨d, n, es, hloc, rfl, hd, fun old hold => ⟨before, ?_⟩, (Except.ok.inj h).symm⟩
      rw [← Node.get?_concat hd, hget] at hold
      exact (Option.some.inj hold).symm
    · cases h

/-- What writing a file does: it is put below a directory, where nothing or a file was, the path
leads to it, and the tree grows by nothing else. -/
theorem write_cases (ht : t.HasHere) (h : t.write path content = .ok t') :
    Usable path ∧ path.toList.getLast? ≠ some '/' ∧ ∃ d n es,
      t.root.get? d = some (.directory es) ∧
      (∀ old, es.lookup n = some old → ∃ before, old = .file before) ∧
      t' = t.put (d ++ [n]) (.file content) ∧
      t'.locate true path = .ok (.at (d ++ [n]) (.file content)) ∧
      ∀ keeps, keeps (d ++ [n]) = false → Grows keeps t t' := by
  obtain ⟨hslash, place, d, n, es, hloc, hnames, hd, hold, rfl⟩ := exists_put_of_write ht h
  have hgrows : ∀ keeps : List String → Bool, keeps (d ++ [n]) = false →
      Grows keeps t (t.put (d ++ [n]) (.file content)) := by
    refine fun keeps hkeeps => ⟨rfl, Node.grows_put hd ?_ fun old hlookup => ?_⟩
    · simp [Node.filesFrom, hkeeps]
    · obtain ⟨before, rfl⟩ := hold old hlookup
      exact ⟨before, content, rfl, rfl⟩
  refine ⟨(locate_eq_ok_iff.mp hloc).1, hslash, d, n, es, hd, hold, rfl, ?_, hgrows⟩
  rw [← hnames] at hgrows ⊢
  refine (hgrows (fun _ => false) rfl).locate hloc ?_ (by simp)
  rw [hnames]
  exact get?_put_self hd n (.file content)

/-- **Writing a file** makes the tree grow but for the file, to which the path leads. -/
theorem write_spec (ht : t.HasHere) (h : t.write path content = .ok t') :
    Usable path ∧ path.toList.getLast? ≠ some '/' ∧ ∃ names,
      t'.locate true path = .ok (.at names (.file content)) ∧
        ∀ keeps, keeps names = false → Grows keeps t t' := by
  obtain ⟨husable, hslash, d, n, -, -, -, -, hloc, hgrows⟩ := write_cases ht h
  exact ⟨husable, hslash, d ++ [n], hloc, hgrows⟩

/-- Where a path leads to a file, the file can be written. -/
theorem write_again (hloc : t.locate true path = .ok (.at names (.file content)))
    (hslash : path.toList.getLast? ≠ some '/') (content' : ByteArray) :
    ∃ t', t.write path content' = .ok t' := by
  have hlast : ¬(path.toList.getLast? == some '/') = true := by simpa using hslash
  refine ⟨t.put names (.file content'), ?_⟩
  rw [write, withoutTrailing_of_getLast? hslash, hloc]
  simp only [if_neg hlast]

/-- The text of a file that has been written. -/
lemma readText?_of_locate {text : String}
    (hloc : t.locate true path = .ok (.at names (.file text.toUTF8))) :
    t.readText? path = some text := by
  have hvalid : text.toUTF8.IsValidUTF8 := text.isValidUTF8
  simp only [readText?, node?, hloc, String.fromUTF8?, dif_pos hvalid]
  rfl

end CodeDigest.FileTree
