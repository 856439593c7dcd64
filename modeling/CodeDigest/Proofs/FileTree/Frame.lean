import CodeDigest.Proofs.FileTree.Writing

/-!
# What writing leaves alone

`FileTree.entry t names` is what is at some names, apart from what is below it: nothing, a file with
its content, a link with its target, or a directory.  Two trees with the same entry at all names
differ at most in the order in which directories list what is in them.

* `FileTree.entry_put`: putting a file or an empty directory in its place changes one entry.
* `FileTree.makeOutward_frame`: all that has changed when directories have been made is that some
  were missing and are there now, each of them where one of the paths leads.
* `FileTree.writeText_frame`: all that has changed when a text has been written are its file and
  such directories above it.
-/

namespace CodeDigest

namespace Node

variable {node : Node} {names : List String}

/-- A node apart from what is below it. -/
def withoutEntries : Node → Node
  | .directory _ => .empty
  | node => node

lemma exists_of_withoutEntries (h : node.withoutEntries = .empty) : ∃ es, node = .directory es := by
  cases node with
  | directory es => exact ⟨es, rfl⟩
  | file content => cases h
  | link target => cases h

lemma get?_of_leaf (h : node.withoutEntries = node) (hnames : names ≠ []) :
    node.get? names = none := by
  obtain ⟨n, names, rfl⟩ := List.exists_cons_of_ne_nil hnames
  rw [← h]
  cases node <;> rfl

/-- What is put below a directory leaves a directory. -/
lemma withoutEntries_put {es : List (String × Node)} (hnames : names ≠ []) (new : Node) :
    ((directory es).put names new).withoutEntries = .empty := by
  obtain ⟨n, names, rfl⟩ := List.exists_cons_of_ne_nil hnames
  rfl

end Node

namespace FileTree

variable {t t' : FileTree} {path p : String} {paths names d : List String} {n : String}
  {new : Node} {es : List (String × Node)} {content : ByteArray} {keeps : List String → Bool}

/-- What is at some names, apart from what is below it. -/
def entry (t : FileTree) (names : List String) : Option Node :=
  (t.root.get? names).map Node.withoutEntries

lemma entry_eq_none : t.entry names = none ↔ t.root.get? names = none := Option.map_eq_none_iff

/-- Where a path leads to a directory it leads there still when the tree has grown. -/
lemma Grows.canonical?_directory (h : Grows keeps t t') (hpath : t.canonical? path = some names)
    (hentry : t.entry names = some .empty) : t'.canonical? path = some names := by
  unfold canonical? at hpath
  split at hpath
  next names' node hloc =>
    obtain rfl := Option.some.inj hpath
    rw [entry, (locate_eq_ok_iff.mp hloc).2.get?] at hentry
    obtain ⟨es, rfl⟩ := Node.exists_of_withoutEntries (Option.some.inj hentry)
    obtain ⟨es', hloc'⟩ := h.locate_directory hloc
    rw [canonical?, hloc']
  · cases hpath

/-! ## One entry -/

/-- **One entry changes** when a file, a link or an empty directory is put where no directory is. -/
theorem entry_put (hd : t.root.get? d = some (.directory es)) (n : String) (new : Node)
    (hnew : new.withoutEntries = new)
    (hold : ∀ old, es.lookup n = some old → old.withoutEntries = old) (names : List String) :
    (t.put (d ++ [n]) new).entry names
      = if names = d ++ [n] then some new else t.entry names := by
  rw [entry, put, Node.get?_put hd]
  by_cases hbelow : d ++ [n] <+: names
  · rw [if_pos hbelow]
    obtain ⟨below, rfl⟩ := hbelow
    rw [show d.length + 1 = (d ++ [n]).length by simp, List.drop_left]
    rcases eq_or_ne below [] with rfl | hne
    · simp [hnew]
    · -- nothing is below the new node, and nothing was below the old one
      have hnone : t.root.get? (d ++ [n] ++ below) = none := by
        rw [Node.get?_append, Node.get?_concat hd]
        cases hlookup : es.lookup n with
        | none => rfl
        | some old => exact Node.get?_of_leaf (hold old hlookup) hne
      rw [Node.get?_of_leaf hnew hne, if_neg (by simpa using hne), entry, hnone]
  · have hne : names ≠ d ++ [n] := fun heq => hbelow (heq ▸ List.prefix_rfl)
    rw [if_neg hbelow, if_neg hne, entry]
    split
    next habove =>
      obtain ⟨below, hsplit⟩ := habove
      have hbelow : below ≠ [] := by
        rintro rfl
        exact hne (by simpa using hsplit)
      obtain ⟨rest, hrest⟩ : ∃ rest, d = names ++ rest := by
        rcases List.prefix_concat_iff.mp ⟨below, hsplit⟩ with heq | ⟨rest, hrest⟩
        · exact absurd heq hne
        · exact ⟨rest, hrest.symm⟩
      obtain ⟨es', hes'⟩ : ∃ es', t.root.get? names = some (.directory es') := by
        rw [hrest, Node.get?_append] at hd
        obtain ⟨inner, hinner, hget⟩ := Option.bind_eq_some_iff.mp hd
        obtain ⟨es', rfl⟩ := Node.exists_eq_directory hget
        exact ⟨es', hinner⟩
      rw [hes', ← hsplit, List.drop_left, Option.map_some, Option.map_some,
        Node.withoutEntries_put hbelow]
      rfl
    · rfl

/-! ## Directories -/

/-- Making a directory changes the entry where its path leads, at which nothing was. -/
lemma makeDirectory_frame (ht : t.HasHere) (h : t.makeDirectory path = .ok t') :
    ∃ made, t.entry made = none ∧ t'.entry made = some .empty ∧
      (∀ names, names ≠ made → t'.entry names = t.entry names) ∧
      (Usable path → t'.canonical? path = some made) := by
  have hspec := makeDirectory_spec ht h
  unfold makeDirectory at h
  split at h
  next d n hloc =>
    obtain rfl := Except.ok.inj h
    obtain ⟨husable, hleads⟩ := locate_eq_ok_iff.mp hloc
    obtain ⟨es, hd, hnone⟩ := hleads.of_missing (ht.startOf _)
    have hput := entry_put hd n .empty rfl (by simp [hnone])
    refine ⟨d ++ [n], ?_, (hput _).trans (if_pos rfl), fun names hne => (hput _).trans (if_neg hne),
      fun husable => ?_⟩
    · rw [entry_eq_none, Node.get?_concat hd, hnone]
    · have hfollowed : t.locate true (withoutTrailing path) = .ok (.missing d n) :=
        locate_eq_ok_iff.mpr ⟨‹_›, hleads.followed⟩
      obtain ⟨-, hmade⟩ : t.Grows (fun _ => true) (t.put (d ++ [n]) .empty) ∧
          (t.put (d ++ [n]) .empty).locate true (withoutTrailing path)
            = .ok (.at (d ++ [n]) .empty) :=
        put_missing ht hfollowed (fun _ => rfl) (by simp [Node.empty])
      rw [canonical?, locate_of_withoutTrailing husable hmade]
  · cases h
  · cases h

/-- A tree has changed by directories that were missing, each of them where one of the paths
leads. -/
def Made (paths : List String) (t t' : FileTree) : Prop :=
  ∀ names, t'.entry names = t.entry names ∨
    t.entry names = none ∧ t'.entry names = some .empty ∧
      ∃ p ∈ paths, t'.canonical? p = some names

lemma Made.refl (paths : List String) (t : FileTree) : Made paths t t := fun _ => .inl rfl

lemma Made.of_subset {more : List String} (h : Made paths t t') (hmore : paths ⊆ more) :
    Made more t t' := by
  intro names
  rcases h names with hsame | ⟨hnone, hempty, p, hp, hpath⟩
  · exact .inl hsame
  · exact .inr ⟨hnone, hempty, p, hmore hp, hpath⟩

/-- What has been made is there still after one more directory. -/
lemma Made.makeDirectory {mid : FileTree} (h : Made paths t mid) (hmid : mid.HasHere)
    (hpath : Usable path) (hmake : mid.makeDirectory path = .ok t') :
    Made (path :: paths) t t' := by
  obtain ⟨made, hnone, hempty, hother, hcanonical⟩ := makeDirectory_frame hmid hmake
  obtain ⟨hgrows, -⟩ := makeDirectory_spec hmid hmake
  intro names
  rcases eq_or_ne names made with rfl | hne
  · refine .inr ⟨?_, hempty, path, List.mem_cons_self, hcanonical hpath⟩
    rcases h names with hsame | ⟨hold, -⟩
    · exact hsame.symm.trans hnone
    · exact hold
  · rw [hother names hne]
    rcases h names with hsame | ⟨hold, hnew, p, hp, hleads⟩
    · exact .inl hsame
    · exact .inr ⟨hold, hnew, p, List.mem_cons_of_mem _ hp,
        (hgrows fun _ => true).canonical?_directory hleads hnew⟩

/-- **Making directories outward** changes nothing else, also when it fails. -/
theorem makeOutward_frame (ht : t.HasHere) (hpaths : ∀ p ∈ paths, p = "" ∨ Usable p) :
    Made paths t (t.makeOutward paths).tree := by
  induction paths with
  | nil => exact .refl [] t
  | cons path outer ih =>
      obtain ⟨hpath, houter⟩ := List.forall_mem_cons.mp hpaths
      simp only [makeOutward]
      split
      next => exact .refl _ t
      next hne =>
      have husable : Usable path := hpath.resolve_left (by simpa using hne)
      split
      next hmade => exact (Made.refl outer t).makeDirectory ht husable hmade
      · have hmade := ih houter
        have ht₁ := ((makeOutward_spec ht outer).1 fun _ => true).hasHere ht
        have hmore := List.subset_cons_self path outer
        cases hattempt : t.makeOutward outer with
        | mk t₁ fault? =>
            rw [hattempt] at hmade ht₁
            cases fault? with
            | some fault => exact hmade.of_subset hmore
            | none =>
                simp only
                split
                next hmade₂ => exact hmade.makeDirectory ht₁ husable hmade₂
                next => exact hmade.of_subset hmore
      · exact .refl _ t

/-! ## A text and the directories above it -/

/-- The paths above a path, the innermost first. -/
def parentsOf (path : String) : List String := ((Path.parent? path).map Path.withParents).getD []

lemma usable_of_mem_upward {count : Nat} (h : path = "" ∨ Usable path)
    (hp : p ∈ Path.upward count path) : p = "" ∨ Usable p := by
  induction count generalizing path with
  | zero => cases hp
  | succ count ih =>
      rcases List.mem_cons.mp hp with rfl | hp
      · exact h
      · split at hp
        next outer houter =>
          refine ih ?_ hp
          rcases h with rfl | h
          · cases houter
          · exact usable_parent h houter
        · cases hp

lemma tryParent_frame (ht : t.HasHere) (hpath : Usable path) :
    Made (parentsOf path) t (t.tryParent path).tree := by
  unfold tryParent parentsOf
  cases hparent : Path.parent? path with
  | none => exact .refl _ t
  | some outer =>
      exact makeOutward_frame ht
        fun p hp => usable_of_mem_upward (usable_parent hpath hparent) hp

/-- Writing a file changes the entry where its path leads, at which nothing or a file was. -/
lemma write_frame (ht : t.HasHere) (h : t.write path content = .ok t') :
    ∃ names, t'.canonical? path = some names ∧ t'.entry names = some (.file content) ∧
      (t.entry names = none ∨ ∃ before, t.entry names = some (.file before)) ∧
      ∀ other, other ≠ names → t'.entry other = t.entry other := by
  obtain ⟨-, -, d, n, es, hd, hold, rfl, hloc, -⟩ := write_cases ht h
  have hput := entry_put hd n (.file content) rfl fun old hlookup => by
    obtain ⟨before, rfl⟩ := hold old hlookup
    rfl
  refine ⟨d ++ [n], by rw [canonical?, hloc], (hput _).trans (if_pos rfl), ?_, fun other hne =>
    (hput other).trans (if_neg hne)⟩
  rw [entry, Node.get?_concat hd]
  cases hlookup : es.lookup n with
  | none => exact .inl rfl
  | some old =>
      obtain ⟨before, rfl⟩ := hold old hlookup
      exact .inr ⟨before, rfl⟩

/-- Between two trees a text has been written to where a path leads, directories above it have been
made that were missing, and nothing else has changed. -/
structure Written (path text : String) (names : List String) (t t' : FileTree) : Prop where
  leads : t'.canonical? path = some names
  text : t'.entry names = some (.file text.toUTF8)
  /-- Nothing has been lost but an older file of the same name. -/
  place : t.entry names = none ∨ ∃ before, t.entry names = some (.file before)
  others : ∀ other, other ≠ names → t'.entry other = t.entry other ∨
    t.entry other = none ∧ t'.entry other = some .empty ∧
      ∃ p ∈ parentsOf path, t'.canonical? p = some other

/-- **Writing a text** changes its file and adds directories above it, and changes nothing else. -/
theorem writeText_frame {text : String} (ht : t.HasHere) (h : t.writeText path text = .ok t') :
    ∃ names, Written path text names t t' := by
  obtain ⟨t₁, hparent, hwrite⟩ := tryText_eq_iff.mp (Attempt.result_eq_ok_iff.mp h)
  obtain ⟨hgrows₁, -⟩ := makeParent_spec ht hparent
  have ht₁ := (hgrows₁ fun _ => true).hasHere ht
  obtain ⟨husable, -, d, n, -, -, -, -, -, hgrows⟩ := write_cases ht₁ hwrite
  have hgrown := hgrows (fun _ => false) rfl
  have hmade := tryParent_frame ht husable
  rw [Attempt.result_eq_ok_iff.mp hparent] at hmade
  obtain ⟨names, hleads, hentry, hplace, hothers⟩ := write_frame ht₁ hwrite
  refine ⟨names, hleads, hentry, ?_, fun other hne => ?_⟩
  · rcases hmade names with hsame | ⟨hnone, -⟩
    · rwa [hsame] at hplace
    · exact .inl hnone
  · rw [hothers other hne]
    rcases hmade other with hsame | ⟨hnone, hempty, p, hp, hpath⟩
    · exact .inl hsame
    · exact .inr ⟨hnone, hempty, p, hp, hgrown.canonical?_directory hpath hempty⟩

end FileTree

end CodeDigest
