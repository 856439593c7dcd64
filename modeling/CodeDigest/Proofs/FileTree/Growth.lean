import Mathlib.Data.List.Infix
import Mathlib.Data.List.Lemmas
import CodeDigest.FileTree.Walk

/-!
# File trees that grow

A run adds to a file tree and takes nothing away: it makes directories where nothing was and puts
one file in its place.  `Node.Grows keeps old new` says that this is all that has happened: every
directory and every link of the old tree is there in the new one, every file is there and has its
content if its names are among those that `keeps` admits, and whatever a walk lists, apart from
files that `keeps` leaves out, it lists in both trees in the same order.

* `Node.get?_put` says what lies under any names once a node has been put below a directory.
* `Node.grows_put`: putting an empty directory where nothing was, or a file where nothing or a file
  was, makes a tree grow.
* `Node.Grows.trans`: growth upon growth is growth.
-/

namespace CodeDigest.Node

variable {admits : List String → Bool → Bool} {base d names below : List String} {n : String}
  {node new old x : Node} {es : List (String × Node)} {p : Found → Bool}

/-! ## What lies under names -/

@[simp] lemma get?_nil (node : Node) : node.get? [] = some node := by cases node <;> rfl

@[simp] lemma get?_cons_directory (n : String) (names : List String) (es : List (String × Node)) :
    (directory es).get? (n :: names) = (es.lookup n).bind (get? names) := rfl

lemma get?_append (names below : List String) (node : Node) :
    node.get? (names ++ below) = (node.get? names).bind (get? below) := by
  induction names generalizing node with
  | nil => simp
  | cons n names ih =>
      cases node with
      | directory es => cases h : es.lookup n <;> simp [h, ih]
      | file content => rfl
      | link target => rfl

/-- Only a directory has something below it. -/
lemma exists_directory_of_get? (hbelow : below ≠ []) (h : node.get? below = some x) :
    ∃ es, node = directory es := by
  obtain ⟨n, below, rfl⟩ := List.exists_cons_of_ne_nil hbelow
  cases node with
  | directory es => exact ⟨es, rfl⟩
  | file content => cases h
  | link target => cases h

/-- Above everything is a directory. -/
lemma exists_directory_above (hbelow : below ≠ []) (h : node.get? (names ++ below) = some x) :
    ∃ es, node.get? names = some (directory es) := by
  rw [get?_append] at h
  obtain ⟨inner, hinner, hx⟩ := Option.bind_eq_some_iff.mp h
  obtain ⟨es, rfl⟩ := exists_directory_of_get? hbelow hx
  exact ⟨es, hinner⟩

lemma get?_concat (h : node.get? d = some (directory es)) (n : String) :
    node.get? (d ++ [n]) = es.lookup n := by
  rw [get?_append, h]
  simp

/-- Where a directory is, or is below, there is a directory. -/
lemma exists_eq_directory (h : node.get? below = some (directory es)) :
    ∃ es', node = directory es' := by
  rcases below with _ | ⟨n, below⟩
  · rw [get?_nil] at h
    exact ⟨es, Option.some.inj h⟩
  · exact exists_directory_of_get? (List.cons_ne_nil n below) h

/-- The directory on the way to another one. -/
lemma exists_entry_above {m : String} (h : node.get? (m :: d) = some (directory es)) :
    ∃ entries inner, node = directory entries ∧ entries.lookup m = some (directory inner) ∧
      (directory inner).get? d = some (directory es) := by
  obtain ⟨entries, rfl⟩ := exists_eq_directory h
  obtain ⟨inner, hlookup, hd⟩ := Option.bind_eq_some_iff.mp h
  obtain ⟨inner, rfl⟩ := exists_eq_directory hd
  exact ⟨entries, inner, rfl, hlookup, hd⟩

@[simp] lemma put_nil (node new : Node) : node.put [] new = new := by cases node <;> rfl

lemma put_cons (h : es.lookup n = some old) (names : List String) (new : Node) :
    (directory es).put (n :: names) new = directory (setEntry n (old.put names new) es) := by
  simp [put, h]

lemma put_singleton (es : List (String × Node)) (n : String) (new : Node) :
    (directory es).put [n] new = directory (setEntry n new es) := by
  simp [put]

lemma setEntry_of_lookup (h : es.lookup n = none) (node : Node) :
    setEntry n node es = es ++ [(n, node)] := by
  induction es with
  | nil => rfl
  | cons e es ih =>
      obtain ⟨m, x⟩ := e
      by_cases hm : m = n
      · simp [hm] at h
      · have hbeq : (n == m) = false := by simpa using Ne.symm hm
        rw [List.lookup_cons, hbeq] at h
        rw [setEntry, if_neg (by simpa using hm), ih h, List.cons_append]

lemma setEntry_setEntry (n : String) (old node : Node) (es : List (String × Node)) :
    setEntry n node (setEntry n old es) = setEntry n node es := by
  induction es with
  | nil => simp [setEntry]
  | cons e es ih =>
      obtain ⟨m, x⟩ := e
      by_cases hm : m = n
      · simp [setEntry, hm]
      · simp [setEntry, hm, ih]

/-- **What lies under any names** once a node has been put below a directory: what lies in it, the
nodes above it with it, and all others as they were. -/
theorem get?_put (h : node.get? d = some (directory es)) (n : String) (new : Node)
    (names : List String) : (node.put (d ++ [n]) new).get? names
      = if d ++ [n] <+: names then new.get? (names.drop (d.length + 1))
        else if names <+: d ++ [n] then
          (node.get? names).map (·.put ((d ++ [n]).drop names.length) new)
        else node.get? names := by
  induction d generalizing node names with
  | nil =>
      obtain rfl := Option.some.inj ((get?_nil node).symm.trans h)
      rw [List.nil_append, put_singleton]
      rcases names with _ | ⟨k, names⟩
      · simp [put_singleton]
      · by_cases hk : k = n
        · simp [hk, lookup_setEntry]
        · simp [hk, Ne.symm hk, lookup_setEntry, List.cons_prefix_cons]
  | cons m d ih =>
      obtain ⟨entries, inner, rfl, hlookup, hd⟩ := exists_entry_above h
      rw [List.cons_append, put_cons hlookup]
      rcases names with _ | ⟨k, names⟩
      · simp [put_cons hlookup]
      · by_cases hk : k = m
        · subst hk
          simp [hlookup, lookup_setEntry, List.cons_prefix_cons, ih hd]
        · simp [hk, Ne.symm hk, lookup_setEntry, List.cons_prefix_cons]

/-! ## What a walk lists -/

/-- What a walk lists for one entry of a directory. -/
def entryFiles (admits : List String → Bool → Bool) (base : List String) (n : String)
    (node : Node) : List Found :=
  if admits (base ++ [n]) node.isDirectory then node.filesFrom admits (base ++ [n]) else []

lemma filesOfEntries_cons (n : String) (node : Node) (es : List (String × Node)) :
    filesOfEntries admits base ((n, node) :: es)
      = entryFiles admits base n node ++ filesOfEntries admits base es := rfl

lemma filter_entryFiles (h : (node.filesFrom admits (base ++ [n])).filter p = []) :
    (entryFiles admits base n node).filter p = [] := by
  unfold entryFiles
  split
  · exact h
  · rfl

/-- An entry that is set changes the list as far as it changes what is listed for it. -/
lemma filter_filesOfEntries_setEntry
    (h : (entryFiles admits base n new).filter p
      = ((es.lookup n).map fun old => (entryFiles admits base n old).filter p).getD []) :
    (filesOfEntries admits base (setEntry n new es)).filter p
      = (filesOfEntries admits base es).filter p := by
  induction es with
  | nil =>
      rw [setEntry, filesOfEntries_cons, List.filter_append, h]
      rfl
  | cons entry es ih =>
      obtain ⟨m, inner⟩ := entry
      by_cases hm : m = n
      · subst hm
        rw [setEntry, if_pos (by simp), filesOfEntries_cons, filesOfEntries_cons,
          List.filter_append, List.filter_append, h]
        simp
      · have hbeq : (n == m) = false := by simpa using Ne.symm hm
        rw [List.lookup_cons, hbeq] at h
        rw [setEntry, if_neg (by simpa using hm), filesOfEntries_cons, filesOfEntries_cons,
          List.filter_append, List.filter_append, ih h]

/-- A node that is put below a directory changes no list from which all that it holds, and all that
was in its place, is left out. -/
lemma filter_filesFrom_put (hd : node.get? d = some (directory es))
    (hnew : (new.filesFrom admits (base ++ (d ++ [n]))).filter p = [])
    (hold : ∀ old, es.lookup n = some old →
      (old.filesFrom admits (base ++ (d ++ [n]))).filter p = []) :
    ((node.put (d ++ [n]) new).filesFrom admits base).filter p
      = (node.filesFrom admits base).filter p := by
  -- down the way to the directory, with `base` for the names that have been passed
  induction d generalizing node base with
  | nil =>
      obtain rfl := Option.some.inj ((get?_nil node).symm.trans hd)
      rw [List.nil_append, put_singleton]
      refine filter_filesOfEntries_setEntry ?_
      rw [filter_entryFiles hnew]
      cases hlookup : es.lookup n with
      | none => rfl
      | some old => exact (filter_entryFiles (hold old hlookup)).symm
  | cons m d ih =>
      obtain ⟨entries, inner, rfl, hlookup, hinner⟩ := exists_entry_above hd
      have happend : base ++ (m :: d ++ [n]) = base ++ [m] ++ (d ++ [n]) := by simp
      rw [happend] at hnew hold
      have hsame := ih hinner hnew hold
      rw [List.cons_append, put_cons hlookup]
      refine filter_filesOfEntries_setEntry ?_
      have hdir : ((directory inner).put (d ++ [n]) new).isDirectory = true := by
        rcases d with _ | ⟨k, d⟩ <;> rfl
      have hdir' : (directory inner).isDirectory = true := rfl
      rw [hlookup, Option.map_some, Option.getD_some, entryFiles, entryFiles, hdir, hdir']
      split
      · exact hsame
      · rfl

/-! ## Growth -/

/-- The new tree is the old one and more.  Files whose names `keeps` leaves out may have other
contents, and may be new. -/
structure Grows (keeps : List String → Bool) (old new : Node) : Prop where
  directory : ∀ {names es}, old.get? names = some (directory es) →
    ∃ es', new.get? names = some (.directory es') ∧ ∀ admits,
      (filesOfEntries admits names es').filter (fun f => keeps f.names)
        = (filesOfEntries admits names es).filter fun f => keeps f.names
  file : ∀ {names content}, old.get? names = some (file content) →
    ∃ content', new.get? names = some (.file content') ∧ (keeps names = true → content' = content)
  link : ∀ {names target}, old.get? names = some (link target) →
    new.get? names = some (.link target)

variable {keeps : List String → Bool}

lemma Grows.refl (keeps : List String → Bool) (node : Node) : Grows keeps node node where
  directory h := ⟨_, h, fun _ => rfl⟩
  file h := ⟨_, h, fun _ => rfl⟩
  link h := h

lemma Grows.trans {mid : Node} (h : Grows keeps old mid) (h' : Grows keeps mid new) :
    Grows keeps old new where
  directory hold := by
    obtain ⟨es, hmid, hfiles⟩ := h.directory hold
    obtain ⟨es', hnew, hfiles'⟩ := h'.directory hmid
    exact ⟨es', hnew, fun admits => (hfiles' admits).trans (hfiles admits)⟩
  file hold := by
    obtain ⟨content, hmid, hsame⟩ := h.file hold
    obtain ⟨content', hnew, hsame'⟩ := h'.file hmid
    exact ⟨content', hnew, fun hkeeps => (hsame' hkeeps).trans (hsame hkeeps)⟩
  link hold := h'.link (h.link hold)

/-- **What becomes of a node** when another one is put below a directory, in the place of nothing or
as a file in the place of a file: it stays, or it is a directory above the place and has the other
one put into it, or it is the file that is replaced. -/
theorem get?_put_cases (hd : node.get? d = some (directory es))
    (hold : ∀ old, es.lookup n = some old → ∃ c c', old = .file c ∧ new = .file c')
    {names : List String} {x : Node} (hx : node.get? names = some x) :
    (node.put (d ++ [n]) new).get? names = some x ∨
      (∃ es' below, x = directory es' ∧ d = names ++ below ∧
        (directory es').get? below = some (directory es) ∧
        (node.put (d ++ [n]) new).get? names = some ((directory es').put (below ++ [n]) new)) ∨
      names = d ++ [n] ∧ ∃ c c', x = .file c ∧ new = .file c' ∧
        (node.put (d ++ [n]) new).get? names = some (.file c') := by
  have hput := get?_put hd n new names
  by_cases hbelow : d ++ [n] <+: names
  · -- a file is at the place, and nothing is below a file
    rw [if_pos hbelow] at hput
    obtain ⟨below, rfl⟩ := hbelow
    rw [get?_append, get?_concat hd] at hx
    obtain ⟨old, hlookup, hx⟩ := Option.bind_eq_some_iff.mp hx
    obtain ⟨c, c', rfl, rfl⟩ := hold old hlookup
    rcases below with _ | ⟨k, below⟩
    · rw [hput]
      exact .inr (.inr ⟨List.append_nil _, c, c', (Option.some.inj hx).symm, rfl, by simp⟩)
    · cases hx
  by_cases habove : names <+: d ++ [n]
  · rw [if_neg hbelow, if_pos habove, hx, Option.map_some] at hput
    rcases List.prefix_concat_iff.mp habove with rfl | ⟨below, rfl⟩
    · exact absurd List.prefix_rfl hbelow
    rw [get?_append, hx, Option.bind_some] at hd
    obtain ⟨es', rfl⟩ := exists_eq_directory hd
    rw [List.append_assoc, List.drop_left] at hput
    rw [List.append_assoc]
    exact .inr (.inl ⟨es', below, rfl, rfl, hd, hput⟩)
  · rw [if_neg hbelow, if_neg habove] at hput
    exact .inl (hput.trans hx)

/-- **Growth.**  A node is put below a directory, nothing that is kept is in it, and it takes the
place of nothing, or it is a file and takes the place of a file. -/
theorem grows_put (hd : node.get? d = some (directory es))
    (hnew : ∀ admits, (new.filesFrom admits (d ++ [n])).filter (fun f => keeps f.names) = [])
    (hold : ∀ old, es.lookup n = some old → ∃ c c', old = .file c ∧ new = .file c') :
    Grows keeps node (node.put (d ++ [n]) new) := by
  have hfile : ∀ content, new = .file content → keeps (d ++ [n]) = false := by
    rintro content rfl
    simpa [filesFrom] using hnew fun _ _ => true
  constructor
  case directory =>
    intro names es₀ hnames
    obtain hsame | ⟨_, below, hes, rfl, hget, hput⟩ | ⟨-, c, -, hc, -⟩ :=
      get?_put_cases hd hold hnames
    · exact ⟨es₀, hsame, fun _ => rfl⟩
    · obtain rfl := Node.directory.inj hes
      obtain ⟨es', hes'⟩ : ∃ es', (directory es₀).put (below ++ [n]) new = directory es' := by
        rcases below with _ | ⟨k, below⟩ <;> exact ⟨_, rfl⟩
      refine ⟨es', hput.trans (congrArg some hes'), fun admits => ?_⟩
      rw [List.append_assoc] at hnew hfile
      have hfilter : (((directory es₀).put (below ++ [n]) new).filesFrom admits names).filter
            (fun f => keeps f.names)
          = ((directory es₀).filesFrom admits names).filter fun f => keeps f.names := by
        refine filter_filesFrom_put hget (hnew admits) fun old hlookup => ?_
        obtain ⟨c, c', rfl, hc'⟩ := hold old hlookup
        simp [filesFrom, hfile c' hc']
      rw [hes'] at hfilter
      exact hfilter
    · cases hc
  case file =>
    intro names content hnames
    obtain hsame | ⟨_, _, hes, -⟩ | ⟨rfl, c, c', -, hnew', hput⟩ := get?_put_cases hd hold hnames
    · exact ⟨content, hsame, fun _ => rfl⟩
    · cases hes
    · exact ⟨c', hput, fun hkeeps => absurd hkeeps (by simp [hfile c' hnew'])⟩
  case link =>
    intro names target hnames
    obtain hsame | ⟨_, _, hes, -⟩ | ⟨-, c, -, hc, -⟩ := get?_put_cases hd hold hnames
    · exact hsame
    · cases hes
    · cases hc

end CodeDigest.Node
