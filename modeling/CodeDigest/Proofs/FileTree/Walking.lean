import CodeDigest.FileTree
import CodeDigest.Proofs.FileTree.Growth
import CodeDigest.Proofs.Text.Splitting

/-!
# Where paths lead

A walk goes from directory to directory, one piece of a path at a time, and through links.  `Leads`
has one constructor for each thing that a step can find, and a walk arrives at a place if and only
if its pieces lead there (`walk_eq_ok_iff`); what holds of every way to a place is then proved by
induction on the way.

* `Leads.of_grows`: in a tree that has grown the same pieces lead to the same place, and what was
  missing there may be found.
* `walk_append`: behind a directory a walk goes on as from that directory.
* `walk_below`: names that lead down to a file through directories, and are names that a path can
  have, lead there when they are walked.
-/

namespace CodeDigest

open Node

/-- The names from the root that a place has. -/
def Place.names : Place → List String
  | .at names _ => names
  | .missing d n => d ++ [n]

/-- A name that stands for itself in a path. -/
structure Path.IsName (name : String) : Prop where
  nonempty : name ≠ ""
  not_here : name ≠ "."
  not_up : name ≠ ".."
  no_slash : '/' ∉ name.toList

namespace FileTree

variable {root old new node : Node} {follow : Bool} {links : Nat} {name target : String}
  {reached names rest xs ys : List String} {place : Place} {es : List (String × Node)}
  {content : ByteArray} {keeps : List String → Bool}

/-! ## Steps -/

/-- A piece of a path that stands for an entry of a directory, and is not too long. -/
structure IsEntryName (name : String) : Prop where
  nonempty : name ≠ ""
  not_here : name ≠ "."
  not_up : name ≠ ".."
  short : name.utf8ByteSize ≤ nameLimit

/-- Where the target of a link starts. -/
def linkStart (reached : List String) (target : String) : List String :=
  if Path.isAbsolute target then [] else reached

lemma walk_skip (h : name = "" ∨ name = ".") :
    walk root follow links reached (name :: rest) = walk root follow links reached rest := by
  have hskip : (name.isEmpty || name == ".") = true := by
    rcases h with rfl | rfl <;> rfl
  rw [walk, if_pos hskip]

lemma walk_up : walk root follow links reached (".." :: rest)
    = walk root follow links reached.dropLast rest := by
  rw [walk, if_neg (by decide), if_pos (by decide)]

/-- A piece that stands for an entry is looked up. -/
lemma walk_entry (h : IsEntryName name) : walk root follow links reached (name :: rest)
    = match root.get? (reached ++ [name]) with
      | none => if rest.isEmpty then .ok (.missing reached name) else .error .notFound
      | some (.directory _) => walk root follow links (reached ++ [name]) rest
      | some (.file content) =>
        if rest.isEmpty then .ok (.at (reached ++ [name]) (.file content)) else .error .notDirectory
      | some (.link target) =>
        if rest.isEmpty && !follow then .ok (.at (reached ++ [name]) (.link target))
        else
          match links with
          | 0 => .error .tooManyLinks
          | links + 1 =>
            walk root follow links (linkStart reached target) (pieces '/' target ++ rest) := by
  have hskip : ¬(name.isEmpty || name == ".") = true := by simp [h.nonempty, h.not_here]
  have hup : ¬(name == "..") = true := by simp [h.not_up]
  rw [walk, if_neg hskip, if_neg hup, if_neg (Nat.not_lt.mpr h.short)]
  rfl

lemma walk_directory (h : IsEntryName name)
    (hget : root.get? (reached ++ [name]) = some (.directory es)) :
    walk root follow links reached (name :: rest)
      = walk root follow links (reached ++ [name]) rest := by
  rw [walk_entry h, hget]

lemma walk_link (h : IsEntryName name) (hget : root.get? (reached ++ [name]) = some (.link target))
    (hon : rest ≠ [] ∨ follow = true) : walk root follow (links + 1) reached (name :: rest)
      = walk root follow links (linkStart reached target) (pieces '/' target ++ rest) := by
  have hstop : ¬(rest.isEmpty && !follow) = true := by
    rcases hon with hrest | rfl
    · simp [hrest]
    · simp
  rw [walk_entry h, hget]
  simp only [if_neg hstop]

/-- Pieces that lead to a place, from the directory that has been reached and with the links that
are left. -/
inductive Leads (root : Node) (follow : Bool) : Nat → List String → List String → Place → Prop where
  | here {l : Nat} {d : List String} {node : Node} (get : root.get? d = some node) :
      Leads root follow l d [] (.at d node)
  | skip {l : Nat} {d xs : List String} {n : String} {p : Place} (unnamed : n = "" ∨ n = ".")
      (on : Leads root follow l d xs p) : Leads root follow l d (n :: xs) p
  | up {l : Nat} {d xs : List String} {p : Place} (on : Leads root follow l d.dropLast xs p) :
      Leads root follow l d (".." :: xs) p
  | missing {l : Nat} {d : List String} {n : String} (entry : IsEntryName n)
      (get : root.get? (d ++ [n]) = none) : Leads root follow l d [n] (.missing d n)
  | directory {l : Nat} {d xs : List String} {n : String} {p : Place} {es : List (String × Node)}
      (entry : IsEntryName n) (get : root.get? (d ++ [n]) = some (.directory es))
      (on : Leads root follow l (d ++ [n]) xs p) : Leads root follow l d (n :: xs) p
  | file {l : Nat} {d : List String} {n : String} {content : ByteArray} (entry : IsEntryName n)
      (get : root.get? (d ++ [n]) = some (.file content)) :
      Leads root follow l d [n] (.at (d ++ [n]) (.file content))
  /-- A link at the end that is not to be followed. -/
  | stop {l : Nat} {d : List String} {n target : String} (entry : IsEntryName n)
      (get : root.get? (d ++ [n]) = some (.link target)) (unfollowed : follow = false) :
      Leads root follow l d [n] (.at (d ++ [n]) (.link target))
  | link {l : Nat} {d xs : List String} {n target : String} {p : Place} (entry : IsEntryName n)
      (get : root.get? (d ++ [n]) = some (.link target)) (followed : xs ≠ [] ∨ follow = true)
      (on : Leads root follow l (linkStart d target) (pieces '/' target ++ xs) p) :
      Leads root follow (l + 1) d (n :: xs) p

lemma isEntryName_of_not (hskip : ¬(name.isEmpty || name == ".") = true)
    (hup : ¬(name == "..") = true)
    (hshort : ¬nameLimit < name.utf8ByteSize) : IsEntryName name := by
  simp only [Bool.or_eq_true, not_or, beq_iff_eq, String.isEmpty_iff] at hskip hup
  exact ⟨hskip.1, hskip.2, hup, Nat.not_lt.mp hshort⟩

/-- **A walk arrives at a place if and only if its pieces lead there.** -/
theorem walk_eq_ok_iff :
    walk root follow links reached names = .ok place
      ↔ Leads root follow links reached names place := by
  constructor
  · intro h
    fun_induction walk root follow links reached names with
    | case1 links reached node hget =>
        obtain rfl := Except.ok.inj h
        exact .here hget
    | case2 => cases h
    | case3 links reached name rest hskip ih =>
        have hunnamed : name = "" ∨ name = "." := by simpa using hskip
        exact .skip hunnamed (ih h)
    | case4 links reached name rest hskip hup ih =>
        obtain rfl : name = ".." := by simpa using hup
        exact .up (ih h)
    | case5 => cases h
    | case6 links reached name rest hskip hup hshort hget hrest =>
        obtain rfl := List.isEmpty_iff.mp hrest
        obtain rfl := Except.ok.inj h
        exact .missing (isEntryName_of_not hskip hup hshort) hget
    | case7 => cases h
    | case8 links reached name rest hskip hup hshort es hget ih =>
        exact .directory (isEntryName_of_not hskip hup hshort) hget (ih h)
    | case9 links reached name rest hskip hup hshort content hget hrest =>
        obtain rfl := List.isEmpty_iff.mp hrest
        obtain rfl := Except.ok.inj h
        exact .file (isEntryName_of_not hskip hup hshort) hget
    | case10 => cases h
    | case11 links reached name rest hskip hup hshort target hget hstop =>
        simp only [Bool.and_eq_true, List.isEmpty_iff, Bool.not_eq_true'] at hstop
        obtain ⟨rfl, hfollow⟩ := hstop
        obtain rfl := Except.ok.inj h
        exact .stop (isEntryName_of_not hskip hup hshort) hget hfollow
    | case12 => cases h
    | case13 reached name rest hskip hup hshort target hget hstop links ih =>
        have hon : rest ≠ [] ∨ follow = true := by
          by_contra hnot
          simp only [not_or, not_not, Bool.not_eq_true] at hnot
          simp [hnot.1, hnot.2] at hstop
        exact .link (isEntryName_of_not hskip hup hshort) hget hon (ih h)
  · intro h
    induction h with
    | here hget => rw [walk, hget]
    | skip hunnamed _ ih => rw [walk_skip hunnamed, ih]
    | up _ ih => rw [walk_up, ih]
    | missing hname hget => simp [walk_entry hname, hget]
    | directory hname hget _ ih => rw [walk_directory hname hget, ih]
    | file hname hget => simp [walk_entry hname, hget]
    | stop hname hget hfollow => simp [walk_entry hname, hget, hfollow]
    | link hname hget hon _ ih => rw [walk_link hname hget hon, ih]

/-! ## Ways -/

lemma Leads.get? (h : Leads root follow links reached xs (.at names node)) :
    root.get? names = some node := by
  generalize hplace : Place.at names node = place at h
  induction h with
  | here hget =>
      cases hplace
      exact hget
  | skip _ _ ih => exact ih hplace
  | up _ ih => exact ih hplace
  | missing _ _ => cases hplace
  | directory _ _ _ ih => exact ih hplace
  | file _ hget =>
      cases hplace
      exact hget
  | stop _ hget _ =>
      cases hplace
      exact hget
  | link _ _ _ _ ih => exact ih hplace

/-- Where a directory is, the directory above it is, and so is the root. -/
lemma exists_directory_dropLast (h : root.get? reached = some (.directory es)) :
    ∃ es, root.get? reached.dropLast = some (.directory es) := by
  rcases List.eq_nil_or_concat' reached with rfl | ⟨above, name, rfl⟩
  · exact ⟨es, h⟩
  · rw [List.dropLast_concat]
    exact exists_directory_above (List.cons_ne_nil name []) h

lemma exists_directory_linkStart (h : root.get? reached = some (.directory es)) (target : String) :
    ∃ es, root.get? (linkStart reached target) = some (.directory es) := by
  unfold linkStart
  split
  · rcases reached with _ | ⟨name, reached⟩
    · exact ⟨es, h⟩
    · rw [← List.nil_append (name :: reached)] at h
      exact exists_directory_above (List.cons_ne_nil name reached) h
  · exact ⟨es, h⟩

/-- What is missing is missing in a directory. -/
lemma Leads.of_missing {d : List String}
    (h : Leads root follow links reached xs (.missing d name))
    (hreached : ∃ es, root.get? reached = some (.directory es)) :
    ∃ es, root.get? d = some (.directory es) ∧ es.lookup name = none := by
  generalize hplace : Place.missing d name = place at h
  induction h with
  | here _ => cases hplace
  | skip _ _ ih => exact ih hreached hplace
  | up _ ih =>
      obtain ⟨es, hes⟩ := hreached
      exact ih (exists_directory_dropLast hes) hplace
  | missing _ hget =>
      cases hplace
      obtain ⟨es, hes⟩ := hreached
      exact ⟨es, hes, by rw [← get?_concat hes, hget]⟩
  | directory _ hget _ ih => exact ih ⟨_, hget⟩ hplace
  | file _ _ => cases hplace
  | stop _ _ _ => cases hplace
  | link _ _ _ _ ih =>
      obtain ⟨es, hes⟩ := hreached
      exact ih (exists_directory_linkStart hes _) hplace

/-- **In a tree that has grown the same pieces lead to the same place.**  What was missing there is
found if it is there now and is no link. -/
theorem Leads.of_grows (hgrows : Grows keeps old new) (h : Leads old follow links reached xs place)
    (hnode : new.get? place.names = some node)
    (hlink : ∀ d n, place = .missing d n → ∀ target, node ≠ .link target) :
    Leads new follow links reached xs (.at place.names node) := by
  induction h with
  | here _ => exact .here hnode
  | skip hunnamed _ ih => exact .skip hunnamed (ih hnode hlink)
  | up _ ih => exact .up (ih hnode hlink)
  | missing hname _ =>
      cases node with
      | directory es => exact .directory hname hnode (.here hnode)
      | file content => exact .file hname hnode
      | link target => exact absurd rfl (hlink _ _ rfl target)
  | directory hname hget _ ih =>
      obtain ⟨es', hget', -⟩ := hgrows.directory hget
      exact .directory hname hget' (ih hnode hlink)
  | file hname hget =>
      obtain ⟨content', hget', -⟩ := hgrows.file hget
      obtain rfl := Option.some.inj (hget'.symm.trans hnode)
      exact .file hname hget'
  | stop hname hget hfollow =>
      obtain rfl := Option.some.inj ((hgrows.link hget).symm.trans hnode)
      exact .stop hname (hgrows.link hget) hfollow
  | link hname hget hon _ ih => exact .link hname (hgrows.link hget) hon (ih hnode hlink)

/-- Behind a directory a walk goes on as from that directory, with the links that are left. -/
theorem walk_append (h : Leads root true links reached xs (.at names (.directory es))) :
    ∃ left, ∀ ys, walk root true links reached (xs ++ ys) = walk root true left names ys := by
  generalize hplace : Place.at names (.directory es) = place at h
  induction h with
  | @here links _ _ _ =>
      cases hplace
      exact ⟨links, fun _ => rfl⟩
  | skip hunnamed _ ih =>
      obtain ⟨left, hleft⟩ := ih hplace
      exact ⟨left, fun ys => by rw [List.cons_append, walk_skip hunnamed, hleft]⟩
  | up _ ih =>
      obtain ⟨left, hleft⟩ := ih hplace
      exact ⟨left, fun ys => by rw [List.cons_append, walk_up, hleft]⟩
  | missing _ _ => cases hplace
  | directory hname hget _ ih =>
      obtain ⟨left, hleft⟩ := ih hplace
      exact ⟨left, fun ys => by rw [List.cons_append, walk_directory hname hget, hleft]⟩
  | file _ _ => cases hplace
  | stop _ _ _ => cases hplace
  | link hname hget _ _ ih =>
      obtain ⟨left, hleft⟩ := ih hplace
      refine ⟨left, fun ys => ?_⟩
      rw [List.cons_append, walk_link hname hget (.inr rfl), ← List.append_assoc, hleft]

/-- What is missing is missing whether or not a link at the end would be followed. -/
lemma Leads.followed {d : List String}
    (h : Leads root false links reached xs (.missing d name)) :
    Leads root true links reached xs (.missing d name) := by
  generalize hplace : Place.missing d name = place at h ⊢
  induction h with
  | here _ => cases hplace
  | skip hunnamed _ ih => exact .skip hunnamed (ih hplace)
  | up _ ih => exact .up (ih hplace)
  | missing hname hget => exact .missing hname hget
  | directory hname hget _ ih => exact .directory hname hget (ih hplace)
  | file _ _ => cases hplace
  | stop _ _ _ => cases hplace
  | link hname hget _ _ ih => exact .link hname hget (.inr rfl) (ih hplace)

/-- What leads to a directory leads to something when a link at the end is not followed: to that
directory or to a link. -/
lemma Leads.unfollowed (h : Leads root true links reached xs (.at names (.directory es))) :
    ∃ names' node, Leads root false links reached xs (.at names' node) := by
  generalize hplace : Place.at names (.directory es) = place at h
  induction h with
  | here hget => exact ⟨_, _, .here hget⟩
  | skip hunnamed _ ih =>
      obtain ⟨names', node, hleads⟩ := ih hplace
      exact ⟨names', node, .skip hunnamed hleads⟩
  | up _ ih =>
      obtain ⟨names', node, hleads⟩ := ih hplace
      exact ⟨names', node, .up hleads⟩
  | missing _ _ => cases hplace
  | directory hname hget _ ih =>
      obtain ⟨names', node, hleads⟩ := ih hplace
      exact ⟨names', node, .directory hname hget hleads⟩
  | file _ _ => cases hplace
  | stop _ _ _ => cases hplace
  | @link _ _ xs _ _ _ hname hget _ _ ih =>
      rcases eq_or_ne xs [] with rfl | hne
      · exact ⟨_, _, .stop hname hget rfl⟩
      · obtain ⟨names', node, hleads⟩ := ih hplace
        exact ⟨names', node, .link hname hget (.inl hne) hleads⟩

/-! ### Slashes at the end -/

/-- Slashes behind a directory make no difference. -/
lemma Leads.append_blanks (h : Leads root true links reached xs (.at names (.directory es)))
    (n : ℕ) :
    Leads root true links reached (xs ++ List.replicate n "") (.at names (.directory es)) := by
  obtain ⟨left, hleft⟩ := walk_append h
  rw [← walk_eq_ok_iff, hleft, walk_eq_ok_iff]
  induction n with
  | zero => exact .here h.get?
  | succ n ih => exact .skip (.inl rfl) ih

/-- What leads to a directory with slashes at the end leads there without them. -/
lemma Leads.without_blanks {n : ℕ} (h : Leads root true links reached (xs ++ List.replicate n "")
    (.at names (.directory es))) :
    Leads root true links reached xs (.at names (.directory es)) := by
  generalize hzs : xs ++ List.replicate n "" = zs at h
  generalize hplace : Place.at names (.directory es) = place at h ⊢
  -- where `xs` is at its end all that is left to walk is blank
  have hblank : ∀ {n : ℕ} {name : String} {rest}, [] ++ List.replicate n "" = name :: rest →
      name = "" ∧ ∃ m, [] ++ List.replicate m "" = rest := by
    intro n name rest heq
    rcases n with _ | n
    · cases heq
    · obtain ⟨rfl, rfl⟩ := List.cons.inj heq
      exact ⟨rfl, n, rfl⟩
  induction h generalizing xs n with
  | here hget =>
      obtain ⟨rfl, -⟩ := List.append_eq_nil_iff.mp hzs
      exact .here hget
  | skip hunnamed _ ih =>
      rcases xs with _ | ⟨x, xs⟩
      · obtain ⟨-, m, hm⟩ := hblank hzs
        exact ih hm hplace
      · obtain ⟨rfl, hrest⟩ := List.cons.inj hzs
        exact .skip hunnamed (ih hrest hplace)
  | up _ ih =>
      rcases xs with _ | ⟨x, xs⟩
      · exact absurd (hblank hzs).1 (by decide)
      · obtain ⟨rfl, hrest⟩ := List.cons.inj hzs
        exact .up (ih hrest hplace)
  | missing _ _ => cases hplace
  | directory hname hget _ ih =>
      rcases xs with _ | ⟨x, xs⟩
      · exact absurd (hblank hzs).1 hname.nonempty
      · obtain ⟨rfl, hrest⟩ := List.cons.inj hzs
        exact .directory hname hget (ih hrest hplace)
  | file _ _ => cases hplace
  | stop _ _ _ => cases hplace
  | link hname hget _ _ ih =>
      rcases xs with _ | ⟨x, xs⟩
      · exact absurd (hblank hzs).1 hname.nonempty
      · obtain ⟨rfl, hrest⟩ := List.cons.inj hzs
        refine .link hname hget (.inr rfl) (ih (n := n) ?_ hplace)
        rw [List.append_assoc]
        exact congrArg _ hrest

/-! ### Down to a file -/

/-- **Names that lead down to a file** are walked to it, or one of them is too long. -/
theorem walk_below {below : List String} (hne : below ≠ []) (hnames : ∀ n ∈ below, Path.IsName n)
    (hget : root.get? (names ++ below) = some (.file content)) :
    walk root follow links names below
      = if ∀ n ∈ below, n.utf8ByteSize ≤ nameLimit then .ok (.at (names ++ below) (.file content))
        else .error .nameTooLong := by
  induction below generalizing names with
  | nil => exact absurd rfl hne
  | cons n below ih =>
      obtain ⟨hn, hbelow⟩ := List.forall_mem_cons.mp hnames
      by_cases hshort : n.utf8ByteSize ≤ nameLimit
      · have hentry : IsEntryName n := ⟨hn.nonempty, hn.not_here, hn.not_up, hshort⟩
        rcases eq_or_ne below [] with rfl | hne'
        · simp [walk_entry hentry, hget, hshort]
        · rw [← List.singleton_append, ← List.append_assoc] at hget
          obtain ⟨es, hes⟩ := exists_directory_above hne' hget
          rw [walk_directory hentry hes, ih hne' hbelow hget]
          simp [hshort]
      · have hlong : nameLimit < n.utf8ByteSize := Nat.not_le.mp hshort
        simp [walk, hn.nonempty, hn.not_here, hn.not_up, hlong, hshort]

end FileTree

end CodeDigest
