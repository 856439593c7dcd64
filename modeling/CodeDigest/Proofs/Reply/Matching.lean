import CodeDigest.Proofs.Reply.Literals

/-!
# Which brackets are matched

A closing bracket matches an opening bracket of its kind when all that is opened between the two is
closed between them.  It matches nothing when the innermost bracket that is still open is of the
other kind, or when none is.  This module says so without a stack, and shows that it is what the
stack of a repair keeps track of.

* `Settled d bs` is about the brackets between two that match, the second of which is `d`.
* `Matched d bs` is about the brackets behind one that waits for `d`, and `unmatched` collects the
  opening brackets that wait in vain.
* `due_foldl_start`: what a repair owes is one closing bracket for each of these, innermost first.
-/

namespace CodeDigest.Reply

variable {c d : Char} {bs cs due xs : List Char} {r : Region}

/-! ## Brackets -/

/-- Whether a character is a bracket. -/
def isBracket (c : Char) : Bool := isOpener c || isCloser c

/-- The brackets of a text that stand outside string literals, in order. -/
def brackets (cs : List Char) : List Char := select (whenOutside isBracket) .outside cs

lemma isBracket_of_mem_select (h : c ∈ select (whenOutside isBracket) r cs) :
    isBracket c = true := by
  induction cs generalizing r with
  | nil => simp at h
  | cons x cs ih =>
      cases hx : whenOutside isBracket r x with
      | true =>
          rw [select_cons_of_pos hx, List.mem_cons] at h
          rcases h with rfl | h
          · exact (Bool.and_eq_true_iff.mp hx).2
          · exact ih h
      | false =>
          rw [select_cons_of_neg hx] at h
          exact ih h

/-! ## Matching -/

/-- Brackets that leave nothing open and do not close what stands in front of them and waits for
`d`: whatever is opened among them is closed by a bracket of its kind, with brackets of this sort
in between, and other closing brackets are of the wrong kind. -/
inductive Settled : Char → List Char → Prop
  | nil (d : Char) : Settled d []
  | stray {d c : Char} {bs : List Char} (closer : isCloser c = true) (other : c ≠ d)
      (rest : Settled d bs) : Settled d (c :: bs)
  | pair {d o e : Char} {inner bs : List Char} (opener : closerOf? o = some e)
      (between : Settled e inner) (rest : Settled d bs) : Settled d (o :: inner ++ e :: bs)

/-- Behind an opening bracket that waits for `d` stands the `d` that matches it. -/
def Matched (d : Char) (bs : List Char) : Prop :=
  ∃ inner rest, bs = inner ++ d :: rest ∧ Settled d inner

lemma Matched.here (d : Char) (bs : List Char) : Matched d (d :: bs) := ⟨[], bs, rfl, .nil d⟩

/-- A closing bracket of the wrong kind is passed over. -/
lemma Matched.behind_stray (h : Matched d bs) (hc : isCloser c = true) (hne : c ≠ d) :
    Matched d (c :: bs) := by
  obtain ⟨inner, rest, rfl, hinner⟩ := h
  exact ⟨c :: inner, rest, rfl, .stray hc hne hinner⟩

/-- Two brackets that match are passed over with what is between them. -/
lemma Matched.behind_pair {o e : Char} {inner : List Char} (h : Matched d bs)
    (ho : closerOf? o = some e) (hinner : Settled e inner) :
    Matched d (o :: (inner ++ e :: bs)) := by
  obtain ⟨before, rest, rfl, hbefore⟩ := h
  exact ⟨o :: inner ++ e :: before, rest, by simp, .pair ho hinner hbefore⟩

open Classical in
/-- The opening brackets among some brackets that no closing bracket matches, in order. -/
noncomputable def unmatched : List Char → List Char
  | [] => []
  | b :: bs =>
    match closerOf? b with
    | some d => if Matched d bs then unmatched bs else b :: unmatched bs
    | none => unmatched bs

lemma unmatched_cons_closer (h : closerOf? c = none) (bs : List Char) :
    unmatched (c :: bs) = unmatched bs := by simp [unmatched, h]

lemma unmatched_cons_matched (h : closerOf? c = some d) (hmatched : Matched d bs) :
    unmatched (c :: bs) = unmatched bs := by simp [unmatched, h, hmatched]

lemma unmatched_cons_unmatched (h : closerOf? c = some d) (hmatched : ¬Matched d bs) :
    unmatched (c :: bs) = c :: unmatched bs := by simp [unmatched, h, hmatched]

/-- Two brackets that match count for nothing, if what is between them does not. -/
lemma unmatched_enclosed {o e : Char} {inner : List Char} (ho : closerOf? o = some e)
    (hinner : Settled e inner) (hskip : ∀ ys, unmatched (inner ++ ys) = unmatched ys)
    (bs : List Char) : unmatched (o :: inner ++ e :: bs) = unmatched bs := by
  have hmatched : Matched e (inner ++ e :: bs) := ⟨inner, bs, rfl, hinner⟩
  rw [List.cons_append, unmatched_cons_matched ho hmatched, hskip,
    unmatched_cons_closer (closerOf?_of_isCloser (isCloser_of_closerOf ho))]

/-- Between two brackets that match, all that is opened is matched. -/
lemma unmatched_settled_append (h : Settled d xs) (ys : List Char) :
    unmatched (xs ++ ys) = unmatched ys := by
  induction h generalizing ys with
  | nil => rfl
  | stray closer _ _ ih =>
      rw [List.cons_append, unmatched_cons_closer (closerOf?_of_isCloser closer), ih]
  | @pair d o e inner bs opener between _ ihinner ih =>
      have hassoc : o :: inner ++ e :: bs ++ ys = o :: inner ++ e :: (bs ++ ys) :=
        List.append_assoc ..
      rw [hassoc, unmatched_enclosed opener between ihinner, ih]

/-! ## The stack -/

/-- The brackets that are due behind one more bracket. -/
def dueBehind (due : List Char) (b : Char) : List Char :=
  match closerOf? b with
  | some d => d :: due
  | none => if due.head? == some b then due.tail else due

lemma dueBehind_opener (h : closerOf? c = some d) (due : List Char) :
    dueBehind due c = d :: due := by simp [dueBehind, h]

lemma dueBehind_closer (h : isCloser c = true) (due : List Char) :
    dueBehind (c :: due) c = due := by simp [dueBehind, closerOf?_of_isCloser h]

lemma dueBehind_stray (h : isCloser c = true) (hne : due.head? ≠ some c) :
    dueBehind due c = due := by simp [dueBehind, closerOf?_of_isCloser h, hne]

/-- Two brackets that match leave the stack as it is, if what is between them does. -/
lemma foldl_dueBehind_enclosed {o e : Char} {inner : List Char} (ho : closerOf? o = some e)
    (hinner : inner.foldl dueBehind (e :: due) = e :: due) (bs : List Char) :
    (o :: inner ++ e :: bs).foldl dueBehind due = bs.foldl dueBehind due := by
  rw [List.foldl_append, List.foldl_cons, List.foldl_cons, dueBehind_opener ho, hinner,
    dueBehind_closer (isCloser_of_closerOf ho)]

/-- Between two brackets that match, the stack comes back to what it was. -/
lemma foldl_dueBehind_settled (h : Settled d bs) (due : List Char) :
    bs.foldl dueBehind (d :: due) = d :: due := by
  induction h generalizing due with
  | nil => rfl
  | @stray d c bs closer other _ ih =>
      have hstray : dueBehind (d :: due) c = d :: due :=
        dueBehind_stray closer (by simpa using other.symm)
      rw [List.foldl_cons, hstray, ih]
  | pair opener _ _ ihinner ih => rw [foldl_dueBehind_enclosed opener (ihinner _), ih]

/-- The closing brackets for some opening brackets, in the order in which they have to stand. -/
def closersOf (os : List Char) : List Char := (os.filterMap closerOf?).reverse

lemma closersOf_cons (h : closerOf? c = some d) (os : List Char) :
    closersOf (c :: os) = closersOf os ++ [d] := by simp [closersOf, h]

/-- **What is due is what waits in vain**, on top of what was due before, as long as the innermost
bracket that was open before is not matched. -/
theorem foldl_dueBehind (hbs : ∀ b ∈ bs, isBracket b = true)
    (hdue : ∀ d ∈ due.head?, ¬Matched d bs) :
    bs.foldl dueBehind due = closersOf (unmatched bs) ++ due := by
  -- a bracket that is matched leads on to what stands behind its match
  induction hn : bs.length using Nat.strong_induction_on generalizing bs due with
  | _ n ih =>
      subst hn
      rcases bs with _ | ⟨b, bs⟩
      · rfl
      obtain ⟨hb, hrest⟩ := List.forall_mem_cons.mp hbs
      cases hopen : closerOf? b with
      | some e =>
          by_cases hmatched : Matched e bs
          · obtain ⟨inner, rest, rfl, hinner⟩ := hmatched
            have hvain : ∀ d ∈ due.head?, ¬Matched d rest := fun d hd hmatched =>
              hdue d hd (hmatched.behind_pair hopen hinner)
            rw [← List.cons_append,
              foldl_dueBehind_enclosed hopen (foldl_dueBehind_settled hinner due),
              unmatched_enclosed hopen hinner (unmatched_settled_append hinner)]
            refine ih rest.length ?_ (fun x hx => hrest x (by simp [hx])) hvain rfl
            simp only [List.length_cons, List.length_append]
            omega
          · have hvain : ∀ d ∈ (e :: due).head?, ¬Matched d bs := by simpa using hmatched
            rw [List.foldl_cons, dueBehind_opener hopen, unmatched_cons_unmatched hopen hmatched,
              closersOf_cons hopen, List.append_assoc]
            exact ih bs.length (by simp) hrest hvain rfl
      | none =>
          have hclose : isCloser b = true := by simpa [isBracket, isOpener, hopen] using hb
          have hhead : due.head? ≠ some b := fun heq => hdue b heq (.here b bs)
          have hvain : ∀ d ∈ due.head?, ¬Matched d bs := by
            intro d hd hmatched
            have hne : b ≠ d := by
              rintro rfl
              exact hhead hd
            exact hdue d hd (hmatched.behind_stray hclose hne)
          rw [List.foldl_cons, dueBehind_stray hclose hhead, unmatched_cons_closer hopen]
          exact ih bs.length (by simp) hrest hvain rfl

/-! ## Repair -/

/-- A step changes what is due at a bracket outside string literals. -/
lemma due_step (r : Repair) (c : Char) : (r.step c).due
    = if whenOutside isBracket r.region c then dueBehind r.due c else r.due := by
  obtain ⟨copied, due, region⟩ := r
  cases region with
  | inside | escaped => rfl
  | outside =>
      cases hclose : isCloser c with
      | true => simp [Repair.step, isBracket, hclose, dueBehind, closerOf?_of_isCloser hclose]
      | false =>
          cases hopen : closerOf? c <;>
            simp [Repair.step, isBracket, isOpener, hclose, hopen, dueBehind]

lemma due_foldl (r : Repair) (cs : List Char) : (cs.foldl Repair.step r).due
    = (select (whenOutside isBracket) r.region cs).foldl dueBehind r.due := by
  induction cs generalizing r with
  | nil => rfl
  | cons c cs ih =>
      rw [List.foldl_cons, ih, region_step, due_step]
      cases hc : whenOutside isBracket r.region c with
      | true => rw [select_cons_of_pos hc, List.foldl_cons, if_pos rfl]
      | false => rw [select_cons_of_neg hc, if_neg Bool.false_ne_true]

/-- **What a repair owes** is what closes the unmatched brackets, innermost first. -/
theorem due_foldl_start (cs : List Char) :
    (cs.foldl Repair.step .start).due = closersOf (unmatched (brackets cs)) := by
  have hall : ∀ b ∈ brackets cs, isBracket b = true := fun b hb => isBracket_of_mem_select hb
  have hstack : (brackets cs).foldl dueBehind [] = closersOf (unmatched (brackets cs)) ++ [] :=
    foldl_dueBehind hall (by simp)
  rw [List.append_nil] at hstack
  rw [due_foldl]
  exact hstack

/-- A bracket that stays open keeps the bracket around it open. -/
example : closersOf (unmatched (brackets "[\x7b\"]\": 1]".toList)) = ['}', ']'] := by
  rw [← due_foldl_start]
  decide

end CodeDigest.Reply
