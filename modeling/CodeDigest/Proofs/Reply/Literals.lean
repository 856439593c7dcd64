import CodeDigest.Proofs.Reply.Tally

/-!
# String literals in any text

A string literal begins at a quotation mark and ends at the next one that is not escaped, in a JSON
text and in any other.  Repair goes through three regions to find these places, one character at a
time; this module says what the regions are without going through the text.

* `Complete` is a text in which every string literal ends, `EndsInLiteral` one that breaks off in a
  string literal.
* `regionBehind_eq_iff`: the region behind a text is `outside`, `inside` or `escaped` just when the
  text is complete, breaks off in a string literal, or does so behind a backslash.
* `select` collects the characters of a text that count where they stand, and `literals` those of
  its string literals.
-/

namespace CodeDigest.Reply

variable {c : Char} {cs ds xs ys : List Char} {p : Region → Char → Bool} {r : Region}

/-! ## What a string literal is -/

/-- What may stand between the quotation marks of a string literal. -/
inductive LiteralBody : List Char → Prop
  | nil : LiteralBody []
  | plain {c : Char} {cs : List Char} (quote : c ≠ '"') (backslash : c ≠ '\\')
      (rest : LiteralBody cs) : LiteralBody (c :: cs)
  | escape (c : Char) {cs : List Char} (rest : LiteralBody cs) : LiteralBody ('\\' :: c :: cs)

/-- A text in which every string literal ends. -/
inductive Complete : List Char → Prop
  | nil : Complete []
  | plain {c : Char} {cs : List Char} (quote : c ≠ '"') (rest : Complete cs) : Complete (c :: cs)
  | literal {body cs : List Char} (inner : LiteralBody body) (rest : Complete cs) :
      Complete ('"' :: body ++ '"' :: cs)

/-- A text that breaks off in a string literal, but not behind a backslash that escapes nothing. -/
def EndsInLiteral (cs : List Char) : Prop :=
  ∃ front body, cs = front ++ '"' :: body ∧ Complete front ∧ LiteralBody body

lemma LiteralBody.append (hx : LiteralBody xs) (hy : LiteralBody ys) : LiteralBody (xs ++ ys) := by
  induction hx with
  | nil => exact hy
  | plain quote backslash _ ih => exact .plain quote backslash ih
  | escape c _ ih => exact .escape c ih

lemma Complete.append (hx : Complete xs) (hy : Complete ys) : Complete (xs ++ ys) := by
  induction hx with
  | nil => exact hy
  | plain quote _ ih => exact .plain quote ih
  | @literal body cs inner _ ih =>
      rw [List.append_assoc, List.cons_append]
      exact .literal inner ih

lemma LiteralBody.stays (h : LiteralBody cs) : Stays cs := by
  induction h with
  | nil => exact .nil
  | plain quote backslash _ ih => exact (Stays.plain quote backslash).append ih
  | escape c _ ih => exact (Stays.escape c).append ih

/-- A string literal goes on with whatever may stand in it. -/
lemma EndsInLiteral.append (hx : EndsInLiteral xs) (hy : LiteralBody ys) :
    EndsInLiteral (xs ++ ys) := by
  obtain ⟨front, body, rfl, hfront, hbody⟩ := hx
  exact ⟨front, body ++ ys, by simp, hfront, hbody.append hy⟩

/-- A string literal ends at the next quotation mark. -/
lemma EndsInLiteral.complete (h : EndsInLiteral cs) : Complete (cs ++ ['"']) := by
  obtain ⟨front, body, rfl, hfront, hbody⟩ := h
  have hliteral : Complete ('"' :: body ++ ['"']) := .literal hbody .nil
  simpa using hfront.append hliteral

/-! ## Regions -/

/-- Where a text ends with respect to string literals. -/
def regionBehind (cs : List Char) : Region := cs.foldl Region.next .outside

lemma regionBehind_concat (cs : List Char) (c : Char) :
    regionBehind (cs ++ [c]) = (regionBehind cs).next c := List.foldl_concat ..

/-- What it means for a text to end in a region. -/
def Region.Describes : Region → List Char → Prop
  | .outside, cs => Complete cs
  | .inside, cs => EndsInLiteral cs
  | .escaped, cs => ∃ front, cs = front ++ ['\\'] ∧ EndsInLiteral front

/-- One more character. -/
lemma Region.Describes.next (h : r.Describes cs) (c : Char) : (r.next c).Describes (cs ++ [c]) := by
  cases r with
  | outside =>
      by_cases hquote : c = '"'
      · subst hquote
        exact ⟨cs, [], rfl, h, .nil⟩
      · rw [next_of_ne_quote hquote]
        exact Complete.append h (.plain hquote .nil)
  | inside =>
      by_cases hbackslash : c = '\\'
      · subst hbackslash
        exact ⟨cs, rfl, h⟩
      by_cases hquote : c = '"'
      · subst hquote
        exact h.complete
      · simp only [Region.next, beq_iff_eq, hbackslash, hquote, if_false]
        exact EndsInLiteral.append h (.plain hquote hbackslash .nil)
  | escaped =>
      obtain ⟨front, rfl, hfront⟩ := h
      have hescape := hfront.append (.escape c .nil)
      simpa [Region.next, Region.Describes] using hescape

lemma describes_regionBehind (cs : List Char) : (regionBehind cs).Describes cs := by
  induction cs using List.reverseRecOn with
  | nil => exact Complete.nil
  | append_singleton cs c ih =>
      rw [regionBehind_concat]
      exact ih.next c

lemma Complete.regionBehind_eq (h : Complete cs) : regionBehind cs = .outside := by
  unfold regionBehind
  induction h with
  | nil => rfl
  | plain quote _ ih => rw [List.foldl_cons, next_of_ne_quote quote, ih]
  | literal inner _ ih =>
      have hopen : Region.next .outside '"' = .inside := rfl
      have hclose : Region.next .inside '"' = .outside := rfl
      rw [List.foldl_append, List.foldl_cons, List.foldl_cons, hopen, inner.stays.region, hclose,
        ih]

lemma EndsInLiteral.regionBehind_eq (h : EndsInLiteral cs) : regionBehind cs = .inside := by
  obtain ⟨front, body, rfl, hfront, hbody⟩ := h
  have hopen : Region.next .outside '"' = .inside := rfl
  have hout : front.foldl Region.next .outside = .outside := hfront.regionBehind_eq
  rw [regionBehind, List.foldl_append, List.foldl_cons, hout, hopen, hbody.stays.region]

/-- **The region behind a text** says where the text ends. -/
theorem regionBehind_eq_iff : regionBehind cs = r ↔ r.Describes cs := by
  constructor
  · rintro rfl
    exact describes_regionBehind cs
  · intro h
    cases r with
    | outside => exact h.regionBehind_eq
    | inside => exact h.regionBehind_eq
    | escaped =>
        obtain ⟨front, rfl, hfront⟩ := h
        rw [regionBehind_concat, hfront.regionBehind_eq]
        rfl

/-! ## Characters where they stand -/

/-- The characters of a text that count, each where it stands. -/
def select (p : Region → Char → Bool) : Region → List Char → List Char
  | _, [] => []
  | r, c :: cs => if p r c then c :: select p (r.next c) cs else select p (r.next c) cs

@[simp] lemma select_nil (p : Region → Char → Bool) (r : Region) : select p r [] = [] := rfl

lemma select_cons_of_pos (h : p r c = true) (cs : List Char) :
    select p r (c :: cs) = c :: select p (r.next c) cs := by simp [select, h]

lemma select_cons_of_neg (h : p r c = false) (cs : List Char) :
    select p r (c :: cs) = select p (r.next c) cs := by simp [select, h]

lemma select_append (p : Region → Char → Bool) (r : Region) (xs ys : List Char) :
    select p r (xs ++ ys) = select p r xs ++ select p (xs.foldl Region.next r) ys := by
  induction xs generalizing r with
  | nil => rfl
  | cons x xs ih =>
      rw [List.cons_append, List.foldl_cons]
      cases hx : p r x with
      | true => rw [select_cons_of_pos hx, select_cons_of_pos hx, ih, List.cons_append]
      | false => rw [select_cons_of_neg hx, select_cons_of_neg hx, ih]

/-- Whether a character belongs to a string literal, quotation marks included. -/
def inLiteral (r : Region) (c : Char) : Bool := r != .outside || c == '"'

/-- The string literals of a text, with their quotation marks, in a row. -/
def literals (cs : List Char) : List Char := select inLiteral .outside cs

lemma select_inLiteral_of_ne_quote (h : ∀ c ∈ cs, c ≠ '"') :
    select inLiteral .outside cs = [] := by
  induction cs with
  | nil => rfl
  | cons c cs ih =>
      obtain ⟨hc, hcs⟩ := List.forall_mem_cons.mp h
      have hout : inLiteral .outside c = false := by simpa [inLiteral] using hc
      rw [select_cons_of_neg hout, next_of_ne_quote hc, ih hcs]

end CodeDigest.Reply
