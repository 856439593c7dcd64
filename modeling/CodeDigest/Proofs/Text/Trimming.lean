import Mathlib.Data.List.DropRight
import CodeDigest.Text.Blank

/-!
# Trimming

What trimming does to texts in a row.  Trimming the end looks at the last text that does not vanish
(`trimEnd_append`, `trimEnd_append_blanks`) and does not interfere with what is dropped in front
(`dropWhile_trimEnd`), and a text that `EndsSolid` is not touched.  What is left is `Tidy`: no blank
stands at either end (`tidy_trim`); when anything is left, it is `Told`.

So that a property of letters and digits can be checked for one after the other,
`toNat_lt_of_isAlphanum` bounds them.
-/

namespace CodeDigest

namespace Text

variable {c : Char} {xs ys cs : List Char}

lemma trimEnd_prefix (cs : List Char) : trimEnd cs <+: cs := List.rdropWhile_prefix isBlank cs

@[simp] lemma trimEnd_trimEnd (cs : List Char) : trimEnd (trimEnd cs) = trimEnd cs :=
  List.rdropWhile_idempotent isBlank cs

lemma trimEnd_append (h : trimEnd ys ≠ []) : trimEnd (xs ++ ys) = xs ++ trimEnd ys := by
  have hne : (ys.reverse.dropWhile isBlank).isEmpty = false := by
    rw [List.isEmpty_eq_false_iff]
    intro hnil
    exact h (by rw [trimEnd, hnil, List.reverse_nil])
  rw [trimEnd, List.reverse_append, List.dropWhile_append, hne]
  simp [trimEnd]

lemma trimEnd_append_blanks (h : ∀ c ∈ ys, isBlank c = true) : trimEnd (xs ++ ys) = trimEnd xs := by
  rw [trimEnd, List.reverse_append,
    List.dropWhile_append_of_pos fun c hc => h c (by simpa using hc), trimEnd]

lemma trimEnd_concat_blank (h : isBlank c = true) : trimEnd (xs ++ [c]) = trimEnd xs :=
  trimEnd_append_blanks (by simpa using h)

lemma trimEnd_cons (h : isBlank c = false) : trimEnd (c :: cs) = c :: trimEnd cs := by
  induction cs using List.reverseRecOn with
  | nil => simpa using trimEnd_append_of_not_blank h []
  | append_singleton cs d ih =>
      cases hd : isBlank d with
      | true => rw [← List.cons_append, trimEnd_concat_blank hd, trimEnd_concat_blank hd, ih]
      | false =>
          rw [← List.cons_append, trimEnd_append_of_not_blank hd, trimEnd_append_of_not_blank hd,
            List.cons_append]

/-- A character in front stays, unless it is trimmed away with everything behind it. -/
lemma trimEnd_cons_cases (c : Char) (cs : List Char) :
    trimEnd (c :: cs) = c :: trimEnd cs ∨ trimEnd (c :: cs) = [] ∧ trimEnd cs = [] := by
  rcases eq_or_ne (trimEnd cs) [] with hnil | hne
  · cases hc : isBlank c with
    | true =>
        have hcs : ∀ d ∈ cs, isBlank d = true := List.rdropWhile_eq_nil_iff.mp hnil
        exact .inr ⟨List.rdropWhile_eq_nil_iff.mpr (List.forall_mem_cons.mpr ⟨hc, hcs⟩), hnil⟩
    | false => exact .inl (trimEnd_cons hc)
  · rw [← List.singleton_append]
    exact .inl (trimEnd_append hne)

/-- What is dropped in front and what is trimmed at the end can be taken away in either order. -/
lemma dropWhile_trimEnd (q : Char → Bool) (cs : List Char) :
    (trimEnd cs).dropWhile q = trimEnd (cs.dropWhile q) := by
  induction cs with
  | nil => rfl
  | cons c cs ih =>
      cases hq : q c with
      | true =>
          rw [List.dropWhile_cons_of_pos hq, ← ih]
          rcases trimEnd_cons_cases c cs with h | ⟨h, hcs⟩
          · rw [h, List.dropWhile_cons_of_pos hq]
          · rw [h, hcs]
      | false =>
          have hneg : ¬q c = true := by simp [hq]
          rw [List.dropWhile_cons_of_neg hneg]
          rcases trimEnd_cons_cases c cs with h | ⟨h, -⟩
          · rw [h, List.dropWhile_cons_of_neg hneg]
          · rw [h, List.dropWhile_nil]

lemma trimStart_blanks_append (h : ∀ c ∈ xs, isBlank c = true) :
    trimStart (xs ++ ys) = trimStart ys := List.dropWhile_append_of_pos h

/-- Either end can be trimmed first. -/
lemma trim_eq_trimStart (cs : List Char) : trim cs = trimStart (trimEnd cs) :=
  (dropWhile_trimEnd isBlank cs).symm

/-- Blanks in front make no difference to what trimming leaves. -/
lemma trim_blanks_append (h : ∀ c ∈ xs, isBlank c = true) (ys : List Char) :
    trim (xs ++ ys) = trim ys := by
  rw [trim, trimStart_blanks_append h, trim]

/-- Neither do blanks at the end. -/
lemma trim_append_blanks (h : ∀ c ∈ ys, isBlank c = true) (xs : List Char) :
    trim (xs ++ ys) = trim xs := by
  rw [trim_eq_trimStart, trimEnd_append_blanks h, ← trim_eq_trimStart]

lemma trim_concat_blank (h : isBlank c = true) (xs : List Char) : trim (xs ++ [c]) = trim xs :=
  trim_append_blanks (by simpa using h) xs

lemma trim_of_blanks (h : ∀ c ∈ cs, isBlank c = true) : trim cs = [] := by
  rw [trim, trimStart, List.dropWhile_eq_nil_iff.mpr h, trimEnd_nil]

/-- The last character is there and is not blank. -/
def EndsSolid (cs : List Char) : Prop := ∃ xs c, cs = xs ++ [c] ∧ isBlank c = false

lemma EndsSolid.trimEnd_eq (h : EndsSolid cs) : trimEnd cs = cs := by
  obtain ⟨xs, c, rfl, hc⟩ := h
  exact trimEnd_append_of_not_blank hc xs

lemma EndsSolid.ne_nil (h : EndsSolid cs) : cs ≠ [] := by
  obtain ⟨xs, c, rfl, _⟩ := h
  simp

lemma EndsSolid.append (h : EndsSolid ys) (xs : List Char) : EndsSolid (xs ++ ys) := by
  obtain ⟨zs, c, rfl, hc⟩ := h
  exact ⟨xs ++ zs, c, (List.append_assoc xs zs [c]).symm, hc⟩

lemma endsSolid_concat (h : isBlank c = false) (xs : List Char) : EndsSolid (xs ++ [c]) :=
  ⟨xs, c, rfl, h⟩

/-- A text of which no character is blank ends in one that is not. -/
lemma endsSolid_of_forall (hne : cs ≠ []) (h : ∀ c ∈ cs, isBlank c = false) : EndsSolid cs := by
  rcases List.eq_nil_or_concat' cs with rfl | ⟨xs, c, rfl⟩
  · exact absurd rfl hne
  · exact ⟨xs, c, rfl, h c (by simp)⟩

lemma not_blank_of_isDigit (h : c.isDigit = true) : isBlank c = false := by
  have hrange : 48 ≤ c.toNat ∧ c.toNat ≤ 57 := by
    simpa [Char.isDigit, UInt32.le_iff_toNat_le] using h
  simp only [isBlank, Bool.or_eq_false_iff, Bool.and_eq_false_iff, decide_eq_false_iff_not,
    beq_eq_false_iff_ne]
  omega

/-! ## Tidy texts -/

/-- No blank stands at either end. -/
structure Tidy (cs : List Char) : Prop where
  head : ∀ c ∈ cs.head?, isBlank c = false
  last : ∀ c ∈ cs.getLast?, isBlank c = false

lemma tidy_iff :
    Tidy cs ↔ (cs.head?.all (!isBlank ·) && cs.getLast?.all (!isBlank ·)) = true := by
  simp only [Bool.and_eq_true, Option.all_eq_true, Bool.not_eq_eq_eq_not, Bool.not_true]
  exact ⟨fun h => ⟨h.head, h.last⟩, fun h => ⟨h.1, h.2⟩⟩

instance (cs : List Char) : Decidable (Tidy cs) := decidable_of_iff _ tidy_iff.symm

lemma tidy_trim (cs : List Char) : Tidy (trim cs) where
  head := by
    intro c hc
    rw [trim_eq_trimStart, trimStart] at hc
    have hfirst := List.head?_dropWhile_not isBlank (trimEnd cs)
    rw [Option.mem_def.mp hc] at hfirst
    simpa using hfirst
  last := by
    intro c hc
    rw [trim, trimEnd, List.getLast?_reverse] at hc
    have hfirst := List.head?_dropWhile_not isBlank (trimStart cs).reverse
    rw [Option.mem_def.mp hc] at hfirst
    simpa using hfirst

/-- Trimming finds nothing to do in a tidy text. -/
lemma Tidy.trim_eq (h : Tidy cs) : trim cs = cs := by
  rcases List.eq_nil_or_concat' cs with rfl | ⟨xs, d, rfl⟩
  · rfl
  · have hd : isBlank d = false := h.last d (by simp)
    rw [trim_eq_trimStart, trimEnd_append_of_not_blank hd]
    obtain ⟨c, ds, hcons⟩ := List.exists_cons_of_ne_nil (List.append_ne_nil_of_right_ne_nil xs
      (List.cons_ne_nil d []))
    rw [hcons]
    exact trimStart_cons_of_not_blank (h.head c (by simp [hcons])) ds

@[simp] lemma trim_trim (cs : List Char) : trim (trim cs) = trim cs := (tidy_trim cs).trim_eq

/-- A text of which no character is blank is tidy. -/
lemma tidy_of_forall (h : ∀ c ∈ cs, isBlank c = false) : Tidy cs where
  head := fun c hc => h c (List.mem_of_head? hc)
  last := fun c hc => h c (List.mem_of_getLast? hc)

/-- A text with something solid at both ends is tidy. -/
lemma tidy_of_ends (hc : isBlank c = false) (h : EndsSolid ys) : Tidy (c :: xs ++ ys) where
  head := by simpa using hc
  last := by
    obtain ⟨zs, d, rfl, hd⟩ := h
    rw [← List.append_assoc, List.getLast?_concat]
    simpa using hd

/-- There is nothing to trim at the end of a part at the end. -/
lemma Tidy.trimEnd_eq (h : Tidy (xs ++ ys)) : trimEnd ys = ys := by
  rcases List.eq_nil_or_concat' ys with rfl | ⟨zs, d, rfl⟩
  · rfl
  · have hd : isBlank d = false := h.last d (by simp)
    exact trimEnd_append_of_not_blank hd zs

lemma trim_sublist (cs : List Char) : (trim cs).Sublist cs := by
  have hend : (trim cs).Sublist (trimStart cs) := List.IsPrefix.sublist <| trimEnd_prefix _
  exact hend.trans (List.dropWhile_sublist isBlank)

lemma trim_subset (cs : List Char) : trim cs ⊆ cs := (trim_sublist cs).subset

/-- Letters and digits are among the first 128 characters. -/
lemma toNat_lt_of_isAlphanum (h : c.isAlphanum = true) : c.toNat < 128 := by
  delta Char.isAlphanum Char.isAlpha Char.isUpper Char.isLower Char.isDigit at h
  simp only [UInt32.le_iff_toNat_le, Bool.or_eq_true, Bool.and_eq_true, decide_eq_true_eq] at h
  change ((_ ∧ c.toNat ≤ 90) ∨ (_ ∧ c.toNat ≤ 122)) ∨ (_ ∧ c.toNat ≤ 57) at h
  omega

end Text

/-- A text that says something, without blanks at its ends. -/
structure Told (text : String) : Prop where
  nonempty : text ≠ ""
  tidy : Text.Tidy text.toList

/-- What is left of a text that is not blank says something. -/
lemma told_of_trimmed? {s t : String} (h : trimmed? s = some t) : Told t := by
  simp only [trimmed?] at h
  split_ifs at h with hempty
  obtain rfl := Option.some.inj h
  exact ⟨by simpa using hempty, by rw [trimmed, String.toList_ofList]; exact Text.tidy_trim _⟩

/-- Such a text is left as it is. -/
lemma Told.trimmed?_eq {s : String} (h : Told s) : trimmed? s = some s := by
  have htrimmed : trimmed s = s := by rw [trimmed, h.tidy.trim_eq, String.ofList_toList]
  have hempty : ¬s.isEmpty = true := by simpa using h.nonempty
  simp only [trimmed?, htrimmed, if_neg hempty]

end CodeDigest
