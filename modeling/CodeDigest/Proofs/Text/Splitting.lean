import Mathlib.Data.List.TakeDrop
import CodeDigest.Text.Pieces

/-!
# Splitting

The pieces of texts in a row: a separator between two texts divides their pieces
(`split_append_cons`), so the pieces of texts that are joined with a separator which none of them
has are these texts (`pieces_joined`).

A run of characters of one kind is split off a text as a whole, if it ends there (`span_run`).
-/

namespace CodeDigest

variable {sep c : Char} {cs : List Char}

namespace Text

/-! ## Runs -/

section Run

variable {p : Char → Bool} {xs ys : List Char}

/-- A run of characters ends where one of another kind stands, or where the text ends. -/
lemma takeWhile_run (hxs : ∀ c ∈ xs, p c = true) (hys : ∀ c ∈ ys.head?, p c = false) :
    (xs ++ ys).takeWhile p = xs := by
  rw [List.takeWhile_append_of_pos hxs]
  cases ys with
  | nil => exact List.append_nil xs
  | cons c ys => rw [List.takeWhile_cons_of_neg (by simpa using hys), List.append_nil]

lemma dropWhile_run (hxs : ∀ c ∈ xs, p c = true) (hys : ∀ c ∈ ys.head?, p c = false) :
    (xs ++ ys).dropWhile p = ys := by
  rw [List.dropWhile_append_of_pos hxs]
  cases ys with
  | nil => rfl
  | cons c ys => exact List.dropWhile_cons_of_neg (by simpa using hys)

lemma span_run (hxs : ∀ c ∈ xs, p c = true) (hc : p c = false) (ys : List Char) :
    (xs ++ c :: ys).span p = (xs, c :: ys) := by
  have hstop : ∀ d ∈ (c :: ys).head?, p d = false := by simpa using hc
  rw [List.span_eq_takeWhile_dropWhile, takeWhile_run hxs hstop, dropWhile_run hxs hstop]

end Run

/-! ## Pieces -/

lemma split_cons_of_ne (h : c ≠ sep) (cs : List Char) :
    split sep (c :: cs) = extendFirst [c] (split sep cs) := by
  rw [split, splitBy_cons, if_neg (by simpa using h)]
  rfl

@[simp] lemma split_cons_self (sep : Char) (cs : List Char) :
    split sep (sep :: cs) = [] :: split sep cs := by
  rw [split, splitBy_cons, if_pos (by simp)]
  rfl

lemma split_ne_nil (sep : Char) (cs : List Char) : split sep cs ≠ [] := splitBy_ne_nil _ cs

/-- A separator between two texts divides their pieces. -/
lemma split_append_cons (sep : Char) (xs ys : List Char) :
    split sep (xs ++ sep :: ys) = split sep xs ++ split sep ys := by
  induction xs with
  | nil => exact split_cons_self sep ys
  | cons c xs ih =>
      by_cases hc : c = sep
      · subst hc
        rw [List.cons_append, split_cons_self, split_cons_self, ih, List.cons_append]
      · obtain ⟨first, rest, hfirst⟩ := List.exists_cons_of_ne_nil (split_ne_nil sep xs)
        rw [List.cons_append, split_cons_of_ne hc, split_cons_of_ne hc, ih, hfirst]
        rfl

lemma split_of_not_mem (h : sep ∉ cs) : split sep cs = [cs] := by
  induction cs with
  | nil => rfl
  | cons c cs ih =>
      rw [List.mem_cons, not_or] at h
      rw [split_cons_of_ne (Ne.symm h.1), ih h.2]
      rfl

/-- Separators at the end of a text add empty pieces. -/
lemma split_append_replicate (sep : Char) (cs : List Char) (n : ℕ) :
    split sep (cs ++ List.replicate n sep) = split sep cs ++ List.replicate n [] := by
  induction n with
  | zero => simp
  | succ n ih =>
      rw [List.replicate_succ', ← List.append_assoc, split_append_cons, ih, List.replicate_succ',
        ← List.append_assoc]
      rfl

end Text

/-- The pieces of a text behind another one and a separator. -/
lemma pieces_append (sep : Char) (s t : String) :
    pieces sep (s ++ String.singleton sep ++ t) = pieces sep s ++ pieces sep t := by
  rw [pieces, String.toList_append, String.toList_append, String.toList_singleton,
    List.append_assoc, List.singleton_append, Text.split_append_cons, List.map_append]
  rfl

lemma pieces_of_not_mem {s : String} (h : sep ∉ s.toList) : pieces sep s = [s] := by
  rw [pieces, Text.split_of_not_mem h, List.map_singleton, String.ofList_toList]

lemma joined_cons_cons (sep s t : String) (rest : List String) :
    joined sep (s :: t :: rest) = s ++ sep ++ joined sep (t :: rest) := by
  apply String.toList_injective
  simp [joined, String.toList_intercalate, List.intercalate]

/-- The pieces of texts without a separator that have been joined with it. -/
lemma pieces_joined {parts : List String} (hne : parts ≠ [])
    (h : ∀ part ∈ parts, sep ∉ part.toList) :
    pieces sep (joined (String.singleton sep) parts) = parts := by
  induction parts with
  | nil => exact absurd rfl hne
  | cons s rest ih =>
      have hs : pieces sep s = [s] := pieces_of_not_mem (h s (by simp))
      rcases rest with _ | ⟨t, rest⟩
      · simpa [joined] using hs
      · rw [joined_cons_cons, pieces_append, hs,
          ih (List.cons_ne_nil t rest) fun part hpart => h part (List.mem_cons_of_mem s hpart)]
        rfl

lemma joined_append (sep : String) (parts : List String) {more : List String} (hne : parts ≠ [])
    (hmore : more ≠ []) :
    joined sep (parts ++ more) = joined sep parts ++ sep ++ joined sep more := by
  induction parts with
  | nil => exact absurd rfl hne
  | cons s parts ih =>
      obtain ⟨t, more, rfl⟩ := List.exists_cons_of_ne_nil hmore
      rcases parts with _ | ⟨u, parts⟩
      · exact joined_cons_cons sep s t more
      · rw [List.cons_append, List.cons_append, joined_cons_cons, joined_cons_cons,
          ← List.cons_append, ih (List.cons_ne_nil u parts)]
        simp [String.append_assoc]

/-- The pieces of a text, joined again. -/
lemma joined_pieces (sep : Char) (s : String) :
    joined (String.singleton sep) (pieces sep s) = s := by
  suffices h : ∀ cs, joined (String.singleton sep) ((Text.split sep cs).map String.ofList)
      = String.ofList cs by
    rw [pieces, h, String.ofList_toList]
  intro cs
  induction cs with
  | nil => rfl
  | cons c cs ih =>
      obtain ⟨first, rest, hsplit⟩ := List.exists_cons_of_ne_nil (Text.split_ne_nil sep cs)
      by_cases hc : c = sep
      · subst hc
        rw [Text.split_cons_self, hsplit, List.map_cons, List.map_cons, joined_cons_cons,
          ← List.map_cons, ← hsplit, ih]
        apply String.toList_injective
        simp
      · rw [Text.split_cons_of_ne hc, hsplit]
        rw [hsplit] at ih
        apply String.toList_injective
        have htail : (joined (String.singleton sep)
            ((first :: rest).map String.ofList)).toList = cs := by
          rw [ih, String.toList_ofList]
        rcases rest with _ | ⟨second, rest⟩
        · simpa [Text.extendFirst, joined] using htail
        · simp only [List.map_cons, joined_cons_cons, Text.extendFirst, String.toList_append,
            String.toList_ofList, List.append_assoc] at htail ⊢
          exact congrArg (c :: ·) htail

/-- The first pieces of a text, joined, are the beginning of the text. -/
lemma toList_joined_prefix {s : String} {parts : List String} (hne : parts ≠ [])
    (h : parts <+: pieces sep s) :
    (joined (String.singleton sep) parts).toList <+: s.toList := by
  obtain ⟨more, hmore⟩ := h
  conv_rhs => rw [← joined_pieces sep s, ← hmore]
  rcases eq_or_ne more [] with rfl | hmore'
  · simp
  · rw [joined_append _ _ hne hmore', String.toList_append, String.toList_append,
      List.append_assoc]
    exact List.prefix_append _ _

end CodeDigest
