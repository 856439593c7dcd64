import Mathlib.Data.List.Forall2
import CodeDigest.Proofs.Text.CaseTables
import CodeDigest.Proofs.Text.Lowercase

/-!
# Changes of letter case

How the lowercase form of a text depends on the way it is written, and on what it stands in.

A capital sigma is the one character whose lowercase form depends on its neighbours: it is final
where a word ends (`EndsWord`).  So a text has the same lowercase form on its own and inside a
longer one if its capital sigmas are alike in both (`lowercase_infix`).

Lowercase forms are lowercase themselves (`lowercase_lowercase`).  Two texts that write the same
letters, one by one, have the same lowercase form, provided that small sigmas are final where a word
ends and only there (`lowercase_eq_of_sameLetters`).  The reason is that the tables of cased and of
case-ignorable characters never tell two characters apart that write the same letter
(`SameLetter.wordClass_eq`), so words end at the same places in both.
-/

namespace CodeDigest.Text

variable {c d : Char} {before before' after after' a b cs xs ys : List Char}

/-! ## The ends of words -/

/-- A word ends between two texts: a cased character comes before and none comes after,
case-ignorable ones being looked through. -/
def EndsWord (before after : List Char) : Prop :=
  casedNext before.reverse = true ∧ casedNext after = false

instance (before after : List Char) : Decidable (EndsWord before after) :=
  inferInstanceAs (Decidable (_ ∧ _))

lemma lowercaseAt_sigma (before after : List Char) :
    lowercaseAt before.reverse after 'Σ' = [if EndsWord before after then 'ς' else 'σ'] := by
  rw [lowercaseAt, if_pos (beq_self_eq_true _)]
  congr 1
  exact if_congr (by simp [EndsWord]) rfl rfl

lemma lowercaseAt_of_ne (h : c ≠ 'Σ') (before after : List Char) :
    lowercaseAt before after c = lowercaseChar c := by
  simp [lowercaseAt, h]

/-- A statement about all places where a character stands can be checked one place after another. -/
lemma forall_split_iff {P : List Char → List Char → Prop} :
    (∀ u v, cs = u ++ c :: v → P u v) ↔
      ∀ i < cs.length, cs[i]? = some c → P (cs.take i) (cs.drop (i + 1)) := by
  constructor
  · intro h i hi hc
    refine h _ _ ?_
    rw [List.getElem?_eq_getElem hi, Option.some.injEq] at hc
    rw [← hc, List.getElem_cons_drop, List.take_append_drop]
  · rintro h u v rfl
    have hplace := h u.length (by simp) (by simp)
    rwa [List.take_left, List.drop_append, List.drop_of_length_le (by simp),
      Nat.add_sub_cancel_left] at hplace

/-! ## Texts inside longer ones -/

/-- The lowercase form of a text that has `before` in front of it and `after` behind it. -/
def lowercaseIn (before after : List Char) : List Char → List Char
  | [] => []
  | c :: cs => lowercaseAt before.reverse (cs ++ after) c ++ lowercaseIn (before ++ [c]) after cs

lemma lowercaseFrom_eq_lowercaseIn (before cs : List Char) :
    lowercaseFrom [] before.reverse cs = lowercaseIn before [] cs := by
  induction cs generalizing before with
  | nil => rfl
  | cons c cs ih =>
      have hbefore : c :: before.reverse = (before ++ [c]).reverse := by simp
      rw [lowercaseFrom, lowercaseFrom_eq, hbefore, ih]
      simp [lowercaseIn]

lemma lowercase_eq_lowercaseIn (cs : List Char) : lowercase cs = lowercaseIn [] [] cs :=
  lowercaseFrom_eq_lowercaseIn [] cs

lemma lowercaseIn_append (before after xs ys : List Char) :
    lowercaseIn before after (xs ++ ys)
      = lowercaseIn before (ys ++ after) xs ++ lowercaseIn (before ++ xs) after ys := by
  induction xs generalizing before with
  | nil => simp [lowercaseIn]
  | cons x xs ih => simp [lowercaseIn, ih]

/-- Only capital sigmas look at what a text stands in. -/
lemma lowercaseIn_congr (h : ∀ u v, cs = u ++ 'Σ' :: v →
      (EndsWord (before ++ u) (v ++ after) ↔ EndsWord (before' ++ u) (v ++ after'))) :
    lowercaseIn before after cs = lowercaseIn before' after' cs := by
  induction cs generalizing before before' with
  | nil => rfl
  | cons c cs ih =>
      have hrest :
          lowercaseIn (before ++ [c]) after cs = lowercaseIn (before' ++ [c]) after' cs := by
        refine ih fun u v huv => ?_
        simpa using h (c :: u) v (by rw [huv, List.cons_append])
      rw [lowercaseIn, lowercaseIn, hrest]
      by_cases hc : c = 'Σ'
      · subst hc
        have hends := h [] cs rfl
        rw [List.append_nil, List.append_nil] at hends
        simp only [lowercaseAt_sigma, hends]
      · rw [lowercaseAt_of_ne hc, lowercaseAt_of_ne hc]

/-- The capital sigmas of a text end words on its own just where they do with `a` in front of the
text and `b` behind it. -/
def SigmasAlike (a cs b : List Char) : Prop :=
  ∀ u v, cs = u ++ 'Σ' :: v → (EndsWord u v ↔ EndsWord (a ++ u) (v ++ b))

instance (a cs b : List Char) : Decidable (SigmasAlike a cs b) :=
  decidable_of_iff _ forall_split_iff.symm

/-- **Inside a longer text** a text has the lowercase form that it has on its own, if its capital
sigmas are alike in both. -/
theorem lowercase_infix (h : SigmasAlike a cs b) : lowercase cs <:+: lowercase (a ++ cs ++ b) := by
  have hsame : lowercaseIn [] [] cs = lowercaseIn a b cs := by
    refine lowercaseIn_congr fun u v huv => ?_
    simpa using h u v huv
  simp only [lowercase_eq_lowercaseIn, lowercaseIn_append, List.append_nil, List.nil_append, hsame]
  exact List.infix_append _ _ _

/-! ## Lowercase twice -/

lemma isLow_of_mem_lowercaseAt (h : d ∈ lowercaseAt before after c) : IsLow d := by
  by_cases hc : c = 'Σ'
  · have hforms : IsLow 'ς' ∧ IsLow 'σ' := by decide +kernel
    subst hc
    rw [← before.reverse_reverse, lowercaseAt_sigma, List.mem_singleton] at h
    rw [h]
    split_ifs
    · exact hforms.1
    · exact hforms.2
  · rw [lowercaseAt_of_ne hc] at h
    exact isLow_of_mem_lowercaseChar h hc

lemma isLow_of_mem_lowercaseIn (h : d ∈ lowercaseIn before after cs) : IsLow d := by
  induction cs generalizing before with
  | nil => cases h
  | cons c cs ih =>
      rw [lowercaseIn, List.mem_append] at h
      exact h.elim isLow_of_mem_lowercaseAt ih

lemma lowercaseIn_of_isLow (h : ∀ c ∈ cs, IsLow c) : lowercaseIn before after cs = cs := by
  induction cs generalizing before with
  | nil => rfl
  | cons c cs ih =>
      obtain ⟨⟨hc, hsigma⟩, hcs⟩ := List.forall_mem_cons.mp h
      rw [lowercaseIn, lowercaseAt_of_ne hsigma, hc, ih hcs, List.singleton_append]

/-- **Lowercase forms are lowercase.** -/
theorem lowercase_lowercase (cs : List Char) : lowercase (lowercase cs) = lowercase cs := by
  rw [lowercase_eq_lowercaseIn (lowercase cs)]
  refine lowercaseIn_of_isLow fun c hc => ?_
  rw [lowercase_eq_lowercaseIn] at hc
  exact isLow_of_mem_lowercaseIn hc

/-! ## The same letters -/

/-- What letter a character writes: its lowercase form, where the final form of sigma is a sigma. -/
def letter (c : Char) : List Char := if c = 'ς' then ['σ'] else lowercaseChar c

/-- Two characters differ at most in letter case. -/
def SameLetter (c d : Char) : Prop := letter c = letter d

instance (c d : Char) : Decidable (SameLetter c d) := inferInstanceAs (Decidable (_ = _))

lemma letter_of_ne (h : c ≠ 'ς') : letter c = lowercaseChar c := if_neg h

lemma letter_cases (c : Char) : (∃ e, letter c = [e]) ∨ c = 'İ' := by
  by_cases hc : c = 'ς'
  · exact .inl ⟨'σ', if_pos hc⟩
  · rw [letter_of_ne hc]
    rcases lowercaseChar_cases c with hself | ⟨_, _, _, e, he, _⟩ | hdotted
    · exact .inl ⟨c, hself⟩
    · exact .inl ⟨e, he⟩
    · exact .inr hdotted

lemma wordClass_of_letter (h : letter c = [d]) : wordClass d = wordClass c := by
  by_cases hc : c = 'ς'
  · obtain rfl : 'σ' = d := by simpa [letter, hc] using h
    rw [hc]
    decide +kernel
  · exact wordClass_of_lowercaseChar (letter_of_ne hc ▸ h)

lemma eq_of_letter_sigma (h : letter c = ['σ']) : c = 'Σ' ∨ c = 'σ' ∨ c = 'ς' := by
  by_cases hc : c = 'ς'
  · exact .inr (.inr hc)
  · rw [letter_of_ne hc] at h
    exact (eq_of_lowercaseChar_sigma h).imp_right .inl

/-- Characters that write the same letter are not told apart where a word may end. -/
lemma SameLetter.wordClass_eq (h : SameLetter c d) : wordClass c = wordClass d := by
  have hdotted : (letter 'İ').length = 2 := by decide
  rcases letter_cases c with ⟨e, he⟩ | rfl
  · rw [← wordClass_of_letter he, ← wordClass_of_letter (h.symm.trans he)]
  · rcases letter_cases d with ⟨e, he⟩ | rfl
    · rw [h, he] at hdotted
      cases hdotted
    · rfl

lemma casedNext_of_sameLetters (h : List.Forall₂ SameLetter xs ys) :
    casedNext xs = casedNext ys := by
  induction h with
  | nil => rfl
  | @cons c d xs ys hcd _ ih =>
      obtain ⟨hignorable, hcased⟩ := Prod.ext_iff.mp hcd.wordClass_eq
      simp only [wordClass] at hignorable hcased
      by_cases hd : inCaseRanges caseIgnorableRanges d = true
      · simpa [casedNext, hignorable, hd] using ih
      · simp [casedNext, hignorable, hcased, hd]

lemma endsWord_of_sameLetters {xs' ys' : List Char} (h : List.Forall₂ SameLetter xs ys)
    (h' : List.Forall₂ SameLetter xs' ys') : EndsWord xs xs' ↔ EndsWord ys ys' := by
  rw [EndsWord, EndsWord, casedNext_of_sameLetters (List.rel_reverse h),
    casedNext_of_sameLetters h']

/-- The small sigmas of a text are final where a word ends, and only there. -/
def SigmasPlaced (cs : List Char) : Prop :=
  (∀ u v, cs = u ++ 'ς' :: v → EndsWord u v) ∧ ∀ u v, cs = u ++ 'σ' :: v → ¬EndsWord u v

instance (cs : List Char) : Decidable (SigmasPlaced cs) :=
  decidable_of_iff _ (and_congr forall_split_iff forall_split_iff).symm

/-- A text without small sigmas has none in the wrong form. -/
lemma sigmasPlaced_of_not_mem (h : 'ς' ∉ cs) (h' : 'σ' ∉ cs) : SigmasPlaced cs := by
  constructor
  · rintro u v rfl
    simp at h
  · rintro u v rfl
    simp at h'

/-- In a text with its sigmas in place, a sigma of any form has the lowercase form that its place
calls for. -/
lemma lowercaseAt_of_placed (hc : letter c = ['σ']) (h : c = 'ς' → EndsWord before after)
    (h' : c = 'σ' → ¬EndsWord before after) :
    lowercaseAt before.reverse after c = [if EndsWord before after then 'ς' else 'σ'] := by
  by_cases hfinal : c = 'ς'
  · rw [if_pos (h hfinal), hfinal]
    rfl
  · rcases eq_of_letter_sigma hc with rfl | rfl | rfl
    · exact lowercaseAt_sigma before after
    · rw [if_neg (h' rfl)]
      rfl
    · exact absurd rfl hfinal

lemma lowercaseAt_of_letter (hc : letter c ≠ ['σ']) (before after : List Char) :
    lowercaseAt before after c = letter c := by
  have hfinal : c ≠ 'ς' := by
    rintro rfl
    exact hc rfl
  have hsigma : c ≠ 'Σ' := by
    rintro rfl
    exact hc (by decide)
  rw [lowercaseAt_of_ne hsigma, letter_of_ne hfinal]

/-- **Texts that write the same letters** have the same lowercase form, if their small sigmas are
final where a word ends and only there. -/
theorem lowercase_eq_of_sameLetters (h : List.Forall₂ SameLetter xs ys) (hxs : SigmasPlaced xs)
    (hys : SigmasPlaced ys) : lowercase xs = lowercase ys := by
  -- along the two texts, with what has been passed in front
  suffices hfrom : ∀ {us vs : List Char}, List.Forall₂ SameLetter us vs → SigmasPlaced (us ++ xs) →
      SigmasPlaced (vs ++ ys) → lowercaseIn us [] xs = lowercaseIn vs [] ys by
    rw [lowercase_eq_lowercaseIn, lowercase_eq_lowercaseIn]
    exact hfrom .nil hxs hys
  clear hxs hys
  induction h with
  | nil => intros; rfl
  | @cons c d xs ys hcd h ih =>
      intro us vs hpassed hus hvs
      have hrest : lowercaseIn (us ++ [c]) [] xs = lowercaseIn (vs ++ [d]) [] ys := by
        refine ih (List.rel_append hpassed (.cons hcd .nil)) ?_ ?_
        · rwa [List.append_assoc]
        · rwa [List.append_assoc]
      rw [lowercaseIn, lowercaseIn, hrest, List.append_nil, List.append_nil]
      congr 1
      by_cases hsigma : letter c = ['σ']
      · have hsigma' : letter d = ['σ'] := hcd.symm.trans hsigma
        rw [lowercaseAt_of_placed hsigma (fun hc => hus.1 us xs (by rw [hc]))
            (fun hc => hus.2 us xs (by rw [hc])),
          lowercaseAt_of_placed hsigma' (fun hd => hvs.1 vs ys (by rw [hd]))
            (fun hd => hvs.2 vs ys (by rw [hd]))]
        simp only [endsWord_of_sameLetters hpassed h]
      · have hsigma' : letter d ≠ ['σ'] := fun hd => hsigma (hcd.trans hd)
        rw [lowercaseAt_of_letter hsigma, lowercaseAt_of_letter hsigma', hcd]

end CodeDigest.Text
