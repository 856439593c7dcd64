import Mathlib.Data.List.Basic
import CodeDigest.Text.Case

/-!
# Lowercase of texts in a row

The lowercase form of a character depends on what stands around it only as far as a capital sigma
does, and its word ends at a character that is neither cased nor case-ignorable
(`lowercaseFrom_behind`).  So what stands behind a blank has the lowercase form that it has on its
own, and a front of ASCII characters is put into lowercase one by one (`lowercase_append`).
-/

namespace CodeDigest.Text

variable {c : Char} {done before more xs : List Char}

lemma lowercaseFrom_eq (done before cs : List Char) :
    lowercaseFrom done before cs = done.reverse ++ lowercaseFrom [] before cs := by
  induction cs generalizing done before with
  | nil => simp [lowercaseFrom]
  | cons c cs ih =>
      rw [lowercaseFrom, lowercaseFrom, ih, ih (_ ++ [])]
      simp

lemma lowercaseAt_of_lt (h : c.toNat < 128) (before after : List Char) :
    lowercaseAt before after c = [c.toLower] := by
  have hsigma : c ≠ 'Σ' := by
    rintro rfl
    exact absurd h (by decide)
  simp [lowercaseAt, lowercaseChar, h, hsigma]

/-- Characters of ASCII in front are put into lowercase one by one. -/
lemma lowercaseFrom_append (h : ∀ x ∈ xs, x.toNat < 128) (before cs : List Char) :
    lowercaseFrom [] before (xs ++ cs)
      = xs.map Char.toLower ++ lowercaseFrom [] (xs.reverse ++ before) cs := by
  induction xs generalizing before with
  | nil => rfl
  | cons x xs ih =>
      rw [List.forall_mem_cons] at h
      rw [List.cons_append, lowercaseFrom, lowercaseFrom_eq, lowercaseAt_of_lt h.1, ih h.2]
      simp

/-- A word does not go on in front of such a character. -/
lemma casedNext_append (hignorable : inCaseRanges caseIgnorableRanges c = false)
    (hcased : inCaseRanges casedRanges c = false) (before more : List Char) :
    casedNext (before ++ c :: more) = casedNext before := by
  induction before with
  | nil => simp [casedNext, hignorable, hcased]
  | cons b before ih =>
      by_cases hb : inCaseRanges caseIgnorableRanges b = true
      · simpa [casedNext, hb] using ih
      · simp [casedNext, hb]

lemma lowercaseFrom_behind (hignorable : inCaseRanges caseIgnorableRanges c = false)
    (hcased : inCaseRanges casedRanges c = false) (done before more cs : List Char) :
    lowercaseFrom done (before ++ c :: more) cs = lowercaseFrom done before cs := by
  induction cs generalizing done before with
  | nil => rfl
  | cons d cs ih =>
      have hat : lowercaseAt (before ++ c :: more) cs d = lowercaseAt before cs d := by
        rw [lowercaseAt, lowercaseAt, casedNext_append hignorable hcased]
      rw [lowercaseFrom, lowercaseFrom, hat, ← List.cons_append, ih]

/-- **A text behind a blank** has the lowercase form that it has on its own. -/
theorem lowercase_append (h : ∀ x ∈ xs, x.toNat < 128) (cs : List Char) :
    lowercase (xs ++ ' ' :: cs) = xs.map Char.toLower ++ ' ' :: lowercase cs := by
  have hignorable : inCaseRanges caseIgnorableRanges ' ' = false := by decide +kernel
  have hcased : inCaseRanges casedRanges ' ' = false := by decide +kernel
  have hfront : ∀ x ∈ xs ++ [' '], x.toNat < 128 := by
    intro x hx
    rcases List.mem_append.mp hx with hx | hx
    · exact h x hx
    · obtain rfl := List.mem_singleton.mp hx
      decide
  have hbefore : (xs ++ [' ']).reverse ++ [] = [] ++ ' ' :: xs.reverse := by simp
  rw [lowercase, List.append_cons, lowercaseFrom_append hfront, hbefore,
    lowercaseFrom_behind hignorable hcased, List.map_append, List.append_assoc]
  rfl

end CodeDigest.Text
