import Mathlib.Data.List.Infix
import CodeDigest.Text.Pieces

/-!
# Searching

Whether a text starts with another one (`isSome_dropPrefix?`), whether it occurs in it
(`occursIn_iff`), and where it occurs first (`cut?_eq_some_iff`).  A text without a certain
character does not occur across this character (`infix_append_cons_iff`).
-/

namespace CodeDigest

variable {α : Type*} {w xs ys : List α} {s : α} {front needle cs before rest : List Char}

namespace Text

lemma isSome_dropPrefix? : (dropPrefix? front cs).isSome = true ↔ front <+: cs := by
  rw [Option.isSome_iff_exists]
  exact exists_congr fun rest => dropPrefix?_eq_some_iff.trans eq_comm

lemma contains_iff : contains needle cs = true ↔ needle <:+: cs := by
  induction cs with
  | nil => rw [contains, List.isEmpty_iff, List.infix_nil]
  | cons c cs ih =>
      rw [contains, Bool.or_eq_true, isSome_dropPrefix?, ih, List.infix_cons_iff]

lemma cut?_eq_none_iff : cut? needle cs = none ↔ ¬needle <:+: cs := by
  induction cs with
  | nil =>
      rw [cut?, Option.map_eq_none_iff, List.infix_nil, ← List.prefix_nil, ← isSome_dropPrefix?]
      simp
  | cons c cs ih =>
      rw [cut?, List.infix_cons_iff, ← isSome_dropPrefix?]
      cases h : dropPrefix? needle (c :: cs) with
      | some rest => simp
      | none => simp [ih]

lemma first_of_cut? (h : cut? needle cs = some (before, rest)) :
    cs = before ++ (needle ++ rest) ∧
      ∀ front, front ++ needle <+: cs → before.length ≤ front.length := by
  induction cs generalizing before with
  | nil =>
      obtain ⟨after, hafter, heq⟩ := Option.map_eq_some_iff.mp h
      cases heq
      exact ⟨by simpa using dropPrefix?_eq_some_iff.mp hafter, by simp⟩
  | cons c cs ih =>
      rw [cut?] at h
      split at h
      next after hafter =>
        cases h
        exact ⟨by simpa using dropPrefix?_eq_some_iff.mp hafter, by simp⟩
      next hnone =>
        obtain ⟨⟨inner, after⟩, hcut, heq⟩ := Option.map_eq_some_iff.mp h
        cases heq
        obtain ⟨hcs, hfirst⟩ := ih hcut
        refine ⟨by simp [← hcs], fun front hfront => ?_⟩
        rcases front with _ | ⟨d, front⟩
        · have hsome := isSome_dropPrefix?.mpr hfront
          simp [hnone] at hsome
        · exact Nat.succ_le_succ (hfirst front (List.cons_prefix_cons.mp hfront).2)

/-- A text is cut at the first occurrence. -/
lemma cut?_eq_some_iff : cut? needle cs = some (before, rest) ↔
    cs = before ++ (needle ++ rest) ∧
      ∀ front, front ++ needle <+: cs → before.length ≤ front.length := by
  refine ⟨first_of_cut?, fun ⟨heq, hfirst⟩ => ?_⟩
  cases hcut : cut? needle cs with
  | none => exact absurd ⟨before, rest, by simp [heq]⟩ (cut?_eq_none_iff.mp hcut)
  | some found =>
      obtain ⟨before', rest'⟩ := found
      obtain ⟨heq', hfirst'⟩ := first_of_cut? hcut
      have hle := hfirst before' ⟨rest', by simp [heq']⟩
      have hle' := hfirst' before ⟨rest, by simp [heq]⟩
      obtain ⟨rfl, hrest⟩ := List.append_inj (heq'.symm.trans heq) (Nat.le_antisymm hle' hle)
      rw [List.append_cancel_left hrest]

/-- What follows a text does not matter to where it is cut. -/
lemma cut?_append (h : cut? needle cs = some (before, rest)) (more : List Char) :
    cut? needle (cs ++ more) = some (before, rest ++ more) := by
  obtain ⟨heq, hfirst⟩ := cut?_eq_some_iff.mp h
  refine cut?_eq_some_iff.mpr ⟨by simp [heq], fun front hfront => ?_⟩
  by_contra hlt
  have hlength : (front ++ needle).length ≤ cs.length := by
    simp only [heq, List.length_append]
    omega
  exact hlt (hfirst front (List.prefix_of_prefix_length_le hfront (List.prefix_append cs more)
    hlength))

end Text

lemma occursIn_iff {word text : String} :
    occursIn word text = true ↔ word.toList <:+: text.toList := Text.contains_iff

/-- Nothing occurs across a character that it does not have. -/
lemma infix_append_cons_iff (hs : s ∉ w) : w <:+: xs ++ s :: ys ↔ w <:+: xs ∨ w <:+: ys := by
  constructor
  · rintro ⟨u, v, heq⟩
    rcases List.append_eq_append_iff.mp heq with ⟨a, rfl, -⟩ | ⟨c, hfront, hback⟩
    · exact .inl ⟨u, a, rfl⟩
    rcases c with _ | ⟨x, c⟩
    · exact .inl ⟨u, [], by simpa using hfront⟩
    obtain ⟨rfl, rfl⟩ := List.cons.inj hback
    rcases List.append_eq_append_iff.mp hfront with ⟨a, -, rfl⟩ | ⟨a, rfl, hw⟩
    · exact absurd (by simp) hs
    rcases a with _ | ⟨x, a⟩
    · exact absurd (by simp [← show s :: c = w from hw]) hs
    · obtain ⟨rfl, rfl⟩ := List.cons.inj hw
      exact .inr ⟨a, v, rfl⟩
  · rintro (h | h)
    · exact h.trans (List.prefix_append xs _).isInfix
    · exact h.trans ((List.suffix_cons s ys).trans (List.suffix_append xs _)).isInfix

end CodeDigest
