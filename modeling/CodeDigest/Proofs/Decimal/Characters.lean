import Mathlib.Data.List.Basic
import CodeDigest.Decimal.Layout

/-!
# The characters of number texts

Whatever its layout, the text of a number is made of digits, letters, points and minus signs.
-/

namespace CodeDigest.Decimal

variable {c : Char} {xs ys : List Char}

/-- A character that a number may be written with. -/
def IsNumeric (c : Char) : Prop := c.isAlphanum = true ∨ c = '-' ∨ c = '.'

instance (c : Char) : Decidable (IsNumeric c) := inferInstanceAs (Decidable (_ ∨ _))

/-- A text of such characters. -/
def Numeric (cs : List Char) : Prop := ∀ c ∈ cs, IsNumeric c

instance (cs : List Char) : Decidable (Numeric cs) := List.decidableBAll IsNumeric cs

@[simp] lemma numeric_nil : Numeric [] := by simp [Numeric]

@[simp] lemma numeric_cons : Numeric (c :: xs) ↔ IsNumeric c ∧ Numeric xs := List.forall_mem_cons

@[simp] lemma numeric_append : Numeric (xs ++ ys) ↔ Numeric xs ∧ Numeric ys :=
  List.forall_mem_append

lemma Numeric.of_subset (h : Numeric ys) (hsub : xs ⊆ ys) : Numeric xs := fun c hc => h c (hsub hc)

lemma Numeric.take (h : Numeric xs) (n : ℕ) : Numeric (xs.take n) :=
  h.of_subset (List.take_subset n xs)

lemma Numeric.drop (h : Numeric xs) (n : ℕ) : Numeric (xs.drop n) :=
  h.of_subset (List.drop_subset n xs)

lemma Numeric.newline_not_mem (h : Numeric xs) : '\n' ∉ xs := fun hmem =>
  absurd (h '\n' hmem) (by decide)

@[simp] lemma numeric_zeros (n : ℕ) : Numeric (List.replicate n '0') := by
  intro c hc
  rw [List.eq_of_mem_replicate hc]
  decide

@[simp] lemma numeric_digitsOf (n : ℕ) : Numeric (digitsOf n) := fun c hc =>
  .inl (by simp [Char.isAlphanum, Nat.isDigit_of_mem_toDigits (by decide) (by decide) hc])

lemma toList_toString (n : ℕ) : (toString n).toList = digitsOf n := Nat.toList_repr

@[simp] lemma numeric_repr (n : Int) : Numeric n.repr.toList := by
  cases n with
  | ofNat n => exact toList_toString n ▸ numeric_digitsOf n
  | negSucc n =>
      have hneg : (Int.negSucc n).repr.toList = '-' :: digitsOf (n + 1) := by
        rw [← toList_toString]
        exact String.toList_append
      rw [hneg, numeric_cons]
      exact ⟨by decide, numeric_digitsOf (n + 1)⟩

/-! ## Texts of numbers -/

lemma numeric_positional (keepsPoint : Bool) (d : Digits) : Numeric (positional keepsPoint d) := by
  have hdigits := numeric_digitsOf d.digits
  have hpoint : IsNumeric '.' := by decide
  have hzero : IsNumeric '0' := by decide
  unfold positional
  simp only
  split
  · split_ifs <;> simp [hpoint, hzero]
  · split_ifs
    · simp [hpoint, hzero]
    · simp [hpoint, hdigits.take, hdigits.drop]

lemma numeric_scientific (d : Digits) : Numeric (scientific d) := by
  have hdigits := numeric_digitsOf d.digits
  have hpoint : IsNumeric '.' := by decide
  have hmark : IsNumeric 'e' := by decide
  unfold scientific
  simp only
  have htail := hdigits.drop 1
  split_ifs
  · simp [hmark, hdigits.take]
  · simpa [hmark, hpoint, hdigits.take] using htail

lemma numeric_infinite (negative : Bool) :
    Numeric (if negative then "-inf" else "inf").toList := by
  cases negative <;> decide

lemma numeric_notANumber : Numeric "NaN".toList := by decide

/-- The text of a number in some layout. -/
lemma numeric_write (l : Layout) (r : Reading) : Numeric (l.write r).toList := by
  have hminus : IsNumeric '-' := by decide
  cases r with
  | finite b =>
      have hdigits : Numeric (l.digits b.shortest) := by
        unfold Layout.digits
        split_ifs
        · exact numeric_positional _ _
        · exact numeric_scientific _
      rw [Layout.write, String.toList_ofList, numeric_append]
      exact ⟨by split_ifs <;> simp [hminus], hdigits⟩
  | infinite negative => exact numeric_infinite negative
  | notANumber => exact numeric_notANumber

/-- The text of a number with a fixed number of places. -/
lemma numeric_fixedPlaces (places : ℕ) (r : Reading) : Numeric (fixedPlaces places r).toList := by
  have hminus : IsNumeric '-' := by decide
  have hpoint : IsNumeric '.' := by decide
  cases r with
  | finite b =>
      set n := roundHalfEven (b.magnitude.num * Nat.pow 10 places) b.magnitude.den with hn
      set ds := List.replicate (places + 1 - (digitsOf n).length) '0' ++ digitsOf n with hds
      have hdigits : Numeric ds := by simp [hds]
      have hsign : Numeric (if b.negative then ['-'] else []) := by split_ifs <;> simp [hminus]
      have hplaces : Numeric (if places == 0 then [] else '.' :: ds.drop (ds.length - places)) := by
        split_ifs
        · simp
        · simp [hpoint, hdigits.drop]
      rw [fixedPlaces, String.toList_ofList, numeric_append, numeric_append]
      exact ⟨⟨hsign, hdigits.take _⟩, hplaces⟩
  | infinite negative => exact numeric_infinite negative
  | notANumber => exact numeric_notANumber

end CodeDigest.Decimal
