import Mathlib.Data.Nat.Bitwise
import CodeDigest.Text.Case

/-!
# What the case tables have in common

The tables behind lowercase are compared as a whole.  A set of code points is written as a number
that has the bit `n` for each code point `n` of the set, so that whether a table lies inside another
one, or outside of it, is one operation on two numbers (`changing_bits`, `changed_bits`).

* A character is its own lowercase form, or is mapped by a run, or is `İ` (`lowercaseChar_cases`).
* What a run maps a character to is lowercase itself (`isLow_of_mem_lowercaseChar`).
* A character and its lowercase form count as the same where a word may end
  (`wordClass_of_lowercaseChar`).
* Nothing but the sigmas has a small sigma for its lowercase form (`eq_of_lowercaseChar_sigma`).
-/

namespace CodeDigest.Text

variable {c d : Char} {n : Nat} {ns : List Nat} {ranges : List (Nat × Nat)}

/-! ## Sets of code points as numbers -/

/-- The number with the bits of some code points. -/
def bitsOf (ns : List Nat) : Nat := ns.foldr (fun n bits => bits ||| 2 ^ n) 0

/-- The number with the bits of some ranges of code points. -/
def bitsOfRanges (ranges : List (Nat × Nat)) : Nat :=
  ranges.foldr (fun (low, high) bits => bits ||| (2 ^ (high + 1 - low) - 1) <<< low) 0

lemma testBit_bitsOf (ns : List Nat) (n : Nat) : (bitsOf ns).testBit n = decide (n ∈ ns) := by
  induction ns with
  | nil => simp [bitsOf]
  | cons m ns ih =>
      rw [bitsOf] at ih
      rw [bitsOf, List.foldr_cons, Nat.testBit_or, ih, Nat.testBit_two_pow]
      by_cases hm : m = n
      · simp [hm]
      · simp [hm, Ne.symm hm]

lemma testBit_bitsOfRanges (ranges : List (Nat × Nat)) (c : Char) :
    (bitsOfRanges ranges).testBit c.toNat = inCaseRanges ranges c := by
  induction ranges with
  | nil => simp [bitsOfRanges, inCaseRanges]
  | cons range ranges ih =>
      obtain ⟨low, high⟩ := range
      have hcons : inCaseRanges ((low, high) :: ranges) c
          = ((decide (low ≤ c.toNat) && decide (c.toNat ≤ high)) || inCaseRanges ranges c) := rfl
      rw [bitsOfRanges] at ih
      rw [bitsOfRanges, List.foldr_cons, Nat.testBit_or, ih, Nat.testBit_shiftLeft,
        Nat.testBit_two_pow_sub_one, hcons, Bool.or_comm]
      congr 1
      rw [Bool.eq_iff_iff]
      simp only [Bool.and_eq_true, decide_eq_true_eq]
      omega

lemma inCaseRanges_of_and_eq_self (h : bitsOf ns &&& bitsOfRanges ranges = bitsOf ns)
    (hc : c.toNat ∈ ns) : inCaseRanges ranges c = true := by
  have hbit := congrArg (Nat.testBit · c.toNat) h
  simpa [testBit_bitsOf, testBit_bitsOfRanges, hc] using hbit

lemma inCaseRanges_of_and_eq_zero (h : bitsOf ns &&& bitsOfRanges ranges = 0)
    (hc : c.toNat ∈ ns) : inCaseRanges ranges c = false := by
  have hbit := congrArg (Nat.testBit · c.toNat) h
  simpa [testBit_bitsOf, testBit_bitsOfRanges, hc] using hbit

lemma not_mem_of_and_eq_zero {ms : List Nat} (h : bitsOf ns &&& bitsOf ms = 0) (hn : n ∈ ns) :
    n ∉ ms := by
  have hbit := congrArg (Nat.testBit · n) h
  simpa [testBit_bitsOf, hn] using hbit

/-! ## The characters that lowercase changes -/

/-- The code points of a run. -/
def CaseRun.members (r : CaseRun) : List Nat :=
  (List.range ((r.last - r.first) / r.stride + 1)).map fun i => r.first + r.stride * i

/-- The code point that a run maps another one to. -/
def CaseRun.image (r : CaseRun) (n : Nat) : Nat := (Char.ofNat (n + r.shift).toNat).toNat

lemma CaseRun.mem_members {r : CaseRun} (h : r.covers n = true) : n ∈ r.members := by
  simp only [covers, Bool.and_eq_true, decide_eq_true_eq, beq_iff_eq] at h
  obtain ⟨⟨hfirst, hlast⟩, hstride⟩ := h
  have hdiv := Nat.div_add_mod (n - r.first) r.stride
  rw [members, List.mem_map]
  refine ⟨(n - r.first) / r.stride, List.mem_range.mpr ?_, by omega⟩
  exact Nat.lt_succ_of_le (Nat.div_le_div_right (Nat.sub_le_sub_right hlast _))

/-- The capitals of ASCII. -/
def asciiCapitals : CaseRun := ⟨0x41, 0x5A, 1, 32⟩

/-- The lowercase runs, with the capitals of ASCII in front. -/
def allLowercaseRuns : List CaseRun := asciiCapitals :: lowercaseRuns

/-- The code points that have another one for their lowercase form. -/
def changing : List Nat := allLowercaseRuns.flatMap CaseRun.members

/-- The code points that are the lowercase form of another one. -/
def changed : List Nat := allLowercaseRuns.flatMap fun r => r.members.map r.image

lemma changing_bits : bitsOf changing &&& bitsOfRanges caseIgnorableRanges = 0 ∧
    bitsOf changing &&& bitsOfRanges casedRanges = bitsOf changing := by
  decide +kernel

lemma changed_bits : bitsOf changed &&& bitsOfRanges caseIgnorableRanges = 0 ∧
    bitsOf changed &&& bitsOfRanges casedRanges = bitsOf changed := by
  decide +kernel

/-- No lowercase form changes again. -/
lemma changed_bits_apart : bitsOf changed &&& bitsOf ('İ'.toNat :: changing) = 0 := by
  decide +kernel

/-- Of these code points only the capital sigma becomes a small one. -/
lemma eq_of_image_sigma : ∀ r ∈ allLowercaseRuns, ∀ n ∈ r.members,
    r.image n = 'σ'.toNat → n = 'Σ'.toNat := by
  decide +kernel

/-! ## What lowercase does to a character -/

lemma toLower_cases : ∀ n < 128, (Char.ofNat n).toLower = Char.ofNat n ∨
    n ∈ asciiCapitals.members ∧ (Char.ofNat n).toLower.toNat = asciiCapitals.image n := by
  decide +kernel

/-- A character is its own lowercase form, or a run maps it to another one, or it is `İ`. -/
lemma lowercaseChar_cases (c : Char) : lowercaseChar c = [c] ∨
    (∃ r ∈ allLowercaseRuns, c.toNat ∈ r.members ∧
      ∃ d, lowercaseChar c = [d] ∧ d.toNat = r.image c.toNat) ∨ c = 'İ' := by
  unfold lowercaseChar
  split_ifs with hascii hdotted
  · have hlower := toLower_cases c.toNat hascii
    rw [Char.ofNat_toNat] at hlower
    rcases hlower with hsame | ⟨hmem, himage⟩
    · exact .inl (by rw [hsame])
    · exact .inr (.inl ⟨asciiCapitals, List.mem_cons_self, hmem, _, rfl, himage⟩)
  · exact .inr (.inr (by simpa using hdotted))
  · unfold mapByRuns
    split
    next r hfind =>
      have hcovers : r.covers c.toNat = true :=
        List.find?_some (p := fun r : CaseRun => r.covers c.toNat) hfind
      exact .inr (.inl ⟨r, List.mem_cons_of_mem _ (List.mem_of_find?_eq_some hfind),
        CaseRun.mem_members hcovers, _, rfl, rfl⟩)
    next => exact .inl rfl

/-- A character is its own lowercase form and no capital sigma. -/
def IsLow (c : Char) : Prop := lowercaseChar c = [c] ∧ c ≠ 'Σ'

instance (c : Char) : Decidable (IsLow c) := inferInstanceAs (Decidable (_ ∧ _))

/-- What a character counts as where a word may end: whether it is looked through there, and
whether it is cased. -/
def wordClass (c : Char) : Bool × Bool :=
  (inCaseRanges caseIgnorableRanges c, inCaseRanges casedRanges c)

lemma mem_changing {r : CaseRun} (hr : r ∈ allLowercaseRuns) (hn : n ∈ r.members) :
    n ∈ changing := List.mem_flatMap.mpr ⟨r, hr, hn⟩

lemma image_mem_changed {r : CaseRun} (hr : r ∈ allLowercaseRuns) (hn : n ∈ r.members) :
    r.image n ∈ changed := List.mem_flatMap.mpr ⟨r, hr, List.mem_map_of_mem hn⟩

lemma isLow_of_not_changing (h : c.toNat ∉ 'İ'.toNat :: changing) : IsLow c := by
  rw [List.mem_cons, not_or] at h
  constructor
  · rcases lowercaseChar_cases c with hself | ⟨r, hr, hmem, -⟩ | rfl
    · exact hself
    · exact absurd (mem_changing hr hmem) h.2
    · exact absurd rfl h.1
  · rintro rfl
    have hsigma : 'Σ'.toNat ∈ changing := by decide +kernel
    exact h.2 hsigma

/-- **Lowercase forms are lowercase.** -/
theorem isLow_of_mem_lowercaseChar (h : d ∈ lowercaseChar c) (hc : c ≠ 'Σ') : IsLow d := by
  rcases lowercaseChar_cases c with hself | ⟨r, hr, hmem, e, he, himage⟩ | rfl
  · rw [hself, List.mem_singleton] at h
    exact h ▸ ⟨hself, hc⟩
  · rw [he, List.mem_singleton] at h
    rw [h]
    refine isLow_of_not_changing (not_mem_of_and_eq_zero changed_bits_apart ?_)
    rw [himage]
    exact image_mem_changed hr hmem
  · have hforms : IsLow 'i' ∧ IsLow (Char.ofNat 0x307) := by decide +kernel
    have hdotted : lowercaseChar 'İ' = ['i', Char.ofNat 0x307] := by decide
    rw [hdotted, List.mem_cons, List.mem_singleton] at h
    rcases h with rfl | rfl
    · exact hforms.1
    · exact hforms.2

/-- **A character and its lowercase form** count as the same where a word may end. -/
theorem wordClass_of_lowercaseChar (h : lowercaseChar c = [d]) : wordClass d = wordClass c := by
  rcases lowercaseChar_cases c with hself | ⟨r, hr, hmem, e, he, himage⟩ | rfl
  · rw [hself, List.cons.injEq] at h
    rw [h.1]
  · obtain rfl : e = d := by simpa [he] using h
    have hc := mem_changing hr hmem
    have hd := image_mem_changed hr hmem
    rw [← himage] at hd
    rw [wordClass, wordClass, inCaseRanges_of_and_eq_zero changing_bits.1 hc,
      inCaseRanges_of_and_eq_zero changed_bits.1 hd, inCaseRanges_of_and_eq_self changing_bits.2 hc,
      inCaseRanges_of_and_eq_self changed_bits.2 hd]
  · have hlength : (lowercaseChar 'İ').length = 2 := by decide
    simp [h] at hlength

/-- Nothing but the sigmas becomes a small sigma that is not final. -/
lemma eq_of_lowercaseChar_sigma (h : lowercaseChar c = ['σ']) : c = 'Σ' ∨ c = 'σ' := by
  rcases lowercaseChar_cases c with hself | ⟨r, hr, hmem, e, he, himage⟩ | rfl
  · rw [hself, List.cons.injEq] at h
    exact .inr h.1
  · obtain rfl : e = 'σ' := by simpa [he] using h
    exact .inl (Char.toNat_inj.mp (eq_of_image_sigma r hr c.toNat hmem himage.symm))
  · exact absurd h (by decide)

end CodeDigest.Text
