import CodeDigest.Json.Record
import CodeDigest.Proofs.Decimal.Characters
import CodeDigest.Proofs.Json.Printing
import CodeDigest.Proofs.Toml.Strings
import CodeDigest.Toml.Statement

/-!
# Values are read back

`ReadsAs` says that a text is read as a value wherever a newline follows it.  A word is read so when
it denotes the value (`readsAs_word`), which whole numbers do (`scalar?_digitsOf`); strings and
lists of strings are read so in the forms that they are written in (`readsAs_quoted`,
`readsAs_listText`).
-/

namespace CodeDigest.Toml

open Json

variable {assemble : Assemble} {c : Char} {cs ds text rest : List Char} {count depth n : ℕ}
  {v : Json} {done : List Json} {s : String}

/-- A text is read as a value up to the end of its line. -/
structure ReadsAs (text : List Char) (v : Json) : Prop where
  head : ∃ c cs, text = c :: cs ∧ c ≠ ' ' ∧ c ≠ '\t'
  value : ∀ (assemble : Assemble) (count depth : ℕ) (rest : List Char), text.length < count →
    value? assemble count (depth + 2) (text ++ '\n' :: rest) = some (v, '\n' :: rest)

/-! ## Words -/

lemma ne_of_class {p : Char → Bool} {d : Char} (hc : p c = true) (hd : p d = false) : c ≠ d :=
  ne_of_apply_ne p (by simp [hc, hd])

lemma readScalar?_word (hword : ∀ c ∈ text, isWordChar c = true) (h : scalar? text = some v) :
    readScalar? (text ++ '\n' :: rest) = some (v, '\n' :: rest) := by
  have hstop : ∀ c ∈ ('\n' :: rest).head?, isWordChar c = false := by
    rintro c ⟨⟩
    decide
  simp only [readScalar?, Text.takeWhile_run hword hstop, Text.dropWhile_run hword hstop, h]
  simp

/-- A word that denotes a value is read. -/
lemma readsAs_word (hword : ∀ c ∈ text, isWordChar c = true) (h : scalar? text = some v) :
    ReadsAs text v := by
  cases text with
  | nil =>
      have hnil : scalar? [] = none := by rfl
      rw [hnil] at h
      cases h
  | cons c cs =>
      have hc := hword c List.mem_cons_self
      refine ⟨⟨c, cs, rfl, ne_of_class hc (by decide), ne_of_class hc (by decide)⟩, ?_⟩
      intro assemble count depth rest hcount
      obtain ⟨count, rfl⟩ := Nat.exists_eq_succ_of_ne_zero (Nat.ne_zero_of_lt hcount)
      have hread : readScalar? (c :: cs ++ '\n' :: rest) = some (v, '\n' :: rest) :=
        readScalar?_word hword h
      have hquote : ¬(c == '"' || c == '\'') = true := by
        simp [ne_of_class hc (d := '"') (by decide), ne_of_class hc (d := '\'') (by decide)]
      rw [List.cons_append] at hread ⊢
      rw [value?, if_neg hquote, hread]
      · exact ne_of_class hc (by decide)
      · exact ne_of_class hc (by decide)

lemma isWordChar_of_isNumeric (h : Decimal.IsNumeric c) : isWordChar c = true := by
  rcases h with h | rfl | rfl
  · simp [isWordChar, h]
  · decide
  · decide

/-- The text of a number with a point is a word. -/
lemma isWordChar_floatText (r : Decimal.Reading) :
    ∀ c ∈ (floatText r).toList, isWordChar c = true := by
  cases r with
  | notANumber => exact List.all_eq_true.mp (by decide)
  | finite b => exact fun c hc => isWordChar_of_isNumeric (Decimal.numeric_write _ _ c hc)
  | infinite b => exact fun c hc => isWordChar_of_isNumeric (Decimal.numeric_write _ _ c hc)

/-- The number is read as it was printed. -/
def DoubleReadsBack (x : Float) : Prop :=
  scalar? (floatText (.ofDouble x)).toList = some (double x)

/-- The number is read as it was printed, once it is rounded to single precision again. -/
def SingleReadsBack (x : Float32) : Prop :=
  ∃ y : Float, scalar? (floatText (.ofSingle x)).toList = some (double y) ∧ singleOfDouble y = x

/-! ## Whole numbers -/

lemma after?_of_digits (hds : ∀ c ∈ ds, c.isDigit = true) (hc : c.isDigit = false) :
    after? c ds = none := by
  cases ds with
  | nil => rfl
  | cons d ds =>
      have hne : d ≠ c := ne_of_class (hds d List.mem_cons_self) hc
      rw [after?, if_neg (by simpa using hne.symm)]

lemma rest_of_field? {low high value : ℕ} (h : field? count low high cs = some (value, rest)) :
    rest = cs.drop count := by
  unfold field? at h
  dsimp only at h
  split_ifs at h
  cases h
  rfl

/-- Digits alone are no date. -/
lemma isDate_of_digits (hds : ∀ c ∈ ds, c.isDigit = true) : isDate ds = false := by
  have hdrop : ∀ k, ∀ c ∈ ds.drop k, c.isDigit = true :=
    fun k c hc => hds c (List.mem_of_mem_drop hc)
  have hdate : afterDate? ds = none := by
    unfold afterDate?
    cases hyear : field? 4 0 9999 ds with
    | none => rfl
    | some year =>
        obtain ⟨year, rest⟩ := year
        obtain rfl := rest_of_field? hyear
        simp [after?_of_digits (hdrop 4) (c := '-') (by decide)]
  have htime : afterTime? ds = none := by
    unfold afterTime?
    cases hhour : field? 2 0 23 ds with
    | none => rfl
    | some hour =>
        obtain ⟨hour, rest⟩ := hour
        obtain rfl := rest_of_field? hhour
        simp [after?_of_digits (hdrop 2) (c := ':') (by decide)]
  rw [isDate, hdate, htime]
  rfl

lemma digits?_of_digits (hds : ∀ c ∈ ds, c.isDigit = true) (hne : ds ≠ []) :
    digits? Char.isDigit ds = some ds := by
  induction ds with
  | nil => exact absurd rfl hne
  | cons c ds ih =>
      obtain ⟨hc, hds⟩ := List.forall_mem_cons.mp hds
      cases ds with
      | nil => rw [digits?, if_pos hc]
      | cons d ds =>
          rw [digits?, if_pos hc, ih hds (List.cons_ne_nil d ds)]
          · rfl
          · exact List.cons_ne_nil d ds
          · rintro ds ⟨⟩
            exact absurd (hds '_' List.mem_cons_self) (by decide)

lemma isDigit_digitsOf (n : ℕ) : ∀ c ∈ Decimal.digitsOf n, c.isDigit = true := fun _ hc =>
  Nat.isDigit_of_mem_toDigits (by decide) (by decide) hc

lemma valueIn_digitsOf (n : ℕ) : valueIn 10 (Decimal.digitsOf n) = n := by
  have hdigits : valueIn 10 (Decimal.digitsOf n) = Nat.ofDigitChars 10 (Decimal.digitsOf n) 0 := by
    rw [valueIn, Nat.ofDigitChars_eq_foldl]
    refine List.foldl_ext _ _ _ fun k c hc => ?_
    rw [digitValue, if_pos (isDigit_digitsOf n c hc)]
    rfl
  exact hdigits.trans Nat.ofDigitChars_ten_toDigits

/-- A whole number is the value of its digits. -/
lemma scalar?_digitsOf (hn : n < 0x8000000000000000) :
    scalar? (Decimal.digitsOf n) = some (nat n) := by
  have hall := isDigit_digitsOf n
  have hne : Decimal.digitsOf n ≠ [] := Nat.toDigits_ne_nil
  have hwhole : wholePart? (Decimal.digitsOf n) = some (Decimal.digitsOf n) := by
    rw [wholePart?, digits?_of_digits hall hne, Option.bind_some, if_neg]
    rcases eq_or_ne n 0 with rfl | hzero
    · decide
    · have hhead : (Decimal.digitsOf n).head? ≠ some '0' := head_toDigits_ne_zero hzero
      simp [hhead]
  have hvalue := valueIn_digitsOf n
  generalize Decimal.digitsOf n = ds at hall hne hwhole hvalue
  have hother : ∀ xs c ys, c.isDigit = false → ds ≠ xs ++ c :: ys := by
    rintro xs c ys hc rfl
    rw [hall c (by simp)] at hc
    cases hc
  have hsign : sign ds = (false, ds) := by
    rw [sign]
    · exact fun cs => hother [] '-' cs (by decide)
    · exact fun cs => hother [] '+' cs (by decide)
  have hread : whole? ds = some (nat n) := by
    simp [whole?, hsign, hwhole, hvalue, hn, nat, int]
  have hnamed : named? ds = none := by
    have hinf : ¬(ds == "inf".toList) = true := by simpa using hother [] 'i' ['n', 'f'] (by decide)
    have hnan : ¬(ds == "nan".toList) = true := by simpa using hother [] 'n' ['a', 'n'] (by decide)
    simp only [named?, hsign]
    rw [if_neg hinf, if_neg hnan]
  have htrue : ¬(ds == "true".toList) = true := by
    simpa using hother [] 't' ['r', 'u', 'e'] (by decide)
  have hfalse : ¬(ds == "false".toList) = true := by
    simpa using hother [] 'f' ['a', 'l', 's', 'e'] (by decide)
  rw [scalar?, if_neg htrue, if_neg hfalse, isDate_of_digits hall, hnamed, hread]
  · rfl
  · exact fun cs => hother ['0'] 'x' cs (by decide)
  · exact fun cs => hother ['0'] 'o' cs (by decide)
  · exact fun cs => hother ['0'] 'b' cs (by decide)

lemma readsAs_nat (hn : n < 0x8000000000000000) : ReadsAs (toString n).toList (nat n) := by
  rw [Decimal.toList_toString]
  refine readsAs_word (fun c hc => ?_) (scalar?_digitsOf hn)
  simp [isWordChar, Char.isAlphanum, isDigit_digitsOf n c hc]

lemma readsAs_bool (b : Bool) :
    ReadsAs (if b then "true".toList else "false".toList) (.bool b) := by
  cases b with
  | true => exact readsAs_word (List.all_eq_true.mp (by decide)) rfl
  | false => exact readsAs_word (List.all_eq_true.mp (by decide)) rfl

/-! ## Strings and lists of strings -/

/-- A string starts with a quote. -/
lemma exists_quoted_cons (s : String) : ∃ c cs, quoted s = c :: cs ∧ (c = '"' ∨ c = '\'') := by
  unfold quoted
  simp only
  split_ifs <;> simp [enclose]

lemma value?_quoted (s : String) (hrest : ∀ c ∈ rest.head?, c ≠ '"' ∧ c ≠ '\'')
    (hcount : 0 < count) : value? assemble count (depth + 1) (quoted s ++ rest)
      = some (.string s, rest) := by
  obtain ⟨count, rfl⟩ := Nat.exists_eq_succ_of_ne_zero (Nat.ne_zero_of_lt hcount)
  have hread := string?_quoted s hrest
  obtain ⟨c, cs, hquoted, hc⟩ := exists_quoted_cons s
  have hquote : (c == '"' || c == '\'') = true := by
    rcases hc with rfl | rfl <;> rfl
  rw [hquoted, List.cons_append] at hread ⊢
  rw [value?, if_pos hquote, hread]
  · simp
  · rintro rfl
    exact absurd hc (by decide)
  · rintro rfl
    exact absurd hc (by decide)

lemma readsAs_quoted (s : String) : ReadsAs (quoted s) (.string s) := by
  obtain ⟨c, cs, hquoted, hc⟩ := exists_quoted_cons s
  refine ⟨⟨c, cs, hquoted, ?_⟩, fun assemble count depth rest hcount => ?_⟩
  · rcases hc with rfl | rfl <;> decide
  · refine value?_quoted s ?_ (Nat.zero_lt_of_lt hcount)
    rintro c ⟨⟩
    decide

/-- A character that neither a blank, nor a newline, nor a comment starts with. -/
structure IsSolid (c : Char) : Prop where
  ne_space : c ≠ ' '
  ne_tab : c ≠ '\t'
  ne_newline : c ≠ '\n'
  ne_return : c ≠ '\r'
  ne_hash : c ≠ '#'

lemma IsSolid.dropBlanks_eq (h : IsSolid c) (cs : List Char) : dropBlanks (c :: cs) = c :: cs :=
  List.dropWhile_cons_of_neg (by simp [h.ne_space, h.ne_tab])

lemma IsSolid.afterComment_eq (h : IsSolid c) (cs : List Char) :
    afterComment (c :: cs) = c :: cs := by
  rw [afterComment]
  rintro _ ⟨⟩
  exact h.ne_hash rfl

lemma IsSolid.afterNewline?_eq (h : IsSolid c) (cs : List Char) :
    afterNewline? (c :: cs) = none := by
  rw [afterNewline?]
  · rintro _ ⟨⟩
    exact h.ne_newline rfl
  · rintro _ ⟨⟩
    exact h.ne_return rfl

lemma IsSolid.dropSpace_eq (h : IsSolid c) (n : ℕ) (cs : List Char) :
    dropSpace n (c :: cs) = c :: cs := by
  cases n with
  | zero => rfl
  | succ n => simp only [dropSpace, h.dropBlanks_eq, h.afterComment_eq, h.afterNewline?_eq]

/-- An element on a line of its own. -/
lemma IsSolid.dropSpace_line (h : IsSolid c) (hn : 1 < n) (cs : List Char) :
    dropSpace n ('\n' :: ("    ".toList ++ c :: cs)) = c :: cs := by
  obtain ⟨n, rfl⟩ := Nat.exists_eq_add_of_lt hn
  have hblanks : dropBlanks ("    ".toList ++ c :: cs) = c :: cs := h.dropBlanks_eq cs
  have hline : dropSpace (1 + n + 1) ('\n' :: ("    ".toList ++ c :: cs))
      = dropSpace (n + 1) ("    ".toList ++ c :: cs) := by
    rw [Nat.add_comm 1 n]
    rfl
  rw [hline]
  simp only [dropSpace, hblanks, h.afterComment_eq, h.afterNewline?_eq]

/-- The elements of a list, each on a line of its own, and the end of the list. -/
def linesText (xs : List String) : List Char :=
  '\n' :: (xs.flatMap (fun x => "    ".toList ++ quoted x ++ ",\n".toList) ++ [']'])

lemma linesText_cons (x : String) (xs : List String) :
    linesText (x :: xs) = '\n' :: ("    ".toList ++ (quoted x ++ ',' :: linesText xs)) := by
  simp [linesText]

lemma isSolid_comma : IsSolid ',' := ⟨by decide, by decide, by decide, by decide, by decide⟩

lemma isSolid_bracket : IsSolid ']' := ⟨by decide, by decide, by decide, by decide, by decide⟩

lemma isSolid_quote (hc : c = '"' ∨ c = '\'') : IsSolid c := by
  rcases hc with rfl | rfl <;> exact ⟨by decide, by decide, by decide, by decide, by decide⟩

/-- An element with a comma behind it. -/
lemma elements?_comma {more xs : List Char} (hxs : dropSpace cs.length cs = xs)
    (hend : xs.head? ≠ some ']') (hread : value? assemble count depth xs = some (v, rest))
    (hrest : dropSpace rest.length rest = ',' :: more) :
    elements? assemble done (count + 1) depth cs
      = elements? assemble (v :: done) count depth more := by
  rw [elements?, hxs]
  split
  · exact absurd rfl hend
  · simp only [hread, hrest]

/-- An element with the end of the list behind it. -/
lemma elements?_last {more xs : List Char} (hxs : dropSpace cs.length cs = xs)
    (hend : xs.head? ≠ some ']') (hread : value? assemble count depth xs = some (v, rest))
    (hrest : dropSpace rest.length rest = ']' :: more) :
    elements? assemble done (count + 1) depth cs = some (.array (v :: done).reverse, more) := by
  rw [elements?, hxs]
  split
  · exact absurd rfl hend
  · simp only [hread, hrest]

lemma elements?_end {more : List Char} (hxs : dropSpace cs.length cs = ']' :: more) :
    elements? assemble done (count + 1) depth cs = some (.array done.reverse, more) := by
  rw [elements?, hxs]
  rfl

lemma length_lt_linesText (xs : List String) : xs.length < (linesText xs).length := by
  induction xs with
  | nil => decide
  | cons x xs ih =>
      rw [linesText_cons]
      simp only [List.length_cons, List.length_append]
      omega

lemma elements?_linesText {xs : List String} (hcount : xs.length ≤ count) :
    elements? assemble done (count + 1) (depth + 1) (linesText xs ++ rest)
      = some (.array (done.reverse ++ xs.map .string), rest) := by
  induction xs generalizing done count with
  | nil =>
      have hspace : dropSpace (linesText [] ++ rest).length (linesText [] ++ rest) = ']' :: rest :=
        isSolid_bracket.dropSpace_eq _ rest
      rw [elements?_end hspace, List.map_nil, List.append_nil]
  | cons x xs ih =>
      obtain ⟨count, rfl⟩ := Nat.exists_eq_succ_of_ne_zero (Nat.ne_zero_of_lt hcount)
      obtain ⟨c, cs, hquoted, hc⟩ := exists_quoted_cons x
      have hread : value? assemble (count + 1) (depth + 1)
          (quoted x ++ ',' :: (linesText xs ++ rest))
          = some (.string x, ',' :: (linesText xs ++ rest)) :=
        value?_quoted x (by rintro c ⟨⟩; decide) (Nat.succ_pos count)
      have hline : linesText (x :: xs) ++ rest
          = '\n' :: ("    ".toList ++ (quoted x ++ ',' :: (linesText xs ++ rest))) := by
        rw [linesText_cons]
        simp
      have hspace : dropSpace (linesText (x :: xs) ++ rest).length (linesText (x :: xs) ++ rest)
          = quoted x ++ ',' :: (linesText xs ++ rest) := by
        rw [hline, hquoted]
        exact (isSolid_quote hc).dropSpace_line (by simp) _
      have hend : (quoted x ++ ',' :: (linesText xs ++ rest)).head? ≠ some ']' := by
        rw [hquoted]
        rcases hc with rfl | rfl <;> simp
      rw [elements?_comma hspace hend hread (isSolid_comma.dropSpace_eq _ _),
        ih (Nat.le_of_succ_le_succ hcount)]
      simp

/-- **A list of strings that has been written is read.** -/
theorem readsAs_listText (xs : List String) : ReadsAs (listText xs) (strings xs) := by
  have hlist : ∀ text, listText xs = '[' :: text → (∀ assemble count depth rest,
      text.length < count → elements? assemble [] count (depth + 1) (text ++ '\n' :: rest)
        = some (strings xs, '\n' :: rest)) → ReadsAs (listText xs) (strings xs) := by
    intro text htext hread
    refine ⟨⟨'[', text, htext, by decide, by decide⟩, fun assemble count depth rest hcount => ?_⟩
    rw [htext] at hcount ⊢
    obtain ⟨count, rfl⟩ := Nat.exists_eq_succ_of_ne_zero (Nat.ne_zero_of_lt hcount)
    rw [List.cons_append, value?]
    exact hread assemble count depth rest (by simpa using hcount)
  rcases xs with _ | ⟨x, _ | ⟨y, xs⟩⟩
  · refine hlist [']'] rfl fun assemble count depth rest hcount => ?_
    obtain ⟨count, rfl⟩ := Nat.exists_eq_succ_of_ne_zero (Nat.ne_zero_of_lt hcount)
    exact elements?_end rfl
  · refine hlist (quoted x ++ [']']) rfl fun assemble count depth rest hcount => ?_
    obtain ⟨c, cs, hquoted, hc⟩ := exists_quoted_cons x
    rw [List.append_assoc, List.singleton_append]
    rw [List.length_append, List.length_singleton] at hcount
    obtain ⟨count, rfl⟩ := Nat.exists_eq_succ_of_ne_zero (Nat.ne_zero_of_lt hcount)
    have hread : value? assemble count (depth + 1) (quoted x ++ ']' :: '\n' :: rest)
        = some (.string x, ']' :: '\n' :: rest) :=
      value?_quoted x (by rintro c ⟨⟩; decide) (by omega)
    have hspace : ∀ n, dropSpace n (quoted x ++ ']' :: '\n' :: rest)
        = quoted x ++ ']' :: '\n' :: rest := fun n => by
      rw [hquoted]
      exact (isSolid_quote hc).dropSpace_eq n _
    have hend : (quoted x ++ ']' :: '\n' :: rest).head? ≠ some ']' := by
      rw [hquoted]
      rcases hc with rfl | rfl <;> simp
    rw [elements?_last (hspace _) hend hread (isSolid_bracket.dropSpace_eq _ _)]
    rfl
  · refine hlist (linesText (x :: y :: xs)) rfl fun assemble count depth rest hcount => ?_
    obtain ⟨count, rfl⟩ := Nat.exists_eq_succ_of_ne_zero (Nat.ne_zero_of_lt hcount)
    have hlength := length_lt_linesText (x :: y :: xs)
    rw [elements?_linesText (by omega)]
    rfl

end CodeDigest.Toml
