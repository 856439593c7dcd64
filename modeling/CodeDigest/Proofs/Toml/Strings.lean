import Mathlib.Data.List.Basic
import CodeDigest.Proofs.Text.Splitting
import CodeDigest.Toml.Printer
import CodeDigest.Toml.Quoted

/-!
# Strings are read back

A string is written in one of four forms, the first that can hold it.  Between single quotes it
stands as it is (`literal?_append`); between double quotes some of its characters are escaped
(`basic?_escapeText`).  For the two forms over several lines `Written` says how a text may be spelt
between three quotes, and `manyLines?_written` that what is spelt so is read; there a reader takes
quotes by the run, so a spelling has to know how many quotes stand in front.  Whatever the form, the
text comes back (`string?_quoted`).
-/

namespace CodeDigest.Toml

variable {c quote : Char} {cs body rest done xs : List Char} {lines escapes : Bool}
  {run count : ℕ}

/-! ## Characters -/

/-- A character that is written by its code. -/
lemma escaped?_code (h : c.toNat < 0x20 ∨ c.toNat = 0x7F) (rest : List Char) :
    escaped? ('u' :: '0' :: '0' :: upperHexDigit (c.toNat / 16) :: upperHexDigit (c.toNat % 16)
      :: rest) = some (c, rest) := by
  have hdigits : ∀ n < 128, ['0', '0', upperHexDigit (n / 16), upperHexDigit (n % 16)].mapM
      Json.hexValue? = some [0, 0, n / 16, n % 16] := by decide
  have hcode : ['0', '0', upperHexDigit (c.toNat / 16), upperHexDigit (c.toNat % 16)].mapM
      Json.hexValue? = some [0, 0, c.toNat / 16, c.toNat % 16] := hdigits c.toNat (by omega)
  have hvalue : 16 * (16 * (16 * (16 * 0 + 0) + 0) + c.toNat / 16) + c.toNat % 16 = c.toNat := by
    omega
  have hlow : c.toNat < 0xD800 := by omega
  change codePoint? 4 _ = _
  simp only [codePoint?, List.take_succ_cons, List.take_zero, hcode, Option.bind_eq_bind,
    Option.bind_some, List.foldl_cons, List.foldl_nil, hvalue]
  simp [hlow]

/-- A character is written as it is or behind a backslash. -/
lemma escapeChar_cases (lines : Bool) (c : Char) :
    (escapeChar lines c = [c] ∧ c ≠ '\\' ∧ (isControl c = false ∨ lines = true ∧ c = '\n')) ∨
    ∃ code, escapeChar lines c = '\\' :: code ∧
      ∀ rest, escaped? (code ++ rest) = some (c, rest) := by
  unfold escapeChar
  split_ifs with hback htab hnewline hlines hreturn hb hf hcode
  · obtain rfl : c = '\\' := by simpa using hback
    exact .inr ⟨['\\'], rfl, fun rest => rfl⟩
  · obtain rfl : c = '\t' := by simpa using htab
    exact .inr ⟨['t'], rfl, fun rest => rfl⟩
  · obtain rfl : c = '\n' := by simpa using hnewline
    exact .inl ⟨rfl, by decide, .inr ⟨hlines, rfl⟩⟩
  · obtain rfl : c = '\n' := by simpa using hnewline
    exact .inr ⟨['n'], rfl, fun rest => rfl⟩
  · obtain rfl : c = '\r' := by simpa using hreturn
    exact .inr ⟨['r'], rfl, fun rest => rfl⟩
  · obtain rfl : Char.ofNat 8 = c := by
      rw [← beq_iff_eq.mp hb, Char.ofNat_toNat]
    exact .inr ⟨['b'], rfl, fun rest => rfl⟩
  · obtain rfl : Char.ofNat 12 = c := by
      rw [← beq_iff_eq.mp hf, Char.ofNat_toNat]
    exact .inr ⟨['f'], rfl, fun rest => rfl⟩
  · exact .inr ⟨_, rfl, escaped?_code (by simpa using hcode)⟩
  · refine .inl ⟨rfl, by simpa using hback, .inl ?_⟩
    simp only [Bool.or_eq_true, decide_eq_true_eq, beq_iff_eq, not_or] at hcode
    simp [isControl, hcode]

section EscapeText

variable {allowed : ℕ}

lemma escapeText_few (h : run < allowed) : escapeText lines allowed run ('"' :: cs)
    = '"' :: escapeText lines allowed (run + 1) cs := by
  rw [escapeText, if_pos (beq_self_eq_true _), if_pos h]

lemma escapeText_many (h : ¬run < allowed) : escapeText lines allowed run ('"' :: cs)
    = '\\' :: '"' :: escapeText lines allowed 0 cs := by
  rw [escapeText, if_pos (beq_self_eq_true _), if_neg h]

lemma escapeText_cons (h : c ≠ '"') : escapeText lines allowed run (c :: cs)
    = escapeChar lines c ++ escapeText lines allowed 0 cs := by
  rw [escapeText, if_neg (by simpa using h)]

end EscapeText

/-- Where no codes are needed, only newlines are control characters. -/
lemma isControl_of_not_needsCodes (h : needsCodes cs = false) (hc : c ∈ cs) :
    isControl c = false ∨ c = '\n' := by
  have hcode := List.any_eq_false.mp h c hc
  rcases eq_or_ne c '\n' with rfl | hne
  · exact .inr rfl
  · refine .inl ?_
    simpa [isControl, hne] using hcode

/-! ## Between double quotes -/

lemma basic?_escape (h : escaped? xs = some (c, rest)) :
    basic? done (count + 1) ('\\' :: xs) = basic? (c :: done) count rest := by
  simp only [basic?, h]

lemma basic?_plain (hquote : c ≠ '"') (hback : c ≠ '\\') (hc : isControl c = false) :
    basic? done (count + 1) (c :: rest) = basic? (c :: done) count rest := by
  simp only [basic?, hc]
  rfl

/-- What is escaped between double quotes is read. -/
theorem basic?_escapeText (hcount : (escapeText false 0 run cs ++ '"' :: rest).length < count) :
    basic? done count (escapeText false 0 run cs ++ '"' :: rest)
      = some (done.reverse ++ cs, rest) := by
  induction cs generalizing done count run with
  | nil =>
      obtain ⟨count, rfl⟩ := Nat.exists_eq_succ_of_ne_zero (Nat.ne_zero_of_lt hcount)
      rw [List.append_nil]
      rfl
  | cons c cs ih =>
      obtain ⟨count, rfl⟩ := Nat.exists_eq_succ_of_ne_zero (Nat.ne_zero_of_lt hcount)
      have hdone : (c :: done).reverse ++ cs = done.reverse ++ c :: cs := by simp
      rcases eq_or_ne c '"' with rfl | hquote
      · rw [escapeText_many (Nat.not_lt_zero run)] at hcount ⊢
        rw [List.cons_append, List.cons_append, basic?_escape rfl, ih, hdone]
        simp only [List.cons_append, List.length_cons] at hcount
        omega
      · rw [escapeText_cons hquote] at hcount ⊢
        rcases escapeChar_cases false c with ⟨hcode, hback, hc⟩ | ⟨code, hcode, hescaped⟩
        · rw [hcode, List.append_assoc, List.singleton_append] at hcount ⊢
          rw [basic?_plain hquote hback (by simpa using hc), ih, hdone]
          simpa using hcount
        · rw [hcode, List.append_assoc, List.cons_append] at hcount ⊢
          rw [basic?_escape (hescaped _), ih, hdone]
          simp only [List.length_cons, List.length_append] at hcount ⊢
          omega

/-! ## Between single quotes -/

lemma literal?_plain (hquote : c ≠ '\'') (hc : isControl c = false) :
    literal? done (c :: rest) = literal? (c :: done) rest := by
  rw [literal?, hc]
  · rfl
  · exact hquote

/-- What holds no single quotes and no control characters is read as it is. -/
theorem literal?_append (h : ∀ c ∈ cs, c ≠ '\'' ∧ isControl c = false) :
    literal? done (cs ++ '\'' :: rest) = some (done.reverse ++ cs, rest) := by
  induction cs generalizing done with
  | nil => simp [literal?]
  | cons c cs ih =>
      obtain ⟨⟨hquote, hc⟩, hcs⟩ := List.forall_mem_cons.mp h
      rw [List.cons_append, literal?_plain hquote hc, ih hcs]
      simp

/-! ## Between three quotes -/

/-- How a text may be spelt between three quotes when `run` quotes stand in front of it. -/
inductive Written (quote : Char) (escapes : Bool) : ℕ → List Char → List Char → Prop where
  | nil {run : ℕ} : Written quote escapes run [] []
  | quote {run : ℕ} {cs body : List Char} (few : run < 2)
      (on : Written quote escapes (run + 1) cs body) :
      Written quote escapes run (quote :: cs) (quote :: body)
  | escape {run : ℕ} {c : Char} {code cs body : List Char} (meant : escapes = true)
      (code_eq : ∀ rest, escaped? (code ++ rest) = some (c, rest))
      (on : Written quote escapes 0 cs body) :
      Written quote escapes run (c :: cs) ('\\' :: (code ++ body))
  | plain {run : ℕ} {c : Char} {cs body : List Char} (ne_quote : c ≠ quote)
      (unescaped : c = '\\' → escapes = false) (printed : isControl c = false ∨ c = '\n')
      (on : Written quote escapes 0 cs body) :
      Written quote escapes run (c :: cs) (c :: body)

/-- A run of quotes with what follows it. -/
lemma quoteRun_replicate (n : ℕ) (h : xs.head? ≠ some quote) :
    quoteRun quote (List.replicate n quote ++ xs) = (n, xs) := by
  have hall : ∀ c ∈ List.replicate n quote, (c == quote) = true := fun c hc => by
    rw [List.eq_of_mem_replicate hc, beq_self_eq_true]
  have hstop : ∀ c ∈ xs.head?, (c == quote) = false := fun c hc =>
    beq_eq_false_iff_ne.mpr fun heq => h (heq ▸ hc)
  rw [quoteRun, Text.takeWhile_run hall hstop, Text.dropWhile_run hall hstop,
    List.length_replicate]

/-- Few quotes belong to the text. -/
lemma manyLines?_quotes (hrun : run ≤ 2) (hxs : xs.head? ≠ some quote)
    (hcount : (List.replicate run quote ++ xs).length < count) : ∃ count', xs.length < count' ∧
      manyLines? quote escapes done count (List.replicate run quote ++ xs)
        = manyLines? quote escapes (List.replicate run quote ++ done) count' xs := by
  cases run with
  | zero => exact ⟨count, by simpa using hcount, rfl⟩
  | succ run =>
      obtain ⟨count, rfl⟩ := Nat.exists_eq_succ_of_ne_zero (Nat.ne_zero_of_lt hcount)
      have hfew : run + 1 < 3 := by omega
      refine ⟨count, ?_, ?_⟩
      · simp only [List.length_append, List.length_replicate] at hcount
        omega
      · have hread := quoteRun_replicate (run + 1) hxs
        rw [List.replicate_succ, List.cons_append] at hread
        conv_lhs => rw [List.replicate_succ, List.cons_append]
        simp only [manyLines?, hread]
        rw [if_pos (beq_self_eq_true _), if_pos hfew]

/-- More than two quotes close the text, and those before the last three belong to it. -/
lemma manyLines?_close (hrun : run ≤ 2) (hrest : rest.head? ≠ some quote) (hcount : 0 < count) :
    manyLines? quote escapes done count
        (List.replicate run quote ++ (List.replicate 3 quote ++ rest))
      = some (done.reverse ++ List.replicate run quote, rest) := by
  obtain ⟨count, rfl⟩ := Nat.exists_eq_succ_of_ne_zero (Nat.ne_zero_of_lt hcount)
  have hread := quoteRun_replicate (run + 3) hrest
  rw [← List.append_assoc, List.replicate_append_replicate]
  rw [List.replicate_succ, List.cons_append] at hread ⊢
  have hmany : ¬run + 2 + 1 < 3 := by omega
  have hfew : run + 2 + 1 ≤ 5 := by omega
  simp only [manyLines?, hread]
  rw [if_pos (beq_self_eq_true _), if_neg hmany, if_pos hfew]
  simp

lemma manyLines?_escape (hquote : quote ≠ '\\') (h : escaped? xs = some (c, rest)) :
    manyLines? quote true done (count + 1) ('\\' :: xs)
      = manyLines? quote true (c :: done) count rest := by
  simp only [manyLines?, h]
  rw [if_neg (by simpa using hquote.symm), if_pos (by simp)]

lemma afterNewline?_of_printed (h : isControl c = false) : afterNewline? (c :: rest) = none := by
  unfold afterNewline?
  split
  · next heq =>
    rw [(List.cons.inj heq).1] at h
    cases h
  · next heq =>
    rw [(List.cons.inj heq).1] at h
    cases h
  · rfl

lemma manyLines?_plain (hquote : c ≠ quote) (hback : c = '\\' → escapes = false)
    (hc : isControl c = false ∨ c = '\n') : manyLines? quote escapes done (count + 1) (c :: rest)
      = manyLines? quote escapes (c :: done) count rest := by
  have hplain : ¬(c == '\\' && escapes) = true := by
    rcases eq_or_ne c '\\' with rfl | hne
    · simp [hback rfl]
    · simp [hne]
  simp only [manyLines?]
  rw [if_neg (by simpa using hquote), if_neg hplain]
  rcases hc with hc | rfl
  · rw [afterNewline?_of_printed hc, hc]
    rfl
  · rfl

/-- **What is spelt between three quotes is read.** -/
theorem manyLines?_written (hquote : quote ≠ '\\') (h : Written quote escapes run cs body)
    (hrun : run ≤ 2) (hrest : rest.head? ≠ some quote)
    (hcount : (List.replicate run quote ++ (body ++ (List.replicate 3 quote ++ rest))).length
      < count) :
    manyLines? quote escapes done count
        (List.replicate run quote ++ (body ++ (List.replicate 3 quote ++ rest)))
      = some (done.reverse ++ List.replicate run quote ++ cs, rest) := by
  induction h generalizing done count with
  | nil =>
      rw [List.nil_append, List.append_nil]
      exact manyLines?_close hrun hrest (Nat.zero_lt_of_lt hcount)
  | @quote run cs body few _ ih =>
      have hmove : List.replicate run quote ++ (quote :: body ++ (List.replicate 3 quote ++ rest))
          = List.replicate (run + 1) quote ++ (body ++ (List.replicate 3 quote ++ rest)) := by
        rw [List.replicate_succ' (n := run), List.append_assoc, List.singleton_append,
          List.cons_append]
      rw [hmove] at hcount ⊢
      rw [ih (by omega) hcount, List.replicate_succ']
      simp
  | @escape run c code cs body meant code_eq _ ih =>
      obtain rfl := meant
      obtain ⟨count', hcount', hread⟩ := manyLines?_quotes hrun (by simpa using hquote.symm) hcount
      obtain ⟨count', rfl⟩ := Nat.exists_eq_succ_of_ne_zero (Nat.ne_zero_of_lt hcount')
      rw [List.cons_append, List.append_assoc] at hcount' hread ⊢
      rw [hread, manyLines?_escape hquote (code_eq _)]
      refine (ih (Nat.zero_le 2) ?_).trans (by simp)
      simp only [List.length_cons, List.length_append, List.length_replicate] at hcount' ⊢
      omega
  | @plain run c cs body ne_quote unescaped printed _ ih =>
      obtain ⟨count', hcount', hread⟩ := manyLines?_quotes hrun (by simpa using ne_quote) hcount
      obtain ⟨count', rfl⟩ := Nat.exists_eq_succ_of_ne_zero (Nat.ne_zero_of_lt hcount')
      rw [List.cons_append] at hcount' hread ⊢
      rw [hread, manyLines?_plain ne_quote unescaped printed]
      refine (ih (Nat.zero_le 2) ?_).trans (by simp)
      simp only [List.length_cons, List.length_append, List.length_replicate] at hcount' ⊢
      omega

/-- What is escaped over several lines is spelt so. -/
lemma written_escapeText (hrun : run ≤ 2) (cs : List Char) :
    Written '"' true run cs (escapeText true 2 run cs) := by
  induction cs generalizing run with
  | nil => exact .nil
  | cons c cs ih =>
      rcases eq_or_ne c '"' with rfl | hquote
      · rcases Nat.lt_or_ge run 2 with hfew | hmany
        · rw [escapeText_few hfew]
          exact .quote hfew (ih hfew)
        · rw [escapeText_many (Nat.not_lt.mpr hmany)]
          have hcode : ∀ rest, escaped? (['"'] ++ rest) = some ('"', rest) := fun _ => rfl
          exact .escape rfl hcode (ih (Nat.zero_le 2))
      · rw [escapeText_cons hquote]
        rcases escapeChar_cases true c with ⟨hcode, hback, hc⟩ | ⟨code, hcode, hescaped⟩
        · rw [hcode]
          exact .plain hquote (fun h => absurd h hback) (hc.imp_right And.right)
            (ih (Nat.zero_le 2))
        · rw [hcode]
          exact .escape rfl hescaped (ih (Nat.zero_le 2))

/-- A longest run with what has been counted so far: the longest one, and the one at the end. -/
def longestFrom (quote : Char) (counted : ℕ × ℕ) (cs : List Char) : ℕ :=
  (cs.foldl (fun (best, run) d => if d == quote then (max best (run + 1), run + 1) else (best, 0))
    counted).1

lemma le_longestFrom (best run : ℕ) (cs : List Char) : best ≤ longestFrom quote (best, run) cs := by
  induction cs generalizing best run with
  | nil => exact Nat.le_refl best
  | cons c cs ih =>
      rw [longestFrom, List.foldl_cons]
      dsimp only
      split_ifs
      · exact Nat.le_trans (Nat.le_max_left best (run + 1)) (ih _ _)
      · exact ih _ _

lemma longestFrom_quote (best run : ℕ) (cs : List Char) :
    longestFrom quote (best, run) (quote :: cs)
      = longestFrom quote (max best (run + 1), run + 1) cs := by
  rw [longestFrom, List.foldl_cons]
  simp [longestFrom]

lemma longestFrom_other (hc : c ≠ quote) (best run : ℕ) (cs : List Char) :
    longestFrom quote (best, run) (c :: cs) = longestFrom quote (best, 0) cs := by
  rw [longestFrom, List.foldl_cons]
  simp [longestFrom, hc]

/-- A text without codes and without long runs of quotes may stand as it is. -/
lemma written_self {best : ℕ} (hlongest : longestFrom quote (best, run) cs ≤ 2)
    (hcodes : ∀ c ∈ cs, isControl c = false ∨ c = '\n') : Written quote false run cs cs := by
  induction cs generalizing best run with
  | nil => exact .nil
  | cons c cs ih =>
      obtain ⟨hc, hcs⟩ := List.forall_mem_cons.mp hcodes
      rcases eq_or_ne c quote with rfl | hquote
      · rw [longestFrom_quote] at hlongest
        have hrun : run + 1 ≤ longestFrom c (max best (run + 1), run + 1) cs :=
          Nat.le_trans (Nat.le_max_right best (run + 1)) (le_longestFrom _ _ cs)
        exact .quote (by omega) (ih hlongest hcs)
      · rw [longestFrom_other hquote] at hlongest
        exact .plain hquote (fun _ => rfl) hc (ih hlongest hcs)

/-- Without a run there is no quote. -/
lemma not_mem_of_longestFrom {best : ℕ} (hlongest : longestFrom quote (best, run) cs = 0) :
    quote ∉ cs := by
  induction cs generalizing best run with
  | nil => exact List.not_mem_nil
  | cons c cs ih =>
      rcases eq_or_ne c quote with rfl | hquote
      · rw [longestFrom_quote] at hlongest
        have hrun : run + 1 ≤ longestFrom c (max best (run + 1), run + 1) cs :=
          Nat.le_trans (Nat.le_max_right best (run + 1)) (le_longestFrom _ _ cs)
        omega
      · rw [longestFrom_other hquote] at hlongest
        rw [List.mem_cons, not_or]
        exact ⟨hquote.symm, ih hlongest⟩

/-! ## Strings of any form -/

/-- No newline stands right behind the opening quotes unless it belongs to the text. -/
lemma afterNewline?_written (hprinted : isControl quote = false)
    (h : Written quote escapes 0 cs body) (hline : '\n' ∉ cs) (rest : List Char) :
    afterNewline? (body ++ (List.replicate 3 quote ++ rest)) = none := by
  cases h with
  | nil => exact afterNewline?_of_printed hprinted
  | quote => exact afterNewline?_of_printed hprinted
  | escape => exact afterNewline?_of_printed (by decide)
  | plain _ _ printed _ =>
      rcases printed with hc | rfl
      · exact afterNewline?_of_printed hc
      · exact absurd List.mem_cons_self hline

/-- Between three quotes a text is read, with a newline behind the first ones or without. -/
lemma manyLines?_enclosed (hquote : quote ≠ '\\') (hprinted : isControl quote = false)
    (h : Written quote escapes 0 cs body) (hrest : rest.head? ≠ some quote)
    (hcount : (body ++ (List.replicate 3 quote ++ rest)).length < count) :
    manyLines? quote escapes [] count (afterOpening
      ((if true && cs.contains '\n' then ['\n'] else [])
        ++ (body ++ (List.replicate 3 quote ++ rest)))) = some (cs, rest) := by
  have hopening : afterOpening ((if true && cs.contains '\n' then ['\n'] else [])
      ++ (body ++ (List.replicate 3 quote ++ rest)))
        = body ++ (List.replicate 3 quote ++ rest) := by
    by_cases hline : '\n' ∈ cs
    · rw [if_pos (by simpa using hline)]
      rfl
    · rw [if_neg (by simpa using hline), List.nil_append, afterOpening,
        afterNewline?_written hprinted h hline, Option.getD_none]
  rw [hopening]
  exact manyLines?_written hquote h (Nat.zero_le 2) hrest hcount

/-- A quote with no two others behind it opens a text on one line. -/
lemma string?_double (h : ∀ ys, xs ≠ '"' :: '"' :: ys) :
    string? ('"' :: xs) = basic? [] (xs.length + 2) xs := by
  rw [string?]
  · rfl
  · exact h

lemma string?_single (h : ∀ ys, xs ≠ '\'' :: '\'' :: ys) :
    string? ('\'' :: xs) = literal? [] xs := by
  rw [string?]
  exact h

/-- No quote stands right behind the one that opens a text. -/
lemma exists_escapeText_cons (c : Char) (cs : List Char) :
    ∃ d body, escapeText false 0 0 (c :: cs) = d :: body ∧ d ≠ '"' := by
  rcases eq_or_ne c '"' with rfl | hquote
  · exact ⟨_, _, escapeText_many (Nat.not_lt_zero 0), by decide⟩
  · rw [escapeText_cons hquote]
    rcases escapeChar_cases false c with ⟨hcode, -, -⟩ | ⟨code, hcode, -⟩
    · exact ⟨c, _, by rw [hcode]; rfl, hquote⟩
    · exact ⟨'\\', _, by rw [hcode]; rfl, by decide⟩

lemma string?_escaped (cs : List Char) (hrest : rest.head? ≠ some '"') :
    string? (enclose "\"" false cs (escapeText false 0 0 cs) ++ rest) = some (cs, rest) := by
  have henclose : enclose "\"" false cs (escapeText false 0 0 cs) ++ rest
      = '"' :: (escapeText false 0 0 cs ++ '"' :: rest) := by
    simp [enclose]
  have hopening : ∀ ys, escapeText false 0 0 cs ++ '"' :: rest ≠ '"' :: '"' :: ys := by
    intro ys hys
    cases cs with
    | nil => exact hrest (by rw [(List.cons.inj hys).2]; rfl)
    | cons c cs =>
        obtain ⟨d, body, hbody, hd⟩ := exists_escapeText_cons c cs
        rw [hbody] at hys
        exact hd (List.cons.inj hys).1
  rw [henclose, string?_double hopening, basic?_escapeText (by omega)]
  rfl

lemma string?_literal (hne : cs ≠ []) (h : ∀ c ∈ cs, c ≠ '\'' ∧ isControl c = false) :
    string? (enclose "'" false cs cs ++ rest) = some (cs, rest) := by
  have henclose : enclose "'" false cs cs ++ rest = '\'' :: (cs ++ '\'' :: rest) := by
    simp [enclose]
  have hopening : ∀ ys, cs ++ '\'' :: rest ≠ '\'' :: '\'' :: ys := by
    intro ys hys
    obtain ⟨c, cs, rfl⟩ := List.exists_cons_of_ne_nil hne
    exact (h c List.mem_cons_self).1 (List.cons.inj hys).1
  rw [henclose, string?_single hopening, literal?_append h]
  rfl

lemma string?_escapedLines (cs : List Char) (hrest : rest.head? ≠ some '"') :
    string? (enclose "\"\"\"" true cs (escapeText true 2 0 cs) ++ rest) = some (cs, rest) := by
  have henclose : enclose "\"\"\"" true cs (escapeText true 2 0 cs) ++ rest
      = '"' :: '"' :: '"' :: ((if true && cs.contains '\n' then ['\n'] else [])
        ++ (escapeText true 2 0 cs ++ (List.replicate 3 '"' ++ rest))) := by
    simp [enclose]
  rw [henclose, string?, manyLines?_enclosed (by decide) (by decide)
    (written_escapeText (Nat.zero_le 2) cs) hrest]
  simp only [List.length_cons, List.length_append]
  omega

lemma string?_lines (hrest : rest.head? ≠ some '\'') (hcodes : needsCodes cs = false)
    (hruns : longestRun '\'' cs ≤ 2) :
    string? (enclose "'''" true cs cs ++ rest) = some (cs, rest) := by
  have henclose : enclose "'''" true cs cs ++ rest
      = '\'' :: '\'' :: '\'' :: ((if true && cs.contains '\n' then ['\n'] else [])
        ++ (cs ++ (List.replicate 3 '\'' ++ rest))) := by
    simp [enclose]
  have hlongest : longestFrom '\'' (0, 0) cs ≤ 2 := hruns
  have hwritten : Written '\'' false 0 cs cs :=
    written_self hlongest fun c hc => isControl_of_not_needsCodes hcodes hc
  rw [henclose, string?, manyLines?_enclosed (by decide) (by decide) hwritten hrest]
  simp only [List.length_cons, List.length_append]
  omega

/-- **A string that has been written is read**, where no quote follows. -/
theorem string?_quoted (s : String) (hrest : ∀ c ∈ rest.head?, c ≠ '"' ∧ c ≠ '\'') :
    string? (quoted s ++ rest) = some (s.toList, rest) := by
  have hdouble : rest.head? ≠ some '"' := fun h => (hrest _ h).1 rfl
  have hsingle : rest.head? ≠ some '\'' := fun h => (hrest _ h).2 rfl
  generalize hcs : s.toList = cs
  unfold quoted
  simp only [hcs, Bool.and_eq_true, Bool.not_eq_eq_eq_not, Bool.not_true, beq_iff_eq,
    decide_eq_true_eq]
  split_ifs with h₁ h₂ h₃ h₄ h₅
  · exact string?_escaped cs hdouble
  · obtain ⟨⟨hcodes, hsingles⟩, hlines⟩ := h₂
    refine string?_literal ?_ fun c hc => ⟨?_, ?_⟩
    · rintro rfl
      exact h₁ (by decide)
    · rintro rfl
      exact not_mem_of_longestFrom hsingles hc
    · refine (isControl_of_not_needsCodes hcodes hc).resolve_right ?_
      rintro rfl
      exact absurd hc (by simpa using hlines)
  · exact string?_escapedLines cs hdouble
  · exact string?_lines hsingle h₄.1 h₄.2
  · exact string?_escapedLines cs hdouble
  · exact string?_escaped cs hdouble

end CodeDigest.Toml
