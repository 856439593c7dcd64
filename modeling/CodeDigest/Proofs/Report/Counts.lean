import Mathlib
import CodeDigest.Proofs.Json.Fields
import CodeDigest.Proofs.Report.Consistency

/-!
# Counts of files together

What is counted of a code base does not depend on the order of its files, and what is counted of two
lists of files together is what is counted of each of them, added up.

The table of file types carries the argument.  `Statistics.countIn` reads it as a function of the
type, and counting one more file raises this function by one at the file's type
(`countIn_countKey`).  A table is `Ordered`, so that there is one table only for each function
(`Ordered.ext`): tables are equal when they count the same.

`Statistics.counts_of_files` has this together with the totals and the averages.
-/

namespace CodeDigest

namespace Statistics

variable {counts more : List (String × Nat)} {key k : String} {n : Nat} {files : List SourceFile}

/-! ## Tables -/

/-- How often a key was counted. -/
def countIn (counts : List (String × Nat)) (key : String) : Nat := (counts.lookup key).getD 0

/-- The keys are in strict order, and each of them was counted. -/
structure Ordered (counts : List (String × Nat)) : Prop where
  keys : counts.Pairwise fun a b => a.1 < b.1
  positive : ∀ entry ∈ counts, 0 < entry.2

lemma ordered_nil : Ordered [] := ⟨.nil, by simp⟩

lemma ordered_cons :
    Ordered ((k, n) :: counts) ↔ (∀ entry ∈ counts, k < entry.1) ∧ 0 < n ∧ Ordered counts := by
  constructor
  · intro h
    have hkeys := List.pairwise_cons.mp h.keys
    have hpositive := List.forall_mem_cons.mp h.positive
    exact ⟨hkeys.1, hpositive.1, hkeys.2, hpositive.2⟩
  · intro h
    exact ⟨List.pairwise_cons.mpr ⟨h.1, h.2.2.keys⟩,
      List.forall_mem_cons.mpr ⟨h.2.1, h.2.2.positive⟩⟩

@[simp] lemma countIn_nil (key : String) : countIn [] key = 0 := rfl

lemma countIn_cons (k : String) (n : Nat) (counts : List (String × Nat)) (key : String) :
    countIn ((k, n) :: counts) key = if key = k then n else countIn counts key := by
  rw [countIn, countIn, Json.lookup_cons]
  split_ifs <;> rfl

@[simp] lemma countIn_cons_self (k : String) (n : Nat) (counts : List (String × Nat)) :
    countIn ((k, n) :: counts) k = n := by rw [countIn_cons, if_pos rfl]

/-- A key in front of all others was not counted. -/
lemma countIn_of_lt (h : ∀ entry ∈ counts, key < entry.1) : countIn counts key = 0 := by
  induction counts with
  | nil => rfl
  | cons entry counts ih =>
      obtain ⟨hlt, hrest⟩ := List.forall_mem_cons.mp h
      rw [countIn_cons, if_neg (String.ne_of_lt hlt), ih hrest]

lemma Ordered.countIn_of_lt_head (h : Ordered ((k, n) :: counts)) (hlt : key < k) :
    countIn ((k, n) :: counts) key = 0 := by
  apply countIn_of_lt
  intro entry hentry
  rcases List.mem_cons.mp hentry with rfl | hmem
  · exact hlt
  · exact String.lt_trans hlt ((ordered_cons.mp h).1 entry hmem)

/-- **A table is what it counts.** -/
theorem Ordered.ext (h : Ordered counts) (h' : Ordered more)
    (heq : ∀ key, countIn counts key = countIn more key) : counts = more := by
  induction counts generalizing more with
  | nil =>
      cases more with
      | nil => rfl
      | cons entry more =>
          have hcount := heq entry.1
          have hpositive := (ordered_cons.mp h').2.1
          rw [countIn_nil, countIn_cons_self] at hcount
          omega
  | cons entry counts ih =>
      obtain ⟨k, n⟩ := entry
      obtain ⟨hfront, hn, hrest⟩ := ordered_cons.mp h
      cases more with
      | nil =>
          have hcount := heq k
          simp at hcount
          omega
      | cons entry' more =>
          obtain ⟨k', n'⟩ := entry'
          obtain ⟨hfront', hn', hrest'⟩ := ordered_cons.mp h'
          -- Of two first keys the smaller one would be counted in one of the tables only.
          have hle : ¬k < k' := by
            intro hlt
            have hcount := heq k
            rw [countIn_cons_self, h'.countIn_of_lt_head hlt] at hcount
            omega
          have hge : ¬k' < k := by
            intro hlt
            have hcount := heq k'
            rw [countIn_cons_self, h.countIn_of_lt_head hlt] at hcount
            omega
          obtain rfl : k = k' := String.le_antisymm (String.not_lt.mp hge) (String.not_lt.mp hle)
          have hcount := heq k
          simp only [countIn_cons_self] at hcount
          subst hcount
          rw [ih hrest hrest']
          intro key
          by_cases hkey : key = k
          · rw [hkey, countIn_of_lt hfront, countIn_of_lt hfront']
          · have hcount := heq key
            rwa [countIn_cons, countIn_cons, if_neg hkey, if_neg hkey] at hcount

/-! ## Counting -/

lemma lt_of_mem_countKey (hkey : k < key) (h : ∀ entry ∈ counts, k < entry.1) :
    ∀ entry ∈ countKey key counts, k < entry.1 := by
  induction counts with
  | nil =>
      intro entry hentry
      obtain rfl := List.mem_singleton.mp hentry
      exact hkey
  | cons first counts ih =>
      obtain ⟨hfirst, hrest⟩ := List.forall_mem_cons.mp h
      intro entry hentry
      simp only [countKey] at hentry
      split_ifs at hentry
      · rcases List.mem_cons.mp hentry with rfl | hmem
        · exact hfirst
        · exact hrest entry hmem
      · rcases List.mem_cons.mp hentry with rfl | hmem
        · exact hkey
        · exact h entry hmem
      · rcases List.mem_cons.mp hentry with rfl | hmem
        · exact hfirst
        · exact ih hrest entry hmem

lemma Ordered.countKey (h : Ordered counts) (key : String) :
    Ordered (Statistics.countKey key counts) := by
  induction counts with
  | nil => exact ordered_cons.mpr ⟨by simp, Nat.one_pos, ordered_nil⟩
  | cons first counts ih =>
      obtain ⟨k, n⟩ := first
      obtain ⟨hfront, hn, hrest⟩ := ordered_cons.mp h
      simp only [Statistics.countKey]
      split_ifs with heq hlt
      · exact ordered_cons.mpr ⟨hfront, Nat.succ_pos n, hrest⟩
      · refine ordered_cons.mpr ⟨?_, Nat.one_pos, h⟩
        intro entry hentry
        rcases List.mem_cons.mp hentry with rfl | hmem
        · exact hlt
        · exact String.lt_trans hlt (hfront entry hmem)
      · have hgt : k < key := by
          by_contra hle
          exact heq (String.le_antisymm (String.not_lt.mp hle) (String.not_lt.mp hlt))
        exact ordered_cons.mpr ⟨lt_of_mem_countKey hgt hfront, hn, ih hrest⟩

/-- **Counting a key** counts it once more and nothing else. -/
theorem countIn_countKey (h : Ordered counts) (key k : String) :
    countIn (countKey key counts) k = countIn counts k + if k = key then 1 else 0 := by
  induction counts with
  | nil => simp [countKey, countIn_cons]
  | cons first counts ih =>
      obtain ⟨first, n⟩ := first
      have hrest := ih (ordered_cons.mp h).2.2
      by_cases heq : key = first
      · subst heq
        rw [countKey, if_pos rfl]
        by_cases hk : k = key <;> simp [countIn_cons, hk]
      by_cases hlt : key < first
      · rw [countKey, if_neg heq, if_pos hlt]
        by_cases hk : k = key
        · subst hk
          rw [countIn_cons_self, h.countIn_of_lt_head hlt, if_pos rfl]
        · rw [countIn_cons, if_neg hk, if_neg hk, Nat.add_zero]
      · rw [countKey, if_neg heq, if_neg hlt]
        by_cases hk : k = first
        · subst hk
          rw [countIn_cons_self, countIn_cons_self, if_neg (Ne.symm heq), Nat.add_zero]
        · rw [countIn_cons, countIn_cons, if_neg hk, if_neg hk, hrest]

/-! ## Types of files -/

/-- The table of the file types. -/
lemma ordered_fileTypes (files : List SourceFile) : Ordered (ofFiles files).fileTypes := by
  suffices h : ∀ counts, Ordered counts →
      Ordered (files.foldl (fun counts f => countKey f.fileType counts) counts) from
    h [] ordered_nil
  induction files with
  | nil => exact fun _ h => h
  | cons f files ih => exact fun counts h => ih _ (h.countKey f.fileType)

/-- A type is counted once for each file that has it. -/
theorem countIn_fileTypes (files : List SourceFile) (key : String) :
    countIn (ofFiles files).fileTypes key = files.countP (·.fileType = key) := by
  suffices h : ∀ counts, Ordered counts →
      countIn (files.foldl (fun counts f => countKey f.fileType counts) counts) key
        = countIn counts key + files.countP (·.fileType = key) by
    have hempty := h [] ordered_nil
    rw [countIn_nil, Nat.zero_add] at hempty
    exact hempty
  induction files with
  | nil => exact fun _ _ => rfl
  | cons f files ih =>
      intro counts h
      rw [List.foldl_cons, ih _ (h.countKey f.fileType), countIn_countKey h, List.countP_cons]
      simp only [decide_eq_true_eq, eq_comm (a := key)]
      omega

/-! ## Totals -/

lemma sumOf_eq_sum (counts : List Nat) : sumOf counts = counts.sum := rfl

/-- The methods that files declare. -/
def methodsOf (files : List SourceFile) : List SourceMethod :=
  (files.flatMap (·.classes)).flatMap (·.methods)

/-- The methods that are counted are those that do some of the application's work. -/
lemma totalMethods_eq_countP (files : List SourceFile) :
    (ofFiles files).totalMethods = (methodsOf files).countP (·.isBusiness) := by
  have hclass : ∀ c : SourceClass,
      c.businessMethods.length = c.methods.countP (·.isBusiness) := by
    intro c
    rw [SourceClass.businessMethods, List.countP_eq_length_filter]
  have hfile : ∀ f, businessCount f = (f.classes.flatMap (·.methods)).countP (·.isBusiness) := by
    intro f
    rw [businessCount, sumOf_eq_sum, List.countP_flatMap]
    exact congrArg List.sum (List.map_congr_left fun c _ => hclass c)
  rw [methodsOf, List.flatMap_assoc, List.countP_flatMap]
  exact congrArg List.sum (List.map_congr_left fun f _ => hfile f)

/-- The whole part of a quotient; by 0 it is 0. -/
def IsFloor (numerator denominator quotient : Nat) : Prop :=
  if denominator = 0 then quotient = 0
  else denominator * quotient ≤ numerator ∧ numerator < denominator * (quotient + 1)

lemma isFloor_div (numerator denominator : Nat) :
    IsFloor numerator denominator (numerator / denominator) := by
  unfold IsFloor
  split_ifs with hzero
  · rw [hzero, Nat.div_zero]
  · exact ⟨Nat.mul_div_le _ _, Nat.lt_mul_div_succ _ (Nat.pos_of_ne_zero hzero)⟩

/-! ## Lists of files -/

/-- What is counted of some files: totals, the table of types, and averages of the totals.  The sums
of lines are right as long as they can be held. -/
structure Counts (files : List SourceFile) (s : Statistics) : Prop where
  totalFiles : s.totalFiles = files.length
  totalLines : sumOf (files.map (·.totalLines)) < 0x10000000000000000 →
    s.totalLines = sumOf (files.map (·.totalLines))
  totalCodeLines : sumOf (files.map (·.codeLines)) < 0x10000000000000000 →
    s.totalCodeLines = sumOf (files.map (·.codeLines))
  totalClasses : s.totalClasses = (files.flatMap (·.classes)).length
  totalMethods : s.totalMethods = (methodsOf files).countP (·.isBusiness)
  table : Ordered s.fileTypes
  fileTypes : ∀ key, countIn s.fileTypes key = files.countP (·.fileType = key)
  typesTotal : sumOf (s.fileTypes.map (·.2)) = s.totalFiles
  averageFileSize : IsFloor s.totalLines s.totalFiles s.averageFileSize
  averageMethodsPerClass : IsFloor s.totalMethods s.totalClasses s.averageMethodsPerClass

lemma counts_ofFiles (files : List SourceFile) : Counts files (ofFiles files) where
  totalFiles := rfl
  totalLines := word_of_lt
  totalCodeLines := word_of_lt
  totalClasses := (length_flatMap_eq_sumOf SourceFile.classes files).symm
  totalMethods := totalMethods_eq_countP files
  table := ordered_fileTypes files
  fileTypes := countIn_fileTypes files
  typesTotal := by simpa [ofFiles] using sum_fileTypes files []
  averageFileSize := isFloor_div _ _
  averageMethodsPerClass := isFloor_div _ _

/-- The order of the files does not matter. -/
lemma ofFiles_perm {others : List SourceFile} (h : others.Perm files) :
    ofFiles others = ofFiles files := by
  have hsum : ∀ count : SourceFile → Nat,
      sumOf (others.map count) = sumOf (files.map count) := by
    intro count
    exact (h.map count).sum_eq
  have htypes : (ofFiles others).fileTypes = (ofFiles files).fileTypes := by
    apply (ordered_fileTypes others).ext (ordered_fileTypes files)
    intro key
    rw [countIn_fileTypes, countIn_fileTypes, h.countP_eq]
  simp only [ofFiles] at htypes ⊢
  rw [htypes, h.length_eq, hsum, hsum, hsum, hsum]

/-- Totals and counts of types that are those of two code bases added up. -/
structure Adds (a b s : Statistics) : Prop where
  totalFiles : s.totalFiles = a.totalFiles + b.totalFiles
  totalLines : s.totalLines = a.totalLines + b.totalLines
  totalCodeLines : s.totalCodeLines = a.totalCodeLines + b.totalCodeLines
  totalClasses : s.totalClasses = a.totalClasses + b.totalClasses
  totalMethods : s.totalMethods = a.totalMethods + b.totalMethods
  fileTypes : ∀ key, countIn s.fileTypes key = countIn a.fileTypes key + countIn b.fileTypes key

/-- Sums of lines that can be held together can be held one by one. -/
lemma word_sumOf_append {count : SourceFile → Nat} {files more : List SourceFile}
    (h : sumOf ((files ++ more).map count) < 0x10000000000000000) :
    word (sumOf ((files ++ more).map count))
      = word (sumOf (files.map count)) + word (sumOf (more.map count)) := by
  have hsum : sumOf ((files ++ more).map count)
      = sumOf (files.map count) + sumOf (more.map count) := by
    simp [sumOf_eq_sum]
  rw [word_of_lt h, word_of_lt (by omega), word_of_lt (by omega), hsum]

lemma adds_ofFiles {files more : List SourceFile}
    (hlines : sumOf ((files ++ more).map (·.totalLines)) < 0x10000000000000000)
    (hcode : sumOf ((files ++ more).map (·.codeLines)) < 0x10000000000000000) :
    Adds (ofFiles files) (ofFiles more) (ofFiles (files ++ more)) where
  totalFiles := List.length_append
  totalLines := word_sumOf_append hlines
  totalCodeLines := word_sumOf_append hcode
  totalClasses := by simp [ofFiles, sumOf_eq_sum]
  totalMethods := by simp [ofFiles, sumOf_eq_sum]
  fileTypes := by
    intro key
    rw [countIn_fileTypes, countIn_fileTypes, countIn_fileTypes, List.countP_append]

/-- **Statistics are sums over the files.**

The totals count the files, their lines, their classes and those of their methods that do some of
the application's work; the table has every type with the number of its files, and no other entry;
each average is the whole part of a quotient of the totals.  The order of the files does not matter,
and the totals and counts of two lists of files together are those of each of them, added up, as
long as the sums of lines can be held. -/
theorem counts_of_files (files : List SourceFile) :
    Counts files (ofFiles files) ∧
      (∀ others, others.Perm files → ofFiles others = ofFiles files) ∧
      ∀ more, sumOf ((files ++ more).map (·.totalLines)) < 0x10000000000000000 →
        sumOf ((files ++ more).map (·.codeLines)) < 0x10000000000000000 →
          Adds (ofFiles files) (ofFiles more) (ofFiles (files ++ more)) := by
  refine ⟨counts_ofFiles files, ?_, ?_⟩
  · intro others hperm
    exact ofFiles_perm hperm
  · intro more hlines hcode
    exact adds_ofFiles hlines hcode

/-- A script without classes. -/
def scriptFile : SourceFile where
  path := "deploy.py"
  fileType := "python"
  package := none
  imports := []
  classes := []
  totalLines := 12
  codeLines := 8
  commentLines := 4
  complexity := none

/-- A script between two files with a controller each, counted in another order and in two parts.
Two methods in two classes make one for each, and of 30 lines each file has 10. -/
theorem counts_of_files_in_two_languages :
    let files := [shopFile, scriptFile]
    let all := files ++ [shopFile]
    (Counts all (ofFiles all) ∧
      (ofFiles all).fileTypes = [("java", 2), ("python", 1)] ∧
      (ofFiles all).averageFileSize = 10 ∧ (ofFiles all).averageMethodsPerClass = 1) ∧
    ([shopFile, shopFile, scriptFile].Perm all ∧
      ofFiles [shopFile, shopFile, scriptFile] = ofFiles all) ∧
    sumOf (all.map (·.totalLines)) < 0x10000000000000000 ∧
    sumOf (all.map (·.codeLines)) < 0x10000000000000000 ∧
    Adds (ofFiles files) (ofFiles [shopFile]) (ofFiles all) := by
  intro files all
  have hlines : sumOf (all.map (·.totalLines)) < 0x10000000000000000 := by decide
  have hcode : sumOf (all.map (·.codeLines)) < 0x10000000000000000 := by decide
  have hperm : [shopFile, shopFile, scriptFile].Perm all := .cons _ (.swap _ _ _)
  obtain ⟨hcounts, horder, -⟩ := counts_of_files all
  obtain ⟨-, -, hadds⟩ := counts_of_files files
  exact ⟨⟨hcounts, by decide, by decide, by decide⟩, ⟨hperm, horder _ hperm⟩, hlines, hcode,
    hadds [shopFile] hlines hcode⟩

end Statistics

end CodeDigest
