import Mathlib.Data.List.Forall2
import CodeDigest.Proofs.Text.Searching
import CodeDigest.Proofs.Text.Splitting
import CodeDigest.Proofs.Text.Trimming
import CodeDigest.SourceReading

/-!
# Line counts add up

Counting the lines of a text is counting them line by line.  A single line is a line of code or
another one (`LineCount.ofText_line`), and what stands before and behind a newline is counted
separately (`LineCount.ofText_append`); the two together determine the counts of every text.

Because a line is trimmed before it is looked at, it makes no difference whether lines end in a
newline alone or in a carriage return and a newline (`LineCount.ofText_withReturns`).

The record of a source file has the counts of its text, whether or not the text can be read as what
it should be (`SourceFile.lineCount_ofContentBy`).
-/

namespace CodeDigest

variable {line : List Char}

/-! ## Carriage returns -/

namespace Text

/-- The text with a carriage return in front of every newline. -/
def withReturns : List Char → List Char
  | [] => []
  | c :: cs => if c = '\n' then '\r' :: '\n' :: withReturns cs else c :: withReturns cs

/-- A line as it is, or with a carriage return at its end. -/
def MayReturn (line line' : List Char) : Prop := line' = line ∨ line' = line ++ ['\r']

lemma MayReturn.extend {first first' : List Char} {rest rest' : List (List Char)} (c : Char)
    (h : List.Forall₂ MayReturn (first :: rest) (first' :: rest')) :
    List.Forall₂ MayReturn (extendFirst [c] (first :: rest))
      (extendFirst [c] (first' :: rest')) := by
  obtain ⟨hfirst, hrest⟩ := List.forall₂_cons.mp h
  refine .cons ?_ hrest
  rcases hfirst with rfl | rfl
  · exact .inl rfl
  · exact .inr rfl

/-- Between the newlines of the two texts stand the same lines, except for carriage returns. -/
lemma mayReturn_split_withReturns (cs : List Char) :
    List.Forall₂ MayReturn (split '\n' cs) (split '\n' (withReturns cs)) := by
  induction cs with
  | nil => exact .cons (.inl rfl) .nil
  | cons c cs ih =>
      by_cases hc : c = '\n'
      · -- the line that ends here is empty, and has become a carriage return
        subst hc
        rw [withReturns, if_pos rfl, split_cons_self, split_cons_of_ne (by decide), split_cons_self]
        exact .cons (.inr rfl) ih
      · obtain ⟨first, rest, hsplit⟩ := List.exists_cons_of_ne_nil (split_ne_nil '\n' cs)
        obtain ⟨first', rest', hsplit'⟩ :=
          List.exists_cons_of_ne_nil (split_ne_nil '\n' (withReturns cs))
        rw [withReturns, if_neg hc, split_cons_of_ne hc, split_cons_of_ne hc, hsplit, hsplit']
        rw [hsplit, hsplit'] at ih
        exact MayReturn.extend c ih

end Text

/-- The text with a carriage return in front of every newline. -/
def withReturns (s : String) : String := String.ofList (Text.withReturns s.toList)

namespace LineCount

/-- Counts of two texts together. -/
instance : Add LineCount := ⟨fun a b => ⟨a.total + b.total, a.code + b.code, a.comment + b.comment⟩⟩

lemma add_def (a b : LineCount) :
    a + b = ⟨a.total + b.total, a.code + b.code, a.comment + b.comment⟩ := rfl

lemma code_le_total (content commentPrefix : String) :
    (ofText content commentPrefix).code ≤ (ofText content commentPrefix).total :=
  List.countP_le_length

lemma isCode_iff {commentPrefix line : String} :
    isCode commentPrefix.toList line.toList = true ↔
      trimmed line ≠ "" ∧ ¬commentPrefix.toList <+: (trimmed line).toList := by
  have hempty : trimmed line = "" ↔ Text.trim line.toList = [] := by
    rw [← String.toList_inj, trimmed, String.toList_ofList, String.toList_empty]
  rw [isCode, ne_eq, hempty, trimmed, String.toList_ofList, ← Text.isSome_dropPrefix?]
  simp

/-- A line counts once, as a line of code or as another one. -/
lemma ofText_line {line : String} (h : '\n' ∉ line.toList) (commentPrefix : String) :
    ofText line commentPrefix =
      if trimmed line ≠ "" ∧ ¬commentPrefix.toList <+: (trimmed line).toList then ⟨1, 1, 0⟩
      else ⟨1, 0, 1⟩ := by
  simp only [ofText, Text.split_of_not_mem h, List.length_singleton, List.countP_singleton,
    isCode_iff]
  split_ifs <;> rfl

/-- What stands before and behind a newline is counted separately. -/
lemma ofText_append (a b commentPrefix : String) :
    ofText (a ++ "\n" ++ b) commentPrefix = ofText a commentPrefix + ofText b commentPrefix := by
  have hsplit : Text.split '\n' (a ++ "\n" ++ b).toList
      = Text.split '\n' a.toList ++ Text.split '\n' b.toList := by
    rw [String.toList_append, String.toList_append, List.append_assoc]
    exact Text.split_append_cons '\n' a.toList b.toList
  have ha := code_le_total a commentPrefix
  have hb := code_le_total b commentPrefix
  -- the other lines are a difference of counts, which must not be cut off at zero to add up
  simp only [ofText] at ha hb
  simp only [ofText, add_def, hsplit, List.length_append, List.countP_append, mk.injEq, true_and]
  omega

lemma isCode_of_mayReturn {line' commentPrefix : List Char} (h : Text.MayReturn line line') :
    isCode commentPrefix line' = isCode commentPrefix line := by
  rcases h with rfl | rfl
  · rfl
  · rw [isCode, isCode, Text.trim_concat_blank (by decide)]

lemma countP_isCode_of_mayReturn {lines lines' : List (List Char)} (commentPrefix : List Char)
    (h : List.Forall₂ Text.MayReturn lines lines') :
    lines'.countP (isCode commentPrefix) = lines.countP (isCode commentPrefix) := by
  induction h with
  | nil => rfl
  | cons hline _ ih => rw [List.countP_cons, List.countP_cons, isCode_of_mayReturn hline, ih]

/-- Carriage returns in front of newlines change no count. -/
lemma ofText_withReturns (content commentPrefix : String) :
    ofText (withReturns content) commentPrefix = ofText content commentPrefix := by
  have h := Text.mayReturn_split_withReturns content.toList
  rw [ofText, ofText, withReturns, String.toList_ofList, countP_isCode_of_mayReturn _ h,
    h.length_eq]

end LineCount

/-! ## Records -/

namespace SourceFile

/-- The line counts in a record. -/
def lineCount (f : SourceFile) : LineCount := ⟨f.totalLines, f.codeLines, f.commentLines⟩

lemma lineCount_counted (path content : String) (language : Language) :
    (counted path content language).lineCount
      = LineCount.ofText content language.commentPrefix := rfl

lemma lineCount_outlineBy {tree? : String → Option Java.Tree} {rules : BusinessRules}
    {path content : String} {file : SourceFile}
    (h : Java.outlineBy tree? rules path content = .ok file) :
    file.lineCount = LineCount.ofText content Language.java.commentPrefix := by
  unfold Java.outlineBy at h
  split at h
  · obtain rfl := Except.ok.inj h
    rfl
  · cases h

/-- A record has the counts of its text in the language of the file, however it came about. -/
lemma lineCount_ofContentBy (tree? : String → Option Java.Tree) (rules : BusinessRules)
    (project : Language) (path content : String) :
    (ofContentBy tree? rules project path content).lineCount
      = LineCount.ofText content (languageOf project path).commentPrefix := by
  simp only [ofContentBy]
  split_ifs with hjava
  · rw [hjava]
    split
    next hread => exact lineCount_outlineBy hread
    · rfl
  · rfl

/-- **Lines are counted one by one, and in the same way for every record.**

A line counts as a line of code if something is left of it after trimming that does not start with
the comment prefix, and as another line otherwise.  The counts of a text are those of what stands
before and behind a newline, added up; code and other lines make up all of them; and carriage
returns in front of newlines change nothing.  The record of a source file has the counts of its text
with the comment prefix of the file's language, and so has the record with its lines only, which
stands in when the text cannot be read. -/
theorem lineCount_of_lines (commentPrefix : String) (rules : BusinessRules) (project : Language)
    (path : String) :
    (∀ line : String, '\n' ∉ line.toList → LineCount.ofText line commentPrefix =
      if trimmed line ≠ "" ∧ ¬commentPrefix.toList <+: (trimmed line).toList then ⟨1, 1, 0⟩
      else ⟨1, 0, 1⟩) ∧
    (∀ a b, LineCount.ofText (a ++ "\n" ++ b) commentPrefix
      = LineCount.ofText a commentPrefix + LineCount.ofText b commentPrefix) ∧
    (∀ content, let counts := LineCount.ofText content commentPrefix
      counts.code + counts.comment = counts.total ∧ counts.code ≤ counts.total) ∧
    (∀ content, LineCount.ofText (withReturns content) commentPrefix
      = LineCount.ofText content commentPrefix) ∧
    ∀ content, let language := languageOf project path
      (ofContent rules project path content).lineCount
          = LineCount.ofText content language.commentPrefix ∧
        (counted path content language).lineCount
          = LineCount.ofText content language.commentPrefix := by
  refine ⟨fun line hline => ?_, fun a b => ?_, fun content => ?_, fun content => ?_,
    fun content => ?_⟩
  · exact LineCount.ofText_line hline commentPrefix
  · exact LineCount.ofText_append a b commentPrefix
  · exact ⟨LineCount.code_add_comment content commentPrefix,
      LineCount.code_le_total content commentPrefix⟩
  · exact LineCount.ofText_withReturns content commentPrefix
  · exact ⟨lineCount_ofContentBy Java.tree? rules project path content,
      lineCount_counted path content (languageOf project path)⟩

/-- A comment behind blanks, with two lines behind it of which the second is empty; and a text that
is no class, with returns. -/
theorem lineCount_of_lines_of_comment :
    '\n' ∉ "  // entry".toList ∧ LineCount.ofText "  // entry" "//" = ⟨1, 0, 1⟩ ∧
      LineCount.ofText "  // entry\nrun();\n" "//" = ⟨3, 1, 2⟩ ∧
      (ofContent .standard .unknown "A.java" (withReturns "class\n\n// x")).lineCount
        = ⟨3, 1, 2⟩ := by
  have hline : '\n' ∉ "  // entry".toList := by decide
  obtain ⟨hone, happend, -, hreturns, hrecord⟩ :=
    lineCount_of_lines "//" .standard .unknown "A.java"
  have hlanguage : languageOf .unknown "A.java" = .java := by decide
  have hcomment := hone "  // entry" hline
  rw [if_neg (by decide)] at hcomment
  refine ⟨hline, hcomment, ?_, ?_⟩
  · have hadd := happend "  // entry" "run();\n"
    rw [hcomment] at hadd
    exact hadd.trans (by decide)
  · rw [(hrecord _).1, hlanguage, show Language.java.commentPrefix = "//" from rfl, hreturns]
    decide

end SourceFile

end CodeDigest
