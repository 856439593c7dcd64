import Mathlib
import CodeDigest.Aspect
import CodeDigest.Proofs.Text.Splitting
import CodeDigest.Proofs.Text.Trimming

/-!
# Markers of list items

A narrator's lines are cleaned of the markers of lists.  This file compares what is taken away with
what is a marker.

* `IsMarker` says what a marker looks like, and a line `IsItem` when blanks follow its marker:
  `2. Orders` is an item of a list, `2.5 seconds` and `**Orders**` are not.  `Keeps` is cleaning
  that takes the marker away from items and leaves every other line alone.
* `dropMarker` takes away what looks like a marker, whatever follows (`dropMarker_append`).  So it
  does what it should on items and on lines without a marker, and every other line comes out shorter
  (`Leaves.dropMarker_cases`).

`keeps_ofLines_iff` puts the lines together: since no line comes out longer, one that is damaged
shows in the whole (`Shortened.longLines_eq_iff`), unless it is dropped because it is short.
-/

namespace CodeDigest

namespace Aspect

variable {marker marker' rest rest' line said digits : List Char} {c : Char}

/-! ## Markers -/

/-- What stands in front of an item of a list: a bullet, or digits with a point or a parenthesis. -/
inductive IsMarker : List Char → Prop
  | bullet {c : Char} (h : c ∈ ['-', '*', '•']) : IsMarker [c]
  | number {digits : List Char} {c : Char} (hne : digits ≠ [])
      (hdigits : ∀ d ∈ digits, d.isDigit = true) (h : c ∈ ['.', ')']) : IsMarker (digits ++ [c])

/-- A line that begins like an item of a list. -/
def Marked (line : List Char) : Prop := ∃ marker, IsMarker marker ∧ marker <+: line

/-- An item of a list: a blank follows the marker. -/
def IsItem (line : List Char) : Prop :=
  ∃ marker c rest, IsMarker marker ∧ Text.isBlank c = true ∧ line = marker ++ c :: rest

lemma isDigit_of_mem_bullets (h : c ∈ ['-', '*', '•']) : c.isDigit = false := by
  simp only [List.mem_cons, List.not_mem_nil, or_false] at h
  rcases h with rfl | rfl | rfl <;> decide

lemma isDigit_of_mem_closers (h : c ∈ ['.', ')']) : c.isDigit = false := by
  rcases List.mem_pair.mp h with rfl | rfl <;> decide

lemma span_number (hdigits : ∀ d ∈ digits, d.isDigit = true) (h : c ∈ ['.', ')'])
    (rest : List Char) : (digits ++ c :: rest).span Char.isDigit = (digits, c :: rest) :=
  Text.span_run hdigits (isDigit_of_mem_closers h) rest

/-- A line has one marker at most. -/
lemma IsMarker.unique (h : IsMarker marker) (h' : IsMarker marker')
    (heq : marker ++ rest = marker' ++ rest') : marker = marker' ∧ rest = rest' := by
  suffices hmarker : marker = marker' by
    subst hmarker
    exact ⟨rfl, List.append_cancel_left heq⟩
  cases h with
  | @bullet c hc =>
      cases h' with
      | bullet hc' => exact congrArg (fun c => [c]) (List.cons.inj heq).1
      | @number digits c' hne hdigits hc' =>
          obtain ⟨d, ds, rfl⟩ := List.exists_cons_of_ne_nil hne
          have hd : c = d := (List.cons.inj heq).1
          have hdigit := hdigits d List.mem_cons_self
          rw [← hd, isDigit_of_mem_bullets hc] at hdigit
          cases hdigit
  | @number digits c hne hdigits hc =>
      cases h' with
      | @bullet c' hc' =>
          obtain ⟨d, ds, rfl⟩ := List.exists_cons_of_ne_nil hne
          have hd : d = c' := (List.cons.inj heq).1
          have hdigit := hdigits d List.mem_cons_self
          rw [hd, isDigit_of_mem_bullets hc'] at hdigit
          cases hdigit
      | @number digits' c' hne' hdigits' hc' =>
          have heq' : digits ++ c :: rest = digits' ++ c' :: rest' := by simpa using heq
          have hspan := span_number hdigits hc rest
          rw [heq', span_number hdigits' hc' rest'] at hspan
          simp only [Prod.mk.injEq, List.cons.injEq] at hspan
          rw [hspan.1, hspan.2.1]

lemma IsMarker.length_pos (h : IsMarker marker) : 0 < marker.length := by
  cases h <;> simp

/-- A line is no item if something else than a blank follows its marker. -/
lemma IsMarker.not_isItem (h : IsMarker marker) (hline : line = marker ++ rest)
    (hrest : rest.head?.any Text.isBlank = false) : ¬IsItem line := by
  rintro ⟨marker', c, rest', hmarker', hc, hline'⟩
  obtain ⟨rfl, rfl⟩ := h.unique hmarker' (hline ▸ hline')
  simp [hc] at hrest

/-! ## What is taken away -/

/-- Whatever looks like a marker is taken away, with the blanks behind it. -/
lemma dropMarker_append (h : IsMarker marker) (rest : List Char) :
    dropMarker (marker ++ rest) = Text.trim rest := by
  cases h with
  | @bullet c hc =>
      simp only [List.mem_cons, List.not_mem_nil, or_false] at hc
      rcases hc with rfl | rfl | rfl <;> rfl
  | @number digits c hne hdigits hc =>
      have hspan := span_number hdigits hc rest
      rw [List.append_assoc, List.singleton_append]
      obtain ⟨d, ds, rfl⟩ := List.exists_cons_of_ne_nil hne
      have hd := hdigits d List.mem_cons_self
      unfold dropMarker
      split
      next heq => rw [(List.cons.inj heq).1] at hd; cases hd
      next heq => rw [(List.cons.inj heq).1] at hd; cases hd
      next heq => rw [(List.cons.inj heq).1] at hd; cases hd
      · rw [hspan]
        rcases List.mem_pair.mp hc with rfl | rfl <;> rfl

/-- A line without a marker is left alone. -/
lemma dropMarker_of_not_marked (h : ¬Marked line) : dropMarker line = line := by
  have hbullet : ∀ c rest, c ∈ ['-', '*', '•'] → line ≠ c :: rest := by
    rintro c rest hc rfl
    exact h ⟨[c], .bullet hc, rest, rfl⟩
  have hnumber : ∀ d ds c rest, c ∈ ['.', ')'] →
      line.span Char.isDigit ≠ (d :: ds, c :: rest) := by
    intro d ds c rest hc hspan
    rw [List.span_eq_takeWhile_dropWhile, Prod.mk.injEq] at hspan
    refine h ⟨d :: ds ++ [c], .number (List.cons_ne_nil d ds) ?_ hc, rest, ?_⟩
    · intro e he
      rw [← hspan.1] at he
      exact List.mem_takeWhile_imp he
    · rw [List.append_assoc, List.singleton_append, ← hspan.1, ← hspan.2,
        List.takeWhile_append_dropWhile]
  unfold dropMarker
  split
  · exact absurd rfl (hbullet _ _ (by decide))
  · exact absurd rfl (hbullet _ _ (by decide))
  · exact absurd rfl (hbullet _ _ (by decide))
  · split
    next hspan => exact absurd hspan (hnumber _ _ _ _ (by decide))
    next hspan => exact absurd hspan (hnumber _ _ _ _ (by decide))
    · rfl

/-- Cleaning that takes the marker away from an item of a list, with the blanks behind it, and
leaves every other line alone. -/
inductive Leaves : List Char → List Char → Prop
  | item {marker rest : List Char} {c : Char} (hmarker : IsMarker marker)
      (hc : Text.isBlank c = true) : Leaves (marker ++ c :: rest) (Text.trimStart rest)
  | text {line : List Char} (h : ¬IsItem line) : Leaves line line

lemma exists_leaves (line : List Char) : ∃ said, Leaves line said := by
  by_cases h : IsItem line
  · obtain ⟨marker, c, rest, hmarker, hc, rfl⟩ := h
    exact ⟨_, .item hmarker hc⟩
  · exact ⟨line, .text h⟩

lemma Leaves.unique {said' : List Char} (h : Leaves line said) (h' : Leaves line said') :
    said = said' := by
  cases h with
  | text h =>
      cases h' with
      | text => rfl
      | item hmarker hc => exact absurd ⟨_, _, _, hmarker, hc, rfl⟩ h
  | @item marker rest c hmarker hc =>
      generalize hline : marker ++ c :: rest = line at h'
      cases h' with
      | text h => exact absurd ⟨_, _, _, hmarker, hc, hline.symm⟩ h
      | item hmarker' hc' =>
          obtain ⟨-, hrest⟩ := hmarker.unique hmarker' hline
          rw [(List.cons.inj hrest).2]

/-- On a trimmed line both are the same, if blanks follow what looks like a marker; if not, the line
should stay whole and comes out shorter. -/
lemma Leaves.dropMarker_cases (h : Leaves line said) (htidy : Text.Tidy line) :
    (Marked line → IsItem line) ∧ dropMarker line = said ∨
      (Marked line ∧ ¬IsItem line) ∧ said = line ∧ (dropMarker line).length < said.length := by
  cases h with
  | @item marker rest c hmarker hc =>
      have hend : Text.Tidy ((marker ++ [c]) ++ rest) := by simpa using htidy
      refine .inl ⟨fun _ => ⟨marker, c, rest, hmarker, hc, rfl⟩, ?_⟩
      rw [dropMarker_append hmarker, Text.trim, Text.trimStart, List.dropWhile_cons_of_pos hc,
        ← Text.dropWhile_trimEnd, hend.trimEnd_eq, Text.trimStart]
  | text h =>
      by_cases hmarked : Marked line
      · obtain ⟨marker, hmarker, rest, rfl⟩ := hmarked
        refine .inr ⟨⟨⟨marker, hmarker, rest, rfl⟩, h⟩, rfl, ?_⟩
        rw [dropMarker_append hmarker, List.length_append]
        have hpos := hmarker.length_pos
        have hle := (Text.trim_sublist rest).length_le
        omega
      · exact .inl ⟨fun hm => absurd hm hmarked, dropMarker_of_not_marked hmarked⟩

/-! ## Lines -/

/-- The lines of some texts, trimmed, without headings. -/
def bodyLines (texts : List String) : List (List Char) :=
  ((texts.flatMap textLines).map fun line => Text.trim line.toList).filter
    fun line => line.head? != some '#'

lemma tidy_of_mem_bodyLines {texts : List String} (h : line ∈ bodyLines texts) :
    Text.Tidy line := by
  obtain ⟨l, -, rfl⟩ := List.mem_map.mp (List.mem_filter.mp h).1
  exact Text.tidy_trim _

/-- Lines that are long enough to say something. -/
def longLines (lines : List (List Char)) : List (List Char) :=
  lines.filter fun line => leastLength ≤ line.length

lemma ofLines_eq_bodyLines (texts : List String) :
    ofLines texts = (longLines ((bodyLines texts).map dropMarker)).map String.ofList := by
  rw [ofLines, bodyLines]
  induction texts.flatMap textLines with
  | nil => rfl
  | cons line lines ih =>
      rw [List.filterMap_cons, ih]
      by_cases hheading : (Text.trim line.toList).head? = some '#'
      · simp [ofLine?, hheading]
      · by_cases hlong : leastLength ≤ (dropMarker (Text.trim line.toList)).length
        · simp [ofLine?, hheading, hlong, longLines]
        · simp [ofLine?, hheading, hlong, longLines]

lemma longLines_cons (line : List Char) (lines : List (List Char)) :
    longLines (line :: lines)
      = if leastLength ≤ line.length then line :: longLines lines else longLines lines := by
  simp only [longLines, List.filter_cons, decide_eq_true_eq]

/-- The lines of the first list are those of the second, but some of them have come out shorter. -/
abbrev Shortened : List (List Char) → List (List Char) → Prop :=
  List.Forall₂ fun line line' => line = line' ∨ line.length < line'.length

variable {lines lines' : List (List Char)}

/-- How many characters there are in long lines. -/
def weightOf (lines : List (List Char)) : Nat := ((longLines lines).map List.length).sum

lemma weightOf_cons (line : List Char) (lines : List (List Char)) :
    weightOf (line :: lines)
      = (if leastLength ≤ line.length then line.length else 0) + weightOf lines := by
  simp only [weightOf, longLines_cons]
  split_ifs <;> simp

/-- Shortened lines have fewer characters, unless all that is lost was too short already. -/
lemma Shortened.weightOf_le (h : Shortened lines lines') :
    weightOf lines ≤ weightOf lines' ∧ (weightOf lines = weightOf lines' →
      List.Forall₂ (fun line line' => line = line' ∨ line'.length < leastLength) lines lines') := by
  induction h with
  | nil => exact ⟨le_rfl, fun _ => .nil⟩
  | @cons line line' lines lines' hline h ih =>
      obtain ⟨hle, heq⟩ := ih
      have hpos : 0 < leastLength := by decide
      rw [weightOf_cons, weightOf_cons]
      rcases hline with rfl | hlt
      · refine ⟨by omega, fun hweight => .cons (.inl rfl) (heq (by omega))⟩
      · refine ⟨by split_ifs <;> omega, fun hweight => ?_⟩
        have hshort : line'.length < leastLength := by
          by_contra hlong
          split_ifs at hweight <;> omega
        refine .cons (.inr hshort) (heq ?_)
        split_ifs at hweight <;> omega

/-- **One line that comes out shorter shows in the whole**, unless it was too short already. -/
lemma Shortened.longLines_eq_iff (h : Shortened lines lines') :
    longLines lines = longLines lines' ↔
      List.Forall₂ (fun line line' => line = line' ∨ line'.length < leastLength) lines lines' := by
  constructor
  · intro heq
    exact h.weightOf_le.2 (by rw [weightOf, weightOf, heq])
  · intro hshort
    induction h with
    | nil => rfl
    | @cons line line' lines lines' hline h ih =>
        rw [List.forall₂_cons] at hshort
        rw [longLines_cons, longLines_cons, ih hshort.2]
        rcases hline with rfl | hlt
        · rfl
        · rcases hshort.1 with rfl | hshort
          · rfl
          · rw [if_neg (by omega), if_neg (by omega)]

/-! ## Aspects -/

/-- The aspects that texts lead to when markers are taken away from items of lists, and nothing else
is: what is left of each line, in order, if it is long enough. -/
def Keeps (texts aspects : List String) : Prop :=
  ∃ said, List.Forall₂ Leaves (bodyLines texts) said ∧
    aspects = (longLines said).map String.ofList

/-- Line by line, what is taken away is what should be, or the line comes out shorter. -/
lemma shortened_of_leaves {said : List (List Char)} (h : List.Forall₂ Leaves lines said)
    (htidy : ∀ line ∈ lines, Text.Tidy line) :
    Shortened (lines.map dropMarker) said ∧
      (List.Forall₂ (fun line line' => line = line' ∨ line'.length < leastLength)
          (lines.map dropMarker) said ↔
        ∀ line ∈ lines, Marked line → IsItem line ∨ line.length < leastLength) := by
  induction h with
  | nil => simp
  | @cons line said lines rest hline h ih =>
      rw [List.forall_mem_cons] at htidy
      obtain ⟨hshortened, hrest⟩ := ih htidy.2
      rw [List.map_cons, Shortened, List.forall₂_cons, List.forall₂_cons, List.forall_mem_cons,
        ← hrest]
      rcases hline.dropMarker_cases htidy.1 with ⟨hitem, heq⟩ | ⟨⟨hmarked, hitem⟩, rfl, hlt⟩
      · refine ⟨⟨.inl heq, hshortened⟩, and_congr_left fun _ => ?_⟩
        exact iff_of_true (.inl heq) fun hmarked => .inl (hitem hmarked)
      · refine ⟨⟨.inr hlt, hshortened⟩, and_congr_left fun _ => ?_⟩
        have hne : dropMarker said ≠ said := by
          intro heq
          rw [heq] at hlt
          exact Nat.lt_irrefl _ hlt
        simp [hne, hmarked, hitem]

lemma existsUnique_keeps (texts : List String) : ∃! aspects, Keeps texts aspects := by
  have hexists : ∀ lines, ∃ said, List.Forall₂ Leaves lines said := by
    intro lines
    induction lines with
    | nil => exact ⟨[], .nil⟩
    | cons line lines ih =>
        obtain ⟨said, hsaid⟩ := exists_leaves line
        obtain ⟨rest, hrest⟩ := ih
        exact ⟨said :: rest, .cons hsaid hrest⟩
  have hunique : Relator.RightUnique (List.Forall₂ Leaves) :=
    Relator.RightUnique.forall₂ fun _ _ _ h h' => h.unique h'
  obtain ⟨said, hsaid⟩ := hexists (bodyLines texts)
  refine ⟨_, ⟨said, hsaid, rfl⟩, ?_⟩
  rintro aspects ⟨said', hsaid', rfl⟩
  rw [hunique hsaid' hsaid]

lemma ofLines_append (texts more : List String) :
    ofLines (texts ++ more) = ofLines texts ++ ofLines more := by
  rw [ofLines, ofLines, ofLines, List.flatMap_append, List.filterMap_append]

/-- **What is taken away from a narrator's lines.**

Texts lead to the aspects that they should lead to, when markers are taken away from items of lists
and nothing else is, exactly when each line that begins like an item is one, or is too short anyway.
Texts in a row lead to what they lead to one by one. -/
theorem keeps_ofLines_iff (texts : List String) :
    (∃! aspects, Keeps texts aspects) ∧
      (Keeps texts (ofLines texts) ↔
        ∀ line ∈ bodyLines texts, Marked line → IsItem line ∨ line.length < leastLength) ∧
      ∀ more, ofLines (texts ++ more) = ofLines texts ++ ofLines more := by
  refine ⟨existsUnique_keeps texts, ?_, ofLines_append texts⟩
  obtain ⟨aspects, ⟨said, hsaid, rfl⟩, hunique⟩ := existsUnique_keeps texts
  obtain ⟨hshortened, hcondition⟩ :=
    shortened_of_leaves hsaid fun line hline => tidy_of_mem_bodyLines hline
  rw [← hcondition, ← hshortened.longLines_eq_iff, ofLines_eq_bodyLines]
  constructor
  · intro hkeeps
    exact (List.map_injective_iff.mpr fun _ _ => String.ofList_injective) (hunique _ hkeeps)
  · intro heq
    exact ⟨said, hsaid, by rw [heq]⟩

/-- A decimal number, a negative number and words in bold face begin like items of a list.  They are
none, and should stay as they are. -/
theorem ofLines_of_decimal :
    let texts := ["2.5 seconds are spent in each request", "-1 is returned for a missing order",
      "**Layered design** with thin controllers"]
    Keeps texts texts ∧ ofLines texts =
        ["5 seconds are spent in each request", "1 is returned for a missing order",
          "*Layered design** with thin controllers"] ∧
      ¬Keeps texts (ofLines texts) := by
  intro texts
  have hdecimal : ¬IsItem "2.5 seconds are spent in each request".toList := by
    have hmarker : IsMarker (['2'] ++ ['.']) :=
      .number (by decide) (List.forall_mem_singleton.mpr (by decide)) (by decide)
    exact hmarker.not_isItem rfl (by decide)
  have hnegative : ¬IsItem "-1 is returned for a missing order".toList := by
    have hmarker : IsMarker ['-'] := .bullet (by decide)
    exact hmarker.not_isItem rfl (by decide)
  have hbold : ¬IsItem "**Layered design** with thin controllers".toList := by
    have hmarker : IsMarker ['*'] := .bullet (by decide)
    exact hmarker.not_isItem rfl (by decide)
  have hbody : bodyLines texts = texts.map String.toList := by decide
  have hkeeps : Keeps texts texts := by
    refine ⟨texts.map String.toList, ?_, by decide⟩
    rw [hbody]
    exact .cons (.text hdecimal) (.cons (.text hnegative) (.cons (.text hbold) .nil))
  have hlines : ofLines texts = ["5 seconds are spent in each request",
      "1 is returned for a missing order", "*Layered design** with thin controllers"] := by decide
  refine ⟨hkeeps, hlines, fun h => ?_⟩
  have heq : ofLines texts = texts := (existsUnique_keeps texts).unique h hkeeps
  rw [hlines] at heq
  exact absurd heq (by decide)

end Aspect

end CodeDigest
