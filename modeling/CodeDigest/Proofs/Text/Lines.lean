import CodeDigest.Proofs.Text.Splitting
import CodeDigest.Proofs.Text.Trimming

/-!
# Lines

Two ways to cut a text at its newlines.  `pieces '\n'` gives what stands between them, `textLines`
gives lines: a carriage return in front of a newline belongs to it, and nothing follows the last
newline when the text ends there.  To a reader that trims each line and has no use for an empty one
the two are the same (`filterMap_textLines`).
-/

namespace CodeDigest

variable {l s : String} {line cs : List Char}

/-! ## Characters of lines -/

lemma Text.not_mem_of_mem_split {sep : Char} {piece : List Char} (h : piece ∈ Text.split sep cs) :
    sep ∉ piece := by
  induction cs generalizing piece with
  | nil =>
      obtain rfl : piece = [] := by simpa [Text.split] using h
      exact List.not_mem_nil
  | cons c cs ih =>
      by_cases hc : c = sep
      · subst hc
        rw [Text.split_cons_self, List.mem_cons] at h
        rcases h with rfl | h
        · exact List.not_mem_nil
        · exact ih h
      · obtain ⟨first, rest, hsplit⟩ := List.exists_cons_of_ne_nil (Text.split_ne_nil sep cs)
        rw [Text.split_cons_of_ne hc, hsplit, Text.extendFirst, List.mem_cons] at h
        rw [hsplit] at ih
        rcases h with rfl | h
        · simpa using ⟨Ne.symm hc, ih List.mem_cons_self⟩
        · exact ih (List.mem_cons_of_mem first h)

/-- A line loses at most a carriage return at its end. -/
lemma dropReturn_cases (line : List Char) :
    dropReturn line = line ∨ line = dropReturn line ++ ['\r'] := by
  rw [dropReturn, Text.dropSuffix?]
  cases h : Text.dropPrefix? ['\r'].reverse line.reverse with
  | none => exact .inl rfl
  | some rest =>
      have hline : line.reverse = '\r' :: rest := Text.dropPrefix?_eq_some_iff.mp h
      refine .inr ?_
      rw [Option.map_some, Option.getD_some, ← List.reverse_cons, ← hline, List.reverse_reverse]

lemma trim_dropReturn (line : List Char) : Text.trim (dropReturn line) = Text.trim line := by
  rcases dropReturn_cases line with h | h
  · rw [h]
  · conv_rhs => rw [h]
    exact (Text.trim_concat_blank (by decide) _).symm

lemma exists_of_mem_linesOfPieces {pieces : List (List Char)} (h : line ∈ linesOfPieces pieces) :
    ∃ piece ∈ pieces, line ⊆ piece := by
  induction pieces with
  | nil => cases h
  | cons piece rest ih =>
      rcases rest with _ | ⟨next, rest⟩
      · rw [linesOfPieces] at h
        split_ifs at h
        · cases h
        · exact ⟨piece, by simp, by rw [List.mem_singleton.mp h]; exact List.Subset.refl piece⟩
      · rw [linesOfPieces, List.mem_cons] at h
        · rcases h with rfl | h
          · refine ⟨piece, by simp, ?_⟩
            rcases dropReturn_cases piece with h | h
            · rw [h]
              exact List.Subset.refl piece
            · conv_rhs => rw [h]
              exact List.subset_append_left _ _
          · obtain ⟨p, hp, hline⟩ := ih h
            exact ⟨p, List.mem_cons_of_mem piece hp, hline⟩
        · simp

lemma newline_not_mem_of_mem_textLines (h : l ∈ textLines s) : '\n' ∉ l.toList := by
  obtain ⟨line, hline, rfl⟩ := List.mem_map.mp h
  obtain ⟨piece, hpiece, hsub⟩ := exists_of_mem_linesOfPieces hline
  rw [String.toList_ofList]
  exact fun hmem => Text.not_mem_of_mem_split hpiece (hsub hmem)

/-! ## Lines to a reader that trims -/

section Trimming

variable {β : Type} {f : List Char → Option β}

lemma filterMap_linesOfPieces (hnil : f [] = none) (htrim : ∀ cs, f (Text.trim cs) = f cs)
    (pieces : List (List Char)) : (linesOfPieces pieces).filterMap f = pieces.filterMap f := by
  induction pieces with
  | nil => rfl
  | cons piece rest ih =>
      rcases rest with _ | ⟨next, rest⟩
      · rw [linesOfPieces]
        split_ifs with hempty
        · rw [List.isEmpty_iff.mp hempty]
          simp [hnil]
        · rfl
      · have hpiece : f (dropReturn piece) = f piece := by
          rw [← htrim, trim_dropReturn, htrim]
        rw [linesOfPieces]
        · rw [List.filterMap_cons, List.filterMap_cons, hpiece, ih]
        · simp

/-- **A reader that trims each line and skips empty ones** finds the same in the lines of a text as
in the pieces between its newlines. -/
theorem filterMap_textLines {g : String → Option β} (hnil : g "" = none)
    (htrim : ∀ s, g (trimmed s) = g s) (s : String) :
    (textLines s).filterMap g = (pieces '\n' s).filterMap g := by
  rw [textLines, pieces, List.filterMap_map, List.filterMap_map]
  refine filterMap_linesOfPieces hnil (fun cs => ?_) _
  have h := htrim (String.ofList cs)
  rwa [trimmed, String.toList_ofList] at h

end Trimming

/-- The pieces of joined texts are those of the texts in a row. -/
lemma pieces_joined_flatMap (sep : Char) {parts : List String} (hne : parts ≠ []) :
    pieces sep (joined (String.singleton sep) parts) = parts.flatMap (pieces sep) := by
  induction parts with
  | nil => exact absurd rfl hne
  | cons part rest ih =>
      rcases rest with _ | ⟨next, rest⟩
      · simp [joined]
      · rw [joined_cons_cons, pieces_append, ih (List.cons_ne_nil next rest)]
        rfl

end CodeDigest
