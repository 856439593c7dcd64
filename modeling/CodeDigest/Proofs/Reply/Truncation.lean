import CodeDigest.Proofs.Reply.Cut

/-!
# What is made of a truncated reply

A reply that should have been a JSON text with a container at its top, and that broke off somewhere.

* `extract_of_cut`: where the text breaks off behind something complete or inside the string of a
  value, extraction succeeds, and what it finds is the whole value without what follows the cut.
* `shortens_of_extract`: wherever the text breaks off, what extraction finds, if anything, is a
  shortening of the whole value.

Both are about texts without an object that has a key twice.  Such a text is cleaned by trimming
only (`clean_of_opener`), so extraction reads the text up to the cut without the blanks at its end,
and what it makes of that is `extractCleaned_of_run`.
-/

namespace CodeDigest.Reply

open Json

variable {c : Char} {cs lead trail p : List Char} {w v : Json}

/-! ## Cleaning a text that starts with a container -/

lemma unfence_of_ne (h : (Char.ofNat 0x60 == c) = false) (cs : List Char) :
    unfence (c :: cs) = c :: cs := by
  have hfence : Text.dropPrefix? fence (c :: cs) = none := by
    simp [fence, List.replicate_succ, Text.dropPrefix?, h]
  rw [unfence, hfence]

/-- An opening bracket is none of the wrappers that cleaning removes. -/
lemma plain_of_opener (hc : (closerOf? c).isSome = true) : Text.isBlank c = false ∧
    (c == byteOrderMark) = false ∧ (Char.ofNat 0x60 == c) = false := by
  unfold closerOf? at hc
  split_ifs at hc with h₁ h₂
  · rw [beq_iff_eq] at h₁
    subst h₁
    decide
  · rw [beq_iff_eq] at h₂
    subst h₂
    decide
  · cases hc

/-- A text that starts with a bracket is cleaned by trimming it. -/
lemma clean_of_opener (hc : (closerOf? c).isSome = true)
    (hlead : ∀ d ∈ lead, isSpace d = true) (htrail : ∀ d ∈ trail, isSpace d = true) :
    clean (lead ++ (c :: cs) ++ trail) = Text.trimEnd (c :: cs) := by
  obtain ⟨hblank, hmark, hfence⟩ := plain_of_opener hc
  have htrim : Text.trim (lead ++ (c :: cs) ++ trail) = c :: Text.trimEnd cs := by
    rw [Text.trim, List.append_assoc,
      Text.trimStart_blanks_append fun d hd => isBlank_of_isSpace (hlead d hd), List.cons_append,
      Text.trimStart_cons_of_not_blank hblank, ← List.cons_append,
      Text.trimEnd_append_blanks fun d hd => isBlank_of_isSpace (htrail d hd),
      Text.trimEnd_cons hblank]
  have htrim' : Text.trim (c :: Text.trimEnd cs) = c :: Text.trimEnd cs := by
    rw [Text.trim, Text.trimStart_cons_of_not_blank hblank, Text.trimEnd_cons hblank,
      Text.trimEnd_trimEnd]
  have hunwrap : unwrap (lead ++ (c :: cs) ++ trail) = c :: Text.trimEnd cs := by
    rw [unwrap, htrim, List.dropWhile_cons_of_neg (by simp [hmark]), htrim']
  rw [clean, hunwrap, unfence_of_ne hfence, htrim', Text.trimEnd_cons hblank]

/-- Nothing is found in blanks. -/
lemma extract_of_blanks (h : ∀ d ∈ p, isSpace d = true) (w : Json) :
    extract (String.ofList p) ≠ .ok w := by
  have hclean : clean p = [] := by
    have htrim : Text.trim p = [] := Text.trim_of_blanks fun d hd => isBlank_of_isSpace (h d hd)
    rw [clean, unwrap, htrim]
    rfl
  rw [extract, String.toList_ofList, hclean]
  intro hw
  cases hw

/-- A part of the text of a container starts with its bracket. -/
lemma exists_opener {t : Tree} (ht : t.isContainer = true) (hne : p ≠ []) (hp : p <+: t.text) :
    ∃ c cs, p = c :: cs ∧ (closerOf? c).isSome = true := by
  have htext : ∃ c cs, t.text = c :: cs ∧ (closerOf? c).isSome = true := by
    cases t with
    | array gap es => exact ⟨'[', _, rfl, rfl⟩
    | object gap ms => exact ⟨'{', _, rfl, rfl⟩
    | _ => cases ht
  obtain ⟨c, cs, htext, hc⟩ := htext
  rw [htext] at hp
  rcases List.prefix_cons_iff.mp hp with rfl | ⟨q, rfl, _⟩
  · exact absurd rfl hne
  · exact ⟨c, q, rfl, hc⟩

/-! ## Extraction -/

lemma eq_ok_of_toOption {α : Type} {x : Except Failure α} {a : α} (h : x.toOption = some a) :
    x = .ok a := by
  cases x with
  | ok b => exact congrArg Except.ok (Option.some.inj h)
  | error e => cases h

/-- No blanks. -/
def noGap : Gap := ⟨[], by simp⟩

/-- A tree without blanks around it is read. -/
lemma read?_root {t : Tree} (h : t.depth ≤ maxDepth) : read? t.text = some t.value := by
  simpa [Document.text, noGap] using read?_text ⟨noGap, t, noGap, h⟩

/-- A whole text is taken for its value. -/
lemma extractCleaned_text {t : Tree} (h : t.depth ≤ maxDepth) :
    extractCleaned t.text = .ok t.value := by
  rw [extractCleaned, read?_root h]

/-- A part of a container is taken for the value it has where it breaks off. -/
lemma extractCleaned_of_part {t : Tree} (ht : t.isContainer = true) {s : State} (hne : p ≠ [])
    (hp : p <+: t.text) (hrun : run .initial p = some s) (hst : 0 < s.stack.length) :
    (extractCleaned p).toOption = s.cutOff? := by
  obtain ⟨c, cs, rfl, hc⟩ := exists_opener ht hne hp
  exact extractCleaned_of_run hc hrun (List.ne_nil_of_length_pos hst)

/-- A nonempty part of a container behind blanks and before blanks is found without them. -/
lemma extract_of_part {t : Tree} (ht : t.isContainer = true) (hne : p ≠ []) (hp : p <+: t.text)
    (hlead : ∀ d ∈ lead, isSpace d = true) (htrail : ∀ d ∈ trail, isSpace d = true) :
    extract (String.ofList (lead ++ p ++ trail)) = extractCleaned (Text.trimEnd p) := by
  obtain ⟨c, cs, rfl, hc⟩ := exists_opener ht hne hp
  rw [extract, String.toList_ofList, clean_of_opener hc hlead htrail]

/-- What is found at a cut of a container. -/
lemma extract_of_cut_tree {t : Tree} (ht : t.isContainer = true) (hdepth : t.depth ≤ maxDepth)
    (hkeys : t.DistinctKeys) (hcut : Cut t p w) (hlead : ∀ d ∈ lead, isSpace d = true)
    (htrail : ∀ d ∈ trail, isSpace d = true) :
    extract (String.ofList (lead ++ p ++ trail)) = .ok w := by
  obtain ⟨hne, s, hrun, hw, hlen⟩ := recovers t p w hcut [] false (by simpa using hdepth) hkeys
  rw [ht] at hlen
  have hp : p ≠ [] := by
    rintro rfl
    exact hne Text.trimEnd_nil
  rw [extract_of_part ht hp (prefix_text hcut) hlead htrail]
  refine eq_ok_of_toOption ?_
  rw [extractCleaned_of_part ht hne ((Text.trimEnd_prefix p).trans (prefix_text hcut)) hrun hlen]
  exact hw

/-- What is found where a container breaks off. -/
lemma shortens_of_extract_tree {t : Tree} (ht : t.isContainer = true) (hdepth : t.depth ≤ maxDepth)
    (hkeys : t.DistinctKeys) (hne : p ≠ []) (hp : p <+: t.text)
    (hlead : ∀ d ∈ lead, isSpace d = true) (htrail : ∀ d ∈ trail, isSpace d = true)
    (hw : extract (String.ofList (lead ++ p ++ trail)) = .ok w) : Shortens t w := by
  rw [extract_of_part ht hne hp hlead htrail] at hw
  have hp' : Text.trimEnd p <+: t.text := (Text.trimEnd_prefix p).trans hp
  have hne' : Text.trimEnd p ≠ [] := by
    obtain ⟨c, cs, rfl, hc⟩ := exists_opener ht hne hp
    rw [Text.trimEnd_cons (plain_of_opener hc).1]
    exact List.cons_ne_nil _ _
  rcases eq_or_ne (Text.trimEnd p) t.text with heq | hproper
  · rw [heq, extractCleaned_text hdepth] at hw
    obtain rfl := Except.ok.inj hw
    exact .whole t
  · obtain ⟨s, hrun, hbroken⟩ :=
      breaks t [] false (Text.trimEnd p) hne' hp' hproper (by simpa using hdepth) hkeys
    have hcut : s.cutOff? = some w := by
      rw [← extractCleaned_of_part ht hne' hp' hrun (hbroken.isOpen ht), hw]
      rfl
    obtain ⟨w', hw', rfl⟩ := hbroken.shortens w hcut
    exact hw'

lemma value_of_text {text : String} (h : ofString? text = some v) {d : Document}
    (hd : d.text = text.toList) : d.root.value = v := by
  rw [ofString?, ← hd, read?_text d] at h
  exact Option.some.inj h

/-- **Truncation recovery.**  A JSON text with a container at its top breaks off, up to blanks, at a
cut of its tree: the value that is found is what the cut leaves. -/
theorem extract_of_cut {text : String} (h : ofString? text = some v) :
    (∃ d : Document, d.text = text.toList) ∧
      ∀ d : Document, d.text = text.toList → d.root.value = v ∧
        (d.root.isContainer = true → d.root.DistinctKeys → ∀ p w, Cut d.root p w → ∀ gap : Gap,
          d.lead.text ++ p <+: text.toList ∧
            extract (String.ofList (d.lead.text ++ p ++ gap.text)) = .ok w) := by
  obtain ⟨d₀, hd₀, _⟩ := read?_eq_some_iff.mp h
  refine ⟨⟨d₀, hd₀⟩, fun d hd => ⟨value_of_text h hd, fun ht hkeys p w hcut gap => ⟨?_, ?_⟩⟩⟩
  · rw [← hd, Document.text, List.append_assoc, List.prefix_append_right_inj]
    exact (prefix_text hcut).trans (List.prefix_append _ _)
  · exact extract_of_cut_tree ht d.shallow hkeys hcut d.lead.blank gap.blank

/-- A letter that is written as itself. -/
def letter (c : Char) (h : c ≠ '"' ∧ c ≠ '\\' ∧ 0x20 ≤ c.toNat) : Glyph := .plain c h.1 h.2.1 h.2.2

/-- The text `["ab"]`. -/
def brief : Document where
  lead := noGap
  root := .array noGap
    [⟨noGap, .string [letter 'a' (by decide), letter 'b' (by decide)], noGap⟩]
  trail := noGap
  shallow := by decide

/-- A string that is an element, cut after its first character. -/
theorem extract_of_cut_in_string : extract "[\"a" = .ok (.array [.string "a"]) := by
  have h : ofString? "[\"ab\"]" = some (.array [.string "ab"]) := by rfl
  have hcut : Cut brief.root ['[', '"', 'a'] (.array [.string "a"]) :=
    .array (.inside (.string [letter 'a' (by decide)] [letter 'b' (by decide)]))
  exact (((extract_of_cut h).2 brief rfl).2 rfl ⟨trivial, trivial⟩ _ _ hcut noGap).2

/-- **Truncation soundness.**  Wherever a JSON text with a container at its top breaks off, the
value that is found, if any, is a shortening of the whole. -/
theorem shortens_of_extract {text : String} (h : ofString? text = some v) :
    (∃ d : Document, d.text = text.toList) ∧
      ∀ d : Document, d.text = text.toList → d.root.value = v ∧
        (d.root.isContainer = true → d.root.DistinctKeys → ∀ p, p <+: text.toList →
          ∀ w, extract (String.ofList p) = .ok w → Shortens d.root w) := by
  obtain ⟨d₀, hd₀, _⟩ := read?_eq_some_iff.mp h
  refine ⟨⟨d₀, hd₀⟩, fun d hd => ⟨value_of_text h hd, fun ht hkeys p hp w hw => ?_⟩⟩
  rw [← hd, Document.text, List.append_assoc] at hp
  rcases prefix_of_append hp with hp | ⟨q, rfl, hq⟩
  · exact absurd hw (extract_of_blanks (fun c hc => d.lead.blank c (hp.subset hc)) w)
  rcases eq_or_ne q [] with rfl | hne
  · rw [List.append_nil] at hw
    exact absurd hw (extract_of_blanks d.lead.blank w)
  rcases prefix_of_append hq with hq | ⟨r, rfl, hr⟩
  · rw [← List.append_nil q, ← List.append_assoc] at hw
    exact shortens_of_extract_tree ht d.shallow hkeys hne hq d.lead.blank (by simp) hw
  · rw [← List.append_assoc] at hw
    exact shortens_of_extract_tree ht d.shallow hkeys (endsSolid_text _).ne_nil List.prefix_rfl
      d.lead.blank (fun c hc => d.trail.blank c (hr.subset hc)) hw

/-- What is left of an element that is a string, cut after its first character. -/
theorem shortens_of_extract_in_string : Shortens brief.root (.array [.string "a"]) := by
  have h : ofString? "[\"ab\"]" = some (.array [.string "ab"]) := by rfl
  have hprefix : ['[', '"', 'a'] <+: "[\"ab\"]".toList := by decide
  have hextract : extract (String.ofList ['[', '"', 'a']) = .ok (.array [.string "a"]) := by rfl
  exact ((shortens_of_extract h).2 brief rfl).2 rfl ⟨trivial, trivial⟩ _ hprefix _ hextract

end CodeDigest.Reply
