import CodeDigest.Proofs.Reply.Embedding

/-!
# Wrapped replies

A model that is asked for JSON may put it into a code fence, with blanks around it and a byte order
mark in front.  Cleaning takes all of this away and nothing else.

* A `Wrapping` is what may stand around a text; `Wrapping.around` puts it there.
* `clean_around`: of a wrapped text cleaning leaves the text, as soon as the text begins and ends
  with characters that cleaning does not look for (`Firm`).  Every JSON value does (`firm_text`).
* `repair_of_read`: what is JSON already is left alone by repair.
* `extract_of_wrapped` puts them together.
-/

namespace CodeDigest.Reply

open Json

variable {c : Char} {cs body l t : List Char} {v : Json}

/-! ## Wrappings -/

/-- Blanks of any kind. -/
structure Padding where
  text : List Char
  blank : ∀ c ∈ text, Text.isBlank c = true

/-- A code fence: what its first line says behind the backticks, the blanks on the two sides of what
it holds, and whether it is closed. -/
structure CodeFence where
  info : List Char
  one_line : '\n' ∉ info
  before : Padding
  after : Padding
  closed : Bool

/-- A text in a code fence. -/
def CodeFence.around (f : CodeFence) (cs : List Char) : List Char :=
  fence ++ (f.info ++ '\n' :: (f.before.text ++ cs ++ f.after.text
    ++ if f.closed then fence else []))

/-- What may stand around a text: blanks, byte order marks, blanks and a code fence, and blanks
behind it. -/
structure Wrapping where
  lead : Padding
  marks : ℕ
  inner : Padding
  fence : Option CodeFence
  trail : Padding

/-- A text in its code fence, if there is one. -/
def Wrapping.fenced (w : Wrapping) (cs : List Char) : List Char :=
  match w.fence with
  | some f => f.around cs
  | none => cs

/-- A wrapped text. -/
def Wrapping.around (w : Wrapping) (cs : List Char) : List Char :=
  w.lead.text ++ (List.replicate w.marks byteOrderMark
    ++ (w.inner.text ++ (w.fenced cs ++ w.trail.text)))

/-- Nothing around a text. -/
def Wrapping.nothing : Wrapping := ⟨⟨[], by simp⟩, 0, ⟨[], by simp⟩, none, ⟨[], by simp⟩⟩

@[simp] lemma Wrapping.around_nothing (cs : List Char) : nothing.around cs = cs := by
  simp [around, fenced, nothing]

/-! ## Characters that cleaning does not look for -/

/-- No blank, no byte order mark and no backtick. -/
structure Plain (c : Char) : Prop where
  not_blank : Text.isBlank c = false
  not_mark : (c == byteOrderMark) = false
  not_tick : (Char.ofNat 0x60 == c) = false

lemma plain_of_isNumberChar (h : isNumberChar c = true) : Plain c := by
  refine ⟨(solid_of_isNumberChar h).not_blank, ?_, ?_⟩
  · rw [beq_eq_false_iff_ne]
    rintro rfl
    exact absurd h (by decide)
  · rw [beq_eq_false_iff_ne]
    rintro rfl
    exact absurd h (by decide)

/-- A text that begins and ends with something that cleaning does not look for. -/
structure Firm (cs : List Char) : Prop where
  first : ∃ c ds, cs = c :: ds ∧ Plain c
  last : ∃ ds c, cs = ds ++ [c] ∧ Plain c

lemma Firm.endsSolid (h : Firm cs) : Text.EndsSolid cs := by
  obtain ⟨ds, c, rfl, hc⟩ := h.last
  exact Text.endsSolid_concat hc.not_blank ds

lemma firm_between {d : Char} (hc : Plain c) (hd : Plain d) (cs : List Char) :
    Firm (c :: cs ++ [d]) :=
  ⟨⟨c, cs ++ [d], rfl, hc⟩, ⟨c :: cs, d, rfl, hd⟩⟩

lemma firm_of_forall (hne : cs ≠ []) (h : ∀ c ∈ cs, Plain c) : Firm cs := by
  constructor
  · obtain ⟨c, ds, rfl⟩ := List.exists_cons_of_ne_nil hne
    exact ⟨c, ds, rfl, h c (by simp)⟩
  · rcases List.eq_nil_or_concat' cs with rfl | ⟨ds, c, rfl⟩
    · exact absurd rfl hne
    · exact ⟨ds, c, rfl, h c (by simp)⟩

/-- A JSON value begins and ends with a bracket, a quotation mark, a letter or a digit. -/
lemma firm_text (t : Tree) : Firm t.text := by
  have hplain : ∀ c ∈ ['n', 'l', 't', 'e', 'f', '"', '[', ']', '{', '}'], Plain c := by
    intro c hc
    simp only [List.mem_cons, List.not_mem_nil, or_false] at hc
    rcases hc with rfl | rfl | rfl | rfl | rfl | rfl | rfl | rfl | rfl | rfl <;>
      exact ⟨rfl, rfl, rfl⟩
  cases t with
  | null => exact firm_between (hplain 'n' (by simp)) (hplain 'l' (by simp)) ['u', 'l']
  | bool b =>
      cases b with
      | true => exact firm_between (hplain 't' (by simp)) (hplain 'e' (by simp)) ['r', 'u']
      | false => exact firm_between (hplain 'f' (by simp)) (hplain 'e' (by simp)) ['a', 'l', 's']
  | number text n reads =>
      obtain ⟨⟨c, ds, rfl, -⟩, hall⟩ := number_spec reads
      exact firm_of_forall (List.cons_ne_nil c ds) fun d hd => plain_of_isNumberChar (hall d hd)
  | string gs => exact firm_between (hplain '"' (by simp)) (hplain '"' (by simp)) (glyphsText gs)
  | array gap es => exact firm_between (hplain '[' (by simp)) (hplain ']' (by simp)) _
  | object gap ms => exact firm_between (hplain '{' (by simp)) (hplain '}' (by simp)) _

/-! ## Cleaning -/

/-- Trimming stops at a firm text. -/
lemma Firm.trim_eq (h : Firm body) (hl : ∀ c ∈ l, Text.isBlank c = true)
    (ht : ∀ c ∈ t, Text.isBlank c = true) : Text.trim (l ++ (body ++ t)) = body := by
  have hstart : Text.trimStart (body ++ t) = body ++ t := by
    obtain ⟨c, ds, rfl, hc⟩ := h.first
    exact Text.trimStart_cons_of_not_blank hc.not_blank (ds ++ t)
  rw [Text.trim, Text.trimStart_blanks_append hl, hstart, Text.trimEnd_append_blanks ht,
    h.endsSolid.trimEnd_eq]

lemma byteOrderMark_not_blank : Text.isBlank byteOrderMark = false := by decide

/-- Blanks, byte order marks and blanks in front are dropped. -/
lemma opening_append (hl : ∀ d ∈ l, Text.isBlank d = true) (n : ℕ)
    (ht : ∀ d ∈ t, Text.isBlank d = true) (hblank : Text.isBlank c = false)
    (hmark : (c == byteOrderMark) = false) (cs : List Char) :
    opening (l ++ (List.replicate n byteOrderMark ++ (t ++ c :: cs))) = c :: cs := by
  have hstart : Text.trimStart (t ++ c :: cs) = c :: cs := by
    rw [Text.trimStart_blanks_append ht, Text.trimStart_cons_of_not_blank hblank]
  have hdrop : ∀ x xs, (x == byteOrderMark) = false →
      (x :: xs).dropWhile (· == byteOrderMark) = x :: xs := by
    intro x xs hx
    exact List.dropWhile_cons_of_neg (by simp [hx])
  rw [opening, Text.trimStart_blanks_append hl]
  cases n with
  | zero =>
      rw [List.replicate_zero, List.nil_append, hstart, hdrop c cs hmark,
        Text.trimStart_cons_of_not_blank hblank]
  | succ n =>
      -- the first mark stops the first trimming, and blanks or the text stop the marks
      have hmarks : (List.replicate (n + 1) byteOrderMark ++ (t ++ c :: cs)).dropWhile
          (· == byteOrderMark) = t ++ c :: cs := by
        rw [List.dropWhile_append_of_pos fun d hd => by simp [List.eq_of_mem_replicate hd]]
        cases t with
        | nil => exact hdrop c cs hmark
        | cons d ds =>
            refine hdrop d _ ?_
            rw [beq_eq_false_iff_ne]
            rintro rfl
            have hd := ht byteOrderMark (by simp)
            rw [byteOrderMark_not_blank] at hd
            cases hd
      have hkeep : Text.trimStart (List.replicate (n + 1) byteOrderMark ++ (t ++ c :: cs))
          = List.replicate (n + 1) byteOrderMark ++ (t ++ c :: cs) := by
        rw [List.replicate_succ, List.cons_append,
          Text.trimStart_cons_of_not_blank byteOrderMark_not_blank]
      rw [hkeep, hmarks, hstart]

/-- The first line of a code fence ends where what it says ends. -/
lemma dropInfoLine_append {info : List Char} (h : '\n' ∉ info) (rest : List Char) :
    dropInfoLine (info ++ '\n' :: rest) = rest := by
  have hdrop : (info ++ '\n' :: rest).dropWhile (· != '\n') = '\n' :: rest := by
    rw [List.dropWhile_append_of_pos]
    · exact List.dropWhile_cons_of_neg (by simp)
    · intro d hd
      rw [bne_iff_ne]
      rintro rfl
      exact h hd
  rw [dropInfoLine, hdrop]

lemma endsSolid_fence : Text.EndsSolid fence :=
  Text.endsSolid_concat (by decide) (List.replicate 2 (Char.ofNat 0x60))

lemma dropClosingFence_append (cs : List Char) : dropClosingFence (cs ++ fence) = cs := by
  have hprefix : Text.dropPrefix? fence.reverse (fence.reverse ++ cs.reverse) = some cs.reverse :=
    Text.dropPrefix?_eq_some_iff.mpr rfl
  rw [dropClosingFence, (endsSolid_fence.append cs).trimEnd_eq, Text.dropSuffix?,
    List.reverse_append, hprefix, Option.map_some, List.reverse_reverse, Option.getD_some]

lemma dropClosingFence_of_firm (h : Firm body) (l : List Char) :
    dropClosingFence (l ++ body) = l ++ body := by
  have hsuffix : Text.dropSuffix? fence (l ++ body) = none := by
    obtain ⟨ds, c, rfl, hc⟩ := h.last
    simp [Text.dropSuffix?, fence, List.replicate_succ, Text.dropPrefix?, hc.not_tick]
  rw [dropClosingFence, (h.endsSolid.append l).trimEnd_eq, hsuffix, Option.getD_none]

/-- What a code fence holds. -/
lemma unfence_fence_append (cs : List Char) :
    unfence (fence ++ cs) = dropClosingFence (dropInfoLine cs) := by
  have hprefix : Text.dropPrefix? fence (fence ++ cs) = some cs :=
    Text.dropPrefix?_eq_some_iff.mpr rfl
  rw [unfence, hprefix]

lemma unfence_append {info : List Char} (h : '\n' ∉ info) (rest : List Char) :
    unfence (fence ++ (info ++ '\n' :: rest)) = dropClosingFence rest := by
  rw [unfence_fence_append, dropInfoLine_append h]

/-- A firm text with blanks around it, in a code fence. -/
lemma trim_unfence_around (h : Firm body) (hl : ∀ c ∈ l, Text.isBlank c = true)
    (ht : ∀ c ∈ t, Text.isBlank c = true) (f : CodeFence) {trail : List Char}
    (htrail : ∀ c ∈ trail, Text.isBlank c = true) :
    Text.trim (unfence (Text.trimEnd (f.around (l ++ (body ++ t)) ++ trail))) = body := by
  have hbefore : ∀ c ∈ f.before.text ++ l, Text.isBlank c = true := by
    intro c hc
    exact (List.mem_append.mp hc).elim (f.before.blank c) (hl c)
  have hafter : ∀ c ∈ t ++ f.after.text, Text.isBlank c = true := by
    intro c hc
    exact (List.mem_append.mp hc).elim (ht c) (f.after.blank c)
  rw [Text.trimEnd_append_blanks htrail]
  cases hclosed : f.closed with
  | true =>
      have hwhole : f.around (l ++ (body ++ t)) = fence ++ (f.info ++ '\n' ::
          ((f.before.text ++ l) ++ (body ++ (t ++ f.after.text)) ++ fence)) := by
        simp [CodeFence.around, hclosed]
      have hend : Text.EndsSolid (f.around (l ++ (body ++ t))) := by
        have hinner := endsSolid_fence.append (fence ++ (f.info ++ '\n' ::
          ((f.before.text ++ l) ++ (body ++ (t ++ f.after.text)))))
        rw [hwhole]
        simpa using hinner
      rw [hend.trimEnd_eq, hwhole, unfence_append f.one_line, dropClosingFence_append,
        h.trim_eq hbefore hafter]
  | false =>
      have hwhole : f.around (l ++ (body ++ t)) = (fence ++ (f.info ++ '\n' ::
          ((f.before.text ++ l) ++ body))) ++ (t ++ f.after.text) := by
        simp [CodeFence.around, hclosed]
      have hend : Text.EndsSolid (fence ++ (f.info ++ '\n' :: ((f.before.text ++ l) ++ body))) := by
        have hinner := h.endsSolid.append (fence ++ (f.info ++ '\n' :: (f.before.text ++ l)))
        simpa using hinner
      have htrim : Text.trim ((f.before.text ++ l) ++ body) = body := by
        simpa using h.trim_eq hbefore (t := []) (by simp)
      rw [hwhole, Text.trimEnd_append_blanks hafter, hend.trimEnd_eq, unfence_append f.one_line,
        dropClosingFence_of_firm h, htrim]

/-- **Of a wrapped text cleaning leaves the text**, without the blanks around it. -/
theorem clean_around (h : Firm body) (hl : ∀ c ∈ l, Text.isBlank c = true)
    (ht : ∀ c ∈ t, Text.isBlank c = true) (w : Wrapping) :
    clean (w.around (l ++ (body ++ t))) = body := by
  rw [clean, unwrap_eq_trimEnd_opening]
  cases hfence : w.fence with
  | none =>
      have hinner : ∀ c ∈ w.inner.text ++ l, Text.isBlank c = true := by
        intro c hc
        exact (List.mem_append.mp hc).elim (w.inner.blank c) (hl c)
      have htrail : ∀ c ∈ t ++ w.trail.text, Text.isBlank c = true := by
        intro c hc
        exact (List.mem_append.mp hc).elim (ht c) (w.trail.blank c)
      have hwhole : w.around (l ++ (body ++ t)) = w.lead.text
          ++ (List.replicate w.marks byteOrderMark
            ++ ((w.inner.text ++ l) ++ (body ++ (t ++ w.trail.text)))) := by
        simp [Wrapping.around, Wrapping.fenced, hfence]
      have hopening : opening (w.around (l ++ (body ++ t))) = body ++ (t ++ w.trail.text) := by
        obtain ⟨c, ds, rfl, hc⟩ := h.first
        rw [hwhole]
        exact opening_append w.lead.blank w.marks hinner hc.not_blank hc.not_mark _
      have hunfence : unfence body = body := by
        obtain ⟨c, ds, rfl, hc⟩ := h.first
        exact unfence_of_ne hc.not_tick ds
      have htrim : Text.trim body = body := by
        simpa using h.trim_eq (l := []) (by simp) (t := []) (by simp)
      rw [hopening, Text.trimEnd_append_blanks htrail, h.endsSolid.trimEnd_eq, hunfence, htrim]
  | some f =>
      have hwhole : w.around (l ++ (body ++ t)) = w.lead.text
          ++ (List.replicate w.marks byteOrderMark
            ++ (w.inner.text ++ (f.around (l ++ (body ++ t)) ++ w.trail.text))) := by
        simp [Wrapping.around, Wrapping.fenced, hfence]
      rw [hwhole]
      have hopening := opening_append w.lead.blank w.marks w.inner.blank
        (c := Char.ofNat 0x60) (by decide) (by decide)
      rw [CodeFence.around, fence, List.replicate_succ, List.cons_append, List.cons_append,
        hopening]
      exact trim_unfence_around h hl ht f w.trail.blank

/-- A firm text without wrappers loses the blanks around it. -/
lemma Firm.clean_eq (h : Firm body) (hl : ∀ c ∈ l, Text.isBlank c = true)
    (ht : ∀ c ∈ t, Text.isBlank c = true) : clean (l ++ (body ++ t)) = body := by
  simpa using clean_around h hl ht .nothing

/-! ## Repair -/

/-- Where a text may end nothing is open, no string literal and no comma is left behind. -/
lemma complete_of_result {s : State} (hs : Coherent s) (h : s.result? = some v) :
    regionOf s = .outside ∧ dueOf s = [] ∧ ¬AfterComma s := by
  obtain ⟨st, mode⟩ := s
  cases mode with
  | done w =>
      obtain rfl : st = [] := hs
      exact ⟨rfl, rfl, fun hcomma => hcomma⟩
  | number text =>
      simp only [State.result?] at h
      split_ifs at h with hst
      obtain rfl := List.isEmpty_iff.mp hst
      exact ⟨rfl, rfl, fun hcomma => hcomma⟩
  | _ => cases h

/-- **Repair leaves JSON as it is.** -/
theorem repair_of_read (h : read? cs = some v) : repair cs = cs := by
  obtain ⟨s, hs, hv⟩ := Option.bind_eq_some_iff.mp h
  obtain ⟨hregion, hdue, hcomma⟩ := complete_of_result (coherent_of_run hs) hv
  rw [repair_of_outside hs hregion, dropComma_eq_self (lastSolid?_ne_comma hs hregion hcomma),
    List.reverse_reverse, hdue, List.append_nil]

/-! ## Extraction -/

/-- **Wrappings are transparent.**  Whatever a JSON text is wrapped in, cleaning leaves the text
without the blanks around it, repair would leave that and the text itself as they are, and the value
of the text is found. -/
theorem extract_of_wrapped {text : String} (h : ofString? text = some v) (w : Wrapping) :
    clean (w.around text.toList) = Text.trim text.toList ∧
      repair (Text.trim text.toList) = Text.trim text.toList ∧
      repair text.toList = text.toList ∧
      extract (String.ofList (w.around text.toList)) = .ok v := by
  obtain ⟨d, hd, rfl⟩ := read?_eq_some_iff.mp h
  have hlead := isBlank_of_gap d.lead
  have htrail := isBlank_of_gap d.trail
  have htext : text.toList = d.lead.text ++ (d.root.text ++ d.trail.text) := by
    rw [← hd, Document.text, List.append_assoc]
  have htrim : Text.trim text.toList = d.root.text := by
    rw [htext, (firm_text d.root).trim_eq hlead htrail]
  have hclean : clean (w.around text.toList) = d.root.text := by
    rw [htext]
    exact clean_around (firm_text d.root) hlead htrail w
  refine ⟨by rw [hclean, htrim], ?_, repair_of_read h, ?_⟩
  · rw [htrim]
    exact repair_of_read (read?_root d.shallow)
  · rw [extract, String.toList_ofList, hclean]
    exact extractCleaned_text d.shallow

/-- A code fence for JSON that is closed on a line of its own. -/
def jsonFence : CodeFence where
  info := "json".toList
  one_line := by decide
  before := ⟨[], by simp⟩
  after := ⟨['\n'], by simp [Text.isBlank]⟩
  closed := true

/-- A byte order mark and blanks in front of a code fence, and blanks behind it. -/
def fencedReply : Wrapping where
  lead := ⟨[], by simp⟩
  marks := 1
  inner := ⟨[' '], by simp [Text.isBlank]⟩
  fence := some jsonFence
  trail := ⟨['\n'], by simp [Text.isBlank]⟩

/-- Backticks, a bracket and a comma in a string, in a code fence. -/
theorem extract_of_wrapped_in_fence :
    extract "\uFEFF ```json\n [\"```,]\", 1]\n```\n" = .ok (.array [.string "```,]", .nat 1]) := by
  have h : ofString? " [\"```,]\", 1]" = some (.array [.string "```,]", .nat 1]) := by rfl
  exact (extract_of_wrapped h fencedReply).2.2.2

end CodeDigest.Reply
