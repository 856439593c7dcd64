import CodeDigest.Proofs.Reply.Tally

/-!
# JSON on the first line of a code fence

Cleaning drops the first line of a code fence, whatever stands on it, unless the reply has one line
only.  So a JSON text that starts on the line of the backticks is found if that line ends before the
text has begun, or does not end at all, and otherwise its beginning is lost.

* `clean_inlineFence_of_newline` and `clean_inlineFence_of_one_line` say what cleaning leaves.
* `ne_value_of_remainder`: what is found in a JSON text without its first bracket is not its value,
  if no object has a key twice.  As long as string literals are where they were, there are fewer
  containers left.  But the search for an embedded value may begin at a bracket in a string, and
  then everything is turned inside out: brackets in strings open containers, and the brackets of
  containers are in strings (`tally_whenOutside_eq`).  If the value were the same it would have at
  most as many containers as brackets in its strings, and more of them.
* `extract_of_inline_fence` puts them together.
-/

namespace CodeDigest.Reply

open Json

variable {c : Char} {r r' : Region} {cs xs ys rest body before after info space : List Char}
  {d : Document} {w v : Json}

/-! ## Texts turned inside out -/

/-- One of two regions is in a string literal and the other one is not. -/
def Region.Opposite (r r' : Region) : Prop :=
  r = .inside ∧ r' = .outside ∨ r = .outside ∧ r' = .inside

/-- Without backslashes they stay so. -/
lemma Region.Opposite.next (h : r.Opposite r') (hc : c ≠ '\\') :
    (r.next c).Opposite (r'.next c) := by
  have hbeq : (c == '\\') = false := by simpa using hc
  by_cases hquote : c = '"'
  · rcases h with ⟨rfl, rfl⟩ | ⟨rfl, rfl⟩
    · exact .inr (by subst hquote; exact ⟨rfl, rfl⟩)
    · exact .inl (by subst hquote; exact ⟨rfl, rfl⟩)
  · rcases h with ⟨rfl, rfl⟩ | ⟨rfl, rfl⟩
    · exact .inl (by simp [Region.next, hbeq, hquote])
    · exact .inr (by simp [Region.next, hbeq, hquote])

/-- What is outside string literals is inside when the text is read from the opposite region, if
there is no backslash. -/
lemma tally_whenOutside_eq (h : r.Opposite r')
    (hb : tally (whenOutside (· == '\\')) r cs = 0)
    (hb' : tally (whenOutside (· == '\\')) r' cs = 0) (q : Char → Bool) :
    tally (whenOutside q) r cs = tally (whenInside q) r' cs := by
  induction cs generalizing r r' with
  | nil => rfl
  | cons c cs ih =>
      rw [tally, Nat.add_eq_zero_iff] at hb hb'
      obtain ⟨hc, hcs⟩ := hb
      obtain ⟨hc', hcs'⟩ := hb'
      have hne : c ≠ '\\' := by
        rcases h with ⟨rfl, rfl⟩ | ⟨rfl, rfl⟩
        · simpa using hc'
        · simpa using hc
      have hhead : whenOutside q r c = whenInside q r' c := by
        rcases h with ⟨rfl, rfl⟩ | ⟨rfl, rfl⟩ <;> rfl
      rw [tally, tally, hhead, ih (h.next hne) hcs hcs']

/-- Behind an opening bracket that is not outside string literals the literal goes on. -/
lemma next_of_isOpener (hc : isOpener c = true) (hr : r ≠ .outside) : r.next c = .inside := by
  have hne : (c == '"') = false ∧ (c == '\\') = false := by
    constructor
    all_goals
      rw [beq_eq_false_iff_ne]
      rintro rfl
      exact absurd hc (by decide)
  cases r with
  | outside => exact absurd rfl hr
  | inside => simp [Region.next, hne]
  | escaped => rfl

lemma tally_or_le (p q : Char → Bool) (r : Region) (cs : List Char) :
    tally (whenOutside fun c => p c || q c) r cs
      ≤ tally (whenOutside p) r cs + tally (whenOutside q) r cs := by
  induction cs generalizing r with
  | nil => exact Nat.zero_le _
  | cons c cs ih =>
      have hhead : (whenOutside (fun c => p c || q c) r c).toNat
          ≤ (whenOutside p r c).toNat + (whenOutside q r c).toNat := by
        cases r <;> cases hp : p c <;> cases hq : q c <;> simp [whenOutside, hp, hq]
      have hrest := ih (r.next c)
      simp only [tally]
      omega

/-! ## What is found in the rest of a text -/

/-- What is found is the value of one of three texts. -/
lemma extractCleaned_cases (h : extractCleaned cs = .ok w) : read? cs = some w ∨
    read? (repair cs) = some w ∨
      ∃ body, embedded? cs = some body ∧ read? (repair body) = some w := by
  unfold extractCleaned at h
  split at h
  next v hv => exact .inl (hv.trans (congrArg some (Except.ok.inj h)))
  · split at h
    next v hv => exact .inr (.inl (hv.trans (congrArg some (Except.ok.inj h))))
    · split at h
      next v hv =>
        obtain ⟨body, hbody, hread⟩ := Option.bind_eq_some_iff.mp hv
        exact .inr (.inr ⟨body, hbody, hread.trans (congrArg some (Except.ok.inj h))⟩)
      · cases h

lemma upToCloser_prefix (depth : ℕ) (r : Region) (cs : List Char) :
    upToCloser depth r cs <+: cs := by
  induction cs generalizing depth r with
  | nil => exact List.prefix_rfl
  | cons c cs ih =>
      unfold upToCloser
      split_ifs
      · exact List.prefix_cons_iff.mpr (.inr ⟨_, rfl, ih _ _⟩)
      · exact List.prefix_cons_iff.mpr (.inr ⟨_, rfl, List.nil_prefix⟩)
      · exact List.prefix_cons_iff.mpr (.inr ⟨_, rfl, ih _ _⟩)
      · exact List.prefix_cons_iff.mpr (.inr ⟨_, rfl, ih _ _⟩)
      · exact List.prefix_cons_iff.mpr (.inr ⟨_, rfl, ih _ _⟩)

/-- What is embedded in a text begins at its first opening bracket. -/
lemma exists_of_embedded (h : embedded? cs = some body) : ∃ front c back,
    cs = front ++ c :: back ∧ isOpener c = true ∧ body <+: c :: back := by
  unfold embedded? at h
  split at h
  · cases h
  next hne =>
    obtain rfl := Option.some.inj h
    obtain ⟨c, back, hback⟩ := List.exists_cons_of_ne_nil hne
    have hhead := List.head?_dropWhile_not (fun c => !(closerOf? c).isSome) cs
    rw [hback] at hhead
    refine ⟨cs.takeWhile fun c => !(closerOf? c).isSome, c, back, ?_,
      by simpa [isOpener] using hhead, hback ▸ upToCloser_prefix 0 .outside _⟩
    rw [← hback, List.takeWhile_append_dropWhile]

section Remainder

variable (hd : d.root.DistinctKeys)
  (hopen : 0 < tally (whenOutside isOpener) .outside xs)

include hd hopen

/-- A text with fewer opening brackets outside string literals has another value. -/
lemma ne_value_of_tally_le (htext : d.text = xs ++ ys)
    (hle : tally (whenOutside isOpener) .outside cs
      ≤ tally (whenOutside isOpener) (xs.foldl Region.next .outside) ys)
    (h : read? cs = some w) : w ≠ d.root.value := by
  rintro rfl
  have hvalue := containers_le h
  have hall := le_containers hd
  rw [htext, tally_append] at hall
  omega

/-- A text that is turned inside out has another value. -/
lemma ne_value_of_opposite {back : List Char} (htext : d.text = xs ++ c :: back)
    (hc : isOpener c = true) (hin : xs.foldl Region.next .outside ≠ .outside)
    (hbody : body <+: c :: back) (h : read? (repair body) = some w) : w ≠ d.root.value := by
  rintro rfl
  have hnext := next_of_isOpener hc hin
  have hnext' : Region.next .outside c = .outside := by
    refine next_of_ne_quote ?_
    rintro rfl
    exact absurd hc (by decide)
  have hopposite : Region.Opposite .outside .inside := .inr ⟨rfl, rfl⟩
  -- all that is read is the first bracket and what follows it
  obtain ⟨cs, rfl, hcs⟩ : ∃ cs, body = c :: cs ∧ cs <+: back := by
    rcases List.prefix_cons_iff.mp hbody with rfl | hcons
    · cases h
    · exact hcons
  have hcount : ∀ p, tally p .outside xs + ((p (xs.foldl Region.next .outside) c).toNat
      + tally p .inside cs) ≤ tally p .outside d.text := by
    intro p
    rw [htext, tally_append, tally, hnext]
    have hle := tally_prefix_le (p := p) (r := .inside) hcs
    omega
  have hinside : ∀ q, whenInside q (xs.foldl Region.next .outside) c = q c := by
    intro q
    cases hregion : xs.foldl Region.next .outside with
    | outside => exact absurd hregion hin
    | inside | escaped => rfl
  -- neither reading comes by a backslash outside string literals
  have hb : tally (whenOutside (· == '\\')) .inside cs = 0 := by
    have hle := hcount (whenOutside (· == '\\'))
    rw [tally_backslash (read?_text d)] at hle
    omega
  have hb' : tally (whenOutside (· == '\\')) .outside cs = 0 := by
    have hle := le_tally_repair counting_backslashes rfl (c :: cs)
    rw [tally_backslash h, tally, hnext'] at hle
    omega
  have hcontainers : containers d.root.value ≤ bracketsInStrings d.root.value := by
    have hread := (containers_le h).trans (tally_repair_le counting_openers (c :: cs))
    have hall := (hcount (whenInside isOpener)).trans (le_bracketsInStrings hd)
    rw [tally, hnext', whenOutside_outside, tally_whenOutside_eq hopposite hb' hb] at hread
    rw [hinside] at hall
    omega
  have hstrings : bracketsInStrings d.root.value < containers d.root.value := by
    have hread := (bracketsInStrings_le h).trans
      (tally_repair_le (counting_whenInside rfl) (c :: cs))
    have hall := (hcount (whenOutside isOpener)).trans (le_containers hd)
    have hor := tally_or_le isOpener (· == '\\') .inside cs
    rw [tally, hnext', whenInside_outside,
      ← tally_whenOutside_eq (.inl ⟨rfl, rfl⟩) hb hb' fun c => isOpener c || c == '\\'] at hread
    have hzero : Bool.toNat false = 0 := rfl
    omega
  omega

/-- **What is found in the rest of a text** is not its value, if the first bracket is missing. -/
theorem ne_value_of_remainder (htext : d.text = xs ++ (rest ++ ys))
    (hout : xs.foldl Region.next .outside = .outside) (h : extractCleaned rest = .ok w) :
    w ≠ d.root.value := by
  have hrest : tally (whenOutside isOpener) .outside rest
      ≤ tally (whenOutside isOpener) (xs.foldl Region.next .outside) (rest ++ ys) := by
    rw [hout]
    exact tally_prefix_le (List.prefix_append rest ys)
  rcases extractCleaned_cases h with hread | hread | ⟨body, hbody, hread⟩
  · exact ne_value_of_tally_le hd hopen htext hrest hread
  · exact ne_value_of_tally_le hd hopen htext
      ((tally_repair_le counting_openers rest).trans hrest) hread
  · obtain ⟨front, c, back, rfl, hc, hprefix⟩ := exists_of_embedded hbody
    by_cases hregion : front.foldl Region.next .outside = .outside
    · refine ne_value_of_tally_le hd hopen htext ?_ hread
      have hle := (tally_repair_le counting_openers body).trans (tally_prefix_le hprefix)
      rw [tally_append, hregion] at hrest
      omega
    · have hsplit : d.text = (xs ++ front) ++ c :: (back ++ ys) := by simp [htext]
      have hfront : (xs ++ front).foldl Region.next .outside ≠ .outside := by
        rwa [List.foldl_append, hout]
      refine ne_value_of_opposite hd ?_ hsplit hc hfront ?_ hread
      · rw [tally_append]
        omega
      · exact hprefix.trans (List.prefix_append (c :: back) ys)

end Remainder

/-! ## Cleaning -/

/-- A code fence that opens on the line of what it holds: backticks, an info word, a space or none,
the text and backticks. -/
def inlineFence (info space cs : List Char) : List Char := fence ++ (info ++ space ++ cs ++ fence)

lemma unwrap_fenced (cs : List Char) :
    unwrap (fence ++ (cs ++ fence)) = fence ++ (cs ++ fence) := by
  have hopening := opening_append (l := []) (by simp) 0 (t := []) (by simp)
    (c := Char.ofNat 0x60) (by decide) (by decide)
    (List.replicate 2 (Char.ofNat 0x60) ++ (cs ++ fence))
  have hsolid : Text.EndsSolid (fence ++ (cs ++ fence)) := by
    rw [← List.append_assoc]
    exact endsSolid_fence.append _
  rw [unwrap_eq_trimEnd_opening]
  exact (congrArg Text.trimEnd hopening).trans hsolid.trimEnd_eq

lemma dropInfoLine_of_one_line (h : '\n' ∉ cs) : dropInfoLine cs = cs := by
  have hdrop : cs.dropWhile (· != '\n') = [] := by
    rw [List.dropWhile_eq_nil_iff]
    intro c hc
    rw [bne_iff_ne]
    rintro rfl
    exact h hc
  rw [dropInfoLine, hdrop]

lemma newline_not_mem_fence : '\n' ∉ fence := by decide

/-- The first line goes. -/
lemma clean_inlineFence_of_newline (h : '\n' ∉ info ++ space ++ before) (after : List Char) :
    clean (inlineFence info space (before ++ '\n' :: after)) = Text.trim after := by
  have hcontent : info ++ space ++ (before ++ '\n' :: after) ++ fence
      = (info ++ space ++ before) ++ '\n' :: (after ++ fence) := by simp
  rw [clean, inlineFence, unwrap_fenced, hcontent, unfence_append h, dropClosingFence_append]

/-- On one line nothing goes but the backticks. -/
lemma clean_inlineFence_of_one_line (h : '\n' ∉ info ++ space ++ cs) :
    clean (inlineFence info space cs) = Text.trim (info ++ space ++ cs) := by
  have hline : '\n' ∉ info ++ space ++ cs ++ fence := by
    rw [List.mem_append, not_or]
    exact ⟨h, newline_not_mem_fence⟩
  rw [clean, inlineFence, unwrap_fenced, unfence_fence_append, dropInfoLine_of_one_line hline,
    dropClosingFence_append]

/-! ## Extraction -/

/-- Where there is a newline, no bracket opens in front of the first one. -/
def BareFirstLine (cs : List Char) : Prop :=
  '\n' ∈ cs → ∀ c ∈ cs.takeWhile (· != '\n'), isOpener c = false

instance (cs : List Char) : Decidable (BareFirstLine cs) :=
  haveI := List.decidableBAll (fun c => isOpener c = false) (cs.takeWhile (· != '\n'))
  inferInstanceAs (Decidable ('\n' ∈ cs → ∀ c ∈ cs.takeWhile (· != '\n'), isOpener c = false))

/-- A character of an info word: a letter, or anything else but a blank, a quotation mark and an
opening bracket. -/
structure InfoChar (c : Char) : Prop where
  not_blank : Text.isBlank c = false
  ne_quote : c ≠ '"'
  not_opener : isOpener c = false

lemma infoChar_of_isAlphanum (h : c.isAlphanum = true) : InfoChar c := by
  have hall : ∀ n < 128, (Char.ofNat n).isAlphanum = true → Text.isBlank (Char.ofNat n) = false ∧
      Char.ofNat n ≠ '"' ∧ isOpener (Char.ofNat n) = false := by decide
  have hc := hall c.toNat (Text.toNat_lt_of_isAlphanum h)
  rw [Char.ofNat_toNat] at hc
  exact ⟨(hc h).1, (hc h).2.1, (hc h).2.2⟩

lemma newline_not_mem_takeWhile (cs : List Char) : '\n' ∉ cs.takeWhile (· != '\n') :=
  fun h => absurd (List.mem_takeWhile_imp h) (by decide)

lemma exists_first_newline (h : '\n' ∈ cs) :
    ∃ after, cs = cs.takeWhile (· != '\n') ++ '\n' :: after := by
  rcases hdrop : cs.dropWhile (· != '\n') with _ | ⟨c, after⟩
  · exact absurd (List.dropWhile_eq_nil_iff.mp hdrop '\n' h) (by decide)
  · have hhead := List.head?_dropWhile_not (· != '\n') cs
    rw [hdrop] at hhead
    obtain rfl : c = '\n' := by simpa using hhead
    exact ⟨after, by rw [← hdrop, List.takeWhile_append_dropWhile]⟩

/-- The first newline stands in front of the container, or its bracket stands in front of the
newline. -/
lemma newline_cases (ht : d.root.isContainer = true) (h : d.text = before ++ '\n' :: after) :
    (∃ gap, d.lead.text = before ++ '\n' :: gap ∧ after = gap ++ (d.root.text ++ d.trail.text)) ∨
      ∃ c cs, before = d.lead.text ++ c :: cs ∧ isOpener c = true := by
  obtain ⟨c, cs, k, hroot, hc, -⟩ := exists_brackets ht
  have hne : c ≠ '\n' := by
    rintro rfl
    exact absurd hc (by decide)
  have hbracket : ∀ {xs}, '\n' :: xs ≠ d.root.text ++ d.trail.text := by
    intro xs heq
    rw [hroot] at heq
    exact hne (List.cons.inj heq).1.symm
  rw [Document.text, List.append_assoc] at h
  rcases List.append_eq_append_iff.mp h with ⟨xs, hbefore, hxs⟩ | ⟨xs, hlead, hxs⟩
  · rcases xs with _ | ⟨x, xs⟩
    · exact absurd hxs.symm hbracket
    · right
      rw [hroot] at hxs
      obtain rfl : c = x := (List.cons.inj hxs).1
      exact ⟨c, xs, hbefore, hc⟩
  · rcases xs with _ | ⟨x, xs⟩
    · exact absurd hxs hbracket
    · obtain ⟨rfl, rfl⟩ := List.cons.inj hxs
      exact .inl ⟨xs, hlead, rfl⟩

section Extraction

variable (hinfo : ∀ c ∈ info, InfoChar c) (hspace : ∀ c ∈ space, c = ' ')

include hinfo hspace

lemma newline_not_mem_info : '\n' ∉ info ++ space := by
  rw [List.mem_append, not_or]
  exact ⟨fun h => absurd (hinfo _ h).not_blank (by decide),
    fun h => absurd (hspace _ h) (by decide)⟩

/-- Trimming leaves the info word and what follows it, to the end of the container. -/
lemma trim_inlineFence (d : Document) : ∃ front, (∀ c ∈ front, closerOf? c = none) ∧
    (∀ c ∈ front.head?, Stray c) ∧
      Text.trim (info ++ space ++ d.text) = front ++ d.root.text := by
  have hblank : ∀ c ∈ space ++ d.lead.text, Text.isBlank c = true := by
    intro c hc
    rcases List.mem_append.mp hc with hc | hc
    · rw [hspace c hc]
      rfl
    · exact isBlank_of_gap d.lead c hc
  have htrail := isBlank_of_gap d.trail
  have hopen : ∀ c ∈ info ++ (space ++ d.lead.text), closerOf? c = none := by
    intro c hc
    suffices hnot : isOpener c = false by simpa [isOpener] using hnot
    rcases List.mem_append.mp hc with hc | hc
    · exact (hinfo c hc).not_opener
    · exact (mute_of_isBlank (hblank c hc)).not_opener
  have hcontent : info ++ space ++ d.text
      = info ++ ((space ++ d.lead.text) ++ (d.root.text ++ d.trail.text)) := by
    simp [Document.text]
  rw [hcontent]
  rcases info with _ | ⟨c, cs⟩
  · exact ⟨[], by simp, by simp, (firm_text d.root).trim_eq hblank htrail⟩
  · have hc := hinfo c List.mem_cons_self
    refine ⟨c :: cs ++ (space ++ d.lead.text), hopen, ?_, ?_⟩
    · rintro _ ⟨⟩
      refine ⟨?_, hc.ne_quote, hopen c (by simp)⟩
      rw [Bool.eq_false_iff]
      exact fun hc' => absurd (isBlank_of_isSpace hc') (by simp [hc.not_blank])
    · have hsolid := (firm_text d.root).endsSolid.append (c :: cs ++ (space ++ d.lead.text))
      rw [Text.trim, List.cons_append, Text.trimStart_cons_of_not_blank hc.not_blank,
        ← List.cons_append, ← List.append_assoc, ← List.append_assoc,
        Text.trimEnd_append_blanks htrail, hsolid.trimEnd_eq]

/-- Where there is a newline the first line goes. -/
lemma exists_clean_inlineFence (h : '\n' ∈ cs) : ∃ after,
    cs = cs.takeWhile (· != '\n') ++ '\n' :: after ∧
      clean (inlineFence info space cs) = Text.trim after := by
  obtain ⟨after, hcs⟩ := exists_first_newline h
  have hline : '\n' ∉ info ++ space ++ cs.takeWhile (· != '\n') := by
    rw [List.mem_append, not_or]
    exact ⟨newline_not_mem_info hinfo hspace, newline_not_mem_takeWhile cs⟩
  have hclean := clean_inlineFence_of_newline hline after
  rw [← hcs] at hclean
  exact ⟨after, hcs, hclean⟩

/-- **A text whose first line is bare is found.** -/
theorem extractCleaned_inlineFence (ht : d.root.isContainer = true) (hbare : BareFirstLine d.text) :
    extractCleaned (clean (inlineFence info space d.text)) = .ok d.root.value := by
  by_cases hnewline : '\n' ∈ d.text
  · obtain ⟨after, htext, hclean⟩ := exists_clean_inlineFence hinfo hspace hnewline
    rw [hclean]
    rcases newline_cases ht htext with ⟨gap, hlead, rfl⟩ | ⟨c, cs, hbefore, hc⟩
    · have hgap : ∀ c ∈ gap, Text.isBlank c = true := by
        intro c hc
        exact isBlank_of_gap d.lead c (by simp [hlead, hc])
      rw [(firm_text d.root).trim_eq hgap (isBlank_of_gap d.trail)]
      exact extractCleaned_text d.shallow
    · have hnot := hbare hnewline c (by simp [hbefore])
      rw [hc] at hnot
      cases hnot
  · have hline : '\n' ∉ info ++ space ++ d.text := by
      rw [List.mem_append, not_or]
      exact ⟨newline_not_mem_info hinfo hspace, hnewline⟩
    obtain ⟨front, hopen, hhead, htrim⟩ := trim_inlineFence hinfo hspace d
    have hfound := extractCleaned_container ht d.shallow hopen hhead []
    rw [List.append_nil] at hfound
    rw [clean_inlineFence_of_one_line hline, htrim, hfound]

/-- **Of a text whose first line is not bare that line is lost**, and what is found in the rest is
not its value if no object has a key twice. -/
theorem ne_value_of_inlineFence (ht : d.root.isContainer = true) (hbare : ¬BareFirstLine d.text) :
    ∃ before after, d.text = before ++ '\n' :: after ∧ '\n' ∉ before ∧
      clean (inlineFence info space d.text) = Text.trim after ∧
      (d.root.DistinctKeys → ∀ w, extractCleaned (Text.trim after) = .ok w → w ≠ d.root.value) := by
  obtain ⟨hnewline, hopener⟩ := Classical.not_imp.mp hbare
  obtain ⟨after, htext, hclean⟩ := exists_clean_inlineFence hinfo hspace hnewline
  refine ⟨_, after, htext, newline_not_mem_takeWhile _, hclean, fun hd w hw => ?_⟩
  rcases newline_cases ht htext with ⟨gap, hlead, -⟩ | ⟨c, cs, hbefore, hc⟩
  · refine absurd (fun c hc => ?_) hopener
    exact (mute_of_isSpace (d.lead.blank c (by simp [hlead, hc]))).not_opener
  · generalize d.text.takeWhile (· != '\n') = before at htext hbefore
    have hregion : before.foldl Region.next .outside = .outside := by
      have hzero := tally_newline (read?_text d)
      rw [htext, tally_append, tally, Nat.add_eq_zero_iff, Nat.add_eq_zero_iff] at hzero
      simpa [whenInside] using hzero.2.1
    have hblanks : ∀ c ∈ after.takeWhile Text.isBlank, Mute c :=
      fun c hc => mute_of_isBlank (List.mem_takeWhile_imp hc)
    obtain ⟨rest, hrest⟩ := Text.trimEnd_prefix (Text.trimStart after)
    have hsplit : d.text = (before ++ '\n' :: after.takeWhile Text.isBlank)
        ++ (Text.trim after ++ rest) := by
      have hafter : after.takeWhile Text.isBlank ++ (Text.trim after ++ rest) = after := by
        rw [Text.trim, hrest, Text.trimStart, List.takeWhile_append_dropWhile]
      rw [List.append_assoc, List.cons_append, hafter, htext]
    refine ne_value_of_remainder hd ?_ hsplit ?_ hw
    · have hlead := Weighs.gap counting_openers d.lead
      rw [hbefore, List.append_assoc, tally_append, hlead.region, List.cons_append, tally,
        whenOutside_outside, hc, Bool.toNat_true]
      omega
    · rw [List.foldl_append, hregion, List.foldl_cons]
      exact (Weighs.of_mute counting_openers hblanks).region

end Extraction

/-- Blanks behind a document belong to it. -/
lemma exists_text_append (d : Document) (h : ∀ c ∈ cs, isSpace c = true) :
    ∃ d' : Document, d'.text = d.text ++ cs ∧ d'.root = d.root := by
  have hblank : ∀ c ∈ d.trail.text ++ cs, isSpace c = true := by
    intro c hc
    exact (List.mem_append.mp hc).elim (d.trail.blank c) (h c)
  exact ⟨⟨d.lead, d.root, ⟨d.trail.text ++ cs, hblank⟩, d.shallow⟩, by simp [Document.text], rfl⟩

/-- **JSON on the first line of a code fence.**  A JSON text with a container at its top stands
behind the backticks of a fence, an info word and a space.  It is found if no bracket of it opens in
front of the first newline of the fence, or if there is no newline.  Otherwise what stands in front
of that newline is lost; and if no object has a key twice, the text is not found then. -/
theorem extract_of_inline_fence {text : String} (h : ofString? text = some v)
    (hv : (∃ vs, v = .array vs) ∨ ∃ ms, v = .object ms) {newlines : List Char}
    (hinfo : ∀ c ∈ info, InfoChar c) (hspace : ∀ c ∈ space, c = ' ')
    (hnewlines : ∀ c ∈ newlines, c = '\n') :
    (BareFirstLine (text.toList ++ newlines) →
      extract (String.ofList (inlineFence info space (text.toList ++ newlines))) = .ok v) ∧
    (¬BareFirstLine (text.toList ++ newlines) →
      ∃ before after, text.toList ++ newlines = before ++ '\n' :: after ∧ '\n' ∉ before ∧
        extract (String.ofList (inlineFence info space (text.toList ++ newlines)))
          = extractCleaned (Text.trim after)) ∧
    ∀ d : Document, d.text = text.toList → d.root.DistinctKeys →
      (extract (String.ofList (inlineFence info space (text.toList ++ newlines))) = .ok v ↔
        BareFirstLine (text.toList ++ newlines)) := by
  have hgap : ∀ c ∈ newlines, isSpace c = true := by
    intro c hc
    rw [hnewlines c hc]
    rfl
  have hextend : ∀ d : Document, d.text = text.toList →
      ∃ d' : Document, d'.text = text.toList ++ newlines ∧ d'.root = d.root := by
    intro d hd
    rw [← hd]
    exact exists_text_append d hgap
  have hvalue : ∀ d : Document, d.text = text.toList → d.root.value = v :=
    fun d hd => value_of_text h hd
  have hcontainer : ∀ d : Document, d.text = text.toList → d.root.isContainer = true :=
    fun d hd => isContainer_of_value (by rwa [hvalue d hd])
  obtain ⟨d, hd, -⟩ := read?_eq_some_iff.mp h
  simp only [extract, String.toList_ofList]
  have hfound : BareFirstLine (text.toList ++ newlines) →
      extractCleaned (clean (inlineFence info space (text.toList ++ newlines))) = .ok v := by
    obtain ⟨d', hd', hroot⟩ := hextend d hd
    rw [← hd', ← hvalue d hd, ← hroot]
    exact extractCleaned_inlineFence hinfo hspace (hroot ▸ hcontainer d hd)
  refine ⟨hfound, fun hbare => ?_, fun d hd hkeys => ⟨fun hextract => ?_, hfound⟩⟩
  · obtain ⟨d', hd', hroot⟩ := hextend d hd
    rw [← hd'] at hbare ⊢
    obtain ⟨before, after, htext, hbefore, hclean, -⟩ :=
      ne_value_of_inlineFence hinfo hspace (hroot ▸ hcontainer d hd) hbare
    exact ⟨before, after, htext, hbefore, by rw [hclean]⟩
  · by_contra hbare
    obtain ⟨d', hd', hroot⟩ := hextend d hd
    rw [← hd'] at hbare hextract
    obtain ⟨before, after, -, -, hclean, hne⟩ :=
      ne_value_of_inlineFence hinfo hspace (hroot ▸ hcontainer d hd) hbare
    rw [hclean] at hextract
    exact hne (hroot ▸ hkeys) v hextract (by rw [hroot, hvalue d hd])

/-- A text with one string, in a fence on one line and in a fence that is closed on the next one. -/
theorem extract_of_inline_fence_with_string :
    extract "```json [\"ab\"]```" = .ok (.array [.string "ab"]) ∧
      ¬extract "```json [\"ab\"]\n```" = .ok (.array [.string "ab"]) := by
  have h : ofString? "[\"ab\"]" = some (.array [.string "ab"]) := by rfl
  have hinfo : ∀ c ∈ "json".toList, InfoChar c :=
    fun c hc => infoChar_of_isAlphanum (List.all_eq_true.mp rfl c hc)
  have hspace : ∀ c ∈ [' '], c = ' ' := by simp
  have hnone : ∀ c ∈ ([] : List Char), c = '\n' := nofun
  have hone : ∀ c ∈ ['\n'], c = '\n' := by simp
  constructor
  · exact (extract_of_inline_fence h (.inl ⟨_, rfl⟩) hinfo hspace hnone).1 (by decide)
  · intro hextract
    have hiff := (extract_of_inline_fence h (.inl ⟨_, rfl⟩) hinfo hspace hone).2.2 brief rfl
      ⟨trivial, trivial⟩
    exact absurd (hiff.mp hextract) (by decide)

/-- With a key twice the value may be found again in the rest. -/
example : extract "```\x7b\"a\": \x7b\"b\": 1,\n\"c\": \x7b\"a\": 2\x7d\x7d, \"a\": 2\x7d```"
    = .ok (.object [("a", .nat 2)]) := by rfl

/-- **A newline in front of the closing backticks is enough to lose an object** that stands on the
line of the opening ones. -/
theorem extract_of_inline_fence_closed_below :
    ofString? "\x7b\"a\": 1\x7d" = some (.object [("a", .nat 1)]) ∧
      extract "```json \x7b\"a\": 1\x7d```" = .ok (.object [("a", .nat 1)]) ∧
      extract "```json \x7b\"a\": 1\x7d\n```" = .error (.exchange (.notJson "")) :=
  ⟨by rfl, by rfl, by rfl⟩

end CodeDigest.Reply
