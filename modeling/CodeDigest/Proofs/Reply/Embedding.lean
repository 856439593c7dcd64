import CodeDigest.Proofs.Reply.Truncation

/-!
# JSON inside other text

A model that is asked for JSON may well write something in front of it and behind it.

* `extract_of_embedded`: a JSON text with a container at its top is found whatever follows it, and
  behind any text without an opening bracket that does not begin with a quotation mark or a fence.

Three readings are tried, and each of the first two must find this value or nothing.

* Behind a *stray* character, one that neither a container nor a string starts with, a text with an
  opening bracket is no JSON (`read?_eq_none_of_stray`), and repair leaves it so
  (`read?_repair_of_stray`): it puts nothing but a closing bracket in the place of what it leaves
  out, and it cannot reach back behind a bracket (`Keeps`).
* Where nothing stands in front, the reader is done at the closing bracket, and what follows, which
  repair may change, can only make it fail (`read?_append_container`).
* The third reading starts at the first opening bracket and stops at the one that closes it
  (`embedded?_container`).
-/

namespace CodeDigest.Reply

open Json

variable {c k x : Char} {cs xs ys base front back : List Char} {r : Repair} {t : Tree} {v w : Json}

/-! ## Cleaning -/

lemma dropWhile_append_stop {q : Char → Bool} (h : q c = false) (xs ys : List Char) :
    (xs ++ c :: ys).dropWhile q = xs.dropWhile q ++ c :: ys := by
  induction xs with
  | nil => exact List.dropWhile_cons_of_neg (by simp [h])
  | cons x xs ih =>
      cases hx : q x with
      | true =>
          rw [List.cons_append, List.dropWhile_cons_of_pos hx, List.dropWhile_cons_of_pos hx, ih]
      | false =>
          rw [List.cons_append, List.dropWhile_cons_of_neg (by simp [hx]),
            List.dropWhile_cons_of_neg (by simp [hx]), List.cons_append]

/-- A text without the blanks and byte order marks in front. -/
def opening (cs : List Char) : List Char :=
  Text.trimStart ((Text.trimStart cs).dropWhile (· == byteOrderMark))

lemma trimEnd_opening (cs : List Char) : Text.trimEnd (opening cs) = opening (Text.trimEnd cs) := by
  simp only [opening, Text.trimStart, Text.dropWhile_trimEnd]

lemma unwrap_eq_trimEnd_opening (cs : List Char) : unwrap cs = Text.trimEnd (opening cs) := by
  simp only [unwrap, opening, Text.trim, Text.trimStart, Text.dropWhile_trimEnd,
    Text.trimEnd_trimEnd]

/-- Blanks at the end make no difference to a text that is unwrapped. -/
lemma unwrap_append_blanks (h : ∀ d ∈ ys, Text.isBlank d = true) (xs : List Char) :
    unwrap (xs ++ ys) = unwrap xs := by
  rw [unwrap_eq_trimEnd_opening, unwrap_eq_trimEnd_opening, trimEnd_opening, trimEnd_opening,
    Text.trimEnd_append_blanks h]

lemma opening_subset (cs : List Char) : opening cs ⊆ cs := fun _ h =>
  (List.dropWhile_subset _) ((List.dropWhile_subset _) ((List.dropWhile_subset _) h))

lemma not_blank_of_opening (h : opening cs = x :: xs) : Text.isBlank x = false := by
  have hhead := List.head?_dropWhile_not Text.isBlank
    ((Text.trimStart cs).dropWhile (· == byteOrderMark))
  rw [← Text.trimStart, ← opening, h] at hhead
  simpa using hhead

/-- What does not open with a fence does not do so with a bracket behind it. -/
lemma not_fenced_append (hc : (closerOf? c).isSome = true) (h : ¬fence <+: xs) :
    ¬fence <+: xs ++ c :: ys := by
  intro hprefix
  rcases prefix_of_append hprefix with hxs | ⟨q, hq, hprefix⟩
  · exact h hxs
  · rcases List.prefix_cons_iff.mp hprefix with rfl | ⟨q, rfl, _⟩
    · exact h (by simp [hq])
    · have hmem : c ∈ fence := by simp [hq]
      obtain rfl := List.eq_of_mem_replicate hmem
      exact absurd hc (by decide)

/-- Cleaning leaves a bracket, all that stands in front but what `opening` drops, and all that
follows but the blanks at the end. -/
lemma clean_append (hc : (closerOf? c).isSome = true) (hfence : ¬fence <+: opening xs) :
    clean (xs ++ c :: ys) = opening xs ++ c :: Text.trimEnd ys := by
  obtain ⟨hblank, hmark, -⟩ := plain_of_opener hc
  have hopening : opening (xs ++ c :: ys) = opening xs ++ c :: ys := by
    simp only [opening, Text.trimStart]
    rw [dropWhile_append_stop hblank, dropWhile_append_stop (q := (· == byteOrderMark)) hmark,
      dropWhile_append_stop hblank]
  have hend : ∀ zs, Text.trimEnd (opening xs ++ c :: zs) = opening xs ++ c :: Text.trimEnd zs := by
    intro zs
    rw [Text.trimEnd_append (by simp [Text.trimEnd_cons hblank]), Text.trimEnd_cons hblank]
  have hstart : Text.trimStart (opening xs) = opening xs := by
    simp only [opening, Text.trimStart, List.dropWhile_idempotent]
  have hunfence : unfence (opening xs ++ c :: Text.trimEnd ys)
      = opening xs ++ c :: Text.trimEnd ys := by
    unfold unfence
    split
    next rest heq =>
      have hprefix : fence <+: opening xs ++ c :: Text.trimEnd ys :=
        ⟨rest, (Text.dropPrefix?_eq_some_iff.mp heq).symm⟩
      exact absurd hprefix (not_fenced_append hc hfence)
    · rfl
  rw [clean, unwrap_eq_trimEnd_opening, hopening, hend, hunfence, Text.trim, Text.trimStart,
    dropWhile_append_stop hblank, ← Text.trimStart, hstart, hend, Text.trimEnd_trimEnd]

/-! ## Texts that are no JSON -/

/-- A character that neither a container nor a string starts with, and that is not skipped. -/
structure Stray (x : Char) : Prop where
  not_space : isSpace x = false
  ne_quote : x ≠ '"'
  not_opener : closerOf? x = none

lemma stray_of_isCloser (h : isCloser c = true) : Stray c := by
  have hc : c = '}' ∨ c = ']' := by simpa [isCloser] using h
  rcases hc with rfl | rfl <;> exact ⟨rfl, by decide, rfl⟩

/-- Literals and numbers have no brackets, and containers and strings do not start with something
stray. -/
lemma solid_of_stray (hx : Stray x) (h : t.text = x :: xs) : ∀ d ∈ t.text, Solid d := by
  have hliteral : ∀ {cs : List Char}, cs.all Char.isLower = true → ∀ d ∈ cs, Solid d :=
    fun hcs d hd => solid_of_isLower (List.all_eq_true.mp hcs d hd)
  cases t with
  | null => exact hliteral (by decide)
  | bool b => cases b <;> exact hliteral (by decide)
  | number text n reads => exact fun d hd => solid_of_isNumberChar ((number_spec reads).2 d hd)
  | string gs =>
      obtain ⟨rfl, -⟩ := List.cons.inj h
      exact absurd rfl hx.ne_quote
  | array gap es =>
      obtain ⟨rfl, -⟩ := List.cons.inj h
      exact absurd hx.not_opener (by decide)
  | object gap ms =>
      obtain ⟨rfl, -⟩ := List.cons.inj h
      exact absurd hx.not_opener (by decide)

/-- Behind a stray character a text with an opening bracket is no JSON. -/
theorem read?_eq_none_of_stray (hx : Stray x) (hc : (closerOf? c).isSome = true) (hmem : c ∈ xs) :
    read? (x :: xs) = none := by
  cases hread : read? (x :: xs) with
  | none => rfl
  | some w =>
      obtain ⟨d, hd, -⟩ := read?_eq_some_iff.mp hread
      rw [Document.text, List.append_assoc] at hd
      have hlead : d.lead.text = [] := by
        rcases hl : d.lead.text with _ | ⟨y, ys⟩
        · rfl
        · rw [hl] at hd
          obtain ⟨rfl, -⟩ := List.cons.inj hd
          have hy := d.lead.blank y (by simp [hl])
          rw [hx.not_space] at hy
          cases hy
      rw [hlead, List.nil_append] at hd
      obtain ⟨y, ys, hroot⟩ := List.exists_cons_of_ne_nil (endsSolid_text d.root).ne_nil
      have hxy : y = x := by
        rw [hroot] at hd
        exact (List.cons.inj hd).1
      have hcd : c ∈ d.root.text ++ d.trail.text := by
        rw [hd]
        exact List.mem_cons_of_mem x hmem
      have hnone : closerOf? c = none := by
        rcases List.mem_append.mp hcd with hcr | hct
        · exact (solid_of_stray (hxy ▸ hx) hroot c hcr).not_opener
        · obtain ⟨-, -, -, -, -, -, h₁, h₂⟩ := ne_of_isSpace (d.trail.blank c hct)
          simp [closerOf?, h₁, h₂]
      rw [hnone] at hc
      cases hc

/-! ## What repair keeps -/

lemma dropComma_suffix (cs : List Char) : dropComma cs <:+ cs := by
  unfold dropComma
  split
  next rest heq =>
    have hrest : rest <:+ cs.dropWhile Text.isBlank := heq ▸ List.suffix_cons ',' rest
    exact hrest.trans (List.dropWhile_suffix _)
  · exact List.suffix_rfl

/-- A comma is looked for only up to the latest character that is not blank. -/
lemma suffix_dropComma (hk : Text.isBlank k = false) (hne : k ≠ ',') (h : k :: base <:+ cs) :
    k :: base <:+ dropComma cs := by
  obtain ⟨ys, rfl⟩ := h
  unfold dropComma
  split
  next rest heq =>
    rw [dropWhile_append_stop hk] at heq
    rcases hys : ys.dropWhile Text.isBlank with _ | ⟨d, ds⟩
    · rw [hys] at heq
      exact absurd (List.cons.inj heq).1 hne
    · rw [hys] at heq
      obtain ⟨-, rfl⟩ := List.cons.inj heq
      exact List.suffix_append ds (k :: base)
  · exact List.suffix_append ys (k :: base)

/-- A step copies its character; a closing bracket may take the place of a comma. -/
lemma copied_step (r : Repair) (c : Char) : (r.step c).copied = c :: r.copied ∨
    isCloser c = true ∧ (r.step c).copied = c :: dropComma r.copied := by
  obtain ⟨copied, due, region⟩ := r
  cases region with
  | outside =>
      cases hc : isCloser c with
      | true => exact .inr ⟨rfl, by simp [Repair.step, hc]⟩
      | false => cases hopen : closerOf? c <;> simp [Repair.step, hc, hopen]
  | inside => exact .inl rfl
  | escaped => exact .inl rfl

/-- A repair that has copied `base` and will take nothing of it back.  What is dropped at the end
is at most a backslash that `base` does not include. -/
structure Keeps (base : List Char) (r : Repair) : Prop where
  suffix : base <:+ r.copied
  escaped : r.region = .escaped → base ≠ r.copied

lemma Keeps.step (hk : Text.isBlank k = false) (hne : k ≠ ',') (h : Keeps (k :: base) r)
    (c : Char) : Keeps (k :: base) (r.step c) := by
  obtain ⟨zs, hzs, hstep⟩ : ∃ zs, k :: base <:+ zs ∧ (r.step c).copied = c :: zs := by
    rcases copied_step r c with hcopied | ⟨-, hcopied⟩
    · exact ⟨r.copied, h.suffix, hcopied⟩
    · exact ⟨dropComma r.copied, suffix_dropComma hk hne h.suffix, hcopied⟩
  refine ⟨hstep ▸ hzs.trans (List.suffix_cons c zs), fun _ heq => ?_⟩
  have hlen := hzs.length_le
  rw [heq, hstep, List.length_cons] at hlen
  omega

lemma Keeps.foldl (hk : Text.isBlank k = false) (hne : k ≠ ',') (h : Keeps (k :: base) r)
    (cs : List Char) : Keeps (k :: base) (cs.foldl Repair.step r) := by
  induction cs generalizing r with
  | nil => exact h
  | cons c cs ih => exact ih (h.step hk hne c)

/-- What is kept stands at the beginning of what repair makes of the text. -/
lemma Keeps.finish (hk : Text.isBlank k = false) (hne : k ≠ ',') (h : Keeps (k :: base) r) :
    (k :: base).reverse <+: r.finish := by
  suffices hcopied : ∃ zs, k :: base <:+ zs ∧ r.finish = zs.reverse ++ r.due by
    obtain ⟨zs, hzs, hfinish⟩ := hcopied
    rw [hfinish]
    exact (List.reverse_prefix.mpr hzs).trans (List.prefix_append _ _)
  obtain ⟨copied, due, region⟩ := r
  cases region with
  | outside => exact ⟨_, suffix_dropComma hk hne h.suffix, rfl⟩
  | inside => exact ⟨_, h.suffix.trans (List.suffix_cons '"' copied), rfl⟩
  | escaped =>
      obtain ⟨zs, hzs⟩ := h.suffix
      rcases zs with _ | ⟨z, zs⟩
      · exact absurd hzs (h.escaped rfl)
      · refine ⟨'"' :: copied.tail, ?_, rfl⟩
        have htail : copied.tail = zs ++ k :: base := congrArg List.tail hzs.symm
        rw [htail]
        exact (List.suffix_append zs (k :: base)).trans (List.suffix_cons '"' _)

/-! ### A stray character in front -/

/-- What has been copied starts with a stray character. -/
def StartsStray (r : Repair) : Prop := ∃ ys x, r.copied = ys ++ [x] ∧ Stray x

lemma StartsStray.step (h : StartsStray r) (c : Char) : StartsStray (r.step c) := by
  obtain ⟨ys, x, hr, hx⟩ := h
  rcases copied_step r c with hcopied | ⟨hc, hcopied⟩
  · exact ⟨c :: ys, x, by rw [hcopied, hr, List.cons_append], hx⟩
  · have hsuffix : dropComma r.copied <:+ ys ++ [x] := hr ▸ dropComma_suffix r.copied
    rcases List.suffix_concat_iff.mp hsuffix with hnil | ⟨zs, hzs, _⟩
    · exact ⟨[], c, by rw [hcopied, hnil, List.nil_append], stray_of_isCloser hc⟩
    · exact ⟨c :: zs, x, by rw [hcopied, hzs, List.cons_append], hx⟩

lemma StartsStray.foldl (h : StartsStray r) (cs : List Char) :
    StartsStray (cs.foldl Repair.step r) := by
  induction cs generalizing r with
  | nil => exact h
  | cons c cs ih => exact ih (h.step c)

lemma startsStray_start (hx : Stray x) : StartsStray (Repair.start.step x) := by
  have hcopied : (Repair.start.step x).copied = [x] := by
    rcases copied_step .start x with h | ⟨-, h⟩ <;> exact h
  exact ⟨[], x, hcopied, hx⟩

/-- An opening bracket is copied, wherever it stands, and is kept. -/
lemma keeps_opener (hc : (closerOf? c).isSome = true) (r : Repair) :
    Keeps (c :: r.copied) (r.step c) := by
  have hnc : isCloser c = false := by
    cases h : isCloser c with
    | false => rfl
    | true => simp [closerOf?_of_isCloser h] at hc
  have hcopied : (r.step c).copied = c :: r.copied := by
    rcases copied_step r c with h | ⟨h, -⟩
    · exact h
    · rw [hnc] at h
      cases h
  have hregion : (r.step c).region ≠ .escaped := by
    have hb : (c == '\\') = false := by
      rw [beq_eq_false_iff_ne]
      rintro rfl
      exact absurd hc (by decide)
    obtain ⟨closer, hcloser⟩ := Option.isSome_iff_exists.mp hc
    obtain ⟨copied, due, region⟩ := r
    cases region with
    | outside => simp [Repair.step, hnc, hcloser]
    | inside =>
        simp only [Repair.step, Region.next, hb, Bool.false_eq_true, if_false]
        split <;> simp
    | escaped => simp [Repair.step, Region.next]
  exact ⟨hcopied ▸ List.suffix_rfl, fun h => absurd h hregion⟩

lemma ne_comma_of_opener (hc : (closerOf? c).isSome = true) : c ≠ ',' := by
  rintro rfl
  exact absurd hc (by decide)

/-- **Repair makes no JSON of a text with something stray in front of a bracket.** -/
theorem read?_repair_of_stray (hx : Stray x) (hc : (closerOf? c).isSome = true)
    (xs ys : List Char) : read? (repair (x :: xs ++ c :: ys)) = none := by
  obtain ⟨zs, z, hzs, hz⟩ := (startsStray_start hx).foldl xs
  have hkeeps := (keeps_opener hc (xs.foldl Repair.step (Repair.start.step x))).foldl
    (plain_of_opener hc).1 (ne_comma_of_opener hc) ys
  obtain ⟨rest, hrest⟩ := hkeeps.finish (plain_of_opener hc).1 (ne_comma_of_opener hc)
  have hrepair : repair (x :: xs ++ c :: ys) = z :: (zs.reverse ++ c :: rest) := by
    rw [repair, List.cons_append, List.foldl_cons, List.foldl_append, List.foldl_cons, ← hrest, hzs]
    simp
  rw [hrepair]
  exact read?_eq_none_of_stray hz hc (by simp)

/-! ## The container -/

lemma isContainer_of_value (hv : (∃ vs, t.value = .array vs) ∨ ∃ ms, t.value = .object ms) :
    t.isContainer = true := by
  cases t <;> simp_all [Tree.value, Tree.isContainer]

/-- A container stands between two brackets. -/
lemma exists_brackets (ht : t.isContainer = true) :
    ∃ c cs k, t.text = c :: cs ++ [k] ∧ (closerOf? c).isSome = true ∧ isCloser k = true := by
  cases t with
  | array gap es => exact ⟨'[', gap.text ++ elementsText es, ']', rfl, rfl, rfl⟩
  | object gap ms => exact ⟨'{', gap.text ++ membersText ms, '}', rfl, rfl, rfl⟩
  | _ => cases ht

/-- The reader is done at the closing bracket. -/
lemma run_container (ht : t.isContainer = true) (h : t.depth ≤ maxDepth) :
    run .initial t.text = some ⟨[], .done t.value⟩ := by
  obtain ⟨s, hs, harr⟩ := run_tree t [] false (by simpa using h)
  rcases harr with rfl | ⟨text, n, -, -, hv⟩
  · exact hs
  · cases t with
    | array | object => cases hv
    | _ => cases ht

/-- What follows a container does not change its value. -/
lemma read?_append_container (ht : t.isContainer = true) (h : t.depth ≤ maxDepth)
    (hw : read? (t.text ++ cs) = some w) : w = t.value := by
  rw [read?_append_of_run (run_container ht h)] at hw
  exact (readFrom?_done hw).1

/-- Repair copies a container as it is. -/
lemma foldl_step_container (ht : t.isContainer = true) (h : t.depth ≤ maxDepth) :
    t.text.foldl Repair.step .start = ⟨t.text.reverse, [], .outside⟩ :=
  foldl_step_of_run (run_container ht h)

lemma firm_of_isCloser (h : isCloser k = true) : Text.isBlank k = false ∧ k ≠ ',' := by
  have hk : k = '}' ∨ k = ']' := by simpa [isCloser] using h
  rcases hk with rfl | rfl <;> decide

/-- A container is read as it is when repair has changed what follows. -/
lemma read?_repair_append_container (ht : t.isContainer = true) (h : t.depth ≤ maxDepth)
    (hw : read? (repair (t.text ++ cs)) = some w) : w = t.value := by
  obtain ⟨c, ds, k, htext, -, hk⟩ := exists_brackets ht
  obtain ⟨hblank, hcomma⟩ := firm_of_isCloser hk
  have hrev : t.text.reverse = k :: (c :: ds).reverse := by rw [htext, List.reverse_concat]
  have hkeeps : Keeps t.text.reverse ⟨t.text.reverse, [], .outside⟩ :=
    ⟨List.suffix_rfl, fun h => by cases h⟩
  rw [hrev] at hkeeps
  obtain ⟨rest, hrest⟩ := (hkeeps.foldl hblank hcomma cs).finish hblank hcomma
  rw [← hrev, List.reverse_reverse] at hrest
  rw [repair, List.foldl_append, foldl_step_container ht h, ← hrest] at hw
  exact read?_append_container ht h hw

/-- A container needs no repair. -/
lemma repair_container (ht : t.isContainer = true) (h : t.depth ≤ maxDepth) :
    repair t.text = t.text := by
  have hrun := run_container ht h
  have hcomma : ¬AfterComma ⟨[], .done t.value⟩ := by simp [AfterComma]
  rw [repair_of_outside hrun rfl, dropComma_eq_self (lastSolid?_ne_comma hrun rfl hcomma),
    List.reverse_reverse]
  exact List.append_nil _

/-- The bracket that ends a container is the one that is due. -/
lemma state_before_closer {s : State} {v : Json} (hk : isCloser k = true)
    (hs : run .initial cs = some s) (hstep : step s k = some ⟨[], .done v⟩) :
    s.stack.length = 1 ∧ regionOf s = .outside := by
  rcases (moves_of_step (coherent_of_run hs) hstep).1.brackets with
    ⟨-, -, f, bracket, -⟩ | ⟨out, -, -, due, -, -⟩ | ⟨plain, -, region⟩
  · simp [closerOf?_of_isCloser hk] at bracket
  · refine ⟨?_, out⟩
    rw [← length_dueOf, due]
    rfl
  · -- a closing bracket that is passed over stands in a string, and a string does not end with it
    exfalso
    have hquote : (k == '"') = false := by
      rw [beq_eq_false_iff_ne]
      rintro rfl
      exact absurd hk (by decide)
    cases hr : regionOf s with
    | outside =>
        rw [(plain hr).1] at hk
        cases hk
    | inside =>
        rw [hr] at region
        simp only [regionOf, Region.next, hquote] at region
        split at region <;> simp at region
    | escaped =>
        rw [hr] at region
        cases region

/-- **What is embedded in a text is its first container**, to its own closing bracket. -/
theorem embedded?_container (ht : t.isContainer = true) (h : t.depth ≤ maxDepth)
    (hfront : ∀ d ∈ front, closerOf? d = none) (back : List Char) :
    embedded? (front ++ (t.text ++ back)) = some t.text := by
  obtain ⟨c, cs, k, htext, hc, hk⟩ := exists_brackets ht
  have hskip : embedded? (front ++ (t.text ++ back)) = embedded? (t.text ++ back) := by
    rw [embedded?, List.dropWhile_append_of_pos (fun d hd => by simp [hfront d hd]), embedded?]
  have hrun := run_container ht h
  rw [htext] at hrun
  obtain ⟨s, hs, hstep⟩ := run_concat.mp hrun
  obtain ⟨hlen, hout⟩ := state_before_closer hk hs hstep
  have hne : s.stack ≠ [] := List.ne_nil_of_length_eq_add_one hlen
  have hclose : upToCloser 1 .outside (k :: back) = [k] := by
    simp [upToCloser, closerOf?_of_isCloser hk, hk]
  rw [hskip, htext, List.append_assoc, List.singleton_append,
    embedded?_append_of_run hc hs hne, hlen, hout, hclose]

/-! ## Extraction -/

/-- A container with no bracket and nothing but a stray character in front is found. -/
lemma extractCleaned_container (ht : t.isContainer = true) (h : t.depth ≤ maxDepth)
    (hfront : ∀ d ∈ front, closerOf? d = none) (hhead : ∀ d ∈ front.head?, Stray d)
    (back : List Char) : extractCleaned (front ++ (t.text ++ back)) = .ok t.value := by
  -- the first two readings may fail but find nothing else, and the third one does not fail
  have hread : ∀ w, read? (front ++ (t.text ++ back)) = some w → w = t.value := by
    intro w hw
    rcases front with _ | ⟨x, front⟩
    · exact read?_append_container ht h hw
    · obtain ⟨c, cs, k, htext, hc, -⟩ := exists_brackets ht
      rw [List.cons_append, read?_eq_none_of_stray (hhead x rfl) hc (by simp [htext])] at hw
      cases hw
  have hrepair : ∀ w, read? (repair (front ++ (t.text ++ back))) = some w → w = t.value := by
    intro w hw
    rcases front with _ | ⟨x, front⟩
    · exact read?_repair_append_container ht h hw
    · obtain ⟨c, cs, k, htext, hc, -⟩ := exists_brackets ht
      have hnone := read?_repair_of_stray (hhead x rfl) hc front (cs ++ k :: back)
      rw [htext, List.append_assoc] at hw
      cases hnone.symm.trans hw
  have hembedded : (embedded? (front ++ (t.text ++ back))).bind (fun body => read? (repair body))
      = some t.value := by
    have htext : read? t.text = some t.value := by
      rw [read?, run_container ht h]
      rfl
    rw [embedded?_container ht h hfront, Option.bind_some, repair_container ht h, htext]
  rw [extractCleaned]
  split
  next w hw => rw [hread w hw]
  · split
    next w hw => rw [hrepair w hw]
    · rw [hembedded]

/-- The first character that cleaning leaves in front of a container is stray. -/
lemma stray_of_opening (hopen : ∀ d ∈ xs, closerOf? d = none)
    (hquote : (unwrap xs).head? ≠ some '"') : ∀ d ∈ (opening xs).head?, Stray d := by
  intro d hd
  rcases h : opening xs with _ | ⟨x, ys⟩
  · rw [h] at hd
    cases hd
  · rw [h] at hd
    obtain rfl := Option.some.inj hd
    have hblank := not_blank_of_opening h
    refine ⟨?_, ?_, hopen x (opening_subset xs (h ▸ List.mem_cons_self))⟩
    · rw [Bool.eq_false_iff]
      intro hspace
      rw [isBlank_of_isSpace hspace] at hblank
      cases hblank
    · rintro rfl
      rw [unwrap_eq_trimEnd_opening, h, Text.trimEnd_cons hblank] at hquote
      exact hquote rfl

/-- What opens with a fence still does so when it is trimmed. -/
lemma fence_prefix_unwrap (h : fence <+: opening xs) : fence <+: unwrap xs := by
  obtain ⟨rest, hrest⟩ := h
  rw [unwrap_eq_trimEnd_opening, ← hrest]
  rcases eq_or_ne (Text.trimEnd rest) [] with hnil | hne
  · rw [Text.trimEnd_append_blanks (List.rdropWhile_eq_nil_iff.mp hnil)]
    decide
  · rw [Text.trimEnd_append hne]
    exact List.prefix_append _ _

/-- **JSON embedded in prose.**  A JSON text with a container at its top is found, with its value,
whatever follows it and behind any text without an opening bracket, unless that text, without the
blanks and byte order marks around it, begins with a quotation mark or with a fence. -/
theorem extract_of_embedded {front text back : String} (h : ofString? text = some v)
    (hv : (∃ vs, v = .array vs) ∨ ∃ ms, v = .object ms) (hbracket : '[' ∉ front.toList)
    (hbrace : '{' ∉ front.toList) (hquote : (unwrap front.toList).head? ≠ some '"')
    (hfence : ¬fence <+: unwrap front.toList) : extract (front ++ text ++ back) = .ok v := by
  obtain ⟨d, hd, rfl⟩ := read?_eq_some_iff.mp h
  have ht : d.root.isContainer = true := isContainer_of_value hv
  obtain ⟨c, cs, k, htext, hc, hk⟩ := exists_brackets ht
  have hunwrap := unwrap_append_blanks (isBlank_of_gap d.lead) front.toList
  have hopen : ∀ e ∈ front.toList ++ d.lead.text, closerOf? e = none := by
    intro e he
    rcases List.mem_append.mp he with he | he
    · have h₁ : e ≠ '{' := fun h => hbrace (h ▸ he)
      have h₂ : e ≠ '[' := fun h => hbracket (h ▸ he)
      simp [closerOf?, h₁, h₂]
    · obtain ⟨-, -, -, -, -, -, h₁, h₂⟩ := ne_of_isSpace (d.lead.blank e he)
      simp [closerOf?, h₁, h₂]
  have hwhole : (front ++ text ++ back).toList
      = (front.toList ++ d.lead.text) ++ c :: (cs ++ k :: (d.trail.text ++ back.toList)) := by
    rw [String.toList_append, String.toList_append, ← hd, Document.text, htext]
    simp
  have hend : c :: Text.trimEnd (cs ++ k :: (d.trail.text ++ back.toList))
      = d.root.text ++ Text.trimEnd (d.trail.text ++ back.toList) := by
    have hblank := (firm_of_isCloser hk).1
    rw [Text.trimEnd_append (by simp [Text.trimEnd_cons hblank]), Text.trimEnd_cons hblank, htext]
    simp
  rw [extract, hwhole, clean_append hc fun h => hfence (hunwrap ▸ fence_prefix_unwrap h), hend]
  exact extractCleaned_container ht d.shallow (fun e he => hopen e (opening_subset _ he))
    (stray_of_opening hopen (hunwrap ▸ hquote)) _

/-- An object with brackets and quotation marks in its strings, between prose and more JSON. -/
theorem extract_of_embedded_in_prose :
    extract ("The result: " ++ "\x7b\"a\": [\"]\x7d\\\"\", 1]\x7d" ++ ", or \x7d [\"\x7b")
      = .ok (.object [("a", .array [.string "]\x7d\"", .nat 1])]) :=
  extract_of_embedded (by rfl) (.inr ⟨_, rfl⟩) (by decide) (by decide) (by decide) (by decide)

end CodeDigest.Reply
