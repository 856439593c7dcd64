import CodeDigest.Proofs.Reply.Wrapping

/-!
# Trailing commas

A comma in front of a closing bracket is no JSON, and models write it all the same.

* `Inserts P r cs ds` says that `ds` is `cs` with something put in front of some of its closing
  brackets outside string literals, each time something that satisfies `P`.
* `exists_repaired`: where commas with blanks around them are put into a text that the reader
  follows, repair does what it does with the text that has the first of these blanks only, and the
  reader ends in the same state.  So repair takes out the commas that were put in, and no other.
* `run_of_inserts`: with a comma put in, a text is no JSON.
* `extract_of_trailing_commas` puts them together: the value is that of the text.
-/

namespace CodeDigest.Reply

open Json

variable {c : Char} {cs ds p xs ys : List Char} {r : Region} {s s' : State} {v : Json}
  {P : List Char → Prop}

/-! ## Insertions -/

/-- The second text is the first one with insertions in front of some of its closing brackets, those
outside string literals only; the texts start in a given region. -/
inductive Inserts (P : List Char → Prop) : Region → List Char → List Char → Prop
  | nil (r : Region) : Inserts P r [] []
  | copy {r : Region} {c : Char} {cs ds : List Char} (rest : Inserts P (r.next c) cs ds) :
      Inserts P r (c :: cs) (c :: ds)
  | insert {c : Char} {cs ds xs : List Char} (inserted : P xs) (closer : isCloser c = true)
      (rest : Inserts P .outside cs ds) : Inserts P .outside (c :: cs) (xs ++ c :: ds)

/-- One comma with blanks around it. -/
def IsComma (xs : List Char) : Prop := ∃ before after : Gap, xs = before.text ++ ',' :: after.text

/-- Blanks only. -/
def IsGap (xs : List Char) : Prop := ∃ gap : Gap, xs = gap.text

lemma next_of_ne_quote (h : c ≠ '"') : Region.next .outside c = .outside := by
  simp [Region.next, h]

/-- Without a quotation mark no string literal begins. -/
lemma foldl_next_of_ne_quote (h : ∀ c ∈ cs, c ≠ '"') :
    cs.foldl Region.next .outside = .outside := by
  induction cs with
  | nil => rfl
  | cons c cs ih =>
      obtain ⟨hc, hcs⟩ := List.forall_mem_cons.mp h
      rw [List.foldl_cons, next_of_ne_quote hc, ih hcs]

lemma ne_quote_of_isCloser (h : isCloser c = true) : c ≠ '"' := by
  rintro rfl
  exact absurd h (by decide)

/-- Nothing is inserted where no closing bracket stands. -/
lemma Inserts.eq_of_no_closer (h : Inserts P r cs ds) (hcs : ∀ c ∈ cs, isCloser c = false) :
    ds = cs := by
  induction h with
  | nil r => rfl
  | copy rest ih => rw [ih fun d hd => hcs d (by simp [hd])]
  | insert inserted closer rest ih => simp [hcs] at closer

/-- Insertions into two texts in a row. -/
lemma Inserts.exists_append (h : Inserts P r (xs ++ ys) ds) :
    ∃ xs' ys', ds = xs' ++ ys' ∧ Inserts P r xs xs' ∧
      Inserts P (xs.foldl Region.next r) ys ys' := by
  induction xs generalizing r ds with
  | nil => exact ⟨[], ds, rfl, .nil r, h⟩
  | cons x xs ih =>
      cases h with
      | copy rest =>
          obtain ⟨xs', ys', rfl, hxs, hys⟩ := ih rest
          exact ⟨x :: xs', ys', rfl, .copy hxs, hys⟩
      | insert inserted closer rest =>
          have hnext := next_of_ne_quote (ne_quote_of_isCloser closer)
          rw [← hnext] at rest
          obtain ⟨xs', ys', rfl, hxs, hys⟩ := ih rest
          rw [hnext] at hxs
          exact ⟨_ ++ x :: xs', ys', by simp, .insert inserted closer hxs, hys⟩

/-- One character stays the last. -/
lemma Inserts.exists_concat (h : Inserts P r [c] ds) : ∃ xs, ds = xs ++ [c] := by
  cases h with
  | copy rest => exact ⟨[], by rw [rest.eq_of_no_closer (by simp)]; rfl⟩
  | @insert _ _ _ xs inserted closer rest => exact ⟨xs, by rw [rest.eq_of_no_closer (by simp)]⟩

/-- The first character stays the first, unless it is a closing bracket, and the last stays the
last. -/
lemma Inserts.firm (h : Inserts P r cs ds) (hcs : Firm cs)
    (hfirst : ∀ c ∈ cs.head?, isCloser c = false) : Firm ds := by
  constructor
  · obtain ⟨c, rest, rfl, hc⟩ := hcs.first
    cases h with
    | copy => exact ⟨c, _, rfl, hc⟩
    | insert inserted closer =>
        rw [hfirst c rfl] at closer
        cases closer
  · obtain ⟨rest, c, rfl, hc⟩ := hcs.last
    obtain ⟨xs, ys, rfl, -, hlast⟩ := h.exists_append
    obtain ⟨zs, rfl⟩ := hlast.exists_concat
    exact ⟨xs ++ zs, c, (List.append_assoc xs zs [c]).symm, hc⟩

/-! ## The reader -/

/-- The region of the reader follows the text. -/
lemma regionOf_step (hs : Coherent s) (h : step s c = some s') :
    regionOf s' = (regionOf s).next c := by
  rcases (moves_of_step hs h).1.brackets with
    ⟨out, out', f, bracket, -⟩ | ⟨out, out', bracket, -⟩ | ⟨-, -, region⟩
  · have hne : c ≠ '"' := by
      rintro rfl
      exact absurd bracket (by simp [closerOf?])
    rw [out, out', next_of_ne_quote hne]
  · rw [out, out', next_of_ne_quote (ne_quote_of_isCloser bracket)]
  · exact region

/-- A closing bracket outside string literals closes the innermost container. -/
lemma closes_of_step (hs : Coherent s) (hout : regionOf s = .outside) (hc : isCloser c = true)
    (h : step s c = some s') : dueOf s = c :: dueOf s' ∧ ¬AfterComma s := by
  rcases (moves_of_step hs h).1.brackets with
    ⟨-, -, f, bracket, -⟩ | ⟨-, -, -, due, comma, -⟩ | ⟨plain, -⟩
  · rw [closerOf?_of_isCloser hc] at bracket
    cases bracket
  · exact ⟨due, comma⟩
  · rw [(plain hout).1] at hc
    cases hc

lemma isNumberChar_of_isCloser (h : isCloser c = true) : isNumberChar c = false := by
  have hc : c = '}' ∨ c = ']' := by simpa [isCloser] using h
  rcases hc with rfl | rfl <;> rfl

/-- Blanks in front of a closing bracket change nothing. -/
lemma run_gap_closer (hs : Coherent s) (hout : regionOf s = .outside) (hc : isCloser c = true)
    (h : step s c = some s') (gap : Gap) : run s (gap.text ++ [c]) = some s' := by
  have hrun : run s [c] = some s' := by simp [h]
  have hskip : s.SkipsBlanks → run s (gap.text ++ [c]) = some s' := by
    intro hblanks
    rw [run_gap_append hblanks, hrun]
  obtain ⟨st, mode⟩ := s
  cases mode with
  | value b => exact hskip (skipsBlanks_value st b)
  | key ms b => exact hskip (skipsBlanks_key st ms b)
  | colon ms key => exact hskip (skipsBlanks_colon st ms key)
  | after => exact hskip (skipsBlanks_after st)
  | done w => exact hskip (skipsBlanks_done st w)
  | number text =>
      -- blanks end the number, and so does the bracket
      have hnum := isNumberChar_of_isCloser hc
      simp only [step, hnum, Bool.false_eq_true, if_false, Option.bind_eq_bind,
        Option.bind_eq_some_iff] at h
      obtain ⟨n, hn, -⟩ := h
      have harr : Arrived (.number n) st ⟨st, .number text⟩ := .inr ⟨text, n, rfl, hn, rfl⟩
      rw [run_gap_of_arrived harr gap hnum, ← run_of_arrived harr hnum, hrun]
  | literal rest meaning =>
      -- a literal goes on with a small letter
      have hlower : ∀ d ∈ rest, d ≠ c := by
        rintro d hd rfl
        have hd := solid_of_isLower (hs d hd)
        rw [hd.not_closer] at hc
        cases hc
      rcases rest with _ | ⟨d, _ | ⟨e, rest⟩⟩ <;> simp [step, hlower] at h
  | string role text escape => cases escape <;> cases hout

/-! ## What repair makes of insertions -/

/-- Outside string literals repair copies what is neither a bracket nor a quotation mark. -/
lemma foldl_step_copies {copied due : List Char}
    (h : ∀ c ∈ xs, isCloser c = false ∧ closerOf? c = none ∧ c ≠ '"') :
    xs.foldl Repair.step ⟨copied, due, .outside⟩ = ⟨xs.reverse ++ copied, due, .outside⟩ := by
  induction xs generalizing copied with
  | nil => rfl
  | cons x xs ih =>
      obtain ⟨hcloser, hopener, hquote⟩ := h x (by simp)
      have hstep : Repair.step ⟨copied, due, .outside⟩ x = ⟨x :: copied, due, .outside⟩ := by
        rw [step_copy fun _ => ⟨hcloser, hopener⟩, next_of_ne_quote hquote]
      rw [List.foldl_cons, hstep, ih fun y hy => h y (by simp [hy])]
      simp

lemma copied_of_isComma (h : IsComma xs) :
    ∀ c ∈ xs, isCloser c = false ∧ closerOf? c = none ∧ c ≠ '"' := by
  have hspace : ∀ c, isSpace c = true → isCloser c = false ∧ closerOf? c = none ∧ c ≠ '"' := by
    intro c hc
    obtain ⟨-, -, -, h₁, h₂, h₃, h₄, h₅⟩ := ne_of_isSpace hc
    exact ⟨by simp [isCloser, h₁, h₂], by simp [closerOf?, h₄, h₅], h₃⟩
  obtain ⟨before, after, rfl⟩ := h
  intro c hc
  simp only [List.mem_append, List.mem_cons] at hc
  rcases hc with hc | rfl | hc
  · exact hspace c (before.blank c hc)
  · exact ⟨rfl, rfl, by decide⟩
  · exact hspace c (after.blank c hc)

/-- A closing bracket that is due is copied, without the comma in front of it. -/
lemma step_closer_comma {copied due : List Char} (h : isCloser c = true) :
    Repair.step ⟨copied, c :: due, .outside⟩ c = ⟨c :: dropComma copied, due, .outside⟩ := by
  simp [Repair.step, h]

/-- A comma in front of a bracket is taken out, and the blanks in front of it stay. -/
lemma foldl_step_comma (hs : run .initial p = some s) (hout : regionOf s = .outside)
    (hc : isCloser c = true) (h : step s c = some s') (before after : Gap) :
    (p ++ (before.text ++ ',' :: after.text) ++ [c]).foldl Repair.step .start
      = (p ++ before.text ++ [c]).foldl Repair.step .start := by
  have hcoh := coherent_of_run hs
  have hrun : run .initial (p ++ before.text ++ [c]) = some s' := by
    rw [List.append_assoc, run_append_of_run hs]
    exact run_gap_closer hcoh hout hc h before
  have hdue := (closes_of_step hcoh hout hc h).1
  have hout' : regionOf s' = .outside := by
    rw [regionOf_step hcoh h, hout, next_of_ne_quote (ne_quote_of_isCloser hc)]
  have hcomma : (before.text ++ ',' :: after.text).reverse ++ p.reverse
      = (p ++ before.text ++ ',' :: after.text).reverse := by simp
  rw [foldl_step_of_run hrun, List.foldl_append, List.foldl_append, foldl_step_of_run hs, hdue,
    hout, foldl_step_copies (copied_of_isComma ⟨before, after, rfl⟩), hcomma, hout',
    List.foldl_cons, List.foldl_nil, step_closer_comma hc, dropComma_comma _ (isBlank_of_gap after)]
  simp

/-- **What repair makes of commas that are put in** is what it makes of the blanks in front of
them, and these change nothing for the reader. -/
theorem exists_repaired (h : Inserts IsComma r cs ds) (hp : run .initial p = some s)
    (hr : regionOf s = r) (hrun : run s cs = some s') :
    ∃ es, Inserts IsGap r cs es ∧
      (p ++ ds).foldl Repair.step .start = (p ++ es).foldl Repair.step .start ∧
      run s es = some s' := by
  induction h generalizing p s with
  | nil r => exact ⟨[], .nil r, rfl, hrun⟩
  | @copy r c cs ds rest ih =>
      obtain ⟨t, ht, hrun⟩ := Option.bind_eq_some_iff.mp hrun
      have hpc : run .initial (p ++ [c]) = some t := run_concat.mpr ⟨s, hp, ht⟩
      have htr : regionOf t = r.next c := by rw [regionOf_step (coherent_of_run hp) ht, hr]
      obtain ⟨es, hes, hfold, hread⟩ := ih hpc htr hrun
      refine ⟨c :: es, .copy hes, by simpa using hfold, ?_⟩
      rw [run_cons, ht]
      exact hread
  | @insert c cs ds xs inserted closer rest ih =>
      obtain ⟨before, after, rfl⟩ := inserted
      obtain ⟨t, ht, hrun⟩ := Option.bind_eq_some_iff.mp hrun
      have hgap := run_gap_closer (coherent_of_run hp) hr closer ht before
      have hpc : run .initial (p ++ before.text ++ [c]) = some t := by
        rw [List.append_assoc, run_append_of_run hp, hgap]
      have htr : regionOf t = .outside := by
        rw [regionOf_step (coherent_of_run hp) ht, hr,
          next_of_ne_quote (ne_quote_of_isCloser closer)]
      obtain ⟨es, hes, hfold, hread⟩ := ih hpc htr hrun
      refine ⟨before.text ++ c :: es, .insert ⟨before, rfl⟩ closer hes, ?_, ?_⟩
      · have hcomma := foldl_step_comma hp hr closer ht before after
        calc (p ++ ((before.text ++ ',' :: after.text) ++ c :: ds)).foldl Repair.step .start
            = ds.foldl Repair.step
                ((p ++ (before.text ++ ',' :: after.text) ++ [c]).foldl Repair.step .start) := by
              rw [← List.foldl_append]
              simp
          _ = (p ++ before.text ++ [c] ++ ds).foldl Repair.step .start := by
              rw [hcomma, ← List.foldl_append]
          _ = (p ++ before.text ++ [c] ++ es).foldl Repair.step .start := hfold
          _ = (p ++ (before.text ++ c :: es)).foldl Repair.step .start := by simp
      · have hsplit : before.text ++ c :: es = before.text ++ [c] ++ es := by simp
        rw [hsplit, run_append_of_run hgap]
        exact hread

/-- The last thing in front of a bracket that the reader takes is no comma. -/
lemma run_comma_closer (hp : run .initial p = some s) (hout : regionOf s = .outside)
    (hc : isCloser c = true) (h : IsComma xs) (cs : List Char) :
    run s (xs ++ c :: cs) = none := by
  rw [Option.eq_none_iff_forall_ne_some]
  intro u hu
  rw [run_append, Option.bind_eq_some_iff] at hu
  obtain ⟨t, ht, hu⟩ := hu
  obtain ⟨t', ht', -⟩ := Option.bind_eq_some_iff.mp hu
  have hpt : run .initial (p ++ xs) = some t := by rw [run_append_of_run hp, ht]
  have hregion : regionOf t = .outside := by
    have hfold := foldl_step_of_run hpt
    rw [List.foldl_append, foldl_step_of_run hp, hout, foldl_step_copies (copied_of_isComma h)]
      at hfold
    exact (congrArg Repair.region hfold).symm
  have hcomma := (closes_of_step (coherent_of_run hpt) hregion hc ht').2
  refine lastSolid?_ne_comma hpt hregion hcomma ?_
  obtain ⟨before, after, rfl⟩ := h
  have hdrop : ∀ d ∈ after.text.reverse, Text.isBlank d = true := by
    simpa using isBlank_of_gap after
  simp [lastSolid?, List.dropWhile_append_of_pos hdrop, Text.isBlank]

/-- With a comma put in, a text cannot be read. -/
lemma run_of_inserts (h : Inserts IsComma r cs ds) (hp : run .initial p = some s)
    (hr : regionOf s = r) (hrun : run s cs = some s') : ds = cs ∨ run s ds = none := by
  induction h generalizing p s with
  | nil r => exact .inl rfl
  | @copy r c cs ds rest ih =>
      obtain ⟨t, ht, hrun⟩ := Option.bind_eq_some_iff.mp hrun
      have hpc : run .initial (p ++ [c]) = some t := run_concat.mpr ⟨s, hp, ht⟩
      have htr : regionOf t = r.next c := by rw [regionOf_step (coherent_of_run hp) ht, hr]
      rcases ih hpc htr hrun with rfl | hnone
      · exact .inl rfl
      · refine .inr ?_
        rw [run_cons, ht]
        exact hnone
  | insert inserted closer rest _ => exact .inr (run_comma_closer hp hr closer inserted _)

/-! ## Extraction -/

/-- With commas put in, the text of a tree is taken for the value of the tree, and repair leaves
nothing of them but blanks. -/
lemma extractCleaned_of_inserts {t : Tree} (ht : t.depth ≤ maxDepth)
    (h : Inserts IsComma .outside t.text ds) :
    extractCleaned ds = .ok t.value ∧ Inserts IsGap .outside t.text (repair ds) := by
  have hread := read?_root ht
  obtain ⟨s, hs, hv⟩ := Option.bind_eq_some_iff.mp hread
  obtain ⟨es, hes, hfold, hrun⟩ := exists_repaired (p := []) h rfl rfl hs
  have hreades : read? es = some t.value := by rw [read?, hrun, Option.bind_some, hv]
  have hrepair : repair ds = es := by
    calc repair ds = repair es := congrArg Repair.finish hfold
      _ = es := repair_of_read hreades
  refine ⟨?_, hrepair ▸ hes⟩
  rcases run_of_inserts (p := []) h rfl rfl hs with rfl | hnone
  · rw [extractCleaned, hread]
  · have hdirect : read? ds = none := by rw [read?, hnone, Option.bind_none]
    rw [extractCleaned, hdirect, hrepair, hreades]

/-- A value does not begin with a closing bracket. -/
lemma head_not_closer (t : Tree) : ∀ c ∈ t.text.head?, isCloser c = false := by
  intro c hc
  cases t with
  | number text n reads =>
      obtain ⟨⟨d, ds, rfl, -⟩, hall⟩ := number_spec reads
      obtain rfl := Option.some.inj hc
      exact (solid_of_isNumberChar (hall d (by simp))).not_closer
  | bool b => cases b <;> obtain rfl := Option.some.inj hc <;> rfl
  | _ => obtain rfl := Option.some.inj hc; rfl

lemma not_closer_of_gap (gap : Gap) : ∀ c ∈ gap.text, isCloser c = false := by
  intro c hc
  obtain ⟨-, -, -, h₁, h₂, -⟩ := ne_of_isSpace (gap.blank c hc)
  simp [isCloser, h₁, h₂]

/-- Blanks leave the region outside string literals as it is. -/
lemma foldl_next_gap (gap : Gap) : gap.text.foldl Region.next .outside = .outside :=
  foldl_next_of_ne_quote fun c hc => (ne_of_isSpace (gap.blank c hc)).2.2.2.2.2.1

/-- **Trailing commas are ignored.**  A JSON text with a comma, and blanks around it, in front of
any of its closing brackets outside strings has the value of the text.  What repair makes of it is
the text with nothing but blanks put in, so no other comma is taken out. -/
theorem extract_of_trailing_commas {text text' : String} (h : ofString? text = some v)
    (hcommas : Inserts IsComma .outside text.toList text'.toList) :
    extract text' = .ok v ∧
      Inserts IsGap .outside (Text.trim text.toList) (repair (clean text'.toList)) := by
  obtain ⟨d, hd, rfl⟩ := read?_eq_some_iff.mp h
  have hlead := isBlank_of_gap d.lead
  have htrail := isBlank_of_gap d.trail
  rw [← hd, Document.text, List.append_assoc] at hcommas ⊢
  rw [(firm_text d.root).trim_eq hlead htrail]
  -- the blanks around the value stay as they are
  obtain ⟨lead, rest, htext', hl, hrest⟩ := hcommas.exists_append
  obtain ⟨root, trail, rfl, hroot, ht⟩ := hrest.exists_append
  obtain rfl := hl.eq_of_no_closer (not_closer_of_gap d.lead)
  obtain rfl := ht.eq_of_no_closer (not_closer_of_gap d.trail)
  rw [foldl_next_gap] at hroot
  have hfirm := hroot.firm (firm_text d.root) (head_not_closer d.root)
  have hclean : clean text'.toList = root := by rw [htext', hfirm.clean_eq hlead htrail]
  rw [extract, hclean]
  exact extractCleaned_of_inserts d.shallow hroot

/-- A comma and a bracket in a string stay, and the comma in front of the closing bracket goes. -/
theorem extract_of_trailing_comma_behind_string :
    extract "[\",]\" , \n]" = .ok (.array [.string ",]"]) := by
  have h : ofString? "[\",]\"]" = some (.array [.string ",]"]) := by rfl
  have hcomma : IsComma [' ', ',', ' ', '\n'] :=
    ⟨⟨[' '], by simp [isSpace]⟩, ⟨[' ', '\n'], by simp [isSpace]⟩, rfl⟩
  have hcommas : Inserts IsComma .outside "[\",]\"]".toList "[\",]\" , \n]".toList :=
    .copy (.copy (.copy (.copy (.copy (.insert hcomma rfl (.nil _))))))
  exact (extract_of_trailing_commas h hcommas).1

end CodeDigest.Reply
