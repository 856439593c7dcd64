import CodeDigest.Proofs.Reply.Interruption
import CodeDigest.Proofs.Text.Trimming

/-!
# Cuts that lose nothing but what follows them

A model that runs out of tokens stops anywhere.  At most places of a text something complete has
just ended or a string is being written, and there the text up to the cut has a value of its own:
that of the whole with everything behind the cut left out.

`Cut t p w` says that the text `p` is the beginning of the text of the tree `t` up to such a place,
and that `w` is what is left there:

* directly behind an opening bracket, the container is empty;
* behind a complete element or member, or behind the comma that follows it, the container holds what
  has been completed;
* inside the string of an element or of the value of a member, but not inside an escape, the string
  holds its characters so far; blanks at its end are lost with the blanks behind the text, unless
  they are written as escapes.  A backslash whose escape has not begun is dropped.

`recovers` says that the reader, having read such a text without the blanks at its end, is in a
state with this value.
-/

namespace CodeDigest.Reply

open Json

variable {st : List Frame} {s s₀ s₁ : State} {w : Json} {b : Bool} {p q : List Char} {n : Nat}

/-! ## Strings without the blanks at their end -/

/-- Whether a character of a string is blank and is written as itself. -/
def isBlankGlyph : Glyph → Bool
  | .plain c .. => Text.isBlank c
  | _ => false

/-- Drops the characters that are written as blanks from the end of a string. -/
def trimGlyphs (gs : List Glyph) : List Glyph := (gs.reverse.dropWhile isBlankGlyph).reverse

lemma not_blank_of_hexValue {c : Char} {d : Nat} (h : hexValue? c = some d) :
    Text.isBlank c = false := by
  have hle : ∀ a b : Char, (decide (a ≤ c) && decide (c ≤ b)) = true →
      a.toNat ≤ c.toNat ∧ c.toNat ≤ b.toNat := by
    intro a b hab
    simpa [Char.le_def, UInt32.le_iff_toNat_le] using hab
  have hc : 48 ≤ c.toNat ∧ c.toNat ≤ 102 := by
    unfold hexValue? at h
    split_ifs at h with h₁ h₂ h₃
    · exact ⟨(hle _ _ h₁).1, (hle _ _ h₁).2.trans (by decide)⟩
    · exact ⟨le_trans (by decide) (hle _ _ h₂).1, (hle _ _ h₂).2⟩
    · exact ⟨le_trans (by decide) (hle _ _ h₃).1, (hle _ _ h₃).2.trans (by decide)⟩
  simp [Text.isBlank]
  omega

lemma endsSolid_digits (c : HexCode) : Text.EndsSolid c.digits := by
  obtain ⟨digits, n, h⟩ := c
  match digits, h with
  | [c₁, c₂, c₃, c₄], h =>
      simp only [hexCode?, Option.bind_eq_bind, Option.bind_eq_some_iff, Option.some.injEq] at h
      obtain ⟨d₁, _, d₂, _, d₃, _, d₄, h₄, rfl⟩ := h
      exact Text.endsSolid_concat (not_blank_of_hexValue h₄) [c₁, c₂, c₃]

/-- A character that is not written as a blank leaves no blank at the end. -/
lemma endsSolid_glyph {g : Glyph} (h : isBlankGlyph g = false) : Text.EndsSolid g.text := by
  cases g with
  | plain c _ _ _ => exact Text.endsSolid_concat h []
  | short letter meaning reads =>
      have hletter : Text.isBlank letter = false := by
        unfold simpleEscape? at reads
        split at reads <;> first | rfl | cases reads
      exact Text.endsSolid_concat hletter ['\\']
  | code c _ _ => exact (endsSolid_digits c).append ['\\', 'u']
  | pair high low _ _ =>
      exact ((endsSolid_digits low).append ['\\', 'u']).append ('\\' :: 'u' :: high.digits)

/-- Blanks at the end of a string that is open are the blanks at the end of the text. -/
lemma trimEnd_glyphs (gs : List Glyph) :
    Text.trimEnd ('"' :: glyphsText gs) = '"' :: glyphsText (trimGlyphs gs) := by
  induction gs using List.reverseRecOn with
  | nil => exact Text.trimEnd_append_of_not_blank (by decide) []
  | append_singleton gs g ih =>
      have htext : glyphsText (gs ++ [g]) = glyphsText gs ++ g.text := by simp [glyphsText]
      have htrim : trimGlyphs (gs ++ [g])
          = if isBlankGlyph g then trimGlyphs gs else gs ++ [g] := by
        cases hg : isBlankGlyph g <;> simp [trimGlyphs, hg]
      rw [htrim, htext, ← List.cons_append]
      cases hg : isBlankGlyph g with
      | true =>
          cases g with
          | plain c _ _ _ => exact (Text.trimEnd_concat_blank hg).trans ih
          | _ => cases hg
      | false =>
          rw [((endsSolid_glyph hg).append _).trimEnd_eq, if_neg (by simp), htext,
            List.cons_append]

/-- The text of a tree does not end in a blank. -/
lemma endsSolid_text (t : Tree) : Text.EndsSolid t.text := by
  cases t with
  | null => exact Text.endsSolid_concat (by decide) ['n', 'u', 'l']
  | bool v =>
      cases v with
      | true => exact Text.endsSolid_concat (by decide) ['t', 'r', 'u']
      | false => exact Text.endsSolid_concat (by decide) ['f', 'a', 'l', 's']
  | number text n reads =>
      obtain ⟨⟨c, cs, rfl, _⟩, hcs⟩ := number_spec reads
      exact Text.endsSolid_of_forall (by simp [Tree.text])
        fun d hd => (solid_of_isNumberChar (hcs d hd)).not_blank
  | string gs => exact Text.endsSolid_concat (by decide) ('"' :: glyphsText gs)
  | array gap es => exact Text.endsSolid_concat (by decide) ('[' :: gap.text ++ elementsText es)
  | object gap ms => exact Text.endsSolid_concat (by decide) ('{' :: gap.text ++ membersText ms)

/-! ## Cuts -/

mutual

/-- The text of a tree up to a cut, and what is left of its value. -/
inductive Cut : Tree → List Char → Json → Prop where
  | arrayStart (gap : Gap) (es : List (Spaced Tree)) : Cut (.array gap es) ['['] (.array [])
  | array {gap : Gap} {es : List (Spaced Tree)} {p : List Char} {ws : List Json}
      (h : ElementsCut es p ws) : Cut (.array gap es) ('[' :: gap.text ++ p) (.array ws)
  | objectStart (gap : Gap) (ms : List (Entry Tree)) : Cut (.object gap ms) ['{'] (.object [])
  | object {gap : Gap} {ms : List (Entry Tree)} {p : List Char} {ws : List (String × Json)}
      (h : MembersCut ms p ws) : Cut (.object gap ms) ('{' :: gap.text ++ p) (.object ws)
  | string (kept later : List Glyph) : Cut (.string (kept ++ later)) ('"' :: glyphsText kept)
      (.string (glyphsString (trimGlyphs kept)))
  /-- Directly behind the backslash of an escape. -/
  | escape (kept later : List Glyph) {g : Glyph} (h : g.isEscape = true) :
      Cut (.string (kept ++ g :: later)) ('"' :: glyphsText kept ++ ['\\'])
        (.string (glyphsString kept))

/-- The elements of an array up to a cut. -/
inductive ElementsCut : List (Spaced Tree) → List Char → List Json → Prop where
  | element (e : Spaced Tree) (es : List (Spaced Tree)) :
      ElementsCut (e :: es) (e.before.text ++ e.body.text) [e.body.value]
  | comma (e e' : Spaced Tree) (es : List (Spaced Tree)) :
      ElementsCut (e :: e' :: es) (e.before.text ++ e.body.text ++ e.after.text ++ [','])
        [e.body.value]
  | inside {e : Spaced Tree} {es : List (Spaced Tree)} {p : List Char} {w : Json}
      (h : Cut e.body p w) : ElementsCut (e :: es) (e.before.text ++ p) [w]
  | later {e : Spaced Tree} {es : List (Spaced Tree)} {p : List Char} {ws : List Json}
      (h : ElementsCut es p ws) :
      ElementsCut (e :: es) (e.before.text ++ e.body.text ++ e.after.text ++ ',' :: p)
        (e.body.value :: ws)

/-- The members of an object up to a cut. -/
inductive MembersCut : List (Entry Tree) → List Char → List (String × Json) → Prop where
  | member (m : Entry Tree) (ms : List (Entry Tree)) :
      MembersCut (m :: ms) (m.head ++ m.value.body.text) [(m.name, m.value.body.value)]
  | comma (m m' : Entry Tree) (ms : List (Entry Tree)) :
      MembersCut (m :: m' :: ms) (m.head ++ m.value.body.text ++ m.value.after.text ++ [','])
        [(m.name, m.value.body.value)]
  | inside {m : Entry Tree} {ms : List (Entry Tree)} {p : List Char} {w : Json}
      (h : Cut m.value.body p w) : MembersCut (m :: ms) (m.head ++ p) [(m.name, w)]
  | later {m : Entry Tree} {ms : List (Entry Tree)} {p : List Char} {ws : List (String × Json)}
      (h : MembersCut ms p ws) :
      MembersCut (m :: ms) (m.head ++ m.value.body.text ++ m.value.after.text ++ ',' :: p)
        ((m.name, m.value.body.value) :: ws)

end

lemma prefix_elementsText {es : List (Spaced Tree)} {ws : List Json}
    (hes : ∀ e ∈ es, ∀ p w, Cut e.body p w → p <+: e.body.text) (h : ElementsCut es p ws) :
    p <+: elementsText es := by
  induction es generalizing p ws with
  | nil => cases h
  | cons e es ih =>
      rw [elementsText_cons]
      cases h with
      | element => exact ⟨_, (List.append_assoc _ _ _).symm⟩
      | comma _ e' es => exact ⟨elementsText (e' :: es), by simp⟩
      | inside hcut =>
          obtain ⟨rest, hrest⟩ := hes e (by simp) _ _ hcut
          exact ⟨rest ++ (e.after.text ++ afterComma es (elementsText es)), by simp [← hrest]⟩
      | later hcut =>
          obtain ⟨rest, hrest⟩ := ih (fun e he => hes e (by simp [he])) hcut
          rcases es with _ | ⟨e', es⟩
          · cases hcut
          · exact ⟨rest, by rw [afterComma_cons, ← hrest]; simp⟩

lemma prefix_membersText {ms : List (Entry Tree)} {ws : List (String × Json)}
    (hms : ∀ m ∈ ms, ∀ p w, Cut m.value.body p w → p <+: m.value.body.text)
    (h : MembersCut ms p ws) : p <+: membersText ms := by
  induction ms generalizing p ws with
  | nil => cases h
  | cons m ms ih =>
      rw [membersText_cons]
      cases h with
      | member => exact ⟨_, (List.append_assoc _ _ _).symm⟩
      | comma _ m' ms => exact ⟨membersText (m' :: ms), by simp⟩
      | inside hcut =>
          obtain ⟨rest, hrest⟩ := hms m (by simp) _ _ hcut
          exact ⟨rest ++ (m.value.after.text ++ afterComma ms (membersText ms)), by simp [← hrest]⟩
      | later hcut =>
          obtain ⟨rest, hrest⟩ := ih (fun m hm => hms m (by simp [hm])) hcut
          rcases ms with _ | ⟨m', ms⟩
          · cases hcut
          · exact ⟨rest, by rw [afterComma_cons, ← hrest]; simp⟩

/-- What stands in front of a cut is the beginning of the text of the tree. -/
theorem prefix_text {t : Tree} (h : Cut t p w) : p <+: t.text := by
  induction t using Tree.induct generalizing p w with
  | null => cases h
  | bool v => cases h
  | number text n reads => cases h
  | string gs =>
      cases h with
      | string kept later => exact ⟨glyphsText later ++ ['"'], by simp [Tree.text, glyphsText]⟩
      | @escape kept later g hg =>
          obtain ⟨rest, hrest⟩ : ∃ rest, g.text = '\\' :: rest := by
            cases g <;> first | exact ⟨_, rfl⟩ | cases hg
          exact ⟨rest ++ glyphsText later ++ ['"'], by simp [Tree.text, glyphsText, hrest]⟩
  | array gap es ih =>
      cases h with
      | arrayStart => exact ⟨gap.text ++ elementsText es ++ [']'], by simp [Tree.text]⟩
      | array hcut =>
          obtain ⟨rest, hrest⟩ := prefix_elementsText (fun e he p w h => ih e he h) hcut
          exact ⟨rest ++ [']'], by simp [Tree.text, ← hrest]⟩
  | object gap ms ih =>
      cases h with
      | objectStart => exact ⟨gap.text ++ membersText ms ++ ['}'], by simp [Tree.text]⟩
      | object hcut =>
          obtain ⟨rest, hrest⟩ := prefix_membersText (fun m hm p w h => ih m hm h) hcut
          exact ⟨rest ++ ['}'], by simp [Tree.text, ← hrest]⟩

/-! ## Reading up to a cut -/

/-- Read without the blanks at its end, a text leads to a state with this value and at least so many
open containers. -/
structure Leaves (s : State) (p : List Char) (n : Nat) (w : Json) : Prop where
  ne_nil : Text.trimEnd p ≠ []
  reaches : ∃ s', run s (Text.trimEnd p) = some s' ∧ s'.cutOff? = some w ∧ n ≤ s'.stack.length

/-- A text that does not end in a blank leads where reading it leads. -/
lemma leaves_of_run (h : run s p = some s₁) (hp : Text.EndsSolid p) (hw : s₁.cutOff? = some w)
    (hn : n ≤ s₁.stack.length) : Leaves s p n w :=
  ⟨hp.trimEnd_eq.symm ▸ hp.ne_nil, s₁, hp.trimEnd_eq.symm ▸ h, hw, hn⟩

/-- What leads somewhere leads there from further back. -/
lemma Leaves.behind (h : Leaves s₁ p n w) (hq : run s₀ q = some s₁) : Leaves s₀ (q ++ p) n w := by
  obtain ⟨hne, s', hs', hw, hn⟩ := h
  have htrim : Text.trimEnd (q ++ p) = q ++ Text.trimEnd p := Text.trimEnd_append hne
  exact ⟨by simp [htrim, hne], s', by rw [htrim, run_append_of_run hq, hs'], hw, hn⟩

/-- Every cut of a tree, wherever it is read, leaves the value it should. -/
def Recovers (t : Tree) : Prop :=
  ∀ (p : List Char) (w : Json), Cut t p w → ∀ (st : List Frame) (b : Bool),
    st.length + t.depth ≤ maxDepth → t.DistinctKeys →
      Leaves ⟨st, .value b⟩ p (st.length + t.isContainer.toNat) (collapse w st)

/-- A complete value is left as it is. -/
lemma leaves_value (st : List Frame) (b : Bool) {t : Tree} (h : st.length + t.depth ≤ maxDepth) :
    Leaves ⟨st, .value b⟩ t.text st.length (collapse t.value st) := by
  obtain ⟨s, hs, harr⟩ := run_tree t st b h
  exact leaves_of_run hs (endsSolid_text t) (cutOff?_of_arrived harr) (length_of_arrived harr).ge

lemma leaves_elements (st : List Frame) (b : Bool) (vs : List Json) {es : List (Spaced Tree)}
    (hes : ∀ e ∈ es, Recovers e.body) {ws : List Json} (h : ElementsCut es p ws)
    (hst : st.length + 1 + elementsDepth es ≤ maxDepth) (hkeys : elementsDistinctKeys es) :
    Leaves ⟨.array vs :: st, .value b⟩ p (st.length + 1) (collapse (.array (vs ++ ws)) st) := by
  induction es generalizing vs b p ws with
  | nil => cases h
  | cons e es ih =>
      rw [elementsDepth_cons] at hst
      have hdepth : (Frame.array vs :: st).length + e.body.depth ≤ maxDepth := by
        rw [List.length_cons]
        omega
      cases h with
      | element => exact (leaves_value _ b hdepth).behind (run_gap (skipsBlanks_value _ _) e.before)
      | comma _ e' es =>
          refine leaves_of_run (run_element_comma (run_tree _) (by omega) []) ?_ rfl le_rfl
          exact Text.endsSolid_concat (by decide) _
      | inside hcut =>
          obtain ⟨hne, s, hs, hw, hn⟩ := hes e (by simp) _ _ hcut _ b hdepth hkeys.1
          have hleaves : Leaves ⟨.array vs :: st, .value b⟩ _ (st.length + 1) _ :=
            ⟨hne, s, hs, hw, le_trans (Nat.le_add_right _ _) hn⟩
          exact hleaves.behind (run_gap (skipsBlanks_value _ _) e.before)
      | later hcut =>
          have hrest := ih false (vs ++ [e.body.value]) (fun e he => hes e (by simp [he])) hcut
            (by omega) hkeys.2
          rw [List.append_assoc, List.singleton_append] at hrest
          rw [List.append_cons]
          exact hrest.behind (run_element_comma (run_tree _) (by omega) [])

lemma leaves_members (st : List Frame) (b : Bool) (ms : List (String × Json)) (key : String)
    {ns : List (Entry Tree)} (hns : ∀ n ∈ ns, Recovers n.value.body)
    {ws : List (String × Json)} (h : MembersCut ns p ws)
    (hst : st.length + 1 + membersDepth ns ≤ maxDepth) (hkeys : membersDistinctKeys ns)
    (hnodup : (ms.map Prod.fst ++ ns.map Entry.name).Nodup) :
    Leaves ⟨.object ms key :: st, .key ms b⟩ p (st.length + 1)
      (collapse (.object (ms ++ ws)) st) := by
  induction ns generalizing ms key b p ws with
  | nil => cases h
  | cons n ns ih =>
      rw [membersDepth_cons] at hst
      have hdepth : (Frame.object ms n.name :: st).length + n.value.body.depth ≤ maxDepth := by
        rw [List.length_cons]
        omega
      have hnew : n.name ∉ ms.map Prod.fst := name_not_mem_of_nodup hnodup
      have hhead : run ⟨.object ms key :: st, .key ms b⟩ n.head
          = some ⟨.object ms n.name :: st, .value false⟩ := by
        simpa using run_head n ms key []
      have hcollapse : ∀ w, collapse w (.object ms n.name :: st)
          = collapse (.object (ms ++ [(n.name, w)])) st := by
        intro w
        rw [collapse, putMember_of_not_mem hnew]
      have hcomma : run ⟨.object ms key :: st, .key ms b⟩
          (n.head ++ n.value.body.text ++ n.value.after.text ++ [','])
            = some ⟨.object (ms ++ [(n.name, n.value.body.value)]) n.name :: st,
                .key (ms ++ [(n.name, n.value.body.value)]) false⟩ := by
        rw [run_new_member_comma (run_tree _) (by omega) hnew, run_nil]
      cases h with
      | member =>
          rw [← hcollapse]
          exact (leaves_value _ false hdepth).behind hhead
      | comma _ n' ns =>
          exact leaves_of_run hcomma (Text.endsSolid_concat (by decide) _) rfl le_rfl
      | inside hcut =>
          obtain ⟨hne, s, hs, hw, hn⟩ := hns n (by simp) _ _ hcut _ false hdepth hkeys.1
          have hleaves : Leaves ⟨.object ms n.name :: st, .value false⟩ _ (st.length + 1) _ :=
            ⟨hne, s, hs, hw, le_trans (Nat.le_add_right _ _) hn⟩
          rw [← hcollapse]
          exact hleaves.behind hhead
      | later hcut =>
          have hrest := ih false (ms ++ [(n.name, n.value.body.value)]) n.name
            (fun m hm => hns m (by simp [hm])) hcut (by omega) hkeys.2 (by simpa using hnodup)
          rw [List.append_assoc, List.singleton_append] at hrest
          rw [List.append_cons]
          exact hrest.behind hcomma

/-- **A cut leaves the value of the tree without what follows it.** -/
theorem recovers (t : Tree) : Recovers t := by
  induction t using Tree.induct with
  | null => rintro p w ⟨⟩
  | bool v => rintro p w ⟨⟩
  | number text n reads => rintro p w ⟨⟩
  | string gs =>
      intro p w h st b hst _
      have hopen : step ⟨st, .value b⟩ '"' = some ⟨st, .string .value [] .none⟩ := by
        rw [step_value (by decide) (by decide)]
        rfl
      cases h with
      | string kept later =>
          refine ⟨by simp [trimEnd_glyphs],
            ⟨st, .string .value (((trimGlyphs kept).map Glyph.char).reverse ++ []) .none⟩,
            ?_, ?_, ?_⟩
          · rw [trimEnd_glyphs, run_cons, hopen, Option.bind_some, run_glyphs]
          · simp [State.cutOff?, glyphsString]
          · rfl
      | escape kept later _ =>
          have hrun : run ⟨st, .value b⟩ ('"' :: glyphsText kept ++ ['\\'])
              = some ⟨st, .string .value ((kept.map Glyph.char).reverse ++ []) .backslash⟩ := by
            rw [List.cons_append, run_cons, hopen, Option.bind_some,
              run_append_of_run (run_glyphs _ _ _)]
            rfl
          refine leaves_of_run hrun (Text.endsSolid_concat (by decide) _) ?_ ?_
          · simp [State.cutOff?, glyphsString]
          · rfl
  | array gap es ih =>
      intro p w h st b hst hkeys
      rw [Tree.depth] at hst
      have hopen : step ⟨st, .value b⟩ '[' = some ⟨.array [] :: st, .value true⟩ :=
        step_open_array (by omega)
      cases h with
      | arrayStart =>
          have hrun : run ⟨st, .value b⟩ ['['] = some ⟨.array [] :: st, .value true⟩ := by
            simp [hopen]
          exact leaves_of_run hrun (Text.endsSolid_concat (by decide) []) rfl le_rfl
      | array hcut =>
          refine (leaves_elements st true [] ih hcut (by omega) hkeys).behind ?_
          rw [run_cons, hopen, Option.bind_some, run_gap (skipsBlanks_value _ _)]
  | object gap ms ih =>
      intro p w h st b hst hkeys
      rw [Tree.depth] at hst
      have hopen : step ⟨st, .value b⟩ '{' = some ⟨.object [] "" :: st, .key [] true⟩ :=
        step_open_object (by omega)
      cases h with
      | objectStart =>
          have hrun : run ⟨st, .value b⟩ ['{'] = some ⟨.object [] "" :: st, .key [] true⟩ := by
            simp [hopen]
          exact leaves_of_run hrun (Text.endsSolid_concat (by decide) []) rfl le_rfl
      | object hcut =>
          refine (leaves_members st true [] "" ih hcut (by omega) hkeys.2 hkeys.1).behind ?_
          rw [run_cons, hopen, Option.bind_some, run_gap (skipsBlanks_key _ _ _)]

end CodeDigest.Reply
