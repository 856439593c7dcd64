import CodeDigest.Proofs.Json.Reading

/-!
# Texts that break off

A text that the reader has followed up to some state and that breaks off there can be given an end:
`State.cutOff?` says which value the containers have that are still open, and when there is none.
Behind an element or member, behind a comma and inside the string of a value there is one; inside a
key, behind a key, behind a colon, in a literal, in a number without its digits and in most escapes
there is none.

`breaks` is the main statement: wherever the text of a tree breaks off, the value there, if there is
one, is a *shortening* of the tree (`Shortens`): the tree with everything behind the cut left out,
and nothing that the tree does not have.
-/

namespace CodeDigest.Json

variable {st : List Frame} {s : State} {v : Json} {b : Bool} {p : List Char}

/-! ## The value of what is open -/

/-- The value of a container as far as it has been read. -/
def Frame.value : Frame → Json
  | .array vs => .array vs
  | .object ms _ => .object ms

/-- Hands a value to the innermost of some open containers and closes them all. -/
def collapse (v : Json) : List Frame → Json
  | [] => v
  | .array vs :: st => collapse (.array (vs ++ [v])) st
  | .object ms key :: st => collapse (.object (putMember key v ms)) st

/-- Closes all open containers as they are. -/
def closeAll? : List Frame → Option Json
  | [] => none
  | f :: st => some (collapse f.value st)

/-- The value of a text that breaks off in a state. -/
def State.cutOff? (s : State) : Option Json :=
  match s.mode with
  | .value _ =>
    match s.stack with
    | .array vs :: st => some (collapse (.array vs) st)
    | _ => none
  | .key .. => closeAll? s.stack
  | .after => closeAll? s.stack
  | .number text => (Number.ofText? text.reverse).map fun n => collapse (.number n) s.stack
  | .string .value text .none => some (collapse (.string (String.ofList text.reverse)) s.stack)
  | .string .value text .backslash => some (collapse (.string (String.ofList text.reverse)) s.stack)
  | .done v => some v
  | _ => none

/-- A value that has arrived is complete. -/
lemma cutOff?_of_arrived (h : Arrived v st s) : s.cutOff? = some (collapse v st) := by
  rcases h with rfl | ⟨text, n, rfl, hn, rfl⟩
  · rcases st with _ | ⟨_ | _, st⟩ <;> rfl
  · simp [State.cutOff?, hn]

lemma length_of_arrived (h : Arrived v st s) : s.stack.length = st.length := by
  rcases h with rfl | ⟨text, n, rfl, hn, rfl⟩
  · rcases st with _ | ⟨_ | _, st⟩ <;> rfl
  · rfl

/-! ## Shortenings -/

mutual

/-- A value is what a tree leaves when its text breaks off: a number may lose digits, a string
characters, an array elements and an object members, each of them from its end. -/
inductive Shortens : Tree → Json → Prop where
  | whole (t : Tree) : Shortens t t.value
  | number {text q : List Char} {n m : Number} {reads : Number.ofText? text = some n}
      (h : q <+: text) (hm : Number.ofText? q = some m) :
      Shortens (.number text n reads) (.number m)
  | string {gs : List Glyph} {cs : List Char} (h : cs <+: gs.map Glyph.char) :
      Shortens (.string gs) (.string (String.ofList cs))
  | array {gap : Gap} {es : List (Spaced Tree)} {ws : List Json} (h : ElementsShorten es ws) :
      Shortens (.array gap es) (.array ws)
  | object {gap : Gap} {ms : List (Entry Tree)} {ws : List (String × Json)}
      (h : MembersShorten ms ws) : Shortens (.object gap ms) (.object ws)

/-- An initial run of the elements, the last one possibly shortened. -/
inductive ElementsShorten : List (Spaced Tree) → List Json → Prop where
  | none (es : List (Spaced Tree)) : ElementsShorten es []
  | last {e : Spaced Tree} {es : List (Spaced Tree)} {w : Json} (h : Shortens e.body w) :
      ElementsShorten (e :: es) [w]
  | more {e : Spaced Tree} {es : List (Spaced Tree)} {ws : List Json} (h : ElementsShorten es ws) :
      ElementsShorten (e :: es) (e.body.value :: ws)

/-- An initial run of the members, each with its own key, the value of the last one possibly
shortened. -/
inductive MembersShorten : List (Entry Tree) → List (String × Json) → Prop where
  | none (ms : List (Entry Tree)) : MembersShorten ms []
  | last {m : Entry Tree} {ms : List (Entry Tree)} {w : Json} (h : Shortens m.value.body w) :
      MembersShorten (m :: ms) [(m.name, w)]
  | more {m : Entry Tree} {ms : List (Entry Tree)} {ws : List (String × Json)}
      (h : MembersShorten ms ws) : MembersShorten (m :: ms) ((m.name, m.value.body.value) :: ws)

end

/-! ## Prefixes of the parts -/

/-- A prefix of two texts in a row ends in the first or in the second. -/
lemma prefix_of_append {xs ys : List Char} (h : p <+: xs ++ ys) :
    p <+: xs ∨ ∃ q, p = xs ++ q ∧ q <+: ys := by
  rcases List.prefix_or_prefix_of_prefix h (List.prefix_append xs ys) with hp | ⟨q, rfl⟩
  · exact .inl hp
  · exact .inr ⟨q, rfl, (List.prefix_append_right_inj xs).mp h⟩

/-- A text that breaks off in a gap or behind it has the same state without the gap. -/
lemma run_gap_prefix (hs : s.SkipsBlanks) {g : Gap} {ys : List Char} (h : p <+: g.text ++ ys) :
    ∃ q, q <+: ys ∧ run s p = run s q := by
  rcases prefix_of_append h with hp | ⟨q, rfl, hq⟩
  · exact ⟨[], List.nil_prefix, run_blanks hs fun c hc => g.blank c (hp.subset hc)⟩
  · exact ⟨q, hq, run_gap_append hs g q⟩

/-- Blanks do not undo the arrival of a value. -/
lemma run_gap_prefix_of_arrived (h : Arrived v st s) {g : Gap} (hp : p <+: g.text) :
    ∃ s', run s p = some s' ∧ Arrived v st s' := by
  rcases p with _ | ⟨c, cs⟩
  · exact ⟨s, rfl, h⟩
  · have hblank : ∀ d ∈ c :: cs, isSpace d = true := fun d hd => g.blank d (hp.subset hd)
    refine ⟨deliver v st, ?_, .inl rfl⟩
    rw [run_of_arrived h (ne_of_isSpace (hblank c (by simp))).1,
      run_blanks (skipsBlanks_deliver v st) hblank]

/-- A literal that breaks off has no value. -/
lemma run_literal_prefix (st : List Frame) {r : Char} {rs : List Char} (meaning : Json)
    (h : p <+: r :: rs) (hne : p ≠ r :: rs) :
    ∃ s, run ⟨st, .literal (r :: rs) meaning⟩ p = some s ∧ s.stack = st ∧ s.cutOff? = none := by
  induction rs generalizing r p with
  | nil =>
      rcases List.prefix_cons_iff.mp h with rfl | ⟨q, rfl, hq⟩
      · exact ⟨_, rfl, rfl, rfl⟩
      · rw [List.prefix_nil.mp hq] at hne
        exact absurd rfl hne
  | cons r' rs ih =>
      rcases List.prefix_cons_iff.mp h with rfl | ⟨q, rfl, hq⟩
      · exact ⟨_, rfl, rfl, rfl⟩
      · obtain ⟨s, hs, hcut⟩ := ih hq (by simpa using hne)
        exact ⟨s, by simpa [step] using hs, hcut⟩

lemma run_hexCode_prefix {role : StringRole} {text : List Char} {high : Option Nat} (c : HexCode)
    (h : p <+: c.digits) (hne : p ≠ c.digits) :
    ∃ escape, run ⟨st, .string role text (.code high 4 0)⟩ p
      = some ⟨st, .string role text escape⟩ := by
  obtain ⟨digits, n, hn⟩ := c
  match digits, hn with
  | [c₁, c₂, c₃, c₄], hn =>
      simp only [hexCode?, Option.bind_eq_bind, Option.bind_eq_some_iff, Option.some.injEq] at hn
      obtain ⟨d₁, h₁, d₂, h₂, d₃, h₃, d₄, h₄, rfl⟩ := hn
      simp only [List.prefix_cons_iff, List.prefix_nil] at h
      rcases h with rfl | ⟨_, rfl, rfl | ⟨_, rfl, rfl | ⟨_, rfl, rfl | ⟨_, rfl, rfl⟩⟩⟩⟩
      · exact ⟨_, rfl⟩
      · simp [step_string_of_ne, stringStep, h₁]
      · simp [step_string_of_ne, stringStep, h₁, h₂]
      · simp [step_string_of_ne, stringStep, h₁, h₂, h₃]
      · exact absurd rfl hne

/-- A `\u` escape that breaks off adds nothing, whichever half of a pair it is. -/
lemma run_code_prefix {role : StringRole} {text : List Char} {start marker : Escape}
    {high : Option Nat} (c : HexCode)
    (hb : step ⟨st, .string role text start⟩ '\\' = some ⟨st, .string role text marker⟩)
    (hu : step ⟨st, .string role text marker⟩ 'u' = some ⟨st, .string role text (.code high 4 0)⟩)
    (h : p <+: '\\' :: 'u' :: c.digits) (hne : p ≠ '\\' :: 'u' :: c.digits) :
    ∃ escape, run ⟨st, .string role text start⟩ p = some ⟨st, .string role text escape⟩ := by
  rcases List.prefix_cons_iff.mp h with rfl | ⟨q, rfl, h₁⟩
  · exact ⟨_, rfl⟩
  rw [run_cons, hb, Option.bind_some]
  rcases List.prefix_cons_iff.mp h₁ with rfl | ⟨q, rfl, h₂⟩
  · exact ⟨_, rfl⟩
  rw [run_cons, hu, Option.bind_some]
  exact run_hexCode_prefix c h₂ (by simpa using hne)

/-- A character of a string that breaks off adds nothing. -/
lemma run_glyph_prefix (st : List Frame) (role : StringRole) (text : List Char) {g : Glyph}
    (h : p <+: g.text) (hne : p ≠ g.text) :
    ∃ escape, run ⟨st, .string role text .none⟩ p = some ⟨st, .string role text escape⟩ := by
  cases g with
  | plain c _ _ _ =>
      simp only [Glyph.text, List.prefix_cons_iff, List.prefix_nil] at h
      rcases h with rfl | ⟨_, rfl, rfl⟩
      · exact ⟨_, rfl⟩
      · exact absurd rfl hne
  | short letter _ _ =>
      simp only [Glyph.text, List.prefix_cons_iff, List.prefix_nil] at h
      rcases h with rfl | ⟨_, rfl, rfl | ⟨_, rfl, rfl⟩⟩
      · exact ⟨_, rfl⟩
      · exact ⟨.backslash, rfl⟩
      · exact absurd rfl hne
  | code c _ _ => exact run_code_prefix c rfl rfl h hne
  | pair high low hh _ =>
      have hhigh : run ⟨st, .string role text .none⟩ ('\\' :: 'u' :: high.digits)
          = some ⟨st, .string role text (.lowBackslash high.value)⟩ := by
        simp [step_string_of_ne, stringStep, run_hexCode, endCode, hh]
      have h' : p <+: ('\\' :: 'u' :: high.digits) ++ ('\\' :: 'u' :: low.digits) := h
      rcases prefix_of_append h' with hp | ⟨q, rfl, hq⟩
      · rcases eq_or_ne p ('\\' :: 'u' :: high.digits) with rfl | hp'
        · exact ⟨_, hhigh⟩
        · exact run_code_prefix high rfl rfl hp hp'
      · rw [run_append_of_run hhigh]
        refine run_code_prefix low rfl rfl hq ?_
        rintro rfl
        exact hne rfl

/-- A string that breaks off consists of its first characters, and perhaps the beginning of an
escape. -/
lemma run_glyphs_prefix (st : List Frame) (role : StringRole) (text : List Char)
    {gs : List Glyph} (h : p <+: glyphsText gs) :
    ∃ cs escape, cs <+: gs.map Glyph.char ∧ run ⟨st, .string role text .none⟩ p
      = some ⟨st, .string role (cs.reverse ++ text) escape⟩ := by
  induction gs generalizing text p with
  | nil =>
      rw [List.prefix_nil.mp h]
      exact ⟨[], .none, List.nil_prefix, rfl⟩
  | cons g gs ih =>
      simp only [glyphsText, List.flatMap_cons] at ih h
      rcases prefix_of_append h with hp | ⟨q, rfl, hq⟩
      · rcases eq_or_ne p g.text with rfl | hne
        · exact ⟨[g.char], .none, by simp, run_glyph role text g⟩
        · obtain ⟨escape, hrun⟩ := run_glyph_prefix st role text hp hne
          exact ⟨[], escape, List.nil_prefix, hrun⟩
      · obtain ⟨cs, escape, hcs, hrun⟩ := ih (g.char :: text) hq
        refine ⟨g.char :: cs, escape, by simpa using hcs, ?_⟩
        rw [run_append_of_run (run_glyph role text g), hrun]
        simp

/-- In front of the value of a member the object has what it had before, or no value at all. -/
lemma run_head_prefix (st : List Frame) (b : Bool) (ms : List (String × Json)) (key : String)
    {m : Entry Tree} (h : p <+: m.head) :
    ∃ s, run ⟨.object ms key :: st, .key ms b⟩ p = some s ∧ s.stack.length = st.length + 1 ∧
      ∀ w, s.cutOff? = some w → w = collapse (.object ms) st := by
  simp only [Entry.head, List.append_assoc, List.cons_append] at h
  obtain ⟨q, h₁, hrun⟩ := run_gap_prefix (skipsBlanks_key (.object ms key :: st) ms b) h
  rw [hrun]
  rcases List.prefix_cons_iff.mp h₁ with rfl | ⟨q, rfl, h₂⟩
  · exact ⟨_, rfl, rfl, fun w hw => (Option.some.inj hw).symm⟩
  rw [run_cons, step_quote_key_start, Option.bind_some]
  rcases prefix_of_append h₂ with h₃ | ⟨q, rfl, h₃⟩
  · obtain ⟨cs, escape, -, hrun⟩ := run_glyphs_prefix (.object ms key :: st) (.key ms) [] h₃
    exact ⟨_, hrun, rfl, by simp [State.cutOff?]⟩
  rw [run_append_of_run (run_glyphs _ _ _)]
  rcases List.prefix_cons_iff.mp h₃ with rfl | ⟨q, rfl, h₄⟩
  · exact ⟨_, rfl, rfl, by simp [State.cutOff?]⟩
  rw [run_cons, step_quote_key, Option.bind_some]
  obtain ⟨q, h₅, hrun⟩ := run_gap_prefix (skipsBlanks_colon _ _ _) h₄
  rw [hrun]
  rcases List.prefix_cons_iff.mp h₅ with rfl | ⟨q, rfl, h₆⟩
  · exact ⟨_, rfl, rfl, by simp [State.cutOff?]⟩
  rw [run_cons, step_colon, Option.bind_some, run_blanks (skipsBlanks_value _ _) fun c hc =>
      m.value.before.blank c (h₆.subset hc)]
  exact ⟨_, rfl, rfl, by simp [State.cutOff?]⟩

/-! ## Prefixes of trees -/

/-- Where a value has been read up to a cut: whether it is still open, and what it is there. -/
structure BrokenOff (t : Tree) (st : List Frame) (s : State) : Prop where
  length_le : st.length ≤ s.stack.length
  isOpen : t.isContainer = true → st.length < s.stack.length
  shortens : ∀ w, s.cutOff? = some w → ∃ w', Shortens t w' ∧ w = collapse w' st

/-- Wherever the text of a tree breaks off the reader has followed it, and the value there is a
shortening of the tree. -/
def Tree.Breaks (t : Tree) : Prop :=
  ∀ (st : List Frame) (b : Bool) (p : List Char), p ≠ [] → p <+: t.text → p ≠ t.text →
    st.length + t.depth ≤ maxDepth → t.DistinctKeys →
      ∃ s, run ⟨st, .value b⟩ p = some s ∧ BrokenOff t st s

/-- A text that breaks off in a value or in the blanks behind it. -/
lemma run_value_prefix {t : Tree} (ht : t.Breaks) {after : Gap} (hp : p <+: t.text ++ after.text)
    (hne : p ≠ []) (hst : st.length + t.depth ≤ maxDepth) (hkeys : t.DistinctKeys) :
    ∃ s, run ⟨st, .value b⟩ p = some s ∧ st.length ≤ s.stack.length ∧
      ∀ w, s.cutOff? = some w → ∃ w', Shortens t w' ∧ w = collapse w' st := by
  have hwhole : ∀ q, q <+: after.text → ∃ s, run ⟨st, .value b⟩ (t.text ++ q) = some s ∧
      st.length ≤ s.stack.length ∧
        ∀ w, s.cutOff? = some w → ∃ w', Shortens t w' ∧ w = collapse w' st := by
    intro q hq
    obtain ⟨s, hs, harr⟩ := run_tree t st b hst
    obtain ⟨s', hs', harr'⟩ := run_gap_prefix_of_arrived harr hq
    refine ⟨s', by rw [run_append_of_run hs, hs'], (length_of_arrived harr').ge, fun w hw => ?_⟩
    rw [cutOff?_of_arrived harr'] at hw
    exact ⟨t.value, .whole t, (Option.some.inj hw).symm⟩
  rcases prefix_of_append hp with hp | ⟨q, rfl, hq⟩
  · rcases eq_or_ne p t.text with rfl | hproper
    · simpa using hwhole [] List.nil_prefix
    · obtain ⟨s, hs, hbroken⟩ := ht st b p hne hp hproper hst hkeys
      exact ⟨s, hs, hbroken.length_le, hbroken.shortens⟩
  · exact hwhole q hq

/-- Where the elements of an array, behind some others, have been read up to a cut. -/
structure ElementsBroken (es : List (Spaced Tree)) (vs : List Json) (st : List Frame)
    (s : State) : Prop where
  isOpen : st.length < s.stack.length
  shortens : ∀ w, s.cutOff? = some w →
    ∃ ws, ElementsShorten es ws ∧ w = collapse (.array (vs ++ ws)) st

lemma elementsBroken_start (es : List (Spaced Tree)) (vs : List Json) (st : List Frame) (b : Bool) :
    ElementsBroken es vs st ⟨.array vs :: st, .value b⟩ := by
  refine ⟨Nat.lt_succ_self _, fun w hw => ⟨[], .none es, ?_⟩⟩
  rw [List.append_nil]
  exact (Option.some.inj hw).symm

/-- An array whose text breaks off in or behind its elements. -/
lemma run_elements_prefix (st : List Frame) (b : Bool) (vs : List Json)
    {es : List (Spaced Tree)} (hes : ∀ e ∈ es, e.body.Breaks) (hp : p <+: elementsText es)
    (hst : st.length + 1 + elementsDepth es ≤ maxDepth) (hkeys : elementsDistinctKeys es) :
    ∃ s, run ⟨.array vs :: st, .value b⟩ p = some s ∧ ElementsBroken es vs st s := by
  induction es generalizing vs b p with
  | nil =>
      rw [elementsText_nil, List.prefix_nil] at hp
      subst hp
      exact ⟨_, rfl, elementsBroken_start [] vs st b⟩
  | cons e es ih =>
      rw [elementsDepth_cons] at hst
      have hdepth : (Frame.array vs :: st).length + e.body.depth ≤ maxDepth := by
        rw [List.length_cons]
        omega
      have hvalue : ∀ q, q <+: e.body.text ++ e.after.text → q ≠ [] →
          ∃ s, run ⟨.array vs :: st, .value b⟩ q = some s ∧ ElementsBroken (e :: es) vs st s := by
        intro q hq hne
        obtain ⟨s, hs, hlen, hcut⟩ := run_value_prefix (hes e (by simp)) hq hne hdepth hkeys.1
        refine ⟨s, hs, hlen, fun w hw => ?_⟩
        obtain ⟨w', hw', rfl⟩ := hcut w hw
        exact ⟨[w'], .last hw', rfl⟩
      rw [elementsText_cons, List.append_assoc, List.append_assoc] at hp
      obtain ⟨q, hq, hrun⟩ := run_gap_prefix (skipsBlanks_value (.array vs :: st) b) hp
      rw [hrun]
      rcases eq_or_ne q [] with rfl | hne
      · exact ⟨_, rfl, elementsBroken_start (e :: es) vs st b⟩
      rw [← List.append_assoc] at hq
      rcases prefix_of_append hq with hq | ⟨_ | ⟨c, cs⟩, rfl, hcs⟩
      · exact hvalue q hq hne
      · exact hvalue _ (by simp) hne
      · rcases es with _ | ⟨f, es⟩
        · simp at hcs
        rw [afterComma_cons] at hcs
        obtain ⟨rfl, hrest⟩ := List.cons_prefix_cons.mp hcs
        obtain ⟨s, hs, hopen, hcut⟩ := ih false (vs ++ [e.body.value])
          (fun g hg => hes g (by simp [hg])) hrest (by omega) hkeys.2
        refine ⟨s, ?_, hopen, fun w hw => ?_⟩
        · rw [List.append_assoc, run_value (run_tree _) e.after hdepth (by decide)]
          exact hs
        · obtain ⟨ws, hws, rfl⟩ := hcut w hw
          exact ⟨e.body.value :: ws, .more hws, by simp⟩

/-- Where the members of an object, behind some others, have been read up to a cut. -/
structure MembersBroken (ns : List (Entry Tree)) (ms : List (String × Json)) (st : List Frame)
    (s : State) : Prop where
  isOpen : st.length < s.stack.length
  shortens : ∀ w, s.cutOff? = some w →
    ∃ ws, MembersShorten ns ws ∧ w = collapse (.object (ms ++ ws)) st

/-- Before the first of these members has a value, none of them is kept. -/
lemma membersBroken_head {ns : List (Entry Tree)} {ms : List (String × Json)}
    (hlen : s.stack.length = st.length + 1)
    (hcut : ∀ w, s.cutOff? = some w → w = collapse (.object ms) st) :
    MembersBroken ns ms st s := by
  refine ⟨by omega, fun w hw => ⟨[], .none ns, ?_⟩⟩
  rw [List.append_nil]
  exact hcut w hw

/-- An object whose text breaks off in or behind its members, all keys being different. -/
lemma run_members_prefix (st : List Frame) (b : Bool) (ms : List (String × Json)) (key : String)
    {ns : List (Entry Tree)} (hns : ∀ n ∈ ns, n.value.body.Breaks) (hp : p <+: membersText ns)
    (hst : st.length + 1 + membersDepth ns ≤ maxDepth) (hkeys : membersDistinctKeys ns)
    (hnodup : (ms.map Prod.fst ++ ns.map Entry.name).Nodup) :
    ∃ s, run ⟨.object ms key :: st, .key ms b⟩ p = some s ∧ MembersBroken ns ms st s := by
  induction ns generalizing ms key b p with
  | nil =>
      rw [membersText_nil, List.prefix_nil] at hp
      subst hp
      exact ⟨_, rfl, membersBroken_head rfl fun w hw => (Option.some.inj hw).symm⟩
  | cons n ns ih =>
      rw [membersDepth_cons] at hst
      have hdepth : (Frame.object ms n.name :: st).length + n.value.body.depth ≤ maxDepth := by
        rw [List.length_cons]
        omega
      have hnew : n.name ∉ ms.map Prod.fst := name_not_mem_of_nodup hnodup
      have hvalue : ∀ q, q <+: n.value.body.text ++ n.value.after.text → q ≠ [] →
          ∃ s, run ⟨.object ms n.name :: st, .value false⟩ q = some s ∧
            MembersBroken (n :: ns) ms st s := by
        intro q hq hne
        obtain ⟨s, hs, hlen, hcut⟩ := run_value_prefix (hns n (by simp)) hq hne hdepth hkeys.1
        refine ⟨s, hs, hlen, fun w hw => ?_⟩
        obtain ⟨w', hw', rfl⟩ := hcut w hw
        exact ⟨[(n.name, w')], .last hw', by rw [collapse, putMember_of_not_mem hnew]⟩
      rw [membersText_cons, List.append_assoc, List.append_assoc] at hp
      rcases prefix_of_append hp with hp | ⟨q, rfl, hq⟩
      · obtain ⟨s, hs, hlen, hcut⟩ := run_head_prefix st b ms key hp
        exact ⟨s, hs, membersBroken_head hlen hcut⟩
      rw [run_head]
      rcases eq_or_ne q [] with rfl | hne
      · exact ⟨_, rfl, Nat.lt_succ_self _, by simp [State.cutOff?]⟩
      rw [← List.append_assoc] at hq
      rcases prefix_of_append hq with hq | ⟨_ | ⟨c, cs⟩, rfl, hcs⟩
      · exact hvalue q hq hne
      · exact hvalue _ (by simp) hne
      · rcases ns with _ | ⟨n', ns⟩
        · simp at hcs
        rw [afterComma_cons] at hcs
        obtain ⟨rfl, hrest⟩ := List.cons_prefix_cons.mp hcs
        have hput := putMember_of_not_mem hnew n.value.body.value
        obtain ⟨s, hs, hopen, hcut⟩ := ih false
          (ms ++ [(n.name, n.value.body.value)]) n.name (fun m hm => hns m (by simp [hm])) hrest
          (by omega) hkeys.2 (by simpa using hnodup)
        refine ⟨s, ?_, hopen, fun w hw => ?_⟩
        · rw [List.append_assoc, run_value (run_tree _) n.value.after hdepth (by decide), ← hs,
            ← hput]
          rfl
        · obtain ⟨ws, hws, rfl⟩ := hcut w hw
          exact ⟨(n.name, n.value.body.value) :: ws, .more hws, by simp⟩

/-- A literal breaks off without a value. -/
lemma breaks_literal {t : Tree} (c r : Char) (rs : List Char) (meaning : Json)
    (htext : t.text = c :: r :: rs) (ht : t.isContainer = false)
    (hstart : ∀ st b, step ⟨st, .value b⟩ c = some ⟨st, .literal (r :: rs) meaning⟩) :
    t.Breaks := by
  intro st b p hne hp hproper _ _
  rw [htext] at hp hproper
  rcases List.prefix_cons_iff.mp hp with rfl | ⟨q, rfl, hq⟩
  · exact absurd rfl hne
  obtain ⟨s, hs, hstack, hcut⟩ := run_literal_prefix st meaning hq (by simpa using hproper)
  refine ⟨s, ?_, hstack ▸ le_rfl, by simp [ht], by simp [hcut]⟩
  rw [run_cons, hstart, Option.bind_some, hs]

/-- **Wherever the text of a tree breaks off, what is there is a shortening of the tree.** -/
theorem breaks (t : Tree) : t.Breaks := by
  induction t using Tree.induct with
  | null =>
      refine breaks_literal 'n' 'u' ['l', 'l'] .null rfl rfl fun _ _ => ?_
      simp [step, startValue, isSpace]
  | bool v =>
      cases v with
      | true =>
          refine breaks_literal 't' 'r' ['u', 'e'] (.bool true) rfl rfl fun _ _ => ?_
          simp [step, startValue, isSpace]
      | false =>
          refine breaks_literal 'f' 'a' ['l', 's', 'e'] (.bool false) rfl rfl fun _ _ => ?_
          simp [step, startValue, isSpace]
  | number text n reads =>
      intro st b p hne hp _ _ _
      obtain ⟨⟨c, cs, rfl, hc⟩, hcs⟩ := number_spec reads
      rcases List.prefix_cons_iff.mp hp with rfl | ⟨q, rfl, hq⟩
      · exact absurd rfl hne
      refine ⟨⟨st, .number (q.reverse ++ [c])⟩, ?_, le_rfl, by simp [Tree.isContainer],
        fun w hw => ?_⟩
      · rw [run_cons, step_number hc, Option.bind_some,
          run_numberChars fun d hd => hcs d (List.mem_cons_of_mem _ (hq.subset hd))]
      · obtain ⟨m, hm, rfl⟩ := Option.map_eq_some_iff.mp hw
        exact ⟨.number m, .number hp (by simpa using hm), rfl⟩
  | string gs =>
      intro st b p hne hp hproper _ _
      rw [Tree.text, List.cons_append] at hp hproper
      rcases List.prefix_cons_iff.mp hp with rfl | ⟨q, rfl, hq⟩
      · exact absurd rfl hne
      have hq' : q <+: glyphsText gs :=
        (List.prefix_concat_iff.mp hq).resolve_left (by simpa using hproper)
      obtain ⟨cs, escape, hcs, hrun⟩ := run_glyphs_prefix st .value [] hq'
      refine ⟨⟨st, .string .value (cs.reverse ++ []) escape⟩, ?_, le_rfl,
        by simp [Tree.isContainer], fun w hw => ⟨.string (String.ofList cs), .string hcs, ?_⟩⟩
      · rw [run_cons, step_value (by decide) (by decide), ← hrun]
        rfl
      · cases escape <;> simp [State.cutOff?] at hw <;> exact hw.symm
  | array gap es ih =>
      intro st b p hne hp hproper hst hkeys
      rw [Tree.text, List.cons_append, List.cons_append] at hp hproper
      rw [Tree.depth] at hst
      rcases List.prefix_cons_iff.mp hp with rfl | ⟨q, rfl, hq⟩
      · exact absurd rfl hne
      have hq' : q <+: gap.text ++ elementsText es :=
        (List.prefix_concat_iff.mp hq).resolve_left (by simpa using hproper)
      obtain ⟨r, hr, hrun⟩ := run_gap_prefix (skipsBlanks_value (.array [] :: st) true) hq'
      obtain ⟨s, hs, hopen, hcut⟩ := run_elements_prefix st true [] ih hr (by omega) hkeys
      refine ⟨s, ?_, hopen.le, fun _ => hopen, fun w hw => ?_⟩
      · rw [run_cons, step_open_array (by omega), Option.bind_some, hrun, hs]
      · obtain ⟨ws, hws, rfl⟩ := hcut w hw
        exact ⟨.array ws, .array hws, rfl⟩
  | object gap ms ih =>
      intro st b p hne hp hproper hst hkeys
      rw [Tree.text, List.cons_append, List.cons_append] at hp hproper
      rw [Tree.depth] at hst
      rcases List.prefix_cons_iff.mp hp with rfl | ⟨q, rfl, hq⟩
      · exact absurd rfl hne
      have hq' : q <+: gap.text ++ membersText ms :=
        (List.prefix_concat_iff.mp hq).resolve_left (by simpa using hproper)
      obtain ⟨r, hr, hrun⟩ := run_gap_prefix (skipsBlanks_key (.object [] "" :: st) [] true) hq'
      obtain ⟨s, hs, hopen, hcut⟩ :=
        run_members_prefix st true [] "" ih hr (by omega) hkeys.2 hkeys.1
      refine ⟨s, ?_, hopen.le, fun _ => hopen, fun w hw => ?_⟩
      · rw [run_cons, step_open_object (by omega), Option.bind_some, hrun, hs]
      · obtain ⟨ws, hws, rfl⟩ := hcut w hw
        exact ⟨.object ws, .object hws, rfl⟩

end CodeDigest.Json
