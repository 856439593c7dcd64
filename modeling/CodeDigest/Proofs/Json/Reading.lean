import Mathlib.Data.List.TakeWhile
import CodeDigest.Proofs.Json.Tree

/-!
# What the reader does with the text of a tree

The reader of `Json.Reader` is a machine that takes one character at a time.  Here its single steps
are put together: blanks leave a state as it is, the text of a character of a string adds that
character, and the text of a tree delivers the value of the tree to the innermost open container
(`run_tree`).

A number is the one value whose end the reader cannot see: behind its last digit it still waits for
more.  `Arrived` therefore says that a value *has arrived*, either delivered or read in full as a
number, and `run_of_arrived` says that this makes no difference to any text that goes on with
something else than a character of a number.
-/

namespace CodeDigest.Json

variable {st : List Frame} {f : Frame} {s : State} {v : Json} {b : Bool} {c : Char}

/-! ## Steps -/

@[simp] lemma run_nil (s : State) : run s [] = some s := rfl

@[simp] lemma run_cons (s : State) (c : Char) (cs : List Char) :
    run s (c :: cs) = (step s c).bind fun s => run s cs := rfl

/-- The state that a text leads to, read to the end of another text. -/
lemma run_append_of_run {s' : State} {xs : List Char} (h : run s xs = some s') (ys : List Char) :
    run s (xs ++ ys) = run s' ys := by
  rw [run_append, h]
  rfl

/-- Blanks between tokens are not characters of anything else. -/
lemma ne_of_isSpace (h : isSpace c = true) :
    isNumberChar c = false ∧ c ≠ ',' ∧ c ≠ ':' ∧ c ≠ ']' ∧ c ≠ '}' ∧ c ≠ '"' ∧ c ≠ '[' ∧
      c ≠ '{' := by
  simp only [isSpace, Bool.or_eq_true, beq_iff_eq] at h
  rcases h with ((rfl | rfl) | rfl) | rfl <;> decide

/-- Where blanks may stand they change nothing. -/
def State.SkipsBlanks (s : State) : Prop := ∀ c, isSpace c = true → step s c = some s

lemma skipsBlanks_value (st : List Frame) (b : Bool) : State.SkipsBlanks ⟨st, .value b⟩ := by
  intro c hc
  simp [step, hc]

lemma skipsBlanks_key (st : List Frame) (ms : List (String × Json)) (b : Bool) :
    State.SkipsBlanks ⟨st, .key ms b⟩ := by
  intro c hc
  simp [step, hc]

lemma skipsBlanks_colon (st : List Frame) (ms : List (String × Json)) (key : String) :
    State.SkipsBlanks ⟨st, .colon ms key⟩ := by
  intro c hc
  simp [step, hc]

lemma skipsBlanks_after (st : List Frame) : State.SkipsBlanks ⟨st, .after⟩ := by
  intro c hc
  simp [step, afterDelivery, afterValue, hc]

lemma skipsBlanks_done (st : List Frame) (v : Json) : State.SkipsBlanks ⟨st, .done v⟩ := by
  intro c hc
  simp [step, afterDelivery, hc]

lemma skipsBlanks_deliver (v : Json) (st : List Frame) : (deliver v st).SkipsBlanks := by
  rcases st with _ | ⟨_ | _, st⟩
  · exact skipsBlanks_done _ _
  · exact skipsBlanks_after _
  · exact skipsBlanks_after _

lemma run_blanks (h : s.SkipsBlanks) {cs : List Char} (hcs : ∀ c ∈ cs, isSpace c = true) :
    run s cs = some s := by
  induction cs with
  | nil => rfl
  | cons c cs ih =>
      rw [run_cons, h c (hcs c (by simp))]
      exact ih fun d hd => hcs d (by simp [hd])

lemma run_gap (h : s.SkipsBlanks) (g : Gap) : run s g.text = some s := run_blanks h g.blank

/-- A gap in front of a text is skipped. -/
lemma run_gap_append (h : s.SkipsBlanks) (g : Gap) (cs : List Char) :
    run s (g.text ++ cs) = run s cs := run_append_of_run (run_gap h g) cs

/-- A value may start wherever one is expected, also where its container may end. -/
lemma step_value (hs : isSpace c = false) (hc : c ≠ ']') :
    step ⟨st, .value b⟩ c = startValue st c := by
  simp [step, hs, hc]

/-- The step behind a delivered value. -/
lemma step_deliver (v : Json) (st : List Frame) (c : Char) :
    step (deliver v st) c = afterDelivery (deliver v st) c := by
  rcases st with _ | ⟨_ | _, st⟩ <;> rfl

/-! ## Strings -/

lemma step_string_of_ne {role : StringRole} {text : List Char} {escape : Escape}
    (h : escape ≠ .none ∨ c ≠ '"') :
    step ⟨st, .string role text escape⟩ c
      = (stringStep text escape c).map fun r => ⟨st, .string role r.1 r.2⟩ := by
  cases hs : stringStep text escape c with
  | none =>
      rcases h with h | h
      · cases escape <;> first | exact absurd rfl h | simp [step, hs]
      · cases escape <;> simp [step, hs, h]
  | some r =>
      rcases h with h | h
      · cases escape <;> first | exact absurd rfl h | simp [step, hs]
      · cases escape <;> simp [step, hs, h]

/-- The digits of a `\u` escape add up to its code. -/
lemma run_hexCode {role : StringRole} {text : List Char} {high : Option Nat} (c : HexCode) :
    run ⟨st, .string role text (.code high 4 0)⟩ c.digits
      = (endCode text high c.value).map fun r => ⟨st, .string role r.1 r.2⟩ := by
  obtain ⟨digits, n, h⟩ := c
  match digits, h with
  | [c₁, c₂, c₃, c₄], h =>
      simp only [hexCode?, Option.bind_eq_bind, Option.bind_eq_some_iff, Option.some.injEq] at h
      obtain ⟨d₁, h₁, d₂, h₂, d₃, h₃, d₄, h₄, rfl⟩ := h
      simp [step_string_of_ne, stringStep, h₁, h₂, h₃, h₄]

/-- The text of a character adds the character. -/
lemma run_glyph (role : StringRole) (text : List Char) (g : Glyph) :
    run ⟨st, .string role text .none⟩ g.text = some ⟨st, .string role (g.char :: text) .none⟩ := by
  cases g with
  | plain c hq hb hp =>
      have hp' : ¬c.toNat < 32 := by omega
      simp [Glyph.text, Glyph.char, step_string_of_ne, stringStep, hq, hb, hp']
  | short letter meaning h =>
      have hu : letter ≠ 'u' := by
        rintro rfl
        simp [simpleEscape?] at h
      simp [Glyph.text, Glyph.char, step_string_of_ne, stringStep, h, hu]
  | code c hh hl =>
      simp only [Glyph.text, Glyph.char, run_cons]
      simp [step_string_of_ne, stringStep, run_hexCode, endCode, hh, hl]
  | pair high low hh hl =>
      simp only [Glyph.text, Glyph.char, List.cons_append, run_cons]
      simp [step_string_of_ne, stringStep, run_append, run_hexCode, endCode, hh, hl]

lemma run_glyphs (role : StringRole) (text : List Char) (gs : List Glyph) :
    run ⟨st, .string role text .none⟩ (glyphsText gs)
      = some ⟨st, .string role ((gs.map Glyph.char).reverse ++ text) .none⟩ := by
  induction gs generalizing text with
  | nil => rfl
  | cons g gs ih =>
      simp only [glyphsText, List.flatMap_cons] at ih ⊢
      rw [run_append_of_run (run_glyph role text g), ih]
      simp

/-- The quotation mark behind a string. -/
lemma step_quote_value (st : List Frame) (text : List Char) :
    step ⟨st, .string .value text .none⟩ '"'
      = some (deliver (.string (String.ofList text.reverse)) st) := rfl

lemma step_quote_key (st : List Frame) (ms : List (String × Json)) (text : List Char) :
    step ⟨st, .string (.key ms) text .none⟩ '"'
      = some ⟨st, .colon ms (String.ofList text.reverse)⟩ := rfl

/-! ## Numbers -/

lemma isNumberChar_of_isDigit (h : c.isDigit = true) : isNumberChar c = true := by
  simp [isNumberChar, h]

/-- Digits in front are all digits, and the rest follows them. -/
lemma digitRun_spec {cs ds rest : List Char} (h : digitRun cs = (ds, rest)) :
    cs = ds ++ rest ∧ ∀ c ∈ ds, c.isDigit = true := by
  simp only [digitRun, Prod.mk.injEq] at h
  obtain ⟨rfl, rfl⟩ := h
  exact ⟨List.takeWhile_append_dropWhile.symm, fun c hc => List.mem_takeWhile_imp hc⟩

lemma isNumberChar_of_readFraction {cs rest : List Char} {f : Option (List Char)}
    (h : readFraction cs = some (f, rest)) :
    ∃ ds, cs = ds ++ rest ∧ ∀ c ∈ ds, isNumberChar c = true := by
  unfold readFraction at h
  split at h
  next cs =>
    split at h
    · simp at h
    next ds rest' _ hd =>
      obtain ⟨rfl, hds⟩ := digitRun_spec hd
      simp only [Option.some.injEq, Prod.mk.injEq] at h
      obtain ⟨-, rfl⟩ := h
      refine ⟨'.' :: ds, rfl, ?_⟩
      simp only [List.mem_cons, forall_eq_or_imp]
      exact ⟨by decide, fun c hc => isNumberChar_of_isDigit (hds c hc)⟩
  · simp only [Option.some.injEq, Prod.mk.injEq] at h
    exact ⟨[], by simp [h.2], by simp⟩

lemma isNumberChar_of_readExponent {cs : List Char} {e : Option (Bool × List Char)}
    (h : readExponent cs = some e) : ∀ c ∈ cs, isNumberChar c = true := by
  unfold readExponent at h
  split at h
  · simp
  next mark cs =>
    split at h
    next hmark =>
      have hm : isNumberChar mark = true := by
        simp only [isNumberChar, Bool.or_eq_true] at hmark ⊢
        tauto
      split at h
      next negative digits heq =>
        have hsign : ∃ sign, cs = sign ++ digits ∧ ∀ c ∈ sign, isNumberChar c = true := by
          split at heq <;> obtain ⟨-, rfl⟩ := Prod.mk.inj heq
          · exact ⟨['-'], rfl, by simp [isNumberChar]⟩
          · exact ⟨['+'], rfl, by simp [isNumberChar]⟩
          · exact ⟨[], rfl, by simp⟩
        obtain ⟨sign, rfl, hsign⟩ := hsign
        split at h
        · simp at h
        next ds _ hd =>
          obtain ⟨rfl, hds⟩ := digitRun_spec hd
          intro c hc
          simp only [List.append_nil, List.mem_cons, List.mem_append] at hc
          rcases hc with rfl | hc | hc
          · exact hm
          · exact hsign c hc
          · exact isNumberChar_of_isDigit (hds c hc)
        · simp at h
    · simp at h

/-- A number starts with a minus sign or a digit and has no characters but those of numbers. -/
lemma numeral_spec {text : List Char} {t : Numeral} (h : Numeral.ofText? text = some t) :
    (∃ c cs, text = c :: cs ∧ (c = '-' ∨ c.isDigit = true)) ∧
      ∀ c ∈ text, isNumberChar c = true := by
  unfold Numeral.ofText? at h
  split at h
  next negative cs heq =>
    have hsign : ∃ sign, text = sign ++ cs ∧ (sign = [] ∨ sign = ['-']) := by
      split at heq <;> obtain ⟨-, rfl⟩ := Prod.mk.inj heq
      · exact ⟨['-'], rfl, .inr rfl⟩
      · exact ⟨[], rfl, .inl rfl⟩
    obtain ⟨sign, rfl, hsign⟩ := hsign
    split at h
    next whole rest hd =>
      obtain ⟨rfl, hwhole⟩ := digitRun_spec hd
      split at h
      · simp at h
      next hne =>
        simp only [Option.bind_eq_bind, Option.bind_eq_some_iff] at h
        obtain ⟨⟨f, rest'⟩, hf, e, he, -⟩ := h
        obtain ⟨ds, rfl, hds⟩ := isNumberChar_of_readFraction hf
        have hall : ∀ c ∈ whole ++ (ds ++ rest'), isNumberChar c = true := by
          intro c hc
          simp only [List.mem_append] at hc
          rcases hc with hc | hc | hc
          · exact isNumberChar_of_isDigit (hwhole c hc)
          · exact hds c hc
          · exact isNumberChar_of_readExponent he c hc
        obtain _ | ⟨d, whole⟩ := whole
        · simp at hne
        · rcases hsign with rfl | rfl
          · exact ⟨⟨d, _, rfl, .inr (hwhole d (by simp))⟩, hall⟩
          · refine ⟨⟨'-', _, rfl, .inl rfl⟩, ?_⟩
            simp only [List.cons_append, List.nil_append, List.mem_cons, forall_eq_or_imp] at hall ⊢
            exact ⟨by decide, hall⟩

lemma number_spec {text : List Char} {n : Number} (h : Number.ofText? text = some n) :
    (∃ c cs, text = c :: cs ∧ (c = '-' ∨ c.isDigit = true)) ∧
      ∀ c ∈ text, isNumberChar c = true := by
  obtain ⟨t, ht, -⟩ := Option.bind_eq_some_iff.mp h
  exact numeral_spec ht

/-- Characters of a number are taken as they come. -/
lemma run_numberChars {text cs : List Char} (h : ∀ c ∈ cs, isNumberChar c = true) :
    run ⟨st, .number text⟩ cs = some ⟨st, .number (cs.reverse ++ text)⟩ := by
  induction cs generalizing text with
  | nil => rfl
  | cons c cs ih =>
      have hc : isNumberChar c = true := h c (by simp)
      have hstep : step ⟨st, .number text⟩ c = some ⟨st, .number (c :: text)⟩ := by
        simp [step, hc]
      rw [run_cons, hstep, Option.bind_some, ih fun d hd => h d (by simp [hd])]
      simp

/-- A number is read from its first character on. -/
lemma step_number (h : c = '-' ∨ c.isDigit = true) :
    step ⟨st, .value b⟩ c = some ⟨st, .number [c]⟩ := by
  have hne : ∀ d : Char, d ≠ '-' → d.isDigit = false → c ≠ d := by
    rintro d hd hdigit rfl
    simp [hd, hdigit] at h
  have hs : isSpace c = false := by
    simp [isSpace, hne ' ', hne '\n', hne '\t', hne '\r']
  rw [step_value hs (hne ']' (by decide) (by decide))]
  simp [startValue, hne '[', hne '{', hne '"', hne 'n', hne 't', hne 'f', h]

/-! ## Values -/

/-- A value has arrived when it has been handed on, or when it is a number that has been read. -/
def Arrived (v : Json) (st : List Frame) (s : State) : Prop :=
  s = deliver v st ∨
    ∃ text n, s = ⟨st, .number text⟩ ∧ Number.ofText? text.reverse = some n ∧ v = .number n

/-- Behind a value that has arrived anything but the character of a number finds it delivered. -/
lemma step_of_arrived (h : Arrived v st s) (hc : isNumberChar c = false) :
    step s c = step (deliver v st) c := by
  rcases h with rfl | ⟨text, n, rfl, hn, rfl⟩
  · rfl
  · rw [step_deliver]
    simp [step, hc, hn]

lemma run_of_arrived (h : Arrived v st s) (hc : isNumberChar c = false) (cs : List Char) :
    run s (c :: cs) = run (deliver v st) (c :: cs) := by
  rw [run_cons, run_cons, step_of_arrived h hc]

/-- Behind a value that has arrived come blanks and then something else. -/
lemma run_gap_of_arrived (h : Arrived v st s) (g : Gap) (hc : isNumberChar c = false)
    (cs : List Char) : run s (g.text ++ c :: cs) = run (deliver v st) (c :: cs) := by
  rcases hg : g.text with _ | ⟨d, ds⟩
  · exact run_of_arrived h hc cs
  · have hd : isSpace d = true := g.blank d (by simp [hg])
    rw [List.cons_append, run_of_arrived h (ne_of_isSpace hd).1, ← List.cons_append, ← hg]
    exact run_gap_append (skipsBlanks_deliver v st) g _

/-- The reader takes the text of a tree wherever a value is expected and there is room for its
containers. -/
def Tree.Reads (t : Tree) : Prop :=
  ∀ (st : List Frame) (b : Bool), st.length + t.depth ≤ maxDepth →
    ∃ s, run ⟨st, .value b⟩ t.text = some s ∧ Arrived t.value st s

/-- A tree has been delivered once blanks and something else follow. -/
lemma run_value {t : Tree} (ht : t.Reads) (after : Gap) (hst : st.length + t.depth ≤ maxDepth)
    (hc : isNumberChar c = false) (cs : List Char) :
    run ⟨st, .value b⟩ (t.text ++ (after.text ++ c :: cs))
      = run (deliver t.value st) (c :: cs) := by
  obtain ⟨s, hs, harr⟩ := ht st b hst
  rw [run_append_of_run hs, run_gap_of_arrived harr after hc]

/-! ### Arrays -/

lemma step_open_array (h : st.length < maxDepth) :
    step ⟨st, .value b⟩ '[' = some ⟨.array [] :: st, .value true⟩ := by
  rw [step_value (by decide) (by decide)]
  simp [startValue, h]

lemma step_close_array (vs : List Json) (st : List Frame) :
    step ⟨.array vs :: st, .after⟩ ']' = some (deliver (.array vs) st) := rfl

lemma step_close_empty_array (st : List Frame) :
    step ⟨.array [] :: st, .value true⟩ ']' = some (deliver (.array []) st) := rfl

/-- One element and the comma behind it. -/
lemma run_element_comma {e : Spaced Tree} (he : e.body.Reads) {vs : List Json}
    (hst : st.length + 1 + e.body.depth ≤ maxDepth) (cs : List Char) :
    run ⟨.array vs :: st, .value b⟩
        (e.before.text ++ e.body.text ++ e.after.text ++ ',' :: cs)
      = run ⟨.array (vs ++ [e.body.value]) :: st, .value false⟩ cs := by
  simp only [List.append_assoc]
  rw [run_gap_append (skipsBlanks_value _ _), run_value he e.after (by simpa using hst) (by decide)]
  rfl

/-- The elements of an array and the bracket that closes it. -/
lemma run_elements {es : List (Spaced Tree)} (hes : ∀ e ∈ es, e.body.Reads) (hne : es ≠ [])
    {vs : List Json} (hst : st.length + 1 + elementsDepth es ≤ maxDepth) (cs : List Char) :
    run ⟨.array vs :: st, .value b⟩ (elementsText es ++ ']' :: cs)
      = run (deliver (.array (vs ++ elementsValue es)) st) cs := by
  induction es generalizing vs b with
  | nil => exact absurd rfl hne
  | cons e es ih =>
      have he : e.body.Reads := hes e (by simp)
      rw [elementsDepth_cons] at hst
      rcases es with _ | ⟨f, es⟩
      · have hdepth : (Frame.array vs :: st).length + e.body.depth ≤ maxDepth := by
          rw [List.length_cons]
          omega
        simp only [elementsText_cons, afterComma_nil, List.append_nil, List.append_assoc]
        rw [run_gap_append (skipsBlanks_value _ _), run_value he e.after hdepth (by decide)]
        simp [deliver, step_close_array]
      · rw [elementsText_cons, afterComma_cons, List.append_assoc, List.cons_append,
          run_element_comma he (by omega),
          ih (fun g hg => hes g (by simp [hg])) (by simp) (by omega)]
        simp

/-! ### Objects -/

lemma step_open_object (h : st.length < maxDepth) :
    step ⟨st, .value b⟩ '{' = some ⟨.object [] "" :: st, .key [] true⟩ := by
  rw [step_value (by decide) (by decide)]
  simp [startValue, h]

lemma step_close_object (ms : List (String × Json)) (key : String) (st : List Frame) :
    step ⟨.object ms key :: st, .after⟩ '}' = some (deliver (.object ms) st) := rfl

lemma step_close_empty_object (key : String) (st : List Frame) :
    step ⟨.object [] key :: st, .key [] true⟩ '}' = some (deliver (.object []) st) := rfl

lemma step_quote_key_start (st : List Frame) (ms : List (String × Json)) (b : Bool) :
    step ⟨st, .key ms b⟩ '"' = some ⟨st, .string (.key ms) [] .none⟩ := by
  simp [step, isSpace]

lemma step_colon (ms ns : List (String × Json)) (key name : String) (st : List Frame) :
    step ⟨.object ms key :: st, .colon ns name⟩ ':'
      = some ⟨.object ns name :: st, .value false⟩ := by
  simp [step, isSpace]

/-- The key of a member and the colon behind it. -/
lemma run_head (m : Entry Tree) (ms : List (String × Json)) (key : String) (cs : List Char) :
    run ⟨.object ms key :: st, .key ms b⟩ (m.head ++ cs)
      = run ⟨.object ms m.name :: st, .value false⟩ cs := by
  simp only [Entry.head, List.append_assoc, List.cons_append]
  rw [run_gap_append (skipsBlanks_key _ _ _), run_cons, step_quote_key_start, Option.bind_some,
    run_append_of_run (run_glyphs _ _ _), run_cons, step_quote_key, Option.bind_some,
    List.append_nil, List.reverse_reverse, ← glyphsString, ← Entry.name,
    run_gap_append (skipsBlanks_colon _ _ _), run_cons, step_colon, Option.bind_some,
    run_gap_append (skipsBlanks_value _ _)]

/-- One member and the comma behind it. -/
lemma run_member_comma {m : Entry Tree} (hm : m.value.body.Reads) {ms : List (String × Json)}
    {key : String} (hst : st.length + 1 + m.value.body.depth ≤ maxDepth) (cs : List Char) :
    run ⟨.object ms key :: st, .key ms b⟩
        (m.head ++ m.value.body.text ++ m.value.after.text ++ ',' :: cs)
      = run ⟨.object (putMember m.name m.value.body.value ms) m.name :: st,
          .key (putMember m.name m.value.body.value ms) false⟩ cs := by
  simp only [List.append_assoc]
  rw [run_head, run_value hm m.value.after (by simpa using hst) (by decide)]
  rfl

/-- A member whose key is new goes to the end. -/
lemma run_new_member_comma {m : Entry Tree} (hm : m.value.body.Reads) {ms : List (String × Json)}
    {key : String} (hst : st.length + 1 + m.value.body.depth ≤ maxDepth)
    (hnew : m.name ∉ ms.map Prod.fst) (cs : List Char) :
    run ⟨.object ms key :: st, .key ms b⟩
        (m.head ++ m.value.body.text ++ m.value.after.text ++ ',' :: cs)
      = run ⟨.object (ms ++ [(m.name, m.value.body.value)]) m.name :: st,
          .key (ms ++ [(m.name, m.value.body.value)]) false⟩ cs := by
  rw [run_member_comma hm hst, putMember_of_not_mem hnew]

/-- The members of an object and the brace that closes it. -/
lemma run_members {ns : List (Entry Tree)} (hns : ∀ m ∈ ns, m.value.body.Reads) (hne : ns ≠ [])
    {ms : List (String × Json)} {key : String}
    (hst : st.length + 1 + membersDepth ns ≤ maxDepth) (cs : List Char) :
    run ⟨.object ms key :: st, .key ms b⟩ (membersText ns ++ '}' :: cs)
      = run (deliver (.object (putAll ms (membersValue ns))) st) cs := by
  induction ns generalizing ms key b with
  | nil => exact absurd rfl hne
  | cons m ns ih =>
      have hm : m.value.body.Reads := hns m (by simp)
      rw [membersDepth_cons] at hst
      rcases ns with _ | ⟨n, ns⟩
      · have hdepth : (Frame.object ms m.name :: st).length + m.value.body.depth ≤ maxDepth := by
          rw [List.length_cons]
          omega
        simp only [membersText_cons, afterComma_nil, List.append_nil, List.append_assoc]
        rw [run_head, run_value hm m.value.after hdepth (by decide)]
        simp [deliver, step_close_object]
      · rw [membersText_cons, afterComma_cons, List.append_assoc, List.cons_append,
          run_member_comma hm (by omega),
          ih (fun n hn => hns n (by simp [hn])) (by simp) (by omega)]
        simp

/-! ### Trees -/

/-- Every tree is read to its end, and its value has arrived there. -/
theorem run_tree (t : Tree) : t.Reads := by
  induction t using Tree.induct with
  | null =>
      intro st b _
      refine ⟨deliver .null st, ?_, .inl rfl⟩
      simp [Tree.text, step, startValue, isSpace]
  | bool v =>
      intro st b _
      refine ⟨deliver (.bool v) st, ?_, .inl rfl⟩
      cases v <;> simp [Tree.text, step, startValue, isSpace]
  | number text n reads =>
      intro st b _
      obtain ⟨⟨c, cs, rfl, hc⟩, hcs⟩ := number_spec reads
      refine ⟨⟨st, .number (cs.reverse ++ [c])⟩, ?_, .inr ⟨_, n, rfl, ?_, rfl⟩⟩
      · rw [Tree.text, run_cons, step_number hc, Option.bind_some,
          run_numberChars fun d hd => hcs d (by simp [hd])]
      · simpa using reads
  | string gs =>
      intro st b _
      refine ⟨deliver (.string (glyphsString gs)) st, ?_, .inl rfl⟩
      rw [Tree.text, List.cons_append, run_cons, step_value (by decide) (by decide)]
      simp [startValue, run_append, run_glyphs, step_quote_value, glyphsString]
  | array gap es ih =>
      intro st b hst
      refine ⟨deliver (.array (elementsValue es)) st, ?_, .inl rfl⟩
      simp only [Tree.depth] at hst
      rw [Tree.text, List.cons_append, List.cons_append, run_cons, step_open_array (by omega),
        Option.bind_some, List.append_assoc, run_gap_append (skipsBlanks_value _ _)]
      rcases es with _ | ⟨e, es⟩
      · simp [step_close_empty_array]
      · rw [run_elements ih (by simp) (by omega)]
        simp
  | object gap ms ih =>
      intro st b hst
      refine ⟨deliver (.object (putAll [] (membersValue ms))) st, ?_, .inl rfl⟩
      simp only [Tree.depth] at hst
      rw [Tree.text, List.cons_append, List.cons_append, run_cons, step_open_object (by omega),
        Option.bind_some, List.append_assoc, run_gap_append (skipsBlanks_key _ _ _)]
      rcases ms with _ | ⟨m, ms⟩
      · simp [step_close_empty_object]
      · rw [run_members ih (by simp) (by omega)]
        simp

end CodeDigest.Json
