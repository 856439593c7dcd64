import CodeDigest.Proofs.Json.Reading

/-!
# The texts that the reader accepts

`read?_eq_some_iff` is the specification of the reader: it accepts exactly the texts of documents,
and gives the value of the document.

One direction is `run_tree`.  The other one takes an accepting run apart from the left: what stands
between here and the point where a value is delivered is the text of a tree (`Splits`).  Behind the
brackets of a container stand shorter texts of the same kind, so the induction is on the length of
the text, and the elements of one container are a second induction inside it.
-/

namespace CodeDigest.Json

variable {st : List Frame} {s : State} {v : Json} {c : Char} {cs : List Char}

/-- The value of a text that is read from a state on. -/
def readFrom? (s : State) (cs : List Char) : Option Json := (run s cs).bind State.result?

lemma readFrom?_nil (s : State) : readFrom? s [] = s.result? := rfl

lemma readFrom?_cons (s : State) (c : Char) (cs : List Char) :
    readFrom? s (c :: cs) = (step s c).bind fun s => readFrom? s cs := by
  rw [readFrom?, run_cons, Option.bind_assoc]
  rfl

lemma readFrom?_append_of_run {s' : State} {xs : List Char} (h : run s xs = some s')
    (ys : List Char) : readFrom? s (xs ++ ys) = readFrom? s' ys := by
  rw [readFrom?, run_append_of_run h]
  rfl

/-- A value that has arrived is as good as delivered, unless the number goes on. -/
lemma readFrom?_of_arrived (h : Arrived v st s) (hcs : ∀ c ∈ cs.head?, isNumberChar c = false) :
    readFrom? s cs = readFrom? (deliver v st) cs := by
  rcases cs with _ | ⟨c, cs⟩
  · rcases h with rfl | ⟨text, n, rfl, hn, rfl⟩
    · rfl
    · rcases st with _ | ⟨_ | _, st⟩ <;> simp [readFrom?_nil, State.result?, deliver, hn]
  · rw [readFrom?, run_of_arrived h (hcs c (by simp))]
    rfl

/-- Where blanks may stand and the text may not end, something follows the blanks. -/
lemma exists_gap (hs : s.SkipsBlanks) (hend : s.result? = none) (h : readFrom? s cs = some v) :
    ∃ (gap : Gap) (c : Char) (rest : List Char), cs = gap.text ++ c :: rest ∧ isSpace c = false ∧
      readFrom? s (c :: rest) = some v := by
  induction cs with
  | nil =>
      rw [readFrom?_nil, hend] at h
      cases h
  | cons c cs ih =>
      cases hc : isSpace c with
      | false => exact ⟨⟨[], by simp⟩, c, cs, rfl, hc, h⟩
      | true =>
          rw [readFrom?_cons, hs c hc] at h
          obtain ⟨gap, d, rest, rfl, hd, hv⟩ := ih h
          exact ⟨⟨c :: gap.text, by simpa using ⟨hc, gap.blank⟩⟩, d, rest, rfl, hd, hv⟩

/-! ## Leaves -/

lemma exists_literal {r : Char} {rs : List Char} {meaning : Json}
    (h : readFrom? ⟨st, .literal (r :: rs) meaning⟩ cs = some v) :
    ∃ rest, cs = r :: rs ++ rest ∧ readFrom? (deliver meaning st) rest = some v := by
  induction rs generalizing r cs with
  | nil =>
      rcases cs with _ | ⟨c, cs⟩
      · cases h
      · rw [readFrom?_cons] at h
        by_cases hc : r = c
        · subst hc
          exact ⟨cs, rfl, by simpa [step] using h⟩
        · simp [step, hc] at h
  | cons r' rs ih =>
      rcases cs with _ | ⟨c, cs⟩
      · cases h
      · rw [readFrom?_cons] at h
        by_cases hc : r = c
        · subst hc
          obtain ⟨rest, rfl, hv⟩ := ih (by simpa [step] using h)
          exact ⟨rest, rfl, hv⟩
        · simp [step, hc] at h

lemma exists_number {text : List Char} (h : readFrom? ⟨st, .number text⟩ cs = some v) :
    ∃ ds rest n, cs = ds ++ rest ∧ Number.ofText? (text.reverse ++ ds) = some n ∧
      readFrom? (deliver (.number n) st) rest = some v := by
  induction cs generalizing text with
  | nil =>
      rw [readFrom?_nil] at h
      rcases st with _ | ⟨f, st⟩
      · obtain ⟨n, hn, rfl⟩ := Option.map_eq_some_iff.mp h
        exact ⟨[], [], n, rfl, by simpa using hn, rfl⟩
      · simp [State.result?] at h
  | cons c cs ih =>
      rw [readFrom?_cons] at h
      cases hc : isNumberChar c with
      | true =>
          have hnext : readFrom? ⟨st, .number (c :: text)⟩ cs = some v := by
            simpa [step, hc] using h
          obtain ⟨ds, rest, n, rfl, hn, hv⟩ := ih hnext
          exact ⟨c :: ds, rest, n, rfl, by simpa using hn, hv⟩
      | false =>
          simp only [step, hc, Bool.false_eq_true, if_false, Option.bind_eq_bind,
            Option.bind_eq_some_iff] at h
          obtain ⟨s, ⟨n, hn, hs⟩, hv⟩ := h
          refine ⟨[], c :: cs, n, rfl, by simpa using hn, ?_⟩
          rw [readFrom?_cons, step_deliver, hs]
          exact hv

/-! ## Strings -/

section Strings

variable {role : StringRole} {text : List Char}

lemma readFrom?_string_of_ne {escape : Escape} (h : escape ≠ .none ∨ c ≠ '"') :
    readFrom? ⟨st, .string role text escape⟩ (c :: cs)
      = (stringStep text escape c).bind fun r => readFrom? ⟨st, .string role r.1 r.2⟩ cs := by
  rw [readFrom?_cons, step_string_of_ne h]
  cases stringStep text escape c <;> rfl

/-- A digit follows where a code is not complete. -/
lemma exists_hexDigit {high : Option Nat} {left value : Nat}
    (h : readFrom? ⟨st, .string role text (.code high (left + 2) value)⟩ cs = some v) :
    ∃ c d rest, cs = c :: rest ∧ hexValue? c = some d ∧
      readFrom? ⟨st, .string role text (.code high (left + 1) (16 * value + d))⟩ rest = some v := by
  rcases cs with _ | ⟨c, rest⟩
  · cases h
  · rw [readFrom?_string_of_ne (.inl (by simp)), Option.bind_eq_some_iff] at h
    obtain ⟨r, hr, hv⟩ := h
    obtain ⟨d, hd, hr⟩ := Option.bind_eq_some_iff.mp hr
    rw [if_neg (by omega), Option.some.injEq] at hr
    subst hr
    exact ⟨c, d, rest, rfl, hd, hv⟩

/-- Four digits follow where a code must stand. -/
lemma exists_hexCode {high : Option Nat}
    (h : readFrom? ⟨st, .string role text (.code high 4 0)⟩ cs = some v) :
    ∃ (code : HexCode) (rest : List Char) (r : List Char × Escape), cs = code.digits ++ rest ∧
      endCode text high code.value = some r ∧
      readFrom? ⟨st, .string role r.1 r.2⟩ rest = some v := by
  obtain ⟨c₁, d₁, _, rfl, h₁, h⟩ := exists_hexDigit h
  obtain ⟨c₂, d₂, _, rfl, h₂, h⟩ := exists_hexDigit h
  obtain ⟨c₃, d₃, cs, rfl, h₃, h⟩ := exists_hexDigit h
  rcases cs with _ | ⟨c₄, rest⟩
  · cases h
  · rw [readFrom?_string_of_ne (.inl (by simp)), Option.bind_eq_some_iff] at h
    obtain ⟨r, hr, hv⟩ := h
    obtain ⟨d₄, h₄, hr⟩ := Option.bind_eq_some_iff.mp hr
    have hcode : hexCode? [c₁, c₂, c₃, c₄]
        = some (16 * (16 * (16 * (16 * 0 + d₁) + d₂) + d₃) + d₄) := by
      simp [hexCode?, h₁, h₂, h₃, h₄]
    exact ⟨⟨_, _, hcode⟩, rest, r, rfl, hr, hv⟩

/-- A character of a certain kind follows where only one kind is possible. -/
lemma exists_lowMarker {high : Nat}
    (h : readFrom? ⟨st, .string role text (.lowBackslash high)⟩ cs = some v) :
    ∃ rest, cs = '\\' :: 'u' :: rest ∧
      readFrom? ⟨st, .string role text (.code (some high) 4 0)⟩ rest = some v := by
  rcases cs with _ | ⟨c, cs⟩
  · cases h
  rw [readFrom?_string_of_ne (.inl (by simp)), Option.bind_eq_some_iff] at h
  obtain ⟨r, hr, h⟩ := h
  by_cases hc : c = '\\'
  · subst hc
    simp only [stringStep, beq_self_eq_true, if_true, Option.some.injEq] at hr
    subst hr
    rcases cs with _ | ⟨d, rest⟩
    · cases h
    rw [readFrom?_string_of_ne (.inl (by simp)), Option.bind_eq_some_iff] at h
    obtain ⟨r, hr, h⟩ := h
    by_cases hd : d = 'u'
    · subst hd
      simp only [stringStep, beq_self_eq_true, if_true, Option.some.injEq] at hr
      subst hr
      exact ⟨rest, rfl, h⟩
    · simp [stringStep, hd] at hr
  · simp [stringStep, hc] at hr

/-- Inside a string stands its end or one more character. -/
lemma exists_glyph (h : readFrom? ⟨st, .string role text .none⟩ cs = some v) :
    (∃ rest, cs = '"' :: rest) ∨
      ∃ (g : Glyph) (rest : List Char), cs = g.text ++ rest ∧
        readFrom? ⟨st, .string role (g.char :: text) .none⟩ rest = some v := by
  rcases cs with _ | ⟨c, cs⟩
  · cases h
  by_cases hq : c = '"'
  · exact .inl ⟨cs, by rw [hq]⟩
  refine .inr ?_
  rw [readFrom?_string_of_ne (.inr hq), Option.bind_eq_some_iff] at h
  obtain ⟨r, hr, h⟩ := h
  by_cases hb : c = '\\'
  · subst hb
    simp only [stringStep, beq_self_eq_true, if_true, Option.some.injEq] at hr
    subst hr
    rcases cs with _ | ⟨e, cs⟩
    · cases h
    rw [readFrom?_string_of_ne (.inl (by simp)), Option.bind_eq_some_iff] at h
    obtain ⟨r, hr, h⟩ := h
    by_cases hu : e = 'u'
    · subst hu
      simp only [stringStep, beq_self_eq_true, if_true, Option.some.injEq] at hr
      subst hr
      obtain ⟨code, rest, r, rfl, hr, h⟩ := exists_hexCode h
      simp only [endCode] at hr
      split at hr
      next hhigh =>
        rw [Option.some.injEq] at hr
        subst hr
        obtain ⟨_, rfl, h⟩ := exists_lowMarker h
        obtain ⟨low, rest, r, rfl, hr, h⟩ := exists_hexCode h
        simp only [endCode] at hr
        split at hr
        next hlow =>
          rw [Option.some.injEq] at hr
          subst hr
          exact ⟨.pair code low hhigh hlow, rest, by simp [Glyph.text], h⟩
        · cases hr
      next hhigh =>
        split at hr
        · cases hr
        next hlow =>
          rw [Option.some.injEq] at hr
          subst hr
          exact ⟨.code code (by simpa using hhigh) (by simpa using hlow), rest, rfl, h⟩
    · simp only [stringStep, beq_iff_eq, hu, if_false, Option.map_eq_some_iff] at hr
      obtain ⟨d, hd, rfl⟩ := hr
      exact ⟨.short e d hd, cs, rfl, h⟩
  · simp only [stringStep, beq_iff_eq, hb, if_false] at hr
    split at hr
    · cases hr
    next hp =>
      rw [Option.some.injEq] at hr
      subst hr
      exact ⟨.plain c hq hb (by omega), cs, rfl, h⟩

lemma Glyph.text_ne_nil (g : Glyph) : g.text ≠ [] := by
  cases g <;> simp [Glyph.text]

/-- A string has an end, and characters in front of it. -/
lemma exists_glyphs (h : readFrom? ⟨st, .string role text .none⟩ cs = some v) :
    ∃ (gs : List Glyph) (rest : List Char), cs = glyphsText gs ++ '"' :: rest ∧
      readFrom? ⟨st, .string role ((gs.map Glyph.char).reverse ++ text) .none⟩ ('"' :: rest)
        = some v := by
  induction hn : cs.length using Nat.strong_induction_on generalizing cs text with
  | _ n ih =>
      rcases exists_glyph h with ⟨rest, rfl⟩ | ⟨g, rest, rfl, hg⟩
      · exact ⟨[], rest, rfl, h⟩
      · have hlt : rest.length < n := by
          have := List.length_pos_iff.mpr g.text_ne_nil
          rw [List.length_append] at hn
          omega
        obtain ⟨gs, rest', rfl, hv⟩ := ih _ hlt hg rfl
        exact ⟨g :: gs, rest', by simp [glyphsText], by simpa using hv⟩

end Strings

/-! ## Containers -/

/-- Where a value is expected, the text goes on with the text of a tree, and what follows is read
from the state in which the value has been delivered. -/
def Splits (cs : List Char) : Prop :=
  ∀ (st : List Frame) (v : Json), st.length ≤ maxDepth → readFrom? ⟨st, .value false⟩ cs = some v →
    ∃ (gap : Gap) (t : Tree) (rest : List Char), cs = gap.text ++ (t.text ++ rest) ∧
      st.length + t.depth ≤ maxDepth ∧ readFrom? (deliver t.value st) rest = some v

/-- Behind an element stands a comma or the end of the array. -/
lemma exists_after_element {vs : List Json} (h : readFrom? ⟨.array vs :: st, .after⟩ cs = some v) :
    ∃ (gap : Gap) (rest : List Char),
      (cs = gap.text ++ ',' :: rest ∧ readFrom? ⟨.array vs :: st, .value false⟩ rest = some v) ∨
      (cs = gap.text ++ ']' :: rest ∧ readFrom? (deliver (.array vs) st) rest = some v) := by
  obtain ⟨gap, c, rest, rfl, hc, h₁⟩ := exists_gap (skipsBlanks_after _) rfl h
  rw [readFrom?_cons] at h₁
  by_cases hcomma : c = ','
  · subst hcomma
    exact ⟨gap, rest, .inl ⟨rfl, h₁⟩⟩
  by_cases hclose : c = ']'
  · subst hclose
    exact ⟨gap, rest, .inr ⟨rfl, h₁⟩⟩
  · simp [step, afterDelivery, afterValue, close, hc, hcomma, hclose] at h₁

/-- The elements of an array, if shorter texts split. -/
lemma exists_elements {n : ℕ} (hsplit : ∀ cs : List Char, cs.length ≤ n → Splits cs)
    (hcs : cs.length ≤ n) {vs : List Json} (hst : st.length + 1 ≤ maxDepth)
    (h : readFrom? ⟨.array vs :: st, .value false⟩ cs = some v) :
    ∃ (es : List (Spaced Tree)) (rest : List Char), es ≠ [] ∧ cs = elementsText es ++ ']' :: rest ∧
      st.length + 1 + elementsDepth es ≤ maxDepth ∧
      readFrom? (deliver (.array (vs ++ elementsValue es)) st) rest = some v := by
  induction hn : cs.length using Nat.strong_induction_on generalizing cs vs with
  | _ m ih =>
      obtain ⟨before, t, rest, rfl, ht, h₁⟩ := hsplit cs hcs _ v (by simpa using hst) h
      rw [List.length_cons] at ht
      obtain ⟨after, rest, ⟨rfl, h₂⟩ | ⟨rfl, h₂⟩⟩ := exists_after_element h₁
      · simp only [List.length_append, List.length_cons] at hn hcs
        obtain ⟨es, rest', hne, rfl, hes, hv⟩ := ih rest.length (by omega) (by omega) h₂ rfl
        obtain ⟨e, es, rfl⟩ := List.exists_cons_of_ne_nil hne
        refine ⟨⟨before, t, after⟩ :: e :: es, rest', by simp, by simp, ?_, by simpa using hv⟩
        simp only [elementsDepth_cons] at hes ⊢
        omega
      · refine ⟨[⟨before, t, after⟩], rest, by simp, by simp, ?_, by simpa using h₂⟩
        simpa [elementsDepth] using ht

/-- Where a key is expected, the text goes on with a key and a colon. -/
lemma exists_head {ms : List (String × Json)} {key : String}
    (h : readFrom? ⟨.object ms key :: st, .key ms false⟩ cs = some v) :
    ∃ (k : Spaced (List Glyph)) (rest : List Char),
      cs = k.before.text ++ '"' :: glyphsText k.body ++ '"' :: k.after.text ++ ':' :: rest ∧
      readFrom? ⟨.object ms (glyphsString k.body) :: st, .value false⟩ rest = some v := by
  obtain ⟨before, c, rest, rfl, hc, h₁⟩ := exists_gap (skipsBlanks_key _ _ _) rfl h
  rw [readFrom?_cons] at h₁
  by_cases hq : c = '"'
  swap
  · simp [step, hc, hq] at h₁
  subst hq
  obtain ⟨gs, rest, rfl, h₂⟩ := exists_glyphs (by simpa [step, hc] using h₁)
  rw [readFrom?_cons, step_quote_key, Option.bind_some, List.append_nil, List.reverse_reverse,
    ← glyphsString] at h₂
  obtain ⟨after, c, rest, rfl, hc, h₃⟩ := exists_gap (skipsBlanks_colon _ _ _) rfl h₂
  rw [readFrom?_cons] at h₃
  by_cases hcolon : c = ':'
  · subst hcolon
    exact ⟨⟨before, gs, after⟩, rest, by simp, h₃⟩
  · simp [step, hc, hcolon] at h₃

/-- Behind a member stands a comma or the end of the object. -/
lemma exists_after_member {ms : List (String × Json)} {key : String}
    (h : readFrom? ⟨.object ms key :: st, .after⟩ cs = some v) :
    ∃ (gap : Gap) (rest : List Char),
      (cs = gap.text ++ ',' :: rest ∧
        readFrom? ⟨.object ms key :: st, .key ms false⟩ rest = some v) ∨
      (cs = gap.text ++ '}' :: rest ∧ readFrom? (deliver (.object ms) st) rest = some v) := by
  obtain ⟨gap, c, rest, rfl, hc, h₁⟩ := exists_gap (skipsBlanks_after _) rfl h
  rw [readFrom?_cons] at h₁
  by_cases hcomma : c = ','
  · subst hcomma
    exact ⟨gap, rest, .inl ⟨rfl, h₁⟩⟩
  by_cases hclose : c = '}'
  · subst hclose
    exact ⟨gap, rest, .inr ⟨rfl, h₁⟩⟩
  · simp [step, afterDelivery, afterValue, close, hc, hcomma, hclose] at h₁

/-- The members of an object, if shorter texts split. -/
lemma exists_members {n : ℕ} (hsplit : ∀ cs : List Char, cs.length ≤ n → Splits cs)
    (hcs : cs.length ≤ n) {ms : List (String × Json)} {key : String}
    (hst : st.length + 1 ≤ maxDepth)
    (h : readFrom? ⟨.object ms key :: st, .key ms false⟩ cs = some v) :
    ∃ (ns : List (Entry Tree)) (rest : List Char), ns ≠ [] ∧ cs = membersText ns ++ '}' :: rest ∧
      st.length + 1 + membersDepth ns ≤ maxDepth ∧
      readFrom? (deliver (.object (putAll ms (membersValue ns))) st) rest = some v := by
  induction hn : cs.length using Nat.strong_induction_on generalizing cs ms key with
  | _ m ih =>
      obtain ⟨k, rest, rfl, h₁⟩ := exists_head h
      simp only [List.length_append, List.length_cons] at hn hcs
      obtain ⟨before, t, rest, rfl, ht, h₂⟩ :=
        hsplit rest (by omega) _ v (by simpa using hst) h₁
      rw [List.length_cons] at ht
      obtain ⟨after, rest, ⟨rfl, h₃⟩ | ⟨rfl, h₃⟩⟩ := exists_after_member h₂
      · simp only [List.length_append, List.length_cons] at hn hcs
        obtain ⟨ns, rest', hne, rfl, hns, hv⟩ := ih rest.length (by omega) (by omega) h₃ rfl
        obtain ⟨n, ns, rfl⟩ := List.exists_cons_of_ne_nil hne
        refine ⟨⟨k, ⟨before, t, after⟩⟩ :: n :: ns, rest', by simp, by simp [Entry.head], ?_,
          by simpa [Entry.name] using hv⟩
        simp only [membersDepth_cons] at hns ⊢
        omega
      · refine ⟨[⟨k, ⟨before, t, after⟩⟩], rest, by simp, by simp [Entry.head], ?_,
          by simpa [Entry.name] using h₃⟩
        simpa [membersDepth] using ht

/-- What follows the bracket that opens an array, if shorter texts split. -/
lemma exists_array {n : ℕ} (hsplit : ∀ cs : List Char, cs.length ≤ n → Splits cs)
    (hcs : cs.length ≤ n) (hst : st.length + 1 ≤ maxDepth)
    (h : readFrom? ⟨.array [] :: st, .value true⟩ cs = some v) :
    ∃ (gap : Gap) (es : List (Spaced Tree)) (rest : List Char),
      cs = gap.text ++ (elementsText es ++ ']' :: rest) ∧
      st.length + 1 + elementsDepth es ≤ maxDepth ∧
      readFrom? (deliver (.array (elementsValue es)) st) rest = some v := by
  obtain ⟨gap, c, rest, rfl, hc, h₁⟩ := exists_gap (skipsBlanks_value _ _) rfl h
  by_cases hclose : c = ']'
  · subst hclose
    rw [readFrom?_cons, step_close_empty_array, Option.bind_some] at h₁
    exact ⟨gap, [], rest, by simp, by simpa [elementsDepth] using hst, by simpa using h₁⟩
  · -- an array that does not end at once goes on like one with elements to come
    rw [readFrom?_cons, step_value hc hclose, ← step_value (b := false) hc hclose,
      ← readFrom?_cons] at h₁
    have hlen : (c :: rest).length ≤ n := by
      rw [List.length_append] at hcs
      omega
    obtain ⟨es, rest', -, hes, hdepth, hv⟩ := exists_elements hsplit hlen hst h₁
    exact ⟨gap, es, rest', by rw [hes], hdepth, by simpa using hv⟩

/-- What follows the brace that opens an object, if shorter texts split. -/
lemma exists_object {n : ℕ} (hsplit : ∀ cs : List Char, cs.length ≤ n → Splits cs)
    (hcs : cs.length ≤ n) (hst : st.length + 1 ≤ maxDepth)
    (h : readFrom? ⟨.object [] "" :: st, .key [] true⟩ cs = some v) :
    ∃ (gap : Gap) (ns : List (Entry Tree)) (rest : List Char),
      cs = gap.text ++ (membersText ns ++ '}' :: rest) ∧
      st.length + 1 + membersDepth ns ≤ maxDepth ∧
      readFrom? (deliver (.object (putAll [] (membersValue ns))) st) rest = some v := by
  obtain ⟨gap, c, rest, rfl, hc, h₁⟩ := exists_gap (skipsBlanks_key _ _ _) rfl h
  by_cases hclose : c = '}'
  · subst hclose
    rw [readFrom?_cons, step_close_empty_object, Option.bind_some] at h₁
    exact ⟨gap, [], rest, by simp, by simpa [membersDepth] using hst, by simpa using h₁⟩
  · have hstep : step ⟨.object [] "" :: st, .key [] true⟩ c
        = step ⟨.object [] "" :: st, .key [] false⟩ c := by
      simp [step, hc, hclose]
    rw [readFrom?_cons, hstep, ← readFrom?_cons] at h₁
    have hlen : (c :: rest).length ≤ n := by
      rw [List.length_append] at hcs
      omega
    obtain ⟨ns, rest', -, hns, hdepth, hv⟩ := exists_members hsplit hlen hst h₁
    exact ⟨gap, ns, rest', by rw [hns], hdepth, hv⟩

/-! ## Texts -/

/-- What a character that starts a value leads to. -/
lemma startValue_cases {s : State} (h : startValue st c = some s) :
    (c = '[' ∧ st.length < maxDepth ∧ s = ⟨.array [] :: st, .value true⟩) ∨
    (c = '{' ∧ st.length < maxDepth ∧ s = ⟨.object [] "" :: st, .key [] true⟩) ∨
    (c = '"' ∧ s = ⟨st, .string .value [] .none⟩) ∨
    (c = 'n' ∧ s = ⟨st, .literal ['u', 'l', 'l'] .null⟩) ∨
    (c = 't' ∧ s = ⟨st, .literal ['r', 'u', 'e'] (.bool true)⟩) ∨
    (c = 'f' ∧ s = ⟨st, .literal ['a', 'l', 's', 'e'] (.bool false)⟩) ∨
    ((c = '-' ∨ c.isDigit = true) ∧ s = ⟨st, .number [c]⟩) := by
  simp only [startValue, beq_iff_eq, Bool.or_eq_true] at h
  split_ifs at h <;> simp_all

/-- Every text splits. -/
lemma splits (cs : List Char) : Splits cs := by
  induction hn : cs.length using Nat.strong_induction_on generalizing cs with
  | _ n ih =>
      intro st v hst h
      obtain ⟨gap, c, rest, rfl, hc, h₁⟩ := exists_gap (skipsBlanks_value _ _) rfl h
      simp only [List.length_append, List.length_cons] at hn
      have hsplit : ∀ cs : List Char, cs.length ≤ rest.length → Splits cs :=
        fun cs hcs => ih cs.length (by omega) cs rfl
      rw [readFrom?_cons, Option.bind_eq_some_iff] at h₁
      obtain ⟨s, hs, h₂⟩ := h₁
      have hclose : c ≠ ']' := by
        rintro rfl
        simp [step, hc, startValue] at hs
      rw [step_value hc hclose] at hs
      rcases startValue_cases hs with ⟨rfl, hlt, rfl⟩ | ⟨rfl, hlt, rfl⟩ | ⟨rfl, rfl⟩ | ⟨rfl, rfl⟩ |
        ⟨rfl, rfl⟩ | ⟨rfl, rfl⟩ | ⟨hnum, rfl⟩
      · obtain ⟨g, es, rest, rfl, hdepth, hv⟩ := exists_array hsplit le_rfl hlt h₂
        exact ⟨gap, .array g es, rest, by simp [Tree.text], by simp [Tree.depth]; omega, hv⟩
      · obtain ⟨g, ms, rest, rfl, hdepth, hv⟩ := exists_object hsplit le_rfl hlt h₂
        exact ⟨gap, .object g ms, rest, by simp [Tree.text], by simp [Tree.depth]; omega, hv⟩
      · obtain ⟨gs, rest, rfl, h₃⟩ := exists_glyphs h₂
        rw [readFrom?_cons, step_quote_value, List.append_nil, List.reverse_reverse,
          ← glyphsString] at h₃
        exact ⟨gap, .string gs, rest, by simp [Tree.text], by simpa [Tree.depth] using hst, h₃⟩
      · obtain ⟨rest, rfl, h₃⟩ := exists_literal h₂
        exact ⟨gap, .null, rest, by simp [Tree.text], by simpa [Tree.depth] using hst, h₃⟩
      · obtain ⟨rest, rfl, h₃⟩ := exists_literal h₂
        exact ⟨gap, .bool true, rest, by simp [Tree.text], by simpa [Tree.depth] using hst, h₃⟩
      · obtain ⟨rest, rfl, h₃⟩ := exists_literal h₂
        exact ⟨gap, .bool false, rest, by simp [Tree.text], by simpa [Tree.depth] using hst, h₃⟩
      · obtain ⟨ds, rest, m, rfl, hm, h₃⟩ := exists_number h₂
        exact ⟨gap, .number (c :: ds) m (by simpa using hm), rest, by simp [Tree.text],
          by simpa [Tree.depth] using hst, h₃⟩

lemma readFrom?_done {w : Json} (h : readFrom? ⟨st, .done w⟩ cs = some v) :
    v = w ∧ ∀ c ∈ cs, isSpace c = true := by
  induction cs with
  | nil =>
      rw [readFrom?_nil] at h
      exact ⟨(Option.some.inj h).symm, by simp⟩
  | cons c cs ih =>
      rw [readFrom?_cons] at h
      cases hc : isSpace c with
      | true =>
          rw [skipsBlanks_done st w c hc, Option.bind_some] at h
          obtain ⟨hv, hcs⟩ := ih h
          exact ⟨hv, by simpa using ⟨hc, hcs⟩⟩
      | false => simp [step, afterDelivery, hc] at h

/-- A document is read, and its value is that of its tree. -/
lemma read?_text (d : Document) : read? d.text = some d.root.value := by
  obtain ⟨s, hs, harr⟩ := run_tree d.root [] false (by simpa using d.shallow)
  have htrail : ∀ c ∈ d.trail.text.head?, isNumberChar c = false := fun c hc =>
    (ne_of_isSpace (d.trail.blank c (List.mem_of_mem_head? hc))).1
  have hread : readFrom? .initial d.text = readFrom? s d.trail.text := by
    rw [Document.text, List.append_assoc, State.initial,
      readFrom?_append_of_run (run_gap (skipsBlanks_value [] false) d.lead),
      readFrom?_append_of_run hs]
  calc read? d.text = readFrom? s d.trail.text := hread
    _ = readFrom? (deliver d.root.value []) d.trail.text := readFrom?_of_arrived harr htrail
    _ = some d.root.value := by
      rw [readFrom?, run_gap (skipsBlanks_deliver _ _)]
      rfl

/-- **The reader accepts exactly the texts of documents.**  The value of an accepted text is that of
the tree it spells. -/
theorem read?_eq_some_iff : read? cs = some v ↔ ∃ d : Document, d.text = cs ∧ d.root.value = v := by
  constructor
  · intro h
    obtain ⟨lead, t, rest, rfl, ht, hv⟩ := splits cs [] v (by simp) h
    obtain ⟨rfl, hrest⟩ := readFrom?_done hv
    exact ⟨⟨lead, t, ⟨rest, hrest⟩, by simpa using ht⟩, by simp [Document.text], rfl⟩
  · rintro ⟨d, rfl, rfl⟩
    exact read?_text d

end CodeDigest.Json
