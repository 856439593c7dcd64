import CodeDigest.Proofs.Json.Interruption
import CodeDigest.Proofs.Reply.Brackets

/-!
# Replies that break off

Where a text breaks off inside a container, `State.cutOff?` says which value it has there.
`read?_repair` says that repair finds exactly this value: the missing brackets, the closing
quotation mark and the comma left out make a text of it, or make no JSON at all.
`extractCleaned_of_run` adds that nothing else is found in such a text: it is no JSON as it stands,
and what is embedded in it is all of it.
-/

namespace CodeDigest.Reply

open Json

variable {s : State} {st : List Frame} {v : Json} {p : List Char}

/-! ## Reading the missing brackets -/

lemma readFrom?_deliver_due (v : Json) (st : List Frame) :
    readFrom? (deliver v st) (st.map closer) = some (collapse v st) := by
  induction st generalizing v with
  | nil => rfl
  | cons f st ih =>
      cases f with
      | array vs => exact ih (.array (vs ++ [v]))
      | object ms key => exact ih (.object (putMember key v ms))

lemma readFrom?_after_due (st : List Frame) :
    readFrom? ⟨st, .after⟩ (st.map closer) = closeAll? st := by
  rcases st with _ | ⟨vs | ⟨ms, key⟩, st⟩
  · rfl
  · exact readFrom?_deliver_due (.array vs) st
  · exact readFrom?_deliver_due (.object ms) st

/-- Behind a complete element or member the missing brackets close what is open. -/
lemma readFrom?_due_of_endsItem (h : EndsItem s st) (hst : st ≠ []) :
    readFrom? s (st.map closer) = closeAll? st := by
  obtain ⟨f, st, rfl⟩ := List.exists_cons_of_ne_nil hst
  have hf : isNumberChar (closer f) = false := by cases f <;> rfl
  rw [← readFrom?_after_due, List.map_cons, readFrom?_cons, h _ hf, ← readFrom?_cons]

/-! ## Repair -/

lemma read?_append_of_run (h : run .initial p = some s) (cs : List Char) :
    read? (p ++ cs) = readFrom? s cs := readFrom?_append_of_run h cs

/-- Repair outside a string literal. -/
lemma repair_of_outside (h : run .initial p = some s) (hs : regionOf s = .outside) :
    repair p = (dropComma p.reverse).reverse ++ dueOf s := by
  rw [repair, foldl_step_of_run h, hs]
  rfl

/-- Repair inside a string literal. -/
lemma repair_of_inside (h : run .initial p = some s) (hs : regionOf s = .inside) :
    repair p = p ++ '"' :: dueOf s := by
  rw [repair, foldl_step_of_run h, hs]
  simp [Repair.finish]

/-- Repair behind a backslash. -/
lemma repair_of_escaped {c : Char} (h : run .initial (p ++ [c]) = some s)
    (hs : regionOf s = .escaped) : repair (p ++ [c]) = p ++ '"' :: dueOf s := by
  rw [repair, foldl_step_of_run h, hs]
  simp [Repair.finish]

/-- What repair makes of a text that breaks off without a comma, outside string literals. -/
lemma read?_repair_of_outside (h : run .initial p = some s) (hs : regionOf s = .outside)
    (hcomma : ¬AfterComma s) : read? (repair p) = readFrom? s (dueOf s) := by
  rw [repair_of_outside h hs, dropComma_eq_self (lastSolid?_ne_comma h hs hcomma),
    List.reverse_reverse, read?_append_of_run h]

/-- What repair makes of a text that breaks off behind a comma. -/
lemma read?_repair_of_afterComma (h : run .initial p = some s) (hst : s.stack ≠ [])
    (hcomma : AfterComma s) : read? (repair p) = closeAll? s.stack := by
  obtain ⟨q, gap, s₀, rfl, hgap, hq, hends⟩ := exists_comma h hcomma
  have hs : regionOf s = .outside := by
    obtain ⟨st, mode⟩ := s
    cases mode <;> first | rfl | exact hcomma.elim
  rw [repair_of_outside h hs, dropComma_comma q hgap, List.reverse_reverse,
    read?_append_of_run hq]
  exact readFrom?_due_of_endsItem hends hst

lemma isNumberChar_closer (f : Frame) : isNumberChar (closer f) = false := by cases f <;> rfl

/-- Behind a backslash in a string the reader was in the same string before it. -/
lemma step_to_escaped {t : State} {c : Char} {role : StringRole} {text : List Char}
    {escape : Escape} (hcoh : Coherent t) (h : step t c = some ⟨st, .string role text escape⟩)
    (hs : regionOf ⟨st, .string role text escape⟩ = .escaped) :
    ∃ escape', t = ⟨st, .string role text escape'⟩ ∧
      (escape = .backslash ∧ escape' = .none ∨
        ∃ high, escape = .lowMarker high ∧ escape' = .lowBackslash high) := by
  have hnext : (regionOf t).next c = .escaped := by
    rcases (moves_of_step hcoh h).1.brackets with
      ⟨-, out, -⟩ | ⟨-, out, -⟩ | ⟨-, -, region⟩
    · rw [hs] at out
      cases out
    · rw [hs] at out
      cases out
    · rw [← region, hs]
  obtain ⟨hin, rfl⟩ := of_next_eq_escaped hnext
  obtain ⟨st', mode⟩ := t
  cases mode with
  | string role' text' escape' =>
      rw [step_string_of_ne (.inr (by decide))] at h
      obtain ⟨r, hr, heq⟩ := Option.map_eq_some_iff.mp h
      simp only [State.mk.injEq, Mode.string.injEq] at heq
      obtain ⟨rfl, rfl, rfl, rfl⟩ := heq
      cases escape' with
      | none =>
          simp only [stringStep, beq_self_eq_true, if_true, Option.some.injEq] at hr
          subst hr
          exact ⟨_, rfl, .inl ⟨rfl, rfl⟩⟩
      | backslash => cases hin
      | code high left value => simp [stringStep, hexValue?] at hr
      | lowBackslash high =>
          simp only [stringStep, beq_self_eq_true, if_true, Option.some.injEq] at hr
          subst hr
          exact ⟨_, rfl, .inr ⟨high, rfl, rfl⟩⟩
      | lowMarker high => cases hin
  | _ => cases hin

/-- A string that is closed where it breaks off is a value, or a key that lacks its value. -/
lemma readFrom?_closed_string (f : Frame) (st : List Frame) (role : StringRole) (text : List Char) :
    readFrom? ⟨f :: st, .string role text .none⟩ ('"' :: (f :: st).map closer)
      = State.cutOff? ⟨f :: st, .string role text .none⟩ := by
  cases role with
  | key ms => cases f <;> rfl
  | value =>
      rw [readFrom?_cons, step_quote_value, Option.bind_some, readFrom?_deliver_due]
      rfl

/-- A bracket never goes on with a literal. -/
lemma read?_repair_of_literal {f : Frame} {rest : List Char} {meaning : Json}
    (h : run .initial p = some ⟨f :: st, .literal rest meaning⟩) :
    read? (repair p) = State.cutOff? ⟨f :: st, .literal rest meaning⟩ := by
  have hcoh : ∀ r ∈ rest, r.isLower = true := coherent_of_run h
  have hne : ∀ r ∈ rest, r ≠ closer f := by
    rintro r hr rfl
    have hlower := hcoh _ hr
    cases f <;> simp [closer] at hlower
  rw [read?_repair_of_outside h rfl (by simp [AfterComma])]
  rcases rest with _ | ⟨r, _ | ⟨r', rest⟩⟩
  · rfl
  · simp [dueOf, readFrom?_cons, step, hne, State.cutOff?]
  · simp [dueOf, readFrom?_cons, step, hne, State.cutOff?]

/-- A bracket ends a number, if it is one. -/
lemma read?_repair_of_number {f : Frame} {text : List Char}
    (h : run .initial p = some ⟨f :: st, .number text⟩) :
    read? (repair p) = State.cutOff? ⟨f :: st, .number text⟩ := by
  rw [read?_repair_of_outside h rfl (by simp [AfterComma])]
  cases hn : Number.ofText? text.reverse with
  | none => simp [dueOf, readFrom?_cons, step, isNumberChar_closer, hn, State.cutOff?]
  | some n =>
      have harr : Arrived (.number n) (f :: st) ⟨f :: st, .number text⟩ :=
        .inr ⟨text, n, rfl, hn, rfl⟩
      have hhead : ∀ c ∈ ((f :: st).map closer).head?, isNumberChar c = false := by
        simp [isNumberChar_closer]
      rw [dueOf, readFrom?_of_arrived harr hhead, readFrom?_deliver_due]
      simp [State.cutOff?, hn]

/-- A string is closed where it breaks off, or in front of a backslash that has nothing behind
it. -/
lemma read?_repair_of_string {f : Frame} {role : StringRole} {text : List Char} {escape : Escape}
    (h : run .initial p = some ⟨f :: st, .string role text escape⟩) :
    read? (repair p) = State.cutOff? ⟨f :: st, .string role text escape⟩ := by
  cases hs : regionOf ⟨f :: st, .string role text escape⟩ with
  | outside => cases escape <;> cases hs
  | inside =>
      have hclosed : read? (repair p)
          = readFrom? ⟨f :: st, .string role text escape⟩ ('"' :: (f :: st).map closer) := by
        rw [repair_of_inside h hs, read?_append_of_run h]
        rfl
      rw [hclosed]
      cases escape with
      | none => exact readFrom?_closed_string f st role text
      | backslash => cases hs
      | code high left value => cases role <;> rfl
      | lowBackslash high => cases role <;> rfl
      | lowMarker high => cases hs
  | escaped =>
      rcases List.eq_nil_or_concat' p with rfl | ⟨q, c, rfl⟩
      · cases h
      obtain ⟨t, ht, hstep⟩ := run_concat.mp h
      obtain ⟨escape', rfl, hescape⟩ := step_to_escaped (coherent_of_run ht) hstep hs
      rw [repair_of_escaped h hs, read?_append_of_run ht]
      rcases hescape with ⟨rfl, rfl⟩ | ⟨high, rfl, rfl⟩
      · cases role <;> exact readFrom?_closed_string f st _ text
      · cases role <;> rfl

/-- **Repair finds the value of a text that breaks off, and no other.** -/
theorem read?_repair (h : run .initial p = some s) (hst : s.stack ≠ []) :
    read? (repair p) = s.cutOff? := by
  have hcoh := coherent_of_run h
  obtain ⟨st, mode⟩ := s
  obtain ⟨f, st, rfl⟩ := List.exists_cons_of_ne_nil hst
  cases mode with
  | value b =>
      cases f with
      | array vs =>
          cases b with
          | false => exact read?_repair_of_afterComma h hst trivial
          | true =>
              rw [read?_repair_of_outside h rfl (by simp [AfterComma])]
              exact readFrom?_deliver_due (.array vs) st
      | object ms key =>
          cases b with
          | false =>
              rw [read?_repair_of_outside h rfl (by simp [AfterComma])]
              rfl
          | true =>
              obtain ⟨_, _, hcoh⟩ := hcoh
              cases hcoh
  | key ms b =>
      cases f with
      | array vs => exact hcoh.elim
      | object ns key =>
          obtain rfl : ms = ns := hcoh
          cases b with
          | false => exact read?_repair_of_afterComma h hst trivial
          | true =>
              rw [read?_repair_of_outside h rfl (by simp [AfterComma])]
              exact readFrom?_deliver_due (.object ms) st
  | colon ms key =>
      rw [read?_repair_of_outside h rfl (by simp [AfterComma])]
      cases f <;> rfl
  | literal rest meaning => exact read?_repair_of_literal h
  | number text => exact read?_repair_of_number h
  | string role text escape => exact read?_repair_of_string h
  | after =>
      rw [read?_repair_of_outside h rfl (by simp [AfterComma])]
      exact readFrom?_after_due _
  | done v => exact absurd hcoh hst

/-! ## Extraction -/

/-- A text that breaks off inside a container is no JSON. -/
lemma read?_eq_none_of_run (h : run .initial p = some s) (hst : s.stack ≠ []) : read? p = none := by
  have hcoh := coherent_of_run h
  obtain ⟨st, mode⟩ := s
  obtain ⟨f, st, rfl⟩ := List.exists_cons_of_ne_nil hst
  rw [read?, h, Option.bind_some]
  cases mode with
  | done v => exact absurd hcoh hst
  | _ => rfl

/-- What is embedded in a text that starts with a container is read at least as far as the container
stays open. -/
lemma embedded?_append_of_run {c : Char} {cs : List Char} (hc : (closerOf? c).isSome = true)
    (h : run .initial (c :: cs) = some s) (hst : s.stack ≠ []) (rest : List Char) :
    embedded? (c :: cs ++ rest)
      = some (c :: cs ++ upToCloser s.stack.length (regionOf s) rest) := by
  obtain ⟨t, ht, hrun⟩ := Option.bind_eq_some_iff.mp h
  have hbody : upToCloser 0 .outside (c :: (cs ++ rest))
      = c :: cs ++ upToCloser s.stack.length (regionOf s) rest := by
    rcases (moves_of_step (by trivial) ht).1.brackets with
      ⟨-, out, f, -, due⟩ | ⟨-, -, bracket, -⟩ | ⟨plain, -⟩
    · have hlen : t.stack.length = 1 := by
        rw [← length_dueOf t, due]
        rfl
      have hcoh : Coherent t := (moves_of_step (by trivial) ht).2
      have hrest := upToCloser_append_of_run hcoh (List.ne_nil_of_length_eq_add_one hlen) hrun hst
        rest
      rw [hlen, out] at hrest
      rw [upToCloser_opener hc, hrest, List.cons_append]
    · rw [closerOf?_of_isCloser bracket] at hc
      cases hc
    · rw [(plain rfl).2] at hc
      cases hc
  have hdrop :
      (c :: cs ++ rest).dropWhile (fun c => !(closerOf? c).isSome) = c :: (cs ++ rest) := by
    rw [List.cons_append, List.dropWhile_cons_of_neg (by simp [hc])]
  rw [embedded?, hdrop]
  exact congrArg some hbody

/-- What is embedded in a text that starts with a container and breaks off inside it is the text. -/
lemma embedded?_of_run {c : Char} {cs : List Char} (hc : (closerOf? c).isSome = true)
    (h : run .initial (c :: cs) = some s) (hst : s.stack ≠ []) :
    embedded? (c :: cs) = some (c :: cs) := by
  simpa [upToCloser] using embedded?_append_of_run hc h hst []

/-- **What a container that breaks off is taken for** is the value it has there, if any. -/
theorem extractCleaned_of_run {c : Char} {cs : List Char} (hc : (closerOf? c).isSome = true)
    (h : run .initial (c :: cs) = some s) (hst : s.stack ≠ []) :
    (extractCleaned (c :: cs)).toOption = s.cutOff? := by
  have hrepair := read?_repair h hst
  rw [extractCleaned, read?_eq_none_of_run h hst, hrepair, embedded?_of_run hc h hst]
  cases hcut : s.cutOff? with
  | none => simp [hrepair, hcut, Except.toOption]
  | some v => rfl

end CodeDigest.Reply
