import Mathlib.Data.List.Infix
import Mathlib.Data.List.TakeWhile
import CodeDigest.Proofs.Java.Reach

/-!
# Blanks and comments

`Layout` is what may stand in front of a token, and `Lexes` relates a text to its tokens, each with
the layout in front of it.  The tokenizer reads just what is related (`tokenize?_eq_some_iff`),
which does away with its counters.  What stands in front of a token may be any other layout that is
not empty (`Lexes.exists_relaid`): by `step_stop` the tokens before it do not reach over it.
-/

namespace CodeDigest.Java

/-- Blanks and comments, each comment with its end. -/
inductive Layout : List Char → Prop
  | nothing : Layout []
  | blank {c : Char} {cs : List Char} (h : isBlank c = true) (rest : Layout cs) : Layout (c :: cs)
  | lineComment {text cs : List Char} (h : '\n' ∉ text) (rest : Layout cs) :
      Layout ('/' :: '/' :: (text ++ '\n' :: cs))
  | blockComment {text cs : List Char} (h : ¬ ['*', '/'] <:+: text) (rest : Layout cs) :
      Layout ('/' :: '*' :: (text ++ '*' :: '/' :: cs))

/-- A text that starts with no layout. -/
structure Solid (cs : List Char) : Prop where
  blank : ∀ c rest, cs = c :: rest → isBlank c = false
  line : ¬ ['/', '/'] <+: cs
  block : ¬ ['/', '*'] <+: cs

variable {c d : Char} {cs p r r' L text : List Char} {taken count count' n : Nat}

/-! ## Layout -/

lemma Layout.isStop_head (h : Layout (d :: cs)) : IsStop d := by
  cases h with
  | blank h => exact .inl h
  | lineComment | blockComment => exact .inr rfl

lemma Layout.dropWhile (h : Layout L) : Layout (L.dropWhile isBlank) := by
  induction h with
  | nothing => exact .nothing
  | blank hc _ ih => rwa [List.dropWhile_cons_of_pos hc]
  | lineComment hline rest => exact .lineComment hline rest
  | blockComment hblock rest => exact .blockComment hblock rest

lemma Layout.blanks {run : List Char} (hrun : ∀ c ∈ run, isBlank c = true) (h : Layout L) :
    Layout (run ++ L) := by
  induction run with
  | nil => exact h
  | cons c run ih =>
      obtain ⟨hc, hrun⟩ := List.forall_mem_cons.mp hrun
      exact .blank hc (ih hrun)

lemma solid_nil : Solid [] := ⟨by simp, by simp, by simp⟩

lemma not_solid (h : ¬ Solid cs) : (∃ c rest, cs = c :: rest ∧ isBlank c = true) ∨
    (∃ rest, cs = '/' :: '/' :: rest) ∨ ∃ rest, cs = '/' :: '*' :: rest := by
  by_contra hnone
  rw [not_or, not_or] at hnone
  obtain ⟨hblank, hline, hblock⟩ := hnone
  refine h ⟨fun c rest heq => ?_, fun ⟨rest, heq⟩ => hline ⟨rest, heq.symm⟩,
    fun ⟨rest, heq⟩ => hblock ⟨rest, heq.symm⟩⟩
  exact Bool.eq_false_iff.mpr fun hc => hblank ⟨c, rest, heq, hc⟩

/-- A solid text is still solid with a stop put in behind some of it. -/
lemma Solid.stop (h : Solid (p ++ r)) (hp : p ≠ []) (hd : IsStop d) (hslash : p = ['/'] → d ≠ '/') :
    Solid (p ++ d :: r') := by
  rcases p with _ | ⟨c, _ | ⟨c', p⟩⟩
  · exact absurd rfl hp
  · have hstar : d ≠ '*' := fun heq => absurd (mem_stops hd) (by rw [heq]; decide)
    refine ⟨fun x rest heq => ?_, fun hline => ?_, fun hblock => ?_⟩
    · exact h.blank x r (by rw [← (List.cons.inj heq).1]; rfl)
    · obtain ⟨hc, hd, -⟩ : '/' = c ∧ '/' = d ∧ True := by simpa using hline
      exact hslash (by rw [hc]) hd.symm
    · obtain ⟨-, hd, -⟩ : '/' = c ∧ '*' = d ∧ True := by simpa using hblock
      exact hstar hd.symm
  · refine ⟨fun x rest heq => ?_, fun hline => h.line ?_, fun hblock => h.block ?_⟩
    · exact h.blank x _ (by rw [← (List.cons.inj heq).1]; rfl)
    · simpa using hline
    · simpa using hblock

/-! ## Comments -/

lemma blockCommentLength?_eq_some_iff : blockCommentLength? taken cs = some n ↔
    ∃ text rest, cs = text ++ '*' :: '/' :: rest ∧ ¬ ['*', '/'] <:+: text ∧
      n = taken + text.length + 2 := by
  fun_induction blockCommentLength? taken cs with
  | case1 taken rest =>
      constructor
      · intro h
        exact ⟨[], rest, rfl, by simp, by simpa [eq_comm] using h⟩
      · rintro ⟨text, rest', heq, htext, rfl⟩
        rcases text with _ | ⟨x, _ | ⟨y, text⟩⟩
        · rfl
        · simp at heq
        · obtain ⟨rfl, rfl, -⟩ : '*' = x ∧ '/' = y ∧ rest = text ++ '*' :: '/' :: rest' := by
            simpa using heq
          exact absurd ⟨[], text, rfl⟩ htext
  | case2 => simp
  | case3 taken c rest hclose ih =>
      rw [ih]
      constructor
      · rintro ⟨text, rest', rfl, htext, rfl⟩
        refine ⟨c :: text, rest', rfl, ?_, by simp only [List.length_cons]; omega⟩
        rw [List.infix_cons_iff, not_or]
        refine ⟨fun hbegins => ?_, htext⟩
        obtain ⟨rfl, x, rfl⟩ : '*' = c ∧ ∃ x, text = '/' :: x := by
          obtain ⟨heq, x, hx⟩ := List.cons_prefix_cons.mp hbegins
          exact ⟨heq, x, hx.symm⟩
        exact hclose _ rfl rfl
      · rintro ⟨_ | ⟨x, text⟩, rest', heq, htext, rfl⟩
        · obtain ⟨rfl, rfl⟩ := List.cons.inj heq
          exact absurd rfl (hclose rest' rfl)
        · obtain ⟨rfl, rfl⟩ := List.cons.inj heq
          exact ⟨text, rest', rfl, fun h => htext (h.trans (List.suffix_cons _ _).isInfix),
            by simp only [List.length_cons]; omega⟩

/-! ## What is skipped -/

lemma triviaLength?_solid (h : Solid cs) : triviaLength? taken count cs = some taken := by
  unfold triviaLength?
  split
  · rfl
  · split
    · exact absurd ⟨_, rfl⟩ h.line
    · exact absurd ⟨_, rfl⟩ h.block
    · rw [if_neg (by simp [h.blank _ _ rfl])]
    · rfl

lemma triviaLength?_line (h : '\n' ∉ text) : triviaLength? taken (count + 1)
    ('/' :: '/' :: (text ++ '\n' :: cs))
      = triviaLength? (taken + (2 + text.length)) count ('\n' :: cs) := by
  have htext : ∀ c ∈ text, (c != '\n') = true := fun c hc =>
    bne_iff_ne.mpr (ne_of_mem_of_not_mem hc h)
  have htake : (text ++ '\n' :: cs).takeWhile (· != '\n') = text := by
    rw [List.takeWhile_append_of_pos htext]
    simp
  have hdrop : ('/' :: '/' :: (text ++ '\n' :: cs)).drop (2 + text.length) = '\n' :: cs := by
    rw [Nat.add_comm]
    exact List.drop_left
  rw [triviaLength?, htake, hdrop]

lemma triviaLength?_unclosed (h : '\n' ∉ text) : triviaLength? taken (count + 1)
    ('/' :: '/' :: text) = some (taken + (2 + text.length)) := by
  have htext : ∀ c ∈ text, (c != '\n') = true := fun c hc =>
    bne_iff_ne.mpr (ne_of_mem_of_not_mem hc h)
  have hdrop : ('/' :: '/' :: text).drop (2 + text.length) = [] :=
    List.drop_eq_nil_of_le (by simp only [List.length_cons]; omega)
  rw [triviaLength?, List.takeWhile_eq_self_iff.mpr htext, hdrop]
  exact triviaLength?_solid solid_nil

lemma triviaLength?_block (h : ¬ ['*', '/'] <:+: text) : triviaLength? taken (count + 1)
    ('/' :: '*' :: (text ++ '*' :: '/' :: cs))
      = triviaLength? (taken + (text.length + 4)) count cs := by
  have hlength : blockCommentLength? 2 (text ++ '*' :: '/' :: cs) = some (text.length + 4) :=
    blockCommentLength?_eq_some_iff.mpr ⟨text, cs, rfl, h, by omega⟩
  have hdrop : ('/' :: '*' :: (text ++ '*' :: '/' :: cs)).drop (text.length + 4) = cs := by
    have happend : '/' :: '*' :: (text ++ '*' :: '/' :: cs)
        = ('/' :: '*' :: (text ++ ['*', '/'])) ++ cs := by simp
    rw [happend]
    exact List.drop_left' (by simp)
  rw [triviaLength?, hlength]
  simp only [hdrop]

lemma triviaLength?_blank (h : isBlank c = true) : triviaLength? taken (count + 1) (c :: cs)
    = triviaLength? (taken + (1 + (cs.takeWhile isBlank).length)) count (cs.dropWhile isBlank) := by
  have hslash : c ≠ '/' := by
    rintro rfl
    exact absurd h (by decide)
  have hdrop : (cs.takeWhile isBlank ++ cs.dropWhile isBlank).drop (cs.takeWhile isBlank).length
      = cs.dropWhile isBlank := List.drop_left
  rw [List.takeWhile_append_dropWhile] at hdrop
  rw [triviaLength?]
  · simp [h, Nat.add_comm 1, hdrop]
  · simp [hslash]
  · simp [hslash]

lemma Solid.takeWhile (h : Solid cs) : cs.takeWhile isBlank = [] := by
  cases cs with
  | nil => rfl
  | cons c cs => simp [h.blank c cs rfl]

lemma Solid.dropWhile (h : Solid cs) : cs.dropWhile isBlank = cs := by
  cases cs with
  | nil => rfl
  | cons c cs => simp [h.blank c cs rfl]

/-- Layout in front of a solid text is skipped. -/
lemma triviaLength?_of_layout (hL : Layout L) (hcs : Solid cs) (hcount : L.length < count) :
    triviaLength? taken count (L ++ cs) = some (taken + L.length) := by
  induction count generalizing taken L with
  | zero => omega
  | succ count ih =>
      cases hL with
      | nothing => exact triviaLength?_solid hcs
      | @blank c L hc hL =>
          have htake : (L ++ cs).takeWhile isBlank = L.takeWhile isBlank := by
            rw [List.takeWhile_append, hcs.takeWhile, List.append_nil]
            split
            · next hall => exact ((List.takeWhile_prefix _).eq_of_length hall).symm
            · rfl
          have hdrop : (L ++ cs).dropWhile isBlank = L.dropWhile isBlank ++ cs := by
            rw [List.dropWhile_append, hcs.dropWhile]
            split
            · next hnone => simp [List.isEmpty_iff.mp hnone]
            · rfl
          have hlength :=
            congrArg List.length (List.takeWhile_append_dropWhile (p := isBlank) (l := L))
          rw [List.length_append] at hlength
          simp only [List.length_cons] at hcount ⊢
          rw [List.cons_append, triviaLength?_blank hc, htake, hdrop, ih hL.dropWhile (by omega)]
          exact congrArg some (by omega)
      | @lineComment text L hline hL =>
          simp only [List.cons_append, List.append_assoc, triviaLength?_line hline,
            List.length_cons, List.length_append] at hcount ⊢
          rw [← List.cons_append,
            ih (.blank (by decide) hL) (by simp only [List.length_cons]; omega)]
          exact congrArg some (by simp only [List.length_cons]; omega)
      | @blockComment text L hblock hL =>
          simp only [List.cons_append, List.append_assoc, triviaLength?_block hblock,
            List.length_cons, List.length_append] at hcount ⊢
          rw [ih hL (by omega)]
          exact congrArg some (by omega)

/-- What is skipped is layout, unless it goes on to the end of the text. -/
lemma exists_layout (h : triviaLength? taken count cs = some n) (hcount : cs.length < count) :
    ∃ L rest, cs = L ++ rest ∧ n = taken + L.length ∧ Solid rest ∧ (rest ≠ [] → Layout L) := by
  induction count generalizing taken cs with
  | zero => omega
  | succ count ih =>
      by_cases hsolid : Solid cs
      · rw [triviaLength?_solid hsolid] at h
        exact ⟨[], cs, rfl, (Option.some.inj h).symm, hsolid, fun _ => .nothing⟩
      rcases not_solid hsolid with ⟨c, rest, rfl, hc⟩ | ⟨rest, rfl⟩ | ⟨rest, rfl⟩
      · have hsplit := List.takeWhile_append_dropWhile (p := isBlank) (l := rest)
        have hlength := congrArg List.length hsplit
        rw [List.length_append] at hlength
        rw [triviaLength?_blank hc] at h
        simp only [List.length_cons] at hcount
        obtain ⟨L, rest', heq, rfl, hrest, hL⟩ := ih h (by omega)
        refine ⟨c :: (rest.takeWhile isBlank ++ L), rest', ?_, ?_, hrest, fun hne => ?_⟩
        · rw [List.cons_append, List.append_assoc, ← heq, hsplit]
        · simp only [List.length_cons, List.length_append]
          omega
        · refine .blank hc (.blanks (fun x hx => List.mem_takeWhile_imp hx) (hL hne))
      · by_cases hline : '\n' ∈ rest
        · obtain ⟨text, more, rfl, htext⟩ := List.eq_append_cons_of_mem hline
          rw [triviaLength?_line htext] at h
          simp only [List.length_cons, List.length_append] at hcount
          obtain ⟨L, rest', heq, rfl, hrest, hL⟩ := ih h (by simp only [List.length_cons]; omega)
          cases L with
          | nil =>
              -- the newline would be solid
              exact absurd (hrest.blank '\n' more heq.symm) (by decide)
          | cons c L =>
              obtain ⟨rfl, rfl⟩ := List.cons.inj heq
              refine ⟨'/' :: '/' :: (text ++ '\n' :: L), rest', by simp, ?_, hrest, fun hne => ?_⟩
              · simp only [List.length_cons, List.length_append]
                omega
              · cases hL hne with
                | blank _ hL => exact .lineComment htext hL
        · rw [triviaLength?_unclosed hline] at h
          exact ⟨'/' :: '/' :: rest, [], by simp,
            by simp only [List.length_cons, ← Option.some.inj h]; omega, solid_nil, by simp⟩
      · cases hlength : blockCommentLength? 2 rest with
        | none => simp [triviaLength?, hlength] at h
        | some m =>
            obtain ⟨text, more, rfl, htext, -⟩ := blockCommentLength?_eq_some_iff.mp hlength
            rw [triviaLength?_block htext] at h
            simp only [List.length_cons, List.length_append] at hcount
            obtain ⟨L, rest', rfl, rfl, hrest, hL⟩ := ih h (by omega)
            refine ⟨'/' :: '*' :: (text ++ '*' :: '/' :: L), rest', by simp, ?_, hrest,
              fun hne => .blockComment htext (hL hne)⟩
            simp only [List.length_cons, List.length_append]
            omega

/-- How many blanks and comments are allowed does not matter when there are enough. -/
lemma triviaLength?_count (h : cs.length < count) (h' : cs.length < count') :
    triviaLength? taken count cs = triviaLength? taken count' cs := by
  induction count generalizing taken count' cs with
  | zero => omega
  | succ count ih =>
      obtain ⟨count', rfl⟩ : ∃ k, count' = k + 1 := Nat.exists_eq_add_one.mpr (by omega)
      by_cases hsolid : Solid cs
      · rw [triviaLength?_solid hsolid, triviaLength?_solid hsolid]
      rcases not_solid hsolid with ⟨c, rest, rfl, hc⟩ | ⟨rest, rfl⟩ | ⟨rest, rfl⟩
      all_goals simp only [List.length_cons] at h h'
      · have hlength := List.length_dropWhile_le isBlank rest
        rw [triviaLength?_blank hc, triviaLength?_blank hc]
        exact ih (by omega) (by omega)
      · by_cases hline : '\n' ∈ rest
        · obtain ⟨text, more, rfl, htext⟩ := List.eq_append_cons_of_mem hline
          rw [triviaLength?_line htext, triviaLength?_line htext]
          simp only [List.length_append, List.length_cons] at h h'
          exact ih (by simp only [List.length_cons]; omega) (by simp only [List.length_cons]; omega)
        · rw [triviaLength?_unclosed hline, triviaLength?_unclosed hline]
      · cases hlength : blockCommentLength? 2 rest with
        | none => simp [triviaLength?, hlength]
        | some m =>
            obtain ⟨text, more, rfl, htext, -⟩ := blockCommentLength?_eq_some_iff.mp hlength
            rw [triviaLength?_block htext, triviaLength?_block htext]
            simp only [List.length_append, List.length_cons] at h h'
            exact ih (by omega) (by omega)

/-! ## Tokens -/

/-- A text is cut into tokens, with the literals that are interrupted in front of it. -/
inductive Lexes : List Interrupted → List Char → List Token → Prop
  | done {cs : List Char} (h : triviaLength? 0 (cs.length + 1) cs = some cs.length) :
      Lexes [] cs []
  | token {held held' : List Interrupted} {lead rest : List Char} {class_ : TokenClass} {n : Nat}
      {ts : List Token} (hlead : Layout lead) (hrest : Solid rest)
      (hstep : step held rest = some (class_, n, held')) (more : Lexes held' (rest.drop n) ts) :
      Lexes held (lead ++ rest) (⟨lead, class_, String.ofList (rest.take n)⟩ :: ts)

variable {held held' : List Interrupted} {content : String} {token : Token}
  {ts before after done tokens : List Token} {lead : List Char}

lemma tokensFrom?_end (hgap : triviaLength? 0 (count + 1) cs = some cs.length) :
    tokensFrom? done (count + 1) held cs = if held.isEmpty then some done.reverse else none := by
  rw [tokensFrom?, hgap]
  simp only [List.drop_length]

lemma tokensFrom?_token (hgap : triviaLength? 0 (count + 1) (lead ++ r) = some lead.length)
    (hr : r ≠ []) : tokensFrom? done (count + 1) held (lead ++ r) = (step held r).bind
      fun (class_, n, held') =>
        tokensFrom? (⟨lead, class_, String.ofList (r.take n)⟩ :: done) count held' (r.drop n) := by
  rw [tokensFrom?, hgap]
  simp only [List.drop_left, List.take_left]
  cases r with
  | nil => exact absurd rfl hr
  | cons c r => cases step held (c :: r) <;> rfl

/-- The tokenizer cuts as is said. -/
lemma tokensFrom?_eq_some_iff (hcount : cs.length < count) :
    tokensFrom? done count held cs = some tokens ↔
      ∃ ts, Lexes held cs ts ∧ tokens = done.reverse ++ ts := by
  induction count generalizing held cs done with
  | zero => omega
  | succ count ih =>
      constructor
      · intro h
        cases hgap : triviaLength? 0 (count + 1) cs with
        | none => simp [tokensFrom?, hgap] at h
        | some gap =>
            obtain ⟨lead, rest, rfl, hlength, hrest, hlead⟩ := exists_layout hgap hcount
            obtain rfl : gap = lead.length := by omega
            rcases eq_or_ne rest [] with rfl | hne
            · rw [List.append_nil] at hgap hcount h ⊢
              rw [tokensFrom?_end hgap] at h
              split_ifs at h with hheld
              rw [List.isEmpty_iff.mp hheld]
              refine ⟨[], .done ?_, by simpa [eq_comm] using h⟩
              rw [triviaLength?_count (Nat.lt_succ_self _) hcount, hgap]
            · rw [tokensFrom?_token hgap hne] at h
              obtain ⟨⟨class_, n, held'⟩, hstep, h⟩ := Option.bind_eq_some_iff.mp h
              have hn := pos_of_step hstep
              rw [List.length_append] at hcount
              have hpos := List.length_pos_iff.mpr hne
              obtain ⟨ts, hts, rfl⟩ := (ih (by rw [List.length_drop]; omega)).mp h
              exact ⟨_, .token (hlead hne) hrest hstep hts, by simp⟩
      · rintro ⟨ts, hts, rfl⟩
        cases hts with
        | done hgap =>
            rw [triviaLength?_count (Nat.lt_succ_self _) hcount] at hgap
            simp [tokensFrom?_end hgap]
        | @token _ held' lead rest class_ n ts hlead hrest hstep more =>
            have hne : rest ≠ [] := by
              rintro rfl
              cases hstep
            have hpos := List.length_pos_iff.mpr hne
            have hn := pos_of_step hstep
            rw [List.length_append] at hcount
            have hgap : triviaLength? 0 (count + 1) (lead ++ rest) = some lead.length := by
              rw [triviaLength?_of_layout hlead hrest (by omega), Nat.zero_add]
            rw [tokensFrom?_token hgap hne, hstep, Option.bind_some,
              ih (by rw [List.length_drop]; omega)]
            exact ⟨ts, more, by simp⟩

/-- **What the tokenizer reads.** -/
theorem tokenize?_eq_some_iff :
    tokenize? content = some tokens ↔ Lexes [] (withoutMark content.toList) tokens := by
  rw [tokenize?, tokensFrom?_eq_some_iff (Nat.lt_succ_self _)]
  simp

lemma Lexes.ne_nil (h : Lexes held cs ts) (hts : ts ≠ []) : cs ≠ [] := by
  cases h with
  | done => exact absurd rfl hts
  | token _ _ hstep =>
      intro hcs
      rw [(List.append_eq_nil_iff.mp hcs).2] at hstep
      cases hstep

lemma Lexes.forall_mem (h : Lexes held cs ts) : ∀ t ∈ ts, Layout t.lead ∧ t.text.toList ≠ [] := by
  induction h with
  | done => simp
  | token hlead _ hstep _ ih =>
      refine List.forall_mem_cons.mpr ⟨⟨hlead, ?_⟩, ih⟩
      rw [String.toList_ofList]
      intro hnone
      rcases List.take_eq_nil_iff.mp hnone with rfl | rfl
      · exact absurd (pos_of_step hstep) (by simp)
      · cases hstep

/-- The characters of some tokens with all that stands in front of them. -/
lemma toList_spelled_cons (token : Token) (ts : List Token) : (spelled (token :: ts)).toList
    = token.lead ++ (token.text.toList ++ (spelled ts).toList) := by
  simp [spelled]

/-- **Another lead.**  In front of a token may stand any layout that is not empty, and only this
token differs.  A slash that stands before it must not become the mark of a comment. -/
theorem Lexes.exists_relaid (h : Lexes held cs (before ++ token :: after)) :
    ∃ rest, cs = (spelled before).toList ++ (token.lead ++ rest) ∧ ∀ lead, Layout lead →
      lead ≠ [] → ((spelled before).toList.getLast? = some '/' → lead.head? = some '/' →
        token.lead.head? = some '/') →
        Lexes held ((spelled before).toList ++ (lead ++ rest))
          (before ++ { token with lead } :: after) := by
  induction before generalizing held cs with
  | nil =>
      cases h with
      | @token _ _ _ rest _ _ _ _ hrest hstep more =>
          exact ⟨rest, rfl, fun lead hlead _ _ => .token hlead hrest hstep more⟩
  | cons t before ih =>
      cases h with
      | @token _ held' lead₀ rest₀ class_ n _ hlead₀ hrest hstep more =>
          obtain ⟨rest, hsplit, hmore⟩ := ih more
          have hshort : (rest₀.take n).length = n := by
            have hne := mt List.drop_eq_nil_iff.mpr (more.ne_nil (by simp))
            exact List.length_take_of_le (Nat.le_of_not_le hne)
          rw [toList_spelled_cons, String.toList_ofList]
          refine ⟨rest, ?_, fun lead hlead hne hslash => ?_⟩
          · rw [List.append_assoc, List.append_assoc, ← hsplit, List.take_append_drop]
          obtain ⟨d, lead, rfl⟩ := List.exists_cons_of_ne_nil hne
          have hd := hlead.isStop_head
          have hfront : rest₀
              = rest₀.take n ++ (spelled before).toList ++ (token.lead ++ rest) := by
            rw [List.append_assoc, ← hsplit, List.take_append_drop]
          rw [hfront] at hrest hstep
          have hp : rest₀.take n ++ (spelled before).toList ≠ [] := fun hnone =>
            (pos_of_step hstep).ne (by rw [← hshort, (List.append_eq_nil_iff.mp hnone).1]; rfl)
          have hn : n ≤ (rest₀.take n ++ (spelled before).toList).length := by
            rw [List.length_append, hshort]
            exact Nat.le_add_right _ _
          have hstep' : step held (rest₀.take n ++ (spelled before).toList ++ d :: (lead ++ rest))
              = some (class_, n, held') := step_stop hstep hn hd
          have hrest' : Solid (rest₀.take n ++ (spelled before).toList ++ d :: (lead ++ rest)) := by
            refine hrest.stop hp hd fun hone heq => ?_
            obtain ⟨old, hold⟩ := List.head?_eq_some_iff.mp <|
              hslash (by rw [hone, List.getLast?_append]; rfl) (by rw [heq]; rfl)
            rw [hone, hold] at hrest
            exact hrest.line ⟨old ++ rest, rfl⟩
          have hmore' := hmore (d :: lead) hlead hne fun hlast => hslash <| by
            rw [List.getLast?_append, List.getLast?_append, hlast]
            rfl
          rw [List.append_assoc] at hstep' hrest'
          have hlexes := Lexes.token hlead₀ hrest' hstep' (by rwa [List.drop_left' hshort])
          rw [List.take_left' hshort] at hlexes
          rwa [List.append_assoc, List.append_assoc]

end CodeDigest.Java
