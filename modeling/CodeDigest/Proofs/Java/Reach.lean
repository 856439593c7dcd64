import Mathlib.Data.List.TakeDrop
import CodeDigest.Proofs.Java.Numbers
import CodeDigest.Proofs.Text.Searching

/-!
# How far a token reaches

A token is read as far as it goes.  `step_stop`: a token that ends inside a text `p` is the same
token when what follows `p` is replaced by something that starts with a blank or a slash.  There is
one lemma for each kind of token: literals end at their own marks, words and symbols hold neither a
blank nor (but at its start) a slash, and numbers are dealt with by `Number.settled_literal`.
-/

namespace CodeDigest.Java

variable {d : Char} {p r r' cs : List Char} {n taken : Nat} {e : PartEnd}

/-! ## Literals between marks -/

lemma lt_of_characterLength? (h : characterLength? taken cs = some n) : taken < n := by
  fun_induction characterLength? taken cs with
  | case1 => cases h
  | case2 => cases h; omega
  | case3 => cases h
  | case4 taken c rest ih => exact (Nat.lt_add_of_pos_right (by decide)).trans (ih h)
  | case5 => cases h
  | case6 taken c rest _ _ _ ih => exact (Nat.lt_succ_self _).trans (ih h)

lemma characterLength?_append (h : characterLength? taken (p ++ r) = some n)
    (hn : n ≤ taken + p.length) (r' : List Char) : characterLength? taken (p ++ r') = some n := by
  generalize hcs : p ++ r = cs at h
  fun_induction characterLength? taken cs generalizing p with
  | case1 | case3 | case5 => cases h
  | case2 taken rest htaken =>
      rcases p with _ | ⟨x, p⟩
      · cases h
        simp only [List.length_nil] at hn
        omega
      · obtain ⟨rfl, -⟩ := List.cons.inj hcs
        simpa [characterLength?, htaken] using h
  | case4 taken c rest ih =>
      have hlt := lt_of_characterLength? h
      rcases p with _ | ⟨x, _ | ⟨y, p⟩⟩ <;> simp only [List.length_nil, List.length_cons] at hn
      · omega
      · omega
      · obtain ⟨rfl, rfl, hrest⟩ : x = '\\' ∧ y = c ∧ p ++ r = rest := by simpa using hcs
        exact ih (by omega) hrest h
  | case6 taken c rest hquote _ hc ih =>
      have hlt := lt_of_characterLength? h
      rcases p with _ | ⟨x, p⟩ <;> simp only [List.length_nil, List.length_cons] at hn
      · omega
      · obtain ⟨rfl, hrest⟩ := List.cons.inj hcs
        obtain ⟨hline, hescape⟩ : x ≠ '\n' ∧ x ≠ '\\' := by simpa using hc
        rw [← ih (by omega) hrest h, List.cons_append]
        simp [characterLength?, hline, hescape]

/-- What an escape needs stands in front of the next quotation mark or backslash. -/
lemma escapeFits_append {c x : Char} (hx : x = '"' ∨ x = '\\') (u v v' : List Char) :
    escapeFits c (u ++ x :: v) = escapeFits c (u ++ x :: v') := by
  have hhex : isHexDigit x = false := by rcases hx with rfl | rfl <;> decide
  have hopen : x ≠ '\x7b' := by rcases hx with rfl | rfl <;> decide
  have hclose : x ≠ '\x7d' := by rcases hx with rfl | rfl <;> decide
  unfold escapeFits
  split_ifs
  · rcases u with _ | ⟨a, _ | ⟨b, u⟩⟩ <;> simp [hhex]
  · rcases u with _ | ⟨a, u⟩
    · simp [hopen, hhex]
    by_cases ha : a = '\x7b'
    · subst ha
      simp only [List.cons_append, List.span_eq_takeWhile_dropWhile, List.takeWhile_append,
        List.dropWhile_append]
      cases hrest : u.dropWhile isHexDigit with
      | nil => simp [hhex, hclose]
      | cons y rest =>
          have hnone : ∀ v, (x :: v).takeWhile isHexDigit = [] := by simp [hhex]
          rw [hnone, hnone]
          generalize (if (u.takeWhile isHexDigit).length = u.length then _ else _) = digits
          by_cases hy : y = '\x7d' <;> cases digits <;> simp [hy]
    · rcases u with _ | ⟨b, _ | ⟨b', _ | ⟨b'', u⟩⟩⟩ <;> simp [hhex, ha]
  · rfl

lemma stringPart?_plain {c : Char} (hquote : c ≠ '"') (hescape : c ≠ '\\') (taken : Nat)
    (cs : List Char) : stringPart? taken (c :: cs) = stringPart? (taken + 1) cs := by
  rw [stringPart?] <;> simp [hquote, hescape]

lemma stringPart?_escape {c : Char} (hbrace : c ≠ '\x7b') (hfits : escapeFits c cs = true)
    (taken : Nat) : stringPart? taken ('\\' :: c :: cs) = stringPart? (taken + 2) cs := by
  rw [stringPart?, if_pos hfits]
  simpa using hbrace

lemma lt_of_stringPart? (h : stringPart? taken cs = some (e, n)) : taken < n := by
  fun_induction stringPart? taken cs with
  | case1 => cases h
  | case2 => cases h; omega
  | case3 => cases h; omega
  | case4 taken c rest _ _ ih => exact (Nat.lt_add_of_pos_right (by decide)).trans (ih h)
  | case5 => cases h
  | case6 taken c rest _ _ _ ih => exact (Nat.lt_succ_self _).trans (ih h)

/-- A part of a literal that ends inside a text has a mark there. -/
lemma exists_mark (h : stringPart? taken (p ++ r) = some (e, n)) (hn : n ≤ taken + p.length) :
    ∃ u x v, p = u ++ x :: v ∧ (x = '"' ∨ x = '\\') := by
  induction p generalizing taken with
  | nil => exact absurd (lt_of_stringPart? h) (by simpa using hn)
  | cons c p ih =>
      by_cases hmark : c = '"' ∨ c = '\\'
      · exact ⟨[], c, p, rfl, hmark⟩
      · obtain ⟨hquote, hescape⟩ := not_or.mp hmark
        rw [List.cons_append, stringPart?_plain hquote hescape] at h
        obtain ⟨u, x, v, rfl, hx⟩ := ih h (by simpa [Nat.add_assoc, Nat.add_comm 1] using hn)
        exact ⟨c :: u, x, v, rfl, hx⟩

lemma stringPart?_append (h : stringPart? taken (p ++ r) = some (e, n))
    (hn : n ≤ taken + p.length) (r' : List Char) : stringPart? taken (p ++ r') = some (e, n) := by
  generalize hcs : p ++ r = cs at h
  fun_induction stringPart? taken cs generalizing p with
  | case1 | case5 => cases h
  | case2 taken rest =>
      obtain ⟨rfl, rfl⟩ : e = .closed ∧ n = taken + 1 := by simpa [eq_comm] using h
      rcases p with _ | ⟨x, p⟩ <;> simp only [List.length_nil, List.length_cons] at hn
      · omega
      · obtain ⟨rfl, -⟩ := List.cons.inj hcs
        rfl
  | case3 taken rest =>
      obtain ⟨rfl, rfl⟩ : e = .interpolated ∧ n = taken + 2 := by simpa [eq_comm] using h
      rcases p with _ | ⟨x, _ | ⟨y, p⟩⟩ <;> simp only [List.length_nil, List.length_cons] at hn
      · omega
      · omega
      · obtain ⟨rfl, rfl, -⟩ : x = '\\' ∧ y = '\x7b' ∧ p ++ r = rest := by simpa using hcs
        rfl
  | case4 taken c rest hbrace hfits ih =>
      have hlt := lt_of_stringPart? h
      rcases p with _ | ⟨x, _ | ⟨y, p⟩⟩ <;> simp only [List.length_nil, List.length_cons] at hn
      · omega
      · omega
      · obtain ⟨rfl, rfl, rfl⟩ : x = '\\' ∧ y = c ∧ p ++ r = rest := by simpa using hcs
        have hn' : n ≤ taken + 2 + p.length := by omega
        obtain ⟨u, x, v, rfl, hx⟩ := exists_mark h hn'
        rw [List.append_assoc, List.cons_append, escapeFits_append hx u (v ++ r) (v ++ r')] at hfits
        have hrest := ih hn' rfl h
        rw [List.append_assoc, List.cons_append] at hrest
        rw [List.cons_append, List.cons_append, List.append_assoc, List.cons_append,
          stringPart?_escape hbrace hfits, hrest]
  | case6 taken c rest hquote _ hescape ih =>
      have hlt := lt_of_stringPart? h
      rcases p with _ | ⟨x, p⟩ <;> simp only [List.length_nil, List.length_cons] at hn
      · omega
      obtain ⟨rfl, hrest⟩ := List.cons.inj hcs
      have hne : x ≠ '\\' := by
        rintro rfl
        cases rest with
        | nil => cases h
        | cons y rest => exact hescape y rest rfl rfl
      rw [List.cons_append, stringPart?_plain hquote hne]
      exact ih (by omega) hrest h

lemma lt_of_blockPart? (h : blockPart? taken cs = some (e, n)) : taken + 1 < n := by
  fun_induction blockPart? taken cs with
  | case1 => cases h
  | case2 => cases h; omega
  | case3 => cases h; omega
  | case4 taken c rest _ ih => exact (by omega : taken + 1 < taken + 2 + 1).trans (ih h)
  | case5 taken c rest _ _ _ ih => exact (Nat.lt_succ_self _).trans (ih h)

lemma blockPart?_append (h : blockPart? taken (p ++ r) = some (e, n))
    (hn : n ≤ taken + p.length) (r' : List Char) : blockPart? taken (p ++ r') = some (e, n) := by
  generalize hcs : p ++ r = cs at h
  fun_induction blockPart? taken cs generalizing p with
  | case1 => cases h
  | case2 taken rest =>
      obtain ⟨rfl, rfl⟩ : e = .closed ∧ n = taken + 3 := by simpa [eq_comm] using h
      rcases p with _ | ⟨x, _ | ⟨y, _ | ⟨z, p⟩⟩⟩ <;>
        simp only [List.length_nil, List.length_cons] at hn
      · omega
      · omega
      · omega
      · obtain ⟨rfl, rfl, rfl, -⟩ : x = '"' ∧ y = '"' ∧ z = '"' ∧ p ++ r = rest := by
          simpa using hcs
        rfl
  | case3 taken rest =>
      obtain ⟨rfl, rfl⟩ : e = .interpolated ∧ n = taken + 2 := by simpa [eq_comm] using h
      rcases p with _ | ⟨x, _ | ⟨y, p⟩⟩ <;> simp only [List.length_nil, List.length_cons] at hn
      · omega
      · omega
      · obtain ⟨rfl, rfl, -⟩ : x = '\\' ∧ y = '\x7b' ∧ p ++ r = rest := by simpa using hcs
        rfl
  | case4 taken c rest hbrace ih =>
      have hlt := lt_of_blockPart? h
      rcases p with _ | ⟨x, _ | ⟨y, p⟩⟩ <;> simp only [List.length_nil, List.length_cons] at hn
      · omega
      · omega
      · obtain ⟨rfl, rfl, hrest⟩ : x = '\\' ∧ y = c ∧ p ++ r = rest := by simpa using hcs
        rw [← ih (by omega) hrest h, List.cons_append, List.cons_append, blockPart?]
        simpa using hbrace
  | case5 taken c rest hclose _ hescape ih =>
      have hlt := lt_of_blockPart? h
      rcases p with _ | ⟨x, p⟩ <;> simp only [List.length_nil, List.length_cons] at hn
      · omega
      obtain ⟨rfl, hrest⟩ := List.cons.inj hcs
      have hne : x ≠ '\\' := by
        rintro rfl
        cases rest with
        | nil => cases h
        | cons y rest => exact hescape y rest rfl rfl
      -- three quotation marks would be in the text already
      have hopen : ∀ rest', x = '"' → p ++ r' ≠ '"' :: '"' :: rest' := by
        rintro rest' rfl heq
        rcases p with _ | ⟨y, _ | ⟨z, p⟩⟩ <;> simp only [List.length_nil, List.length_cons] at hn
        · omega
        · omega
        · obtain ⟨rfl, rfl, -⟩ : y = '"' ∧ z = '"' ∧ p ++ r' = rest' := by simpa using heq
          exact hclose (p ++ r) rfl hrest.symm
      rw [← ih (by omega) hrest h, List.cons_append, blockPart?]
      · exact hopen
      · simp [hne]
      · simp [hne]

/-! ## Parts of string literals -/

variable {isBlock : Bool} {closed open_ class_ : TokenClass} {held held' : List Interrupted}

/-- A step over a part of a literal by the end of the part. -/
lemma literalStep_eq_map : literalStep isBlock closed open_ held taken cs
    = (if isBlock then blockPart? taken cs else stringPart? taken cs).map fun (e, n) =>
        match e with
        | .closed => (closed, n, held)
        | .interpolated => (open_, n, ⟨0, isBlock⟩ :: held) := by
  unfold literalStep
  generalize (if isBlock then blockPart? taken cs else stringPart? taken cs) = part
  rcases part with _ | ⟨e, n⟩
  · rfl
  · cases e <;> rfl

lemma literalStep_append
    (h : literalStep isBlock closed open_ held taken (p ++ r) = some (class_, n, held'))
    (hn : n ≤ taken + p.length) (r' : List Char) :
    literalStep isBlock closed open_ held taken (p ++ r') = some (class_, n, held') := by
  rw [literalStep_eq_map] at h ⊢
  obtain ⟨⟨e, m⟩, hpart, heq⟩ := Option.map_eq_some_iff.mp h
  obtain rfl : m = n := by cases e <;> cases heq <;> rfl
  have hpart' : (if isBlock then blockPart? taken (p ++ r') else stringPart? taken (p ++ r'))
      = some (e, m) := by
    cases isBlock with
    | true => exact blockPart?_append hpart hn r'
    | false => exact stringPart?_append hpart hn r'
  rw [hpart', Option.map_some, heq]

lemma lt_of_literalStep
    (h : literalStep isBlock closed open_ held taken cs = some (class_, n, held')) : taken < n := by
  rw [literalStep_eq_map] at h
  obtain ⟨⟨e, m⟩, hpart, heq⟩ := Option.map_eq_some_iff.mp h
  obtain rfl : m = n := by cases e <;> cases heq <;> rfl
  cases isBlock with
  | true => exact (Nat.lt_succ_self _).trans (lt_of_blockPart? hpart)
  | false => exact lt_of_stringPart? hpart

/-! ## Words and symbols -/

lemma length_takeWhile_stop {q : Char → Bool} (hq : Rejects q stops) (hd : IsStop d)
    (hn : ((p ++ r).takeWhile q).length ≤ p.length) :
    ((p ++ d :: r').takeWhile q).length = ((p ++ r).takeWhile q).length := by
  rw [List.takeWhile_append] at hn ⊢
  rw [List.takeWhile_append]
  split_ifs at hn ⊢
  · have hnone : (r.takeWhile q).length = 0 := by
      rw [List.length_append] at hn
      omega
    simp [eq_false_of_stop hq hd, List.length_eq_zero_iff.mp hnone]
  · rfl

/-- A text with no stop behind its first character does not reach over a stop. -/
lemma prefix_of_prefix_stop {front : List Char} (hfront : ∀ c ∈ front.tail, c ∉ stops)
    (hp : p ≠ []) (hd : IsStop d) (h : front <+: p ++ d :: r') : front <+: p := by
  rcases Nat.le_total front.length p.length with hle | hle
  · exact List.prefix_of_prefix_length_le h (List.prefix_append p _) hle
  obtain ⟨x, rfl⟩ := List.prefix_of_prefix_length_le (List.prefix_append p _) h hle
  obtain hx : x <+: d :: r' := (List.prefix_append_right_inj p).mp h
  cases x with
  | nil => simp
  | cons c x =>
      obtain ⟨rfl, -⟩ := List.cons_prefix_cons.mp hx
      refine absurd (mem_stops hd) (hfront c ?_)
      rw [List.tail_append_of_ne_nil hp]
      simp

lemma prefix_stop_iff {front : List Char} (hfront : ∀ c ∈ front.tail, c ∉ stops) (hd : IsStop d)
    (hp : p ≠ []) (hn : front <+: p ++ r → front.length ≤ p.length) :
    front <+: p ++ d :: r' ↔ front <+: p ++ r := by
  constructor
  · intro h
    exact (prefix_of_prefix_stop hfront hp hd h).trans (List.prefix_append p r)
  · intro h
    have hle := List.prefix_of_prefix_length_le h (List.prefix_append p r) (hn h)
    exact hle.trans (List.prefix_append p _)

lemma tail_of_mem_symbols {s : List Char} (h : s ∈ symbols) : ∀ c ∈ s.tail, c ∉ stops := by
  have hall : (symbols.all fun s => s.tail.all fun c => !stops.contains c) = true := by decide
  simpa using List.all_eq_true.mp hall s h

lemma symbol?_stop {s : List Char} (h : symbol? (p ++ r) = some s) (hn : s.length ≤ p.length)
    (hd : IsStop d) : symbol? (p ++ d :: r') = some s := by
  obtain ⟨hs, before, behind, hsymbols, hbefore⟩ := List.find?_eq_some_iff_append.mp h
  have hmem : ∀ x ∈ before ++ s :: behind, ∀ c ∈ x.tail, c ∉ stops := fun x hx =>
    tail_of_mem_symbols (hsymbols ▸ hx)
  have hp : p ≠ [] := by
    rintro rfl
    have hnil : s = [] := List.length_eq_zero_iff.mp (by simpa using hn)
    have hsome : ([] : List Char) ∉ symbols := by decide
    exact hsome (hnil ▸ hsymbols ▸ by simp)
  refine List.find?_eq_some_iff_append.mpr ⟨?_, before, behind, hsymbols, fun x hx => ?_⟩
  · rw [Text.isSome_dropPrefix?] at hs ⊢
    exact (prefix_stop_iff (hmem s (by simp)) hd hp fun _ => hn).mpr hs
  · simp only [Bool.not_eq_true', ← Bool.not_eq_true, Text.isSome_dropPrefix?] at hbefore ⊢
    intro hx'
    exact hbefore x hx ((prefix_of_prefix_stop (hmem x (by simp [hx])) hp hd hx').trans
      (List.prefix_append p r))

/-- A symbol, or what a closing brace goes on with. -/
lemma symbolStep_stop (h : symbolStep held (p ++ r) = some (class_, n, held')) (hn : n ≤ p.length)
    (hd : IsStop d) : symbolStep held (p ++ d :: r') = some (class_, n, held') := by
  unfold symbolStep at h
  split at h
  · next inner outer hsymbol =>
      cases h
      simp [symbolStep, symbol?_stop hsymbol hn hd]
  · next inner outer hsymbol =>
      have hsymbol' : symbol? (p ++ d :: r') = some ['\x7d'] := by
        refine symbol?_stop hsymbol ?_ hd
        split at h
        · exact (lt_of_literalStep h).le.trans hn
        · cases h
          exact hn
      cases p with
      | nil =>
          split at h
          · exact absurd (lt_of_literalStep h) (by simp_all)
          · cases h
            simp at hn
      | cons c p =>
          simp only [symbolStep, hsymbol']
          split_ifs at h ⊢
          · exact literalStep_append h (by simpa [Nat.add_comm] using hn) _
          · exact h
  · next hsymbol hopen hclose =>
      cases h
      unfold symbolStep
      rw [symbol?_stop hsymbol hn hd]
      split
      · next heq => cases heq; exact (hopen _ _ rfl rfl).elim
      · next heq => cases heq; exact (hclose _ _ rfl rfl).elim
      · next heq _ _ => cases heq; rfl
      · next heq => cases heq
  · cases h

/-! ## One step -/

lemma step_quote (h : ∀ rest, cs ≠ '"' :: '"' :: rest) :
    step held ('"' :: cs) = literalStep false .string .stringHead held 1 cs := by
  rw [step]
  exact h

lemma step_plain {c : Char} (hquote : c ≠ '"') (hsingle : c ≠ '\'') (cs : List Char) :
    step held (c :: cs)
      = if (Text.dropPrefix? nonSealed (c :: cs)).isSome then
          some (.symbol, nonSealed.length, held)
        else if startsWord c then some (.word, ((c :: cs).takeWhile continuesWord).length, held)
        else
          match Number.literal.longest? (c :: cs) with
          | some n => some (.number, n, held)
          | none => symbolStep held (c :: cs) := by
  rw [step]
  all_goals first | rfl | exact hquote | exact hsingle | exact fun _ heq _ => hquote heq

lemma continuesWord_of_startsWord {c : Char} (h : startsWord c = true) :
    continuesWord c = true := by
  simp only [startsWord, continuesWord, Text.isXidStart, Text.isXidContinue, Bool.or_eq_true] at h ⊢
  rcases h with (h | h) | h
  · split_ifs at h ⊢
    · simp [Char.isAlphanum, h]
    · simp [h]
  · exact .inl (.inl (.inr h))
  · exact .inl (.inr h)

lemma pos_of_symbolStep (h : symbolStep held cs = some (class_, n, held')) : 0 < n := by
  unfold symbolStep at h
  split at h
  · cases h
    decide
  · split at h
    · exact Nat.zero_lt_of_lt (lt_of_literalStep h)
    · cases h
      decide
  · next s _ _ hsymbol _ _ =>
      cases h
      have hnone : ([] : List Char) ∉ symbols := by decide
      exact List.length_pos_iff.mpr fun hs => hnone (hs ▸ List.mem_of_find?_eq_some hsymbol)
  · cases h

/-- A token has a character. -/
lemma pos_of_step (h : step held cs = some (class_, n, held')) : 0 < n := by
  rcases cs with _ | ⟨c, cs⟩
  · cases h
  by_cases hquote : c = '"'
  · subst hquote
    by_cases hblock : ∃ rest, cs = '"' :: '"' :: rest
    · obtain ⟨rest, rfl⟩ := hblock
      exact Nat.zero_lt_of_lt (lt_of_literalStep h)
    · rw [step_quote (not_exists.mp hblock)] at h
      exact Nat.zero_lt_of_lt (lt_of_literalStep h)
  by_cases hsingle : c = '\''
  · subst hsingle
    obtain ⟨m, hm, heq⟩ := Option.map_eq_some_iff.mp h
    cases heq
    exact Nat.zero_lt_of_lt (lt_of_characterLength? hm)
  rw [step_plain hquote hsingle] at h
  split_ifs at h with hsealed hword
  · cases h
    decide
  · cases h
    simp [continuesWord_of_startsWord hword]
  · split at h
    next hnumber =>
      cases h
      exact Number.pos_of_longest? hnumber
    next => exact pos_of_symbolStep h

lemma step_stop_of_quote (h : step held ('"' :: (p ++ r)) = some (class_, n, held'))
    (hn : n ≤ p.length + 1) (hd : IsStop d) :
    step held ('"' :: (p ++ d :: r')) = some (class_, n, held') := by
  have hstop : d ≠ '"' := fun heq => absurd (mem_stops hd) (by rw [heq]; decide)
  by_cases hblock : ∃ rest, p ++ r = '"' :: '"' :: rest
  · obtain ⟨rest, hrest⟩ := hblock
    rw [hrest] at h
    have hlt := lt_of_literalStep h
    rcases p with _ | ⟨x, _ | ⟨y, p⟩⟩ <;> simp only [List.length_nil, List.length_cons] at hn
    · omega
    · omega
    · obtain ⟨rfl, rfl, rfl⟩ : x = '"' ∧ y = '"' ∧ p ++ r = rest := by simpa using hrest
      exact literalStep_append h (by omega) _
  · rw [step_quote (not_exists.mp hblock)] at h
    have hlt := lt_of_literalStep h
    rw [step_quote]
    · exact literalStep_append h (by omega) _
    · rintro rest hrest
      rcases p with _ | ⟨x, _ | ⟨y, p⟩⟩
      · simp only [List.length_nil] at hn
        omega
      · exact hstop (List.cons.inj (List.cons.inj hrest).2).1
      · obtain ⟨rfl, rfl, -⟩ : x = '"' ∧ y = '"' ∧ p ++ d :: r' = rest := by simpa using hrest
        exact hblock ⟨p ++ r, rfl⟩

lemma step_stop_of_plain {c : Char} (hquote : c ≠ '"') (hsingle : c ≠ '\'')
    (h : step held (c :: p ++ r) = some (class_, n, held')) (hn : n ≤ (c :: p).length)
    (hd : IsStop d) : step held (c :: p ++ d :: r') = some (class_, n, held') := by
  rw [List.cons_append, step_plain hquote hsingle, ← List.cons_append] at h ⊢
  have hsealed : (Text.dropPrefix? nonSealed (c :: p ++ d :: r')).isSome
      = (Text.dropPrefix? nonSealed (c :: p ++ r)).isSome := by
    rw [Bool.eq_iff_iff, Text.isSome_dropPrefix?, Text.isSome_dropPrefix?]
    have htail : (nonSealed.tail.all fun c => !stops.contains c) = true := by decide
    refine prefix_stop_iff (by simpa using htail) hd (List.cons_ne_nil c p) fun hbegins => ?_
    rw [if_pos (Text.isSome_dropPrefix?.mpr hbegins)] at h
    cases h
    exact hn
  rw [hsealed]
  split_ifs at h ⊢
  · exact h
  · cases h
    rw [length_takeWhile_stop (by decide +kernel) hd hn]
  · have hnumber : Number.literal.longest? (c :: p ++ d :: r')
        = Number.literal.longest? (c :: p ++ r) := by
      refine Number.settled_literal.toSteady.longest?_stop hd fun m hm => ?_
      rw [Option.mem_def.mp hm] at h
      cases h
      exact hn
    rw [hnumber]
    split at h
    · exact h
    · exact symbolStep_stop h hn hd

/-- **How far a token reaches**: what comes behind it may be replaced from a stop on. -/
theorem step_stop (h : step held (p ++ r) = some (class_, n, held')) (hn : n ≤ p.length)
    (hd : IsStop d) : step held (p ++ d :: r') = some (class_, n, held') := by
  rcases p with _ | ⟨c, p⟩
  · exact absurd (pos_of_step h) (by simpa using hn)
  by_cases hquote : c = '"'
  · subst hquote
    exact step_stop_of_quote h hn hd
  by_cases hsingle : c = '\''
  · subst hsingle
    obtain ⟨m, hm, heq⟩ := Option.map_eq_some_iff.mp h
    cases heq
    rw [List.cons_append, step, characterLength?_append hm (by simpa [Nat.add_comm] using hn)]
    rfl
  exact step_stop_of_plain hquote hsingle h hn hd

end CodeDigest.Java
