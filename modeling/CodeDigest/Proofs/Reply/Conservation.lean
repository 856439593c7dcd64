import CodeDigest.Proofs.Reply.Matching

/-!
# Repair is conservative

Whatever text it is given, repair leaves it as it is but for three things.

* `Pruned r cs ds` says what is left out: a comma, with the blanks behind it, where nothing but a
  closing bracket or the end of the text follows, and a backslash at the very end of a string
  literal that is still open.
* `closingMark` and `closersOf (unmatched (brackets cs))` are what is put behind the text: the
  quotation mark of that literal, and a closing bracket for each opening one that is not matched.
* `repair_conserves`: the text repaired is the pruned text with these behind it.  So string literals
  keep all their characters in order (`Pruned.select_inLiteral`), and JSON stays as it is.

Repair finds out that a comma is idle when it has copied the comma and the blanks already.  `Ready`
says what makes up for this: where a closing bracket may come next, no comma is at the end of what
has been copied.
-/

namespace CodeDigest.Reply

variable {c d : Char} {copied cs ds due gap : List Char} {r : Region} {repaired : Repair}

/-! ## What is left out -/

/-- Blanks aside, a closing bracket comes next, or nothing. -/
def ClosesNext (cs : List Char) : Prop :=
  ∀ c ∈ (cs.dropWhile Text.isBlank).head?, isCloser c = true

/-- The second text is the first one without its idle commas: those outside string literals behind
which a closing bracket or the end of the text comes next.  The blanks behind them are left out as
well, and so is a backslash in a string literal behind which the text breaks off.  The texts start
in a given region. -/
inductive Pruned : Region → List Char → List Char → Prop
  | nil {r : Region} (complete : r ≠ .escaped) : Pruned r [] []
  | copy {r : Region} {c : Char} {cs ds : List Char}
      (needed : ¬(r = .outside ∧ c = ',' ∧ ClosesNext cs)) (rest : Pruned (r.next c) cs ds) :
      Pruned r (c :: cs) (c :: ds)
  | comma {gap cs ds : List Char} (blank : ∀ c ∈ gap, Text.isBlank c = true)
      (closes : ∀ c ∈ cs.head?, isCloser c = true) (rest : Pruned .outside cs ds) :
      Pruned .outside (',' :: gap ++ cs) ds
  | backslash : Pruned .inside ['\\'] []

/-- The quotation mark for a string literal that is open. -/
def closingMark : Region → List Char
  | .outside => []
  | .inside | .escaped => ['"']

lemma closingMark_eq_nil_iff : closingMark r = [] ↔ r = .outside := by
  cases r <;> simp [closingMark]

/-- The backslash that a string literal ends with when the text breaks off behind it. -/
def loneBackslash : Region → List Char
  | .outside | .inside => []
  | .escaped => ['\\']

/-- A text that is closed next is blank or goes on with a closing bracket behind blanks. -/
lemma ClosesNext.cases (h : ClosesNext cs) : (∀ c ∈ cs, Text.isBlank c = true) ∨
    ∃ gap d rest, cs = gap ++ d :: rest ∧ (∀ c ∈ gap, Text.isBlank c = true) ∧
      isCloser d = true := by
  cases hdrop : cs.dropWhile Text.isBlank with
  | nil => exact .inl (List.dropWhile_eq_nil_iff.mp hdrop)
  | cons d rest =>
      refine .inr ⟨cs.takeWhile Text.isBlank, d, rest, ?_, ?_, h d (by simp [hdrop])⟩
      · rw [← hdrop, List.takeWhile_append_dropWhile]
      · exact fun c hc => List.mem_takeWhile_imp hc

/-! ## Idle commas -/

lemma not_blank_of_isCloser (h : isCloser c = true) : Text.isBlank c = false := by
  have hc : c = '}' ∨ c = ']' := by simpa [isCloser] using h
  rcases hc with rfl | rfl <;> rfl

lemma not_closer_of_isBlank (h : Text.isBlank c = true) : isCloser c = false := by
  rw [Bool.eq_false_iff]
  intro hc
  rw [not_blank_of_isCloser hc] at h
  cases h

/-- A comma and blanks have no part in brackets and string literals. -/
lemma plain_of_mem_idle (h : ∀ c ∈ gap, Text.isBlank c = true) :
    ∀ c ∈ ',' :: gap, isCloser c = false ∧ closerOf? c = none ∧ c ≠ '"' := by
  intro c hc
  rcases List.mem_cons.mp hc with rfl | hc
  · exact ⟨rfl, rfl, by decide⟩
  · have hmute := mute_of_isBlank (h c hc)
    exact ⟨not_closer_of_isBlank (h c hc), by simpa [isOpener] using hmute.not_opener,
      hmute.ne_quote⟩

lemma foldl_next_idle (h : ∀ c ∈ gap, Text.isBlank c = true) :
    (',' :: gap).foldl Region.next .outside = .outside :=
  foldl_next_of_ne_quote fun c hc => (plain_of_mem_idle h c hc).2.2

/-- The repair behind an idle comma has copied it. -/
lemma foldl_step_idle (h : ∀ c ∈ gap, Text.isBlank c = true) :
    (',' :: gap).foldl Repair.step ⟨copied, due, .outside⟩
      = ⟨(',' :: gap).reverse ++ copied, due, .outside⟩ :=
  foldl_step_copies (plain_of_mem_idle h)

lemma dropComma_idle (h : ∀ c ∈ gap, Text.isBlank c = true) :
    dropComma ((',' :: gap).reverse ++ copied) = copied := by
  have hdrop := dropComma_comma copied.reverse h
  rwa [List.reverse_append, List.reverse_reverse] at hdrop

/-- A closing bracket takes the place of an idle comma. -/
lemma foldl_step_idle_closer (h : ∀ c ∈ gap, Text.isBlank c = true) (hd : isCloser d = true) :
    (',' :: gap ++ [d]).foldl Repair.step ⟨copied, due, .outside⟩
      = ⟨d :: copied, dueBehind due d, .outside⟩ := by
  rw [List.foldl_append, foldl_step_idle h, List.foldl_cons, List.foldl_nil]
  simp only [Repair.step, hd, if_true, dropComma_idle h, dueBehind, closerOf?_of_isCloser hd]

/-! ## String literals -/

lemma select_inLiteral_idle (h : ∀ c ∈ gap, Text.isBlank c = true) :
    select inLiteral .outside (',' :: gap) = [] :=
  select_inLiteral_of_ne_quote fun c hc => (plain_of_mem_idle h c hc).2.2

/-- A string literal that is open stays open, with nothing left to escape. -/
lemma Pruned.foldl_next (h : Pruned r cs ds) : ds.foldl Region.next r
    = if cs.foldl Region.next r = .outside then .outside else .inside := by
  induction h with
  | @nil r complete => cases r <;> first | rfl | exact absurd rfl complete
  | copy _ _ ih => exact ih
  | comma blank _ _ ih => rw [List.foldl_append, foldl_next_idle blank, ih]
  | backslash => rfl

/-- **String literals keep all their characters** but a backslash behind which the text breaks
off. -/
theorem Pruned.select_inLiteral (h : Pruned r cs ds) : select inLiteral r cs
    = select inLiteral r ds ++ loneBackslash (cs.foldl Region.next r) := by
  induction h with
  | @nil r complete => cases r <;> first | rfl | exact absurd rfl complete
  | @copy r c cs ds _ _ ih =>
      cases hc : inLiteral r c with
      | true =>
          rw [select_cons_of_pos hc, select_cons_of_pos hc, ih, List.foldl_cons, List.cons_append]
      | false => rw [select_cons_of_neg hc, select_cons_of_neg hc, ih, List.foldl_cons]
  | comma blank _ _ ih =>
      rw [select_append, List.foldl_append, foldl_next_idle blank, select_inLiteral_idle blank,
        List.nil_append, ih]
  | backslash => rfl

/-- Closing brackets are no part of string literals. -/
lemma select_inLiteral_closersOf (os : List Char) :
    select inLiteral .outside (closersOf os) = [] := by
  refine select_inLiteral_of_ne_quote fun c hc => ?_
  simp only [closersOf, List.mem_reverse, List.mem_filterMap] at hc
  obtain ⟨o, -, hopen⟩ := hc
  exact ne_quote_of_isCloser (isCloser_of_closerOf hopen)

/-- What is put behind a pruned text adds a quotation mark to its string literals. -/
lemma Pruned.literals_append (h : Pruned .outside cs ds) (os : List Char) :
    literals (ds ++ closingMark (regionBehind cs) ++ closersOf os)
      = literals ds ++ closingMark (regionBehind cs) := by
  have hregion : ds.foldl Region.next .outside
      = if regionBehind cs = .outside then .outside else .inside := h.foldl_next
  simp only [literals, select_append, List.foldl_append, hregion]
  cases regionBehind cs with
  | outside => simp [closingMark, select_inLiteral_closersOf]
  | inside | escaped =>
      simp [closingMark, Region.next, inLiteral, select, select_inLiteral_closersOf]

/-! ## Repair -/

/-- No comma that has been copied can turn out to be idle, and no backslash to be the last
character. -/
structure Ready (repaired : Repair) (cs : List Char) : Prop where
  comma : repaired.region = .outside → ClosesNext cs →
    lastSolid? repaired.copied.reverse ≠ some ','
  backslash : repaired.region = .escaped → cs ≠ []

namespace Ready

lemma start (cs : List Char) : Ready .start cs :=
  ⟨fun _ _ => by simp [lastSolid?, Repair.start], nofun⟩

/-- Behind a closing bracket a repair is ready for any text. -/
lemma of_closer (hd : isCloser d = true) (copied due cs : List Char) :
    Ready ⟨d :: copied, due, .outside⟩ cs := by
  refine ⟨fun _ _ => ?_, nofun⟩
  rw [List.reverse_cons, lastSolid?_append_solid _ (not_blank_of_isCloser hd), ne_eq,
    Option.some.injEq]
  rintro rfl
  cases hd

/-- Nothing is taken back in front of a closing bracket. -/
lemma dropComma_eq (h : Ready ⟨copied, due, .outside⟩ cs) (hnext : ClosesNext cs) :
    dropComma copied = copied := by
  have hkeep := dropComma_eq_self (h.comma rfl hnext)
  rwa [List.reverse_reverse] at hkeep

lemma copied_step (h : Ready repaired (c :: cs)) :
    (repaired.step c).copied = c :: repaired.copied := by
  obtain ⟨copied, due, region⟩ := repaired
  cases region with
  | inside | escaped => rfl
  | outside =>
      cases hclose : isCloser c with
      | true =>
          have hnext : ClosesNext (c :: cs) := by
            simp [ClosesNext, not_blank_of_isCloser hclose, hclose]
          simp [Repair.step, hclose, h.dropComma_eq hnext]
      | false => cases hopen : closerOf? c <;> simp [Repair.step, hclose, hopen]

/-- A step that leaves nothing out keeps a repair ready. -/
lemma step (h : Ready repaired (c :: cs))
    (hneeded : ¬(repaired.region = .outside ∧ c = ',' ∧ ClosesNext cs))
    (hback : ¬(repaired.region = .inside ∧ c = '\\' ∧ cs = [])) : Ready (repaired.step c) cs := by
  constructor
  · intro hout hnext
    rw [region_step] at hout
    rw [h.copied_step, List.reverse_cons]
    cases hblank : Text.isBlank c with
    | true =>
        rw [lastSolid?_append_blank _ hblank]
        refine h.comma (of_next_eq_outside hout (mute_of_isBlank hblank).ne_quote) ?_
        simpa [ClosesNext, hblank] using hnext
    | false =>
        rw [lastSolid?_append_solid _ hblank, ne_eq, Option.some.injEq]
        rintro rfl
        exact hneeded ⟨of_next_eq_outside hout (by decide), rfl, hnext⟩
  · intro hescaped hnil
    rw [region_step] at hescaped
    obtain ⟨hin, hc⟩ := of_next_eq_escaped hescaped
    exact hback ⟨hin, hc, hnil⟩

end Ready

/-- Behind what it has copied a repair makes of a text the pruned text, with the quotation mark that
is missing and what is due. -/
def Conserves (repaired : Repair) (cs : List Char) : Prop :=
  ∃ ds, Pruned repaired.region cs ds ∧ (cs.foldl Repair.step repaired).finish
    = repaired.copied.reverse ++ ds ++ closingMark (cs.foldl Region.next repaired.region)
      ++ (cs.foldl Repair.step repaired).due

namespace Conserves

lemma nil (h : Ready repaired []) : Conserves repaired [] := by
  obtain ⟨copied, due, region⟩ := repaired
  cases region with
  | outside =>
      have hkeep := h.dropComma_eq (by simp [ClosesNext])
      exact ⟨[], .nil (by simp), by simp [Repair.finish, closingMark, hkeep]⟩
  | inside => exact ⟨[], .nil (by simp), by simp [Repair.finish, closingMark]⟩
  | escaped => exact absurd rfl (h.backslash rfl)

lemma backslash (copied due : List Char) : Conserves ⟨copied, due, .inside⟩ ['\\'] :=
  ⟨[], .backslash, by simp [Repair.step, Repair.finish, Region.next, closingMark]⟩

lemma copy (hcopied : (repaired.step c).copied = c :: repaired.copied)
    (hneeded : ¬(repaired.region = .outside ∧ c = ',' ∧ ClosesNext cs))
    (h : Conserves (repaired.step c) cs) : Conserves repaired (c :: cs) := by
  obtain ⟨ds, hds, hfinish⟩ := h
  rw [region_step] at hds hfinish
  refine ⟨c :: ds, .copy hneeded hds, ?_⟩
  rw [List.foldl_cons, hfinish, hcopied]
  simp

lemma idle_end (h : ∀ c ∈ gap, Text.isBlank c = true) (copied due : List Char) :
    Conserves ⟨copied, due, .outside⟩ (',' :: gap) := by
  have hpruned : Pruned .outside (',' :: gap ++ []) [] := .comma h (by simp) (.nil (by decide))
  rw [List.append_nil] at hpruned
  refine ⟨[], hpruned, ?_⟩
  rw [foldl_next_idle h, foldl_step_idle h, Repair.finish, dropComma_idle h]
  simp [closingMark]

lemma idle_closer (hgap : ∀ c ∈ gap, Text.isBlank c = true) (hd : isCloser d = true)
    (h : Conserves ⟨d :: copied, dueBehind due d, .outside⟩ cs) :
    Conserves ⟨copied, due, .outside⟩ (',' :: gap ++ d :: cs) := by
  obtain ⟨ds, hds, hfinish⟩ := h
  have hnext : Region.next .outside d = .outside := next_of_ne_quote (ne_quote_of_isCloser hd)
  have hcloser : Pruned .outside (d :: cs) (d :: ds) := by
    refine .copy ?_ (hnext.symm ▸ hds)
    rintro ⟨-, rfl, -⟩
    cases hd
  have hfold : (',' :: gap ++ d :: cs).foldl Repair.step ⟨copied, due, .outside⟩
      = cs.foldl Repair.step ⟨d :: copied, dueBehind due d, .outside⟩ := by
    rw [List.append_cons, List.foldl_append, foldl_step_idle_closer hgap hd]
  have hregion : (',' :: gap ++ d :: cs).foldl Region.next .outside
      = cs.foldl Region.next .outside := by
    rw [List.foldl_append, foldl_next_idle hgap, List.foldl_cons, hnext]
  refine ⟨d :: ds, .comma hgap (by simpa using hd) hcloser, ?_⟩
  rw [hfold, hregion, hfinish]
  simp

end Conserves

/-- **What repair makes of any text** it is ready for. -/
theorem conserves_of_ready (h : Ready repaired cs) : Conserves repaired cs := by
  -- an idle comma leads on to what stands behind the closing bracket
  induction hn : cs.length using Nat.strong_induction_on generalizing cs repaired with
  | _ n ih =>
      subst hn
      rcases cs with _ | ⟨c, cs⟩
      · exact .nil h
      by_cases hidle : repaired.region = .outside ∧ c = ',' ∧ ClosesNext cs
      · obtain ⟨copied, due, region⟩ := repaired
        obtain ⟨rfl, rfl, hnext⟩ := hidle
        rcases hnext.cases with hblank | ⟨gap, d, rest, rfl, hgap, hd⟩
        · exact .idle_end hblank copied due
        · refine .idle_closer hgap hd (ih rest.length ?_ (.of_closer hd _ _ _) rfl)
          simp only [List.length_cons, List.length_append]
          omega
      by_cases hback : repaired.region = .inside ∧ c = '\\' ∧ cs = []
      · obtain ⟨copied, due, region⟩ := repaired
        obtain ⟨rfl, rfl, rfl⟩ := hback
        exact .backslash copied due
      exact .copy h.copied_step hidle (ih cs.length (by simp) (h.step hidle hback) rfl)

/-- **Repair is conservative.**  The text repaired is the text without its idle commas, and without
a backslash in a string literal behind which it breaks off, then a quotation mark if it breaks off
in a string literal, then what closes the brackets that are not matched, innermost first.  String
literals lose and change nothing else, and JSON is left as it is. -/
theorem repair_conserves (cs : List Char) :
    (∃ kept mark closers, repair cs = kept ++ mark ++ closers ∧ Pruned .outside cs kept ∧
      mark = closingMark (regionBehind cs) ∧ (mark = [] ↔ Complete cs) ∧
      closers = closersOf (unmatched (brackets cs)) ∧
      literals cs = literals kept ++ loneBackslash (regionBehind cs) ∧
      literals (repair cs) = literals kept ++ mark) ∧
    ∀ v, Json.read? cs = some v → repair cs = cs := by
  obtain ⟨kept, hkept, hfinish⟩ := conserves_of_ready (Ready.start cs)
  have hrepair : repair cs
      = kept ++ closingMark (regionBehind cs) ++ closersOf (unmatched (brackets cs)) := by
    rw [← due_foldl_start]
    exact hfinish
  have hcomplete : closingMark (regionBehind cs) = [] ↔ Complete cs :=
    closingMark_eq_nil_iff.trans regionBehind_eq_iff
  have hliterals : literals (repair cs) = literals kept ++ closingMark (regionBehind cs) := by
    rw [hrepair]
    exact hkept.literals_append _
  exact ⟨⟨kept, _, _, hrepair, hkept, rfl, hcomplete, rfl, hkept.select_inLiteral, hliterals⟩,
    fun _ hv => repair_of_read hv⟩

/-- A comma and a bracket in a string, and blanks at the end. -/
theorem repair_conserves_json :
    Json.read? "[1, \",]\"] \n".toList = some (.array [.nat 1, .string ",]"]) ∧
      repair "[1, \",]\"] \n".toList = "[1, \",]\"] \n".toList := by
  have hread : Json.read? "[1, \",]\"] \n".toList
      = some (.array [.nat 1, .string ",]"]) := by rfl
  exact ⟨hread, (repair_conserves _).2 _ hread⟩

/-- A text that breaks off behind a backslash: two idle commas go, and a bracket that matches
nothing stays. -/
example : repair "[\x7b\",]\": [1 , ], ], \"\\".toList
    = "[\x7b\",]\": [1 ]], \"\"\x7d]".toList := by decide

end CodeDigest.Reply
