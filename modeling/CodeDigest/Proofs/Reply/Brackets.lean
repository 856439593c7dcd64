import Mathlib.Data.List.Induction
import CodeDigest.Proofs.Json.Grammar
import CodeDigest.Reply.Extraction

/-!
# Repair follows the reader

Repair knows nothing of JSON but brackets, string literals and commas.  On a text that the reader
has followed so far this is enough: what repair holds is then a shadow of the reader's state.

* `moves_of_step` says once what a step of the reader looks like from there (`Moves`): a bracket
  opens or closes, a blank, a comma or something solid passes, or a string literal goes on.
* `foldl_step_of_run` follows: repair has copied the text unchanged, the brackets it owes are those
  of the reader's stack, and it stands inside a string literal exactly when the reader does.  No
  comma is lost on the way, because the reader never takes a closing bracket behind a comma
  (`lastSolid?_ne_comma`).
* `upToCloser_append_of_run` is the same for the search for an embedded value, which does not end
  before the outermost container is closed.
-/

namespace CodeDigest.Reply

open Json

variable {s s' : State} {c : Char} {cs p : List Char} {st : List Frame} {v : Json}

/-! ## What repair sees of the reader -/

/-- The bracket that closes a container. -/
def closer : Frame → Char
  | .array _ => ']'
  | .object .. => '}'

/-- The brackets that a state still needs, innermost first. -/
def dueOf (s : State) : List Char := s.stack.map closer

/-- Where the reader stands with respect to string literals. -/
def regionOf (s : State) : Region :=
  match s.mode with
  | .string _ _ .backslash => .escaped
  | .string _ _ (.lowMarker _) => .escaped
  | .string .. => .inside
  | _ => .outside

/-- The innermost open container is an object with these members. -/
def HoldsMembers (ms : List (String × Json)) : List Frame → Prop
  | .object ns _ :: _ => ms = ns
  | _ => False

/-- The mode of a reachable state fits the innermost open container. -/
def Coherent (s : State) : Prop :=
  match s.mode with
  | .value true => ∃ vs st, s.stack = .array vs :: st
  | .key ms _ => HoldsMembers ms s.stack
  | .colon ms _ => HoldsMembers ms s.stack
  | .string (.key ms) _ _ => HoldsMembers ms s.stack
  | .literal rest _ => ∀ c ∈ rest, c.isLower = true
  | .after => s.stack ≠ []
  | .done _ => s.stack = []
  | _ => True

/-- The reader has just passed a comma, blanks aside. -/
def AfterComma (s : State) : Prop :=
  match s.mode, s.stack with
  | .value false, .array _ :: _ => True
  | .key _ false, _ => True
  | _, _ => False

/-- Anything but the character of a number finds the reader behind a complete element or member. -/
def EndsItem (s : State) (st : List Frame) : Prop :=
  ∀ c, isNumberChar c = false → step s c = step ⟨st, .after⟩ c

/-- No bracket, no quotation mark, no comma and no blank. -/
structure Solid (c : Char) : Prop where
  not_closer : isCloser c = false
  not_opener : closerOf? c = none
  ne_quote : c ≠ '"'
  ne_comma : c ≠ ','
  not_blank : Text.isBlank c = false

/-- What a step of the reader looks like to repair. -/
inductive Moves (s : State) (c : Char) (s' : State) : Prop where
  | opens (f : Frame) (outside : regionOf s = .outside) (outside' : regionOf s' = .outside)
      (bracket : closerOf? c = some (closer f)) (due : dueOf s' = closer f :: dueOf s)
      (comma : ¬AfterComma s')
  | closes (outside : regionOf s = .outside) (outside' : regionOf s' = .outside)
      (bracket : isCloser c = true) (due : dueOf s = c :: dueOf s') (comma : ¬AfterComma s)
      (comma' : ¬AfterComma s') (done : s'.stack = [] → ∃ v, s'.mode = .done v)
  | blank (outside : regionOf s = .outside) (outside' : regionOf s' = .outside)
      (space : isSpace c = true) (due : dueOf s' = dueOf s)
      (stays : s' = s ∨ ¬AfterComma s ∧ ¬AfterComma s')
  | comma (outside : regionOf s = .outside) (outside' : regionOf s' = .outside)
      (eq : c = ',') (due : dueOf s' = dueOf s) (ends : EndsItem s s'.stack) (after : AfterComma s')
  | solid (outside : regionOf s = .outside) (outside' : regionOf s' = .outside)
      (solid : Solid c) (due : dueOf s' = dueOf s) (comma : ¬AfterComma s')
  /-- A string literal starts, goes on or ends. -/
  | literal (inside : regionOf s ≠ .outside ∨ c = '"') (closes : regionOf s' = .outside → c = '"')
      (due : dueOf s' = dueOf s) (region : regionOf s' = (regionOf s).next c)
      (comma : ¬AfterComma s')

/-! ## Characters -/

lemma isBlank_of_isSpace (h : isSpace c = true) : Text.isBlank c = true := by
  simp only [isSpace, Bool.or_eq_true, beq_iff_eq] at h
  rcases h with ((rfl | rfl) | rfl) | rfl <;> decide

lemma isBlank_of_gap (gap : Gap) : ∀ c ∈ gap.text, Text.isBlank c = true := by
  intro c hc
  exact isBlank_of_isSpace (gap.blank c hc)

lemma solid_of_ne (hlow : 33 ≤ c.toNat) (hhigh : c.toNat ≤ 126)
    (h : ∀ d ∈ ['{', '[', '}', ']', '"', ','], c ≠ d) : Solid c := by
  simp only [List.mem_cons, List.not_mem_nil, or_false, forall_eq_or_imp, forall_eq] at h
  refine ⟨?_, ?_, h.2.2.2.2.1, h.2.2.2.2.2, ?_⟩
  · simp [isCloser, h]
  · simp [closerOf?, h]
  · simp [Text.isBlank]
    omega

lemma solid_of_isLower (h : c.isLower = true) : Solid c := by
  have hrange : (decide (c.val ≥ 97) && decide (c.val ≤ 122)) = true := h
  have hc : 97 ≤ c.toNat ∧ c.toNat ≤ 122 := by
    simpa [UInt32.le_iff_toNat_le] using hrange
  refine solid_of_ne (by omega) (by omega) fun d hd => ?_
  rintro rfl
  simp only [List.mem_cons, List.not_mem_nil, or_false] at hd
  rcases hd with rfl | rfl | rfl | rfl | rfl | rfl <;> exact absurd h (by decide)

lemma solid_of_isNumberChar (h : isNumberChar c = true) : Solid c := by
  have hc : 33 ≤ c.toNat ∧ c.toNat ≤ 126 := by
    simp only [isNumberChar, Bool.or_eq_true, beq_iff_eq] at h
    rcases h with ((((h | rfl) | rfl) | rfl) | rfl) | rfl
    · have : 48 ≤ c.toNat ∧ c.toNat ≤ 57 := by
        simpa [Char.isDigit, UInt32.le_iff_toNat_le] using h
      omega
    all_goals decide
  refine solid_of_ne hc.1 hc.2 fun d hd => ?_
  rintro rfl
  simp only [List.mem_cons, List.not_mem_nil, or_false] at hd
  rcases hd with rfl | rfl | rfl | rfl | rfl | rfl <;> exact absurd h (by decide)

/-! ## One step -/

@[simp] lemma dueOf_deliver (v : Json) (st : List Frame) :
    dueOf (deliver v st) = st.map closer := by
  rcases st with _ | ⟨_ | _, st⟩ <;> rfl

@[simp] lemma regionOf_deliver (v : Json) (st : List Frame) :
    regionOf (deliver v st) = .outside := by
  rcases st with _ | ⟨_ | _, st⟩ <;> rfl

lemma not_afterComma_deliver (v : Json) (st : List Frame) : ¬AfterComma (deliver v st) := by
  rcases st with _ | ⟨_ | _, st⟩ <;> simp [deliver, AfterComma]

lemma coherent_deliver (v : Json) (st : List Frame) : Coherent (deliver v st) := by
  rcases st with _ | ⟨_ | _, st⟩ <;> simp [deliver, Coherent]

/-- Where nothing is open the value of the text has been delivered. -/
lemma done_of_deliver (v : Json) (st : List Frame) (h : (deliver v st).stack = []) :
    ∃ w, (deliver v st).mode = .done w := by
  rcases st with _ | ⟨_ | _, st⟩
  · exact ⟨v, rfl⟩
  · simp [deliver] at h
  · simp [deliver] at h

lemma moves_of_close (h : close c s.stack = some s') (hs : regionOf s = .outside)
    (hcomma : ¬AfterComma s) : Moves s c s' ∧ Coherent s' := by
  obtain ⟨_ | ⟨vs | ⟨ms, key⟩, st⟩, mode⟩ := s
  · cases h
  · by_cases hc : c = ']'
    · subst hc
      obtain rfl := Option.some.inj h
      refine ⟨.closes hs (by simp) rfl ?_ hcomma (not_afterComma_deliver _ _)
        (done_of_deliver _ _), coherent_deliver _ _⟩
      rw [dueOf_deliver]
      rfl
    · simp [close, hc] at h
  · by_cases hc : c = '}'
    · subst hc
      obtain rfl := Option.some.inj h
      refine ⟨.closes hs (by simp) rfl ?_ hcomma (not_afterComma_deliver _ _)
        (done_of_deliver _ _), coherent_deliver _ _⟩
      rw [dueOf_deliver]
      rfl
    · simp [close, hc] at h

lemma moves_of_afterValue (hst : st ≠ []) (h : afterValue st c = some s') :
    Moves ⟨st, .after⟩ c s' ∧ Coherent s' := by
  unfold afterValue at h
  split_ifs at h with hspace hcomma
  · obtain rfl := Option.some.inj h
    exact ⟨.blank rfl rfl hspace rfl (.inl rfl), hst⟩
  · rw [beq_iff_eq] at hcomma
    split at h
    · obtain rfl := Option.some.inj h
      exact ⟨.comma rfl rfl hcomma rfl (fun _ _ => rfl) trivial, trivial⟩
    · obtain rfl := Option.some.inj h
      exact ⟨.comma rfl rfl hcomma rfl (fun _ _ => rfl) trivial, rfl⟩
    · cases h
  · exact moves_of_close h rfl (by simp [AfterComma])

lemma moves_of_afterDelivery (h : afterDelivery (deliver v st) c = some s') :
    Moves (deliver v st) c s' ∧ Coherent s' := by
  rcases st with _ | ⟨_ | _, st⟩
  · simp only [afterDelivery, deliver] at h
    split_ifs at h with hspace
    obtain rfl := Option.some.inj h
    exact ⟨.blank rfl rfl hspace rfl (.inl rfl), rfl⟩
  · exact moves_of_afterValue (by simp) h
  · exact moves_of_afterValue (by simp) h

/-- A value that has arrived is followed by what may follow it once it is delivered. -/
lemma Moves.of_arrived (harr : Arrived v st s) (h : Moves (deliver v st) c s') : Moves s c s' := by
  rcases harr with rfl | ⟨text, n, rfl, hn, rfl⟩
  · exact h
  have harr : Arrived (.number n) st ⟨st, .number text⟩ := .inr ⟨text, n, rfl, hn, rfl⟩
  have hdue : dueOf (deliver (.number n) st) = dueOf ⟨st, .number text⟩ := dueOf_deliver _ _
  have hcomma : ¬AfterComma ⟨st, .number text⟩ := by simp [AfterComma]
  cases h with
  | opens f _ o b d k => exact .opens f rfl o b (hdue ▸ d) k
  | closes _ o b d _ k e => exact .closes rfl o b (hdue ▸ d) hcomma k e
  | blank _ o b d k =>
      refine .blank rfl o b (hdue ▸ d) (.inr ⟨hcomma, ?_⟩)
      rcases k with rfl | k
      · exact not_afterComma_deliver _ _
      · exact k.2
  | comma _ o b d k a =>
      exact .comma rfl o b (hdue ▸ d) (fun e he => (step_of_arrived harr he).trans (k e he)) a
  | solid _ o b d k => exact .solid rfl o b (hdue ▸ d) k
  | literal i o d r k =>
      rw [regionOf_deliver] at i r
      exact .literal i o (hdue ▸ d) r k

lemma moves_of_startValue {b : Bool} (h : startValue st c = some s') :
    Moves ⟨st, .value b⟩ c s' ∧ Coherent s' := by
  have hlower : ∀ d : Char, d.isLower = true → Solid d := fun _ => solid_of_isLower
  rcases startValue_cases h with ⟨rfl, -, rfl⟩ | ⟨rfl, -, rfl⟩ | ⟨rfl, rfl⟩ | ⟨rfl, rfl⟩ |
    ⟨rfl, rfl⟩ | ⟨rfl, rfl⟩ | ⟨hnum, rfl⟩
  · exact ⟨.opens (.array []) rfl rfl rfl rfl (by simp [AfterComma]), ⟨_, _, rfl⟩⟩
  · exact ⟨.opens (.object [] "") rfl rfl rfl rfl (by simp [AfterComma]), rfl⟩
  · exact ⟨.literal (.inr rfl) (fun _ => rfl) rfl rfl (by simp [AfterComma]), trivial⟩
  · exact ⟨.solid rfl rfl (hlower _ rfl) rfl (by simp [AfterComma]), by simp [Coherent]⟩
  · exact ⟨.solid rfl rfl (hlower _ rfl) rfl (by simp [AfterComma]), by simp [Coherent]⟩
  · exact ⟨.solid rfl rfl (hlower _ rfl) rfl (by simp [AfterComma]), by simp [Coherent]⟩
  · have hc : isNumberChar c = true := by
      rcases hnum with rfl | hd
      · decide
      · exact isNumberChar_of_isDigit hd
    exact ⟨.solid rfl rfl (solid_of_isNumberChar hc) rfl (by simp [AfterComma]), trivial⟩

/-- Inside a string literal repair follows the escapes. -/
lemma moves_of_stringStep {role : StringRole} {text : List Char} {escape : Escape}
    {r : List Char × Escape} (hs : Coherent ⟨st, .string role text escape⟩)
    (hc : escape ≠ .none ∨ c ≠ '"') (h : stringStep text escape c = some r) :
    Moves ⟨st, .string role text escape⟩ c ⟨st, .string role r.1 r.2⟩ ∧
      Coherent ⟨st, .string role r.1 r.2⟩ := by
  have hcoh : Coherent ⟨st, .string role r.1 r.2⟩ := by
    cases role with
    | key ms => exact hs
    | value => trivial
  have hin : ∀ text e, regionOf ⟨st, .string role text e⟩ ≠ .outside := by
    intro text e
    cases e <;> simp [regionOf]
  refine ⟨.literal (.inl (hin _ _)) (fun h => absurd h (hin _ _)) rfl ?_ (by simp [AfterComma]),
    hcoh⟩
  cases escape with
  | none =>
      have hq : c ≠ '"' := by simpa using hc
      simp only [stringStep] at h
      split_ifs at h with hb <;> obtain rfl := Option.some.inj h <;>
        simp_all [regionOf, Region.next]
  | backslash =>
      simp only [stringStep] at h
      split_ifs at h
      · obtain rfl := Option.some.inj h
        rfl
      · obtain ⟨d, -, rfl⟩ := Option.map_eq_some_iff.mp h
        rfl
  | code high left value =>
      obtain ⟨d, hd, h⟩ := Option.bind_eq_some_iff.mp h
      have hne : c ≠ '"' ∧ c ≠ '\\' := by
        constructor <;> rintro rfl <;> simp [hexValue?] at hd
      have hr : regionOf ⟨st, .string role r.1 r.2⟩ = .inside := by
        split_ifs at h
        · unfold endCode at h
          split at h <;> split_ifs at h <;> obtain rfl := Option.some.inj h <;> rfl
        · obtain rfl := Option.some.inj h
          rfl
      rw [hr]
      simp [regionOf, Region.next, hne]
  | lowBackslash high =>
      simp only [stringStep] at h
      split_ifs at h with hb
      obtain rfl := Option.some.inj h
      rw [beq_iff_eq] at hb
      subst hb
      rfl
  | lowMarker high =>
      simp only [stringStep] at h
      split_ifs at h
      obtain rfl := Option.some.inj h
      rfl

lemma moves_of_literal {rest : List Char} {meaning : Json} (hs : ∀ r ∈ rest, r.isLower = true)
    (h : step ⟨st, .literal rest meaning⟩ c = some s') :
    Moves ⟨st, .literal rest meaning⟩ c s' ∧ Coherent s' := by
  rcases rest with _ | ⟨r, _ | ⟨r', rest⟩⟩
  · cases h
  · simp only [step] at h
    split_ifs at h with hr
    rw [beq_iff_eq] at hr
    subst hr
    obtain rfl := Option.some.inj h
    have hr : Solid r := solid_of_isLower (hs r (by simp))
    exact ⟨.solid rfl (regionOf_deliver _ _) hr (dueOf_deliver _ _)
      (not_afterComma_deliver _ _), coherent_deliver _ _⟩
  · simp only [step] at h
    split_ifs at h with hr
    rw [beq_iff_eq] at hr
    subst hr
    obtain rfl := Option.some.inj h
    have hr : Solid r := solid_of_isLower (hs r (by simp))
    exact ⟨.solid rfl rfl hr rfl (by simp [AfterComma]), fun d hd => hs d (by simp [hd])⟩

lemma moves_of_string {role : StringRole} {text : List Char} {escape : Escape}
    (hs : Coherent ⟨st, .string role text escape⟩)
    (h : step ⟨st, .string role text escape⟩ c = some s') :
    Moves ⟨st, .string role text escape⟩ c s' ∧ Coherent s' := by
  by_cases hc : escape ≠ .none ∨ c ≠ '"'
  · rw [step_string_of_ne hc] at h
    obtain ⟨r, hr, rfl⟩ := Option.map_eq_some_iff.mp h
    exact moves_of_stringStep hs hc hr
  · simp only [ne_eq, not_or, not_not] at hc
    obtain ⟨rfl, rfl⟩ := hc
    cases role with
    | key ms =>
        obtain rfl := Option.some.inj h
        exact ⟨.literal (.inr rfl) (fun _ => rfl) rfl rfl (by simp [AfterComma]), hs⟩
    | value =>
        obtain rfl := Option.some.inj h
        exact ⟨.literal (.inr rfl) (fun _ => rfl) (dueOf_deliver _ _) (regionOf_deliver _ _)
          (not_afterComma_deliver _ _), coherent_deliver _ _⟩

/-- **What a step of the reader looks like to repair.** -/
theorem moves_of_step (hs : Coherent s) (h : step s c = some s') : Moves s c s' ∧ Coherent s' := by
  obtain ⟨st, mode⟩ := s
  cases mode with
  | value b =>
      simp only [step] at h
      split_ifs at h with hspace hclose
      · obtain rfl := Option.some.inj h
        exact ⟨.blank rfl rfl hspace rfl (.inl rfl), hs⟩
      · simp only [Bool.and_eq_true, beq_iff_eq] at hclose
        obtain ⟨rfl, -⟩ := hclose
        exact moves_of_close h rfl (by simp [AfterComma])
      · exact moves_of_startValue h
  | key ms b =>
      simp only [step] at h
      split_ifs at h with hspace hclose hquote
      · obtain rfl := Option.some.inj h
        exact ⟨.blank rfl rfl hspace rfl (.inl rfl), hs⟩
      · simp only [Bool.and_eq_true, beq_iff_eq] at hclose
        obtain ⟨rfl, -⟩ := hclose
        exact moves_of_close h rfl (by simp [AfterComma])
      · rw [beq_iff_eq] at hquote
        subst hquote
        obtain rfl := Option.some.inj h
        exact ⟨.literal (.inr rfl) (fun _ => rfl) rfl rfl (by simp [AfterComma]), hs⟩
  | colon ms key =>
      simp only [step] at h
      split_ifs at h with hspace hcolon
      · obtain rfl := Option.some.inj h
        exact ⟨.blank rfl rfl hspace rfl (.inl rfl), hs⟩
      · rw [beq_iff_eq] at hcolon
        subst hcolon
        obtain rfl := Option.some.inj h
        rcases st with _ | ⟨_ | _, st⟩
        · exact hs.elim
        · exact hs.elim
        · have hsolid : Solid ':' := solid_of_ne (by decide) (by decide) (by simp)
          exact ⟨.solid rfl rfl hsolid rfl (by simp [AfterComma]), trivial⟩
  | literal rest meaning => exact moves_of_literal hs h
  | number text =>
      simp only [step] at h
      split_ifs at h with hnum
      · obtain rfl := Option.some.inj h
        exact ⟨.solid rfl rfl (solid_of_isNumberChar hnum) rfl (by simp [AfterComma]), trivial⟩
      · obtain ⟨n, hn, h⟩ := Option.bind_eq_some_iff.mp h
        obtain ⟨hmoves, hcoh⟩ := moves_of_afterDelivery h
        exact ⟨hmoves.of_arrived (.inr ⟨text, n, rfl, hn, rfl⟩), hcoh⟩
  | string role text escape => exact moves_of_string hs h
  | after => exact moves_of_afterValue hs h
  | done v =>
      simp only [step, afterDelivery] at h
      split_ifs at h with hspace
      obtain rfl := Option.some.inj h
      exact ⟨.blank rfl rfl hspace rfl (.inl rfl), hs⟩

/-! ## Whole texts -/

lemma run_concat {t : State} :
    run t (p ++ [c]) = some s' ↔ ∃ s, run t p = some s ∧ step s c = some s' := by
  rw [run_append, Option.bind_eq_some_iff]
  simp

lemma coherent_of_run (h : run .initial p = some s) : Coherent s := by
  induction p using List.reverseRecOn generalizing s with
  | nil =>
      obtain rfl := Option.some.inj h
      trivial
  | append_singleton p c ih =>
      obtain ⟨t, ht, hstep⟩ := run_concat.mp h
      exact (moves_of_step (ih ht) hstep).2

/-! ### Commas -/

/-- The last character of a text that is not blank. -/
def lastSolid? (p : List Char) : Option Char := (p.reverse.dropWhile Text.isBlank).head?

lemma lastSolid?_append_blank (p : List Char) (h : Text.isBlank c = true) :
    lastSolid? (p ++ [c]) = lastSolid? p := by
  simp [lastSolid?, h]

lemma lastSolid?_append_solid (p : List Char) (h : Text.isBlank c = false) :
    lastSolid? (p ++ [c]) = some c := by
  simp [lastSolid?, h]

/-- Without a comma in front nothing is left out. -/
lemma dropComma_eq_self (h : lastSolid? p ≠ some ',') : dropComma p.reverse = p.reverse := by
  unfold dropComma
  split
  next rest heq => simp [lastSolid?, heq] at h
  · rfl

/-- A comma and the blanks behind it are left out. -/
lemma dropComma_comma (p : List Char) {gap : List Char} (h : ∀ c ∈ gap, Text.isBlank c = true) :
    dropComma (p ++ ',' :: gap).reverse = p.reverse := by
  have hdrop : (p ++ ',' :: gap).reverse.dropWhile Text.isBlank = ',' :: p.reverse := by
    rw [List.reverse_append, List.reverse_cons, List.append_assoc,
      List.dropWhile_append_of_pos (by simpa using h)]
    rfl
  simp only [dropComma, hdrop]

/-- Outside string literals the last thing the reader has passed is a comma only if it knows. -/
lemma lastSolid?_ne_comma (h : run .initial p = some s) (hs : regionOf s = .outside)
    (hcomma : ¬AfterComma s) : lastSolid? p ≠ some ',' := by
  induction p using List.reverseRecOn generalizing s with
  | nil => simp [lastSolid?]
  | append_singleton p c ih =>
      obtain ⟨t, ht, hstep⟩ := run_concat.mp h
      have hlast : ∀ {d : Char}, Text.isBlank d = false → d ≠ ',' →
          lastSolid? (p ++ [d]) ≠ some ',' := by
        intro d hd hne
        simpa [lastSolid?_append_solid p hd] using hne
      cases (moves_of_step (coherent_of_run ht) hstep).1 with
      | opens f _ _ bracket _ _ =>
          have hc : c = '{' ∨ c = '[' := by
            by_contra hne
            rw [not_or] at hne
            simp [closerOf?, hne] at bracket
          rcases hc with rfl | rfl <;> exact hlast rfl (by decide)
      | closes _ _ bracket _ _ _ _ =>
          have hc : c = '}' ∨ c = ']' := by simpa [isCloser] using bracket
          rcases hc with rfl | rfl <;> exact hlast rfl (by decide)
      | blank out _ space _ stays =>
          rw [lastSolid?_append_blank p (isBlank_of_isSpace space)]
          refine ih ht out ?_
          rcases stays with rfl | stays
          · exact hcomma
          · exact stays.1
      | comma _ _ _ _ _ after => exact absurd after hcomma
      | solid _ _ solid _ _ => exact hlast solid.not_blank solid.ne_comma
      | literal _ closes _ _ _ =>
          obtain rfl := closes hs
          exact hlast rfl (by decide)

/-- Behind a comma stand blanks, and before it a complete element or member. -/
lemma exists_comma (h : run .initial p = some s) (hcomma : AfterComma s) :
    ∃ q gap s₀, p = q ++ ',' :: gap ∧ (∀ c ∈ gap, Text.isBlank c = true) ∧
      run .initial q = some s₀ ∧ EndsItem s₀ s.stack := by
  induction p using List.reverseRecOn generalizing s with
  | nil =>
      obtain rfl := Option.some.inj h
      exact hcomma.elim
  | append_singleton p c ih =>
      obtain ⟨t, ht, hstep⟩ := run_concat.mp h
      cases (moves_of_step (coherent_of_run ht) hstep).1 with
      | opens _ _ _ _ _ comma => exact absurd hcomma comma
      | closes _ _ _ _ _ comma _ => exact absurd hcomma comma
      | blank _ _ space _ stays =>
          rcases stays with rfl | stays
          · obtain ⟨q, gap, s₀, rfl, hgap, hq, hends⟩ := ih ht hcomma
            refine ⟨q, gap ++ [c], s₀, by simp, ?_, hq, hends⟩
            intro d hd
            rw [List.mem_append, List.mem_singleton] at hd
            rcases hd with hd | rfl
            · exact hgap d hd
            · exact isBlank_of_isSpace space
          · exact absurd hcomma stays.2
      | comma _ _ eq _ ends _ =>
          subst eq
          exact ⟨p, [], t, rfl, by simp, ht, ends⟩
      | solid _ _ _ _ comma => exact absurd hcomma comma
      | literal _ _ _ _ comma => exact absurd hcomma comma

/-! ### Repair -/

/-- To repair a step opens a container, closes one or passes a character. -/
lemma Moves.brackets (h : Moves s c s') :
    (regionOf s = .outside ∧ regionOf s' = .outside ∧
      ∃ f, closerOf? c = some (closer f) ∧ dueOf s' = closer f :: dueOf s) ∨
    (regionOf s = .outside ∧ regionOf s' = .outside ∧ isCloser c = true ∧
      dueOf s = c :: dueOf s' ∧ ¬AfterComma s ∧ (s'.stack = [] → ∃ v, s'.mode = .done v)) ∨
    ((regionOf s = .outside → isCloser c = false ∧ closerOf? c = none) ∧
      dueOf s' = dueOf s ∧ regionOf s' = (regionOf s).next c) := by
  cases h with
  | opens f out out' bracket due _ => exact .inl ⟨out, out', f, bracket, due⟩
  | closes out out' bracket due comma _ done =>
      exact .inr (.inl ⟨out, out', bracket, due, comma, done⟩)
  | blank out out' space due _ =>
      obtain ⟨-, -, -, h₁, h₂, h₃, h₄, h₅⟩ := ne_of_isSpace space
      refine .inr (.inr ⟨fun _ => ?_, due, ?_⟩)
      · simp [isCloser, closerOf?, h₁, h₂, h₄, h₅]
      · simp [out, out', Region.next, h₃]
  | comma out out' eq due _ _ =>
      subst eq
      exact .inr (.inr ⟨fun _ => ⟨rfl, rfl⟩, due, by rw [out, out']; rfl⟩)
  | solid out out' solid due _ =>
      refine .inr (.inr ⟨fun _ => ⟨solid.not_closer, solid.not_opener⟩, due, ?_⟩)
      simp [out, out', Region.next, solid.ne_quote]
  | literal inside _ due region _ =>
      refine .inr (.inr ⟨fun hout => ?_, due, region⟩)
      rcases inside with inside | rfl
      · exact absurd hout inside
      · exact ⟨rfl, rfl⟩

/-- Nothing but a backslash in a string literal escapes what follows it. -/
lemma of_next_eq_escaped {r : Region} (h : r.next c = .escaped) : r = .inside ∧ c = '\\' := by
  cases r with
  | outside =>
      simp only [Region.next] at h
      split at h <;> cases h
  | inside =>
      simp only [Region.next] at h
      split_ifs at h with hb
      exact ⟨rfl, by simpa using hb⟩
  | escaped => cases h

/-- Brackets of one kind are not brackets of the other. -/
lemma closerOf?_of_isCloser (h : isCloser c = true) : closerOf? c = none := by
  simp only [isCloser, Bool.or_eq_true, beq_iff_eq] at h
  rcases h with rfl | rfl <;> rfl

/-- An opening bracket is copied, and its counterpart is due. -/
lemma step_opener {copied due : List Char} {d : Char} (h : closerOf? c = some d) :
    Repair.step ⟨copied, due, .outside⟩ c = ⟨c :: copied, d :: due, .outside⟩ := by
  have hc : isCloser c = false := by
    cases hc : isCloser c with
    | false => rfl
    | true => simp [closerOf?_of_isCloser hc] at h
  simp [Repair.step, hc, h]

/-- A closing bracket that is due and has no comma in front is copied. -/
lemma step_closer {copied due : List Char} (h : isCloser c = true)
    (hcomma : dropComma copied = copied) :
    Repair.step ⟨copied, c :: due, .outside⟩ c = ⟨c :: copied, due, .outside⟩ := by
  simp [Repair.step, h, hcomma]

/-- A character that is no bracket or stands in a string literal is copied. -/
lemma step_copy {copied due : List Char} {region : Region}
    (h : region = .outside → isCloser c = false ∧ closerOf? c = none) :
    Repair.step ⟨copied, due, region⟩ c = ⟨c :: copied, due, region.next c⟩ := by
  cases region with
  | outside =>
      obtain ⟨hcloser, hopener⟩ := h rfl
      simp [Repair.step, hcloser, hopener]
  | inside => rfl
  | escaped => rfl

/-- **Repair follows the reader.**  On a text that the reader has followed, repair has copied every
character, owes the brackets of the open containers and knows whether it is in a string literal. -/
theorem foldl_step_of_run (h : run .initial p = some s) :
    p.foldl Repair.step .start = ⟨p.reverse, dueOf s, regionOf s⟩ := by
  induction p using List.reverseRecOn generalizing s with
  | nil =>
      obtain rfl := Option.some.inj h
      rfl
  | append_singleton p c ih =>
      obtain ⟨t, ht, hstep⟩ := run_concat.mp h
      rw [List.foldl_concat, ih ht, List.reverse_concat]
      rcases (moves_of_step (coherent_of_run ht) hstep).1.brackets with
        ⟨out, out', f, bracket, due⟩ | ⟨out, out', bracket, due, comma, -⟩ | ⟨plain, due, region⟩
      · rw [out, out', due, step_opener bracket]
      · have hlast := dropComma_eq_self (lastSolid?_ne_comma ht out comma)
        rw [out, out', due, step_closer bracket hlast]
      · rw [due, region, step_copy plain]

/-! ### The embedded value -/

/-- Nothing but blanks follows the outermost container. -/
lemma stack_eq_nil_of_run (hs : s.stack = []) (hmode : ∃ v, s.mode = .done v)
    (h : run s cs = some s') : s'.stack = [] := by
  obtain ⟨st, mode⟩ := s
  obtain ⟨v, rfl⟩ := hmode
  induction cs with
  | nil =>
      obtain rfl := Option.some.inj h
      exact hs
  | cons c cs ih =>
      rw [run_cons] at h
      cases hc : isSpace c with
      | true =>
          rw [skipsBlanks_done st v c hc, Option.bind_some] at h
          exact ih h
      | false => simp [step, afterDelivery, hc] at h

lemma length_dueOf (s : State) : (dueOf s).length = s.stack.length := by simp [dueOf]

lemma upToCloser_opener {depth : ℕ} (h : (closerOf? c).isSome = true) :
    upToCloser depth .outside (c :: cs) = c :: upToCloser (depth + 1) .outside cs := by
  simp [upToCloser, h]

lemma upToCloser_closer {depth : ℕ} (h : isCloser c = true) (hdepth : 2 ≤ depth) :
    upToCloser depth .outside (c :: cs) = c :: upToCloser (depth - 1) .outside cs := by
  have hlt : ¬depth ≤ 1 := by omega
  simp [upToCloser, h, closerOf?_of_isCloser h, hlt]

lemma upToCloser_copy {depth : ℕ} {region : Region}
    (h : region = .outside → isCloser c = false ∧ closerOf? c = none) :
    upToCloser depth region (c :: cs) = c :: upToCloser depth (region.next c) cs := by
  cases region with
  | outside =>
      obtain ⟨hcloser, hopener⟩ := h rfl
      simp [upToCloser, hcloser, hopener]
  | inside => simp [upToCloser]
  | escaped => simp [upToCloser]

/-- **The search for the end of an embedded value follows the reader** as long as the outermost
container stays open, and goes on behind what the reader has read. -/
theorem upToCloser_append_of_run (hs : Coherent s) (hopen : s.stack ≠ []) (h : run s cs = some s')
    (hopen' : s'.stack ≠ []) (rest : List Char) :
    upToCloser s.stack.length (regionOf s) (cs ++ rest)
      = cs ++ upToCloser s'.stack.length (regionOf s') rest := by
  induction cs generalizing s with
  | nil =>
      obtain rfl := Option.some.inj h
      rfl
  | cons c cs ih =>
      obtain ⟨t, ht, hrun⟩ := Option.bind_eq_some_iff.mp h
      obtain ⟨hmoves, hcoh⟩ := moves_of_step hs ht
      have hpos : 0 < s.stack.length := List.length_pos_iff.mpr hopen
      rw [List.cons_append, List.cons_append]
      rcases hmoves.brackets with
        ⟨out, out', f, bracket, due⟩ | ⟨out, out', bracket, due, -, done⟩ | ⟨plain, due, region⟩
      · have hlen : t.stack.length = s.stack.length + 1 := by
          rw [← length_dueOf t, due, List.length_cons, length_dueOf]
        have hne : t.stack ≠ [] := List.ne_nil_of_length_eq_add_one hlen
        rw [out, upToCloser_opener (by simp [bracket]), ← hlen, ← out', ih hcoh hne hrun]
      · have hlen : s.stack.length = t.stack.length + 1 := by
          rw [← length_dueOf s, due, List.length_cons, length_dueOf]
        have hne : t.stack ≠ [] := fun hnil => hopen' (stack_eq_nil_of_run hnil (done hnil) hrun)
        have hdepth : 2 ≤ s.stack.length := by
          have := List.length_pos_iff.mpr hne
          omega
        have hpred : s.stack.length - 1 = t.stack.length := by omega
        rw [out, upToCloser_closer bracket hdepth, hpred, ← out', ih hcoh hne hrun]
      · have hlen : t.stack.length = s.stack.length := by
          rw [← length_dueOf t, due, length_dueOf]
        have hne : t.stack ≠ [] := by
          rw [← List.length_pos_iff, hlen]
          exact hpos
        rw [upToCloser_copy plain, ← region, ← hlen, ih hcoh hne hrun]

end CodeDigest.Reply
