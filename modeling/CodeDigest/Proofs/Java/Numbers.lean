import Mathlib.Data.List.MinMax
import CodeDigest.Java.Lexer

/-!
# How far a number reaches

Digits are read as far as they go, so the length of a number may depend on what follows it.  It does
not on what follows a blank or a slash: a scan is `Steady` when it reads the same of a text `p`
whether `p` is followed by one of these (`IsStop`) or by anything that it does not read on into.

A scan that stops in front of underscores may read on when a digit follows them.  Putting two scans
together is no problem where the first one never reads on (`Exact`) or where the second one does not
start with an underscore (`Settled`); `settled_literal` goes through the forms of number literals.
-/

namespace CodeDigest.Java

/-- A blank or a slash: what layout starts with. -/
def IsStop (d : Char) : Prop := isBlank d = true ∨ d = '/'

/-- The characters that can stop a token. -/
def stops : List Char := [' ', '\t', '\n', Char.ofNat 11, Char.ofNat 12, '\r', '/']

variable {d : Char} {p r r' cs : List Char} {n : Nat}

lemma mem_stops (h : IsStop d) : d ∈ stops := by
  rcases h with h | rfl
  · simp only [isBlank, Bool.or_eq_true, beq_iff_eq, Bool.and_eq_true, decide_eq_true_eq] at h
    rcases h with rfl | ⟨hlow, hhigh⟩
    · decide
    · have hd : d = Char.ofNat d.toNat := by simp
      have hn : d.toNat = 9 ∨ d.toNat = 10 ∨ d.toNat = 11 ∨ d.toNat = 12 ∨ d.toNat = 13 := by omega
      rcases hn with hn | hn | hn | hn | hn <;> rw [hd, hn] <;> decide
  · decide

/-- A test fails on all of some characters. -/
def Rejects (q : Char → Bool) (cs : List Char) : Prop := ∀ c ∈ cs, q c = false

instance (q : Char → Bool) (cs : List Char) : Decidable (Rejects q cs) :=
  decidable_of_iff (cs.all fun c => !q c) (by simp [Rejects])

lemma eq_false_of_stop {q : Char → Bool} (hq : Rejects q stops) (h : IsStop d) : q d = false :=
  hq d (mem_stops h)

namespace Scan

/-- What is read of `p` is the same with anything behind `p` and with a stop behind it, unless the
scan reads on. -/
structure Steady (a : Scan) : Prop where
  kept : ∀ {p r d r' n}, IsStop d → n ∈ a (p ++ r) → n ≤ p.length → n ∈ a (p ++ d :: r')
  known : ∀ {p r d r' n}, IsStop d → n ∈ a (p ++ d :: r') → n ≤ p.length ∧
    (n ∈ a (p ++ r) ∨ (∀ c ∈ p.drop n, c = '_') ∧ ∃ m ∈ a (p ++ r), p.length < m)
  empty : ∀ {cs cs'}, 0 ∈ a cs → 0 ∈ a cs'

/-- A steady scan that never reads on. -/
structure Exact (a : Scan) : Prop extends Steady a where
  found : ∀ {p r d r' n}, IsStop d → n ∈ a (p ++ d :: r') → n ∈ a (p ++ r)

/-- A steady scan that does not read an underscore at the front. -/
structure Settled (a : Scan) : Prop extends Steady a where
  start : ∀ cs, ∀ n ∈ a ('_' :: cs), n = 0

variable {a b : Scan} {q : Char → Bool}

/-! ## Single characters -/

lemma mem_one : n ∈ one q cs ↔ ∃ c rest, cs = c :: rest ∧ q c = true ∧ n = 1 := by
  cases cs with
  | nil => simp [one]
  | cons c rest => by_cases hc : q c = true <;> simp [one, hc]

lemma exact_nothing : Exact nothing where
  kept _ h _ := h
  known _ h := by simp_all [nothing]
  empty h := h
  found _ h := h

lemma exact_one (hq : Rejects q stops) : Exact (one q) := by
  have hfound : ∀ {p r d r' n}, IsStop d → n ∈ one q (p ++ d :: r') →
      n ∈ one q (p ++ r) ∧ n ≤ p.length := by
    intro p r d r' n hd h
    obtain ⟨c, rest, heq, hc, rfl⟩ := mem_one.mp h
    cases p with
    | nil =>
        obtain rfl := (List.cons.inj heq).1
        simp [eq_false_of_stop hq hd] at hc
    | cons x p =>
        obtain rfl := (List.cons.inj heq).1
        exact ⟨mem_one.mpr ⟨x, p ++ r, rfl, hc, rfl⟩, by simp⟩
  constructor
  · constructor
    case kept =>
      intro p r d r' n _ h hn
      obtain ⟨c, rest, heq, hc, rfl⟩ := mem_one.mp h
      cases p with
      | nil => simp at hn
      | cons x p => exact mem_one.mpr ⟨x, p ++ d :: r', rfl, (List.cons.inj heq).1 ▸ hc, rfl⟩
    case known =>
      intro p r d r' n hd h
      obtain ⟨hmem, hle⟩ := hfound (r := r) hd h
      exact ⟨hle, .inl hmem⟩
    case empty =>
      intro cs cs' h
      obtain ⟨_, _, -, -, h⟩ := mem_one.mp h
      cases h
  · exact fun hd h => (hfound hd h).1

/-! ## Digits -/

section Groups

variable {wide : Bool} {taken pending : Nat}

lemma groupsFrom_cases (q : Char → Bool) (wide : Bool) (taken pending : Nat) (cs : List Char) :
    ∃ n, groupsFrom q wide taken pending cs = [n] ∧ (n = taken ∨ taken + pending < n) := by
  induction cs generalizing taken pending with
  | nil => exact ⟨taken, rfl, .inl rfl⟩
  | cons c cs ih =>
      rw [groupsFrom]
      split_ifs
      · obtain ⟨n, heq, hn⟩ := ih (taken + pending + 1) 0
        exact ⟨n, heq, .inr (by omega)⟩
      · exact ⟨taken, rfl, .inl rfl⟩
      · obtain ⟨n, heq, hn⟩ := ih taken (pending + 1)
        exact ⟨n, heq, by omega⟩
      · exact ⟨taken, rfl, .inl rfl⟩

lemma groupsFrom_stop (hq : Rejects q stops) (hd : IsStop d) :
    groupsFrom q wide taken pending (d :: r') = [taken] := by
  have hline : (d == '_') = false := eq_false_of_stop (q := (· == '_')) (by decide) hd
  rw [groupsFrom, if_neg (by simp [eq_false_of_stop hq hd]), if_neg (by simp [hline])]

/-- Groups of digits with a stop behind `p`: what is read is the same, or there was more to read
behind some underscores. -/
lemma groupsFrom_append_stop (hq : Rejects q stops) (hd : IsStop d) (wide : Bool)
    (taken pending : Nat) (r r' p : List Char) :
    ∃ n m, groupsFrom q wide taken pending (p ++ d :: r') = [n] ∧
      groupsFrom q wide taken pending (p ++ r) = [m] ∧ taken ≤ n ∧
      n ≤ taken + pending + p.length ∧
      (n = m ∨ (∀ c ∈ p.drop (n - (taken + pending)), c = '_') ∧
        taken + pending + p.length < m) := by
  induction p generalizing taken pending with
  | nil =>
      obtain ⟨m, hm, hcases⟩ := groupsFrom_cases q wide taken pending r
      refine ⟨taken, m, groupsFrom_stop hq hd, hm, le_rfl, by simp, ?_⟩
      rcases hcases with rfl | hlt
      · exact .inl rfl
      · exact .inr ⟨by simp, by simpa using hlt⟩
  | cons c p ih =>
      simp only [List.cons_append, groupsFrom, List.length_cons]
      split_ifs with hc hpending hline
      · obtain ⟨n, m, hn, hm, hle, hbound, hsame⟩ := ih (taken + pending + 1) 0
        refine ⟨n, m, hn, hm, by omega, by omega, hsame.imp_right fun ⟨hdrop, hlt⟩ => ?_⟩
        have hsub : n - (taken + pending) = n - (taken + pending + 1 + 0) + 1 := by omega
        exact ⟨by rwa [hsub, List.drop_succ_cons], by omega⟩
      · exact ⟨taken, taken, rfl, rfl, le_rfl, by omega, .inl rfl⟩
      · obtain ⟨n, m, hn, hm, hle, hbound, hsame⟩ := ih taken (pending + 1)
        refine ⟨n, m, hn, hm, hle, by omega, hsame.imp_right fun ⟨hdrop, hlt⟩ => ⟨?_, by omega⟩⟩
        rcases Nat.lt_or_ge (taken + pending) n with h | h
        · have hsub : n - (taken + pending) = n - (taken + (pending + 1)) + 1 := by omega
          rwa [hsub, List.drop_succ_cons]
        · have hzero : n - (taken + (pending + 1)) = 0 := by omega
          rw [hzero, List.drop_zero] at hdrop
          rw [Nat.sub_eq_zero_of_le h, List.drop_zero]
          exact List.forall_mem_cons.mpr ⟨by simpa using hline, hdrop⟩
      · exact ⟨taken, taken, rfl, rfl, le_rfl, by omega, .inl rfl⟩

lemma steady_groups (hq : Rejects q stops) : Steady (groups q wide) where
  kept {p r d r' n} hd h hn := by
    cases p with
    | nil =>
        cases r with
        | nil => simp [groups] at h
        | cons c r =>
            simp only [List.nil_append, groups] at h
            split_ifs at h
            · obtain ⟨m, hm, hcases⟩ := groupsFrom_cases q wide 1 0 r
              obtain rfl : n = m := by simpa [hm] using h
              simp only [List.length_nil] at hn
              omega
            · simp at h
    | cons c p =>
        simp only [List.cons_append, groups] at h ⊢
        split_ifs at h ⊢
        · obtain ⟨m, k, hm, hk, -, -, hsame⟩ :=
            groupsFrom_append_stop hq hd wide 1 0 r r' p
          obtain rfl : n = k := by simpa [hk] using h
          rcases hsame with rfl | ⟨-, hlt⟩
          · rw [hm]
            exact List.mem_singleton_self m
          · simp only [List.length_cons] at hn
            omega
        · exact h
  known {p r d r' n} hd h := by
    cases p with
    | nil => simp [groups, eq_false_of_stop hq hd] at h
    | cons c p =>
        simp only [List.cons_append, groups] at h ⊢
        split_ifs at h ⊢
        · obtain ⟨m, k, hm, hk, hle, hbound, hsame⟩ :=
            groupsFrom_append_stop hq hd wide 1 0 r r' p
          obtain rfl : n = m := by simpa [hm] using h
          refine ⟨by simp only [List.length_cons]; omega, ?_⟩
          rcases hsame with rfl | ⟨hdrop, hlt⟩
          · exact .inl (by simp [hk])
          · obtain ⟨i, rfl⟩ := Nat.exists_eq_add_of_le' hle
            exact .inr ⟨by simpa using hdrop, k, by simp [hk],
              by simp only [List.length_cons]; omega⟩
        · simp at h
  empty {cs cs'} h := by
    cases cs with
    | nil => simp [groups] at h
    | cons c cs =>
        simp only [groups] at h
        split_ifs at h
        · obtain ⟨m, hm, hcases⟩ := groupsFrom_cases q wide 1 0 cs
          obtain rfl : 0 = m := by simpa [hm] using h
          omega
        · simp at h

lemma settled_groups (hq : Rejects q ('_' :: stops)) (wide : Bool) :
    Settled (groups q wide) where
  toSteady := steady_groups fun c hc => hq c (List.mem_cons_of_mem _ hc)
  start cs n h := by simp [groups, hq '_' List.mem_cons_self] at h

end Groups

/-! ## One scan after the other -/

lemma mem_andThen : n ∈ andThen a b cs ↔ ∃ i ∈ a cs, ∃ j ∈ b (cs.drop i), i + j = n := by
  simp [andThen]

lemma mem_orElse : n ∈ orElse a b cs ↔ n ∈ a cs ∨ n ∈ b cs := List.mem_append

lemma kept_andThen (ha : Steady a) (hb : Steady b) (hd : IsStop d) (h : n ∈ andThen a b (p ++ r))
    (hn : n ≤ p.length) : n ∈ andThen a b (p ++ d :: r') := by
  obtain ⟨i, hi, j, hj, rfl⟩ := mem_andThen.mp h
  have hle : i ≤ p.length := by omega
  rw [List.drop_append_of_le_length hle] at hj
  refine mem_andThen.mpr ⟨i, ha.kept hd hi hle, j, ?_, rfl⟩
  rw [List.drop_append_of_le_length hle]
  exact hb.kept hd hj (by rw [List.length_drop]; omega)

lemma empty_andThen (ha : Steady a) (hb : Steady b) {cs' : List Char} (h : 0 ∈ andThen a b cs) :
    0 ∈ andThen a b cs' := by
  obtain ⟨i, hi, j, hj, hsum⟩ := mem_andThen.mp h
  obtain ⟨rfl, rfl⟩ : i = 0 ∧ j = 0 := by omega
  exact mem_andThen.mpr ⟨0, ha.empty hi, 0, hb.empty hj, rfl⟩

/-- Where the first scan has found its part, the second one goes on from there. -/
lemma known_andThen_of_mem (hb : Steady b) (hd : IsStop d) {i j : Nat} (hle : i ≤ p.length)
    (hi : i ∈ a (p ++ r)) (hj : j ∈ b ((p ++ d :: r').drop i)) : i + j ≤ p.length ∧
      (i + j ∈ andThen a b (p ++ r) ∨
        (∀ c ∈ p.drop (i + j), c = '_') ∧ ∃ m ∈ andThen a b (p ++ r), p.length < m) := by
  rw [List.drop_append_of_le_length hle] at hj
  obtain ⟨hbound, hcases⟩ := hb.known (r := r) hd hj
  rw [List.length_drop] at hbound
  refine ⟨by omega, hcases.imp (fun hj => ?_) fun ⟨hdrop, m, hm, hlt⟩ => ⟨?_, i + m, ?_, ?_⟩⟩
  · exact mem_andThen.mpr ⟨i, hi, j, by rwa [List.drop_append_of_le_length hle], rfl⟩
  · rwa [List.drop_drop] at hdrop
  · exact mem_andThen.mpr ⟨i, hi, m, by rwa [List.drop_append_of_le_length hle], rfl⟩
  · rw [List.length_drop] at hlt
    omega

lemma Settled.andThen (ha : Settled a) (hb : Settled b) : Settled (andThen a b) where
  kept := kept_andThen ha.toSteady hb.toSteady
  empty := empty_andThen ha.toSteady hb.toSteady
  known {p r d r' n} hd h := by
    obtain ⟨i, hi, j, hj, rfl⟩ := mem_andThen.mp h
    obtain ⟨hle, hfound | ⟨hdrop, m, hm, hlt⟩⟩ := ha.known (r := r) hd hi
    · exact known_andThen_of_mem hb.toSteady hd hle hfound hj
    -- the first scan has stopped in front of underscores, so the second one reads nothing
    · obtain rfl : j = 0 := by
        rw [List.drop_append_of_le_length hle] at hj
        cases hrest : p.drop i with
        | nil =>
            rw [hrest] at hj
            simpa using (hb.known (p := []) (r := []) hd hj).1
        | cons c rest =>
            obtain rfl := hdrop c (by simp [hrest])
            rw [hrest] at hj
            exact hb.start _ j hj
      exact ⟨hle, .inr ⟨hdrop, m + 0, mem_andThen.mpr ⟨m, hm, 0, hb.empty hj, rfl⟩, hlt⟩⟩
  start cs n h := by
    obtain ⟨i, hi, j, hj, rfl⟩ := mem_andThen.mp h
    obtain rfl := ha.start cs i hi
    exact (Nat.zero_add j).trans (hb.start cs j hj)

lemma steady_andThen_of_exact (ha : Exact a) (hb : Steady b) : Steady (andThen a b) where
  kept := kept_andThen ha.toSteady hb
  empty := empty_andThen ha.toSteady hb
  known {p r d r' n} hd h := by
    obtain ⟨i, hi, j, hj, rfl⟩ := mem_andThen.mp h
    exact known_andThen_of_mem hb hd (ha.known (r := r) hd hi).1 (ha.found hd hi) hj

/-- A character that is no underscore, and anything behind it. -/
lemma settled_one_andThen (hq : Rejects q ('_' :: stops)) (hb : Steady b) :
    Settled (andThen (one q) b) where
  toSteady := steady_andThen_of_exact (exact_one fun c hc => hq c (List.mem_cons_of_mem _ hc)) hb
  start cs n h := by
    obtain ⟨i, hi, -⟩ := mem_andThen.mp h
    simp [one, hq '_' List.mem_cons_self] at hi

/-! ## One scan or the other -/

lemma Steady.orElse (ha : Steady a) (hb : Steady b) : Steady (orElse a b) where
  kept hd h hn := mem_orElse.mpr ((mem_orElse.mp h).imp (ha.kept hd · hn) (hb.kept hd · hn))
  known {p r d r' n} hd h := by
    rcases mem_orElse.mp h with h | h
    · obtain ⟨hle, hcases⟩ := ha.known (r := r) hd h
      exact ⟨hle, hcases.imp (mem_orElse.mpr ∘ .inl) fun ⟨hdrop, m, hm, hlt⟩ =>
        ⟨hdrop, m, mem_orElse.mpr (.inl hm), hlt⟩⟩
    · obtain ⟨hle, hcases⟩ := hb.known (r := r) hd h
      exact ⟨hle, hcases.imp (mem_orElse.mpr ∘ .inr) fun ⟨hdrop, m, hm, hlt⟩ =>
        ⟨hdrop, m, mem_orElse.mpr (.inr hm), hlt⟩⟩
  empty h := mem_orElse.mpr ((mem_orElse.mp h).imp ha.empty hb.empty)

lemma Settled.orElse (ha : Settled a) (hb : Settled b) : Settled (orElse a b) where
  toSteady := ha.toSteady.orElse hb.toSteady
  start cs n h := (mem_orElse.mp h).elim (ha.start cs n) (hb.start cs n)

lemma Exact.maybe (ha : Exact a) : Exact (maybe a) where
  toSteady := ha.toSteady.orElse exact_nothing.toSteady
  found hd h := mem_orElse.mpr ((mem_orElse.mp h).imp (ha.found hd) (exact_nothing.found hd))

lemma settled_nothing : Settled nothing := ⟨exact_nothing.toSteady, by simp [nothing]⟩

lemma Settled.maybe (ha : Settled a) : Settled (maybe a) := ha.orElse settled_nothing

lemma settled_none : Settled (any []) where
  kept _ h := by simp [any] at h
  known _ h := by simp [any] at h
  empty h := by simp [any] at h
  start _ _ h := by simp [any] at h

lemma exact_anyOf {chars : String} (h : Rejects chars.toList.contains stops) :
    Exact (anyOf chars) := exact_one h

lemma settled_anyOf {chars : String} (h : Rejects chars.toList.contains ('_' :: stops)) :
    Settled (anyOf chars) where
  toSteady := (exact_anyOf fun c hc => h c (List.mem_cons_of_mem _ hc)).toSteady
  start cs n hn := by
    obtain ⟨c, rest, heq, hc, -⟩ := mem_one.mp hn
    obtain rfl := (List.cons.inj heq).1
    cases (h _ List.mem_cons_self).symm.trans hc

/-- **The longest reading** is the same with anything behind `p` and with a stop behind it, unless
it reaches beyond `p`. -/
theorem Steady.longest?_stop (ha : Steady a) (hd : IsStop d)
    (hn : ∀ n ∈ a.longest? (p ++ r), n ≤ p.length) :
    a.longest? (p ++ d :: r') = a.longest? (p ++ r) := by
  have hle : ∀ m ∈ a (p ++ r), m ≤ p.length := by
    intro m hm
    obtain ⟨n, hmax⟩ := Option.isSome_iff_exists.mp (List.isSome_max?_of_mem hm)
    exact ((List.max?_eq_some_iff.mp hmax).2 m hm).trans (hn n hmax)
  have hmem : ∀ m, m ∈ a (p ++ d :: r') ↔ m ∈ a (p ++ r) := by
    intro m
    constructor
    · intro hm
      obtain ⟨-, hfound | ⟨-, k, hk, hlt⟩⟩ := ha.known (r := r) hd hm
      · exact hfound
      · exact absurd (hle k hk) (by omega)
    · exact fun hm => ha.kept hd hm (hle m hm)
  refine Option.ext fun n => ?_
  simp only [longest?, List.max?_eq_some_iff, hmem]

end Scan

/-! ## Number literals -/

namespace Number

open Scan

lemma settled_digits : Settled digits := by
  have hmore : Steady (maybe (andThen (maybe (anyOf "_")) (groups Char.isDigit true))) :=
    (steady_andThen_of_exact (exact_anyOf (by decide)).maybe
      (steady_groups (by decide))).orElse exact_nothing.toSteady
  exact (settled_anyOf (by decide)).orElse (settled_one_andThen (by decide) hmore)

lemma settled_decimalDigits : Settled decimalDigits := settled_groups (by decide) _

lemma settled_hexDigits : Settled hexDigits := settled_groups (by decide) _

lemma settled_hexMark : Settled hexMark :=
  (settled_anyOf (by decide)).andThen (settled_anyOf (by decide))

lemma settled_longMark : Settled longMark := (settled_anyOf (by decide)).maybe

lemma settled_floatMark : Settled floatMark := (settled_anyOf (by decide)).maybe

lemma settled_exponent {letters : String} {ds : Scan}
    (h : Rejects letters.toList.contains ('_' :: stops)) (hds : Settled ds) :
    Settled (exponent letters ds) :=
  (settled_anyOf h).andThen <| (settled_anyOf (by decide)).maybe.andThen <|
    hds.andThen settled_nothing

lemma settled_whole : Settled whole := by
  have hdecimal : Settled (all [digits, longMark]) :=
    settled_digits.andThen <| settled_longMark.andThen settled_nothing
  have hhex : Settled (all [hexMark, hexDigits, longMark]) :=
    settled_hexMark.andThen <| settled_hexDigits.andThen <| settled_longMark.andThen settled_nothing
  have hoctal : Settled
      (all [anyOf "0", maybe (anyOf "oO"), groups isOctalDigit false, longMark]) :=
    (settled_anyOf (by decide)).andThen <| (settled_anyOf (by decide)).maybe.andThen <|
      (settled_groups (by decide) _).andThen <| settled_longMark.andThen settled_nothing
  have hbinary : Settled
      (all [anyOf "0", anyOf "bB", groups (fun c => c == '0' || c == '1') false, longMark]) :=
    (settled_anyOf (by decide)).andThen <| (settled_anyOf (by decide)).andThen <|
      (settled_groups (by decide) _).andThen <| settled_longMark.andThen settled_nothing
  exact hdecimal.orElse <| hhex.orElse <| hoctal.orElse <| hbinary.orElse settled_none

lemma settled_decimalFloat : Settled decimalFloat := by
  have hpoint : Settled (anyOf ".") := settled_anyOf (by decide)
  have hexponent : Settled (maybe (exponent "eE" decimalDigits)) :=
    (settled_exponent (by decide) settled_decimalDigits).maybe
  have hmark : Settled (all [floatMark]) := settled_floatMark.andThen settled_nothing
  exact (settled_decimalDigits.andThen <| hpoint.andThen <|
      settled_decimalDigits.maybe.andThen <| hexponent.andThen hmark).orElse <|
    (hpoint.andThen <| settled_decimalDigits.andThen <| hexponent.andThen hmark).orElse <|
    (settled_digits.andThen <|
      (settled_exponent (by decide) settled_decimalDigits).andThen hmark).orElse <|
    (settled_digits.andThen <| hexponent.andThen <|
      (settled_anyOf (by decide)).andThen settled_nothing).orElse settled_none

lemma settled_hexFloat : Settled hexFloat := by
  have hpoint : Settled (anyOf ".") := settled_anyOf (by decide)
  have hmark : Settled (all [floatMark]) := settled_floatMark.andThen settled_nothing
  exact settled_hexMark.andThen <|
    ((settled_hexDigits.andThen hpoint.maybe).orElse <|
      settled_hexDigits.maybe.andThen <| hpoint.andThen <|
        settled_hexDigits.andThen settled_nothing).andThen <|
    ((settled_exponent (by decide) settled_digits).andThen hmark).maybe.andThen settled_nothing

/-- **Number literals** reach no further because of a stop behind them. -/
theorem settled_literal : Settled literal :=
  settled_whole.orElse <| settled_decimalFloat.orElse <| settled_hexFloat.orElse settled_none

/-- A number has a digit. -/
lemma pos_of_longest? {cs : List Char} {n : Nat} (h : literal.longest? cs = some n) : 0 < n := by
  have hnone : 0 ∉ literal [] := by decide
  refine Nat.pos_of_ne_zero fun hzero => hnone ?_
  have hmem : 0 ∈ literal cs := hzero ▸ (List.max?_eq_some_iff.mp h).1
  exact settled_literal.empty hmem

end Number

end CodeDigest.Java
