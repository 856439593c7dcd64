import CodeDigest.Proofs.Json.Weight
import CodeDigest.Proofs.Reply.TrailingCommas

/-!
# Counting characters by where they stand

A bracket means one thing outside string literals and another thing in one.  `tally` counts the
characters of a text, each by itself and by where it stands.

* A JSON text has as many opening brackets outside string literals as its tree has containers, and
  the other counts that are of use here add up over the tree as well (`weighs_text`).  So they bound
  the weights of the value (`containers_le`, `bracketsInStrings_le`), and without a key twice they
  are bounded by them (`le_containers`, `le_bracketsInStrings`).
* Repair adds nothing that is counted and loses at most a backslash (`tally_repair_le`,
  `le_tally_repair`).
-/

namespace CodeDigest.Reply

open Json

variable {p : Region → Char → Bool} {q : Char → Bool} {r : Region} {c : Char}
  {cs xs ys : List Char} {a m n : ℕ} {w : Json} {gs : List Glyph}

/-! ## Counts -/

/-- How many characters of a text count, each where it stands. -/
def tally (p : Region → Char → Bool) : Region → List Char → ℕ
  | _, [] => 0
  | r, c :: cs => (p r c).toNat + tally p (r.next c) cs

lemma tally_append (p : Region → Char → Bool) (r : Region) (xs ys : List Char) :
    tally p r (xs ++ ys) = tally p r xs + tally p (xs.foldl Region.next r) ys := by
  induction xs generalizing r with
  | nil => simp [tally]
  | cons x xs ih =>
      rw [List.cons_append, tally, tally, ih, List.foldl_cons]
      omega

lemma tally_eq_zero (h : ∀ c ∈ cs, ∀ r, p r c = false) : tally p r cs = 0 := by
  induction cs generalizing r with
  | nil => rfl
  | cons c cs ih =>
      obtain ⟨hc, hcs⟩ := List.forall_mem_cons.mp h
      rw [tally, hc, ih hcs]
      rfl

lemma tally_prefix_le (h : xs <+: ys) : tally p r xs ≤ tally p r ys := by
  obtain ⟨rest, rfl⟩ := h
  rw [tally_append]
  exact Nat.le_add_right _ _

/-- Characters that count outside string literals. -/
def whenOutside (q : Char → Bool) (r : Region) (c : Char) : Bool := r == .outside && q c

/-- Characters that count in string literals. -/
def whenInside (q : Char → Bool) (r : Region) (c : Char) : Bool := r != .outside && q c

@[simp] lemma whenOutside_outside (q : Char → Bool) (c : Char) :
    whenOutside q .outside c = q c := rfl

@[simp] lemma whenOutside_inside (q : Char → Bool) (c : Char) :
    whenOutside q .inside c = false := rfl

@[simp] lemma whenInside_outside (q : Char → Bool) (c : Char) :
    whenInside q .outside c = false := rfl

@[simp] lemma whenInside_inside (q : Char → Bool) (c : Char) :
    whenInside q .inside c = q c := rfl

/-- An opening bracket. -/
def isOpener (c : Char) : Bool := (closerOf? c).isSome

/-- Outside string literals nothing counts but opening brackets, each as much as `a`, and maybe
backslashes; and a string literal does not count for its end. -/
structure Counting (p : Region → Char → Bool) (a : ℕ) : Prop where
  outer : ∀ c, c ≠ '\\' → (p .outside c).toNat = if isOpener c then a else 0
  quote : p .inside '"' = false

lemma counting_whenInside (h : q '"' = false) : Counting (whenInside q) 0 :=
  ⟨fun c _ => by simp, by simp [h]⟩

lemma counting_openers : Counting (whenOutside isOpener) 1 := by
  refine ⟨fun c _ => ?_, rfl⟩
  cases h : isOpener c <;> simp [h]

lemma counting_backslashes : Counting (whenOutside (· == '\\')) 0 :=
  ⟨fun c hc => by simp [hc], rfl⟩

/-! ## The text of a tree -/

/-- No quotation mark, no backslash and no opening bracket. -/
structure Mute (c : Char) : Prop where
  ne_quote : c ≠ '"'
  ne_backslash : c ≠ '\\'
  not_opener : isOpener c = false

lemma Counting.mute (hp : Counting p a) (hc : Mute c) : p .outside c = false := by
  have hcount := hp.outer c hc.ne_backslash
  rw [if_neg (by simp [hc.not_opener])] at hcount
  simpa using hcount

/-- A text that begins and ends outside string literals, and what it counts. -/
structure Weighs (p : Region → Char → Bool) (cs : List Char) (n : ℕ) : Prop where
  region : cs.foldl Region.next .outside = .outside
  count : tally p .outside cs = n

namespace Weighs

lemma append (hx : Weighs p xs m) (hy : Weighs p ys n) : Weighs p (xs ++ ys) (m + n) := by
  constructor
  · rw [List.foldl_append, hx.region, hy.region]
  · rw [tally_append, hx.region, hx.count, hy.count]

lemma of_mute (hp : Counting p a) (h : ∀ c ∈ cs, Mute c) : Weighs p cs 0 := by
  induction cs with
  | nil => exact ⟨rfl, rfl⟩
  | cons c cs ih =>
      obtain ⟨hc, hcs⟩ := List.forall_mem_cons.mp h
      have hnext : Region.next .outside c = .outside := next_of_ne_quote hc.ne_quote
      obtain ⟨hregion, hcount⟩ := ih hcs
      refine ⟨by rw [List.foldl_cons, hnext, hregion], ?_⟩
      rw [tally, hp.mute hc, hnext, hcount]
      rfl

lemma opener (hp : Counting p a) (hc : isOpener c = true) : Weighs p [c] a := by
  have hne : c ≠ '"' ∧ c ≠ '\\' := by
    constructor <;> rintro rfl <;> exact absurd hc (by decide)
  have hnext : Region.next .outside c = .outside := next_of_ne_quote hne.1
  refine ⟨hnext, ?_⟩
  rw [tally, hp.outer c hne.2, if_pos hc]
  rfl

end Weighs

/-! ### Characters -/

lemma mute_of_isSpace (h : isSpace c = true) : Mute c := by
  simp only [isSpace, Bool.or_eq_true, beq_iff_eq] at h
  rcases h with ((rfl | rfl) | rfl) | rfl <;> exact ⟨by decide, by decide, rfl⟩

lemma mute_of_isCloser (h : isCloser c = true) : Mute c := by
  have hc : c = '}' ∨ c = ']' := by simpa [isCloser] using h
  rcases hc with rfl | rfl <;> exact ⟨by decide, by decide, rfl⟩

lemma mute_of_solid (h : Solid c) (hb : c ≠ '\\') : Mute c :=
  ⟨h.ne_quote, hb, by simp [isOpener, h.not_opener]⟩

lemma mute_of_isLower (h : c.isLower = true) : Mute c := by
  refine mute_of_solid (solid_of_isLower h) ?_
  rintro rfl
  exact absurd h (by decide)

lemma mute_of_isNumberChar (h : isNumberChar c = true) : Mute c := by
  refine mute_of_solid (solid_of_isNumberChar h) ?_
  rintro rfl
  exact absurd h (by decide)

/-- A character that stands for part of a code or behind a backslash. -/
structure Marks (c : Char) : Prop extends Mute c where
  ne_newline : c ≠ '\n'

lemma marks_of_hexValue (h : (hexValue? c).isSome = true) : Marks c := by
  have hne : ∀ d, (hexValue? d).isSome = false → c ≠ d := by
    rintro d hd rfl
    rw [hd] at h
    cases h
  refine ⟨⟨hne '"' (by decide), hne '\\' (by decide), ?_⟩, hne '\n' (by decide)⟩
  simp [isOpener, closerOf?, hne '{' (by decide), hne '[' (by decide)]

lemma isSome_hexValue_of_mem (code : HexCode) : ∀ c ∈ code.digits, (hexValue? c).isSome = true := by
  obtain ⟨digits, n, h⟩ := code
  match digits, h with
  | [c₁, c₂, c₃, c₄], h =>
      simp only [hexCode?, Option.bind_eq_bind, Option.bind_eq_some_iff, Option.some.injEq] at h
      obtain ⟨d₁, h₁, d₂, h₂, d₃, h₃, d₄, h₄, -⟩ := h
      simp [h₁, h₂, h₃, h₄]

lemma marks_of_mem_digits (code : HexCode) : ∀ c ∈ code.digits, Marks c :=
  fun c hc => marks_of_hexValue (isSome_hexValue_of_mem code c hc)

/-! ### Strings -/

/-- A character that is not written as itself is written with a backslash and characters that mean
nothing else. -/
lemma exists_text_of_isEscape {g : Glyph} (h : g.isEscape = true) :
    ∃ cs, g.text = '\\' :: cs ∧ ∀ c ∈ cs, isOpener c = false ∧ c ≠ '\n' := by
  have hu : ∀ c, c = 'u' → isOpener c = false ∧ c ≠ '\n' := by
    rintro c rfl
    exact ⟨rfl, by decide⟩
  have hdigits : ∀ (code : HexCode), ∀ c ∈ code.digits, isOpener c = false ∧ c ≠ '\n' :=
    fun code c hc => ⟨(marks_of_mem_digits code c hc).not_opener,
      (marks_of_mem_digits code c hc).ne_newline⟩
  cases g with
  | plain => cases h
  | short letter meaning reads =>
      refine ⟨[letter], rfl, fun c hc => ?_⟩
      obtain rfl := List.mem_singleton.mp hc
      unfold simpleEscape? at reads
      split at reads
      all_goals first | exact ⟨rfl, by decide⟩ | cases reads
  | code code _ _ =>
      refine ⟨'u' :: code.digits, rfl, fun c hc => ?_⟩
      exact (List.mem_cons.mp hc).elim (hu c) (hdigits code c)
  | pair high low _ _ =>
      refine ⟨'u' :: high.digits ++ '\\' :: 'u' :: low.digits, rfl, fun c hc => ?_⟩
      rcases List.mem_append.mp hc with hc | hc
      · exact (List.mem_cons.mp hc).elim (hu c) (hdigits high c)
      · rcases List.mem_cons.mp hc with rfl | hc
        · exact ⟨rfl, by decide⟩
        · exact (List.mem_cons.mp hc).elim (hu c) (hdigits low c)

/-- A text that stands in a string literal from its beginning to its end. -/
structure Stays (cs : List Char) : Prop where
  region : cs.foldl Region.next .inside = .inside
  nothing : ∀ q, tally (whenOutside q) .inside cs = 0

namespace Stays

lemma nil : Stays [] := ⟨rfl, fun _ => rfl⟩

lemma append (hx : Stays xs) (hy : Stays ys) : Stays (xs ++ ys) := by
  refine ⟨by rw [List.foldl_append, hx.region, hy.region], fun q => ?_⟩
  rw [tally_append, hx.region, hx.nothing, hy.nothing]

lemma plain (hquote : c ≠ '"') (hbackslash : c ≠ '\\') : Stays [c] :=
  ⟨by simp [Region.next, hquote, hbackslash], fun _ => rfl⟩

/-- A backslash and the character behind it. -/
lemma escape (c : Char) : Stays ['\\', c] := ⟨rfl, fun _ => rfl⟩

lemma of_marks (h : ∀ c ∈ cs, Marks c) : Stays cs := by
  induction cs with
  | nil => exact nil
  | cons c cs ih =>
      obtain ⟨hc, hcs⟩ := List.forall_mem_cons.mp h
      exact (plain hc.ne_quote hc.ne_backslash).append (ih hcs)

lemma glyph (g : Glyph) : Stays g.text := by
  have hcode : ∀ code : HexCode, Stays ('\\' :: 'u' :: code.digits) :=
    fun code => (escape 'u').append (of_marks (marks_of_mem_digits code))
  cases g with
  | plain c hquote hbackslash _ => exact plain hquote hbackslash
  | short letter meaning _ => exact escape letter
  | code code _ _ => exact hcode code
  | pair high low _ _ => exact (hcode high).append (hcode low)

lemma glyphs (gs : List Glyph) : Stays (glyphsText gs) := by
  induction gs with
  | nil => exact nil
  | cons g gs ih => exact (glyph g).append ih

end Stays

lemma tally_glyphs_cons (p : Region → Char → Bool) (g : Glyph) (gs : List Glyph) :
    tally p .inside (glyphsText (g :: gs))
      = tally p .inside g.text + tally p .inside (glyphsText gs) := by
  rw [glyphsText, List.flatMap_cons, tally_append, (Stays.glyph g).region, glyphsText]

/-- The opening brackets of a string. -/
def openersIn (s : String) : ℕ := s.toList.countP isOpener

lemma openersIn_glyphs_cons (g : Glyph) (gs : List Glyph) :
    openersIn (glyphsString (g :: gs)) = (isOpener g.char).toNat + openersIn (glyphsString gs) := by
  simp only [openersIn, glyphsString, String.toList_ofList, List.map_cons, List.countP_cons]
  cases isOpener g.char <;> simp [Nat.add_comm]

/-- A bracket in a string is written as itself or with a backslash. -/
lemma openersIn_le (gs : List Glyph) : openersIn (glyphsString gs)
    ≤ tally (whenInside fun c => isOpener c || c == '\\') .inside (glyphsText gs) := by
  induction gs with
  | nil => exact Nat.zero_le _
  | cons g gs ih =>
      rw [openersIn_glyphs_cons, tally_glyphs_cons]
      refine Nat.add_le_add ?_ ih
      cases hg : g.isEscape with
      | true =>
          obtain ⟨cs, hcs, -⟩ := exists_text_of_isEscape hg
          have hle : (isOpener g.char).toNat ≤ 1 := Bool.toNat_le _
          rw [hcs, tally]
          exact Nat.le_add_right_of_le hle
      | false =>
          cases g with
          | plain c _ hbackslash _ =>
              have hbeq : (c == '\\') = false := by simpa using hbackslash
              simp [Glyph.text, Glyph.char, tally, hbeq]
          | _ => cases hg

/-- A bracket that is written in a string is one of its brackets. -/
lemma le_openersIn (gs : List Glyph) :
    tally (whenInside isOpener) .inside (glyphsText gs) ≤ openersIn (glyphsString gs) := by
  induction gs with
  | nil => exact Nat.zero_le _
  | cons g gs ih =>
      rw [openersIn_glyphs_cons, tally_glyphs_cons]
      refine Nat.add_le_add ?_ ih
      cases hg : g.isEscape with
      | true =>
          obtain ⟨cs, hcs, hplain⟩ := exists_text_of_isEscape hg
          have hzero : tally (whenInside isOpener) .inside g.text = 0 := by
            rw [hcs]
            refine tally_eq_zero fun c hc r => ?_
            rcases List.mem_cons.mp hc with rfl | hc
            · exact Bool.and_false _
            · rw [whenInside, (hplain c hc).1, Bool.and_false]
          rw [hzero]
          exact Nat.zero_le _
      | false =>
          cases g with
          | plain c _ _ _ => simp [Glyph.text, Glyph.char, tally]
          | _ => cases hg

/-- No string goes on behind a newline. -/
lemma tally_newline_glyphs (gs : List Glyph) :
    tally (whenInside (· == '\n')) .inside (glyphsText gs) = 0 := by
  induction gs with
  | nil => rfl
  | cons g gs ih =>
      rw [tally_glyphs_cons, ih, Nat.add_zero]
      refine tally_eq_zero fun c hc r => ?_
      have hne : c ≠ '\n' := by
        cases hg : g.isEscape with
        | true =>
            obtain ⟨cs, hcs, hplain⟩ := exists_text_of_isEscape hg
            rw [hcs] at hc
            rcases List.mem_cons.mp hc with rfl | hc
            · decide
            · exact (hplain c hc).2
        | false =>
            cases g with
            | plain d _ _ printable =>
                obtain rfl := List.mem_singleton.mp hc
                rintro rfl
                exact absurd printable (by decide)
            | _ => cases hg
      simp [whenInside, hne]

/-! ### Trees -/

lemma Weighs.literal (hp : Counting p a) (gs : List Glyph) :
    Weighs p ('"' :: glyphsText gs ++ ['"']) (tally p .inside (glyphsText gs)) := by
  have hopen : p .outside '"' = false := by
    simpa [isOpener, closerOf?] using hp.outer '"' (by decide)
  have hstart : Region.next .outside '"' = .inside := rfl
  have hend : Region.next .inside '"' = .outside := rfl
  constructor
  · rw [List.cons_append, List.foldl_cons, hstart, List.foldl_append, (Stays.glyphs gs).region]
    rfl
  · rw [List.cons_append, tally, hopen, hstart, tally_append, (Stays.glyphs gs).region]
    simp [tally, hp.quote]

lemma Weighs.gap (hp : Counting p a) (gap : Gap) : Weighs p gap.text 0 :=
  .of_mute hp fun c hc => mute_of_isSpace (gap.blank c hc)

/-- A comma in front of what follows counts nothing. -/
lemma Weighs.afterComma {α : Type} (hp : Counting p a) (following : List α)
    (h : Weighs p cs n) (hnil : following = [] → n = 0) : Weighs p (afterComma following cs) n := by
  cases following with
  | nil =>
      rw [hnil rfl]
      exact ⟨rfl, rfl⟩
  | cons x following =>
      have hcomma : Weighs p [','] 0 := .of_mute hp (by simpa using ⟨by decide, by decide, rfl⟩)
      simpa using hcomma.append h

/-- What is between brackets counts, and the opening one. -/
lemma Weighs.between {d : Char} (hp : Counting p a) (hc : isOpener c = true)
    (hd : isCloser d = true) (gap : Gap) (h : Weighs p cs n) :
    Weighs p (c :: gap.text ++ cs ++ [d]) (a + n) := by
  have hclose : Weighs p [d] 0 := .of_mute hp (by simpa using mute_of_isCloser hd)
  simpa using (((opener hp hc).append (.gap hp gap)).append h).append hclose

/-- In front of the value of a member the key counts. -/
lemma Weighs.head (hp : Counting p a) (e : Entry Tree) :
    Weighs p e.head (tally p .inside (glyphsText e.key.body)) := by
  have hcolon : Weighs p [':'] 0 := .of_mute hp (by simpa using ⟨by decide, by decide, rfl⟩)
  have hall := (((Weighs.gap hp e.key.before).append (.literal hp e.key.body)).append
    (.gap hp e.key.after)).append (hcolon.append (.gap hp e.value.before))
  simpa [Entry.head] using hall

/-- What a tree counts by the characters of its strings. -/
def weightBy (p : Region → Char → Bool) (gs : List Glyph) : ℕ := tally p .inside (glyphsText gs)

lemma Weighs.elements {es : List (Spaced Tree)} (hp : Counting p a)
    (h : ∀ e ∈ es, Weighs p e.body.text (e.body.weigh a (weightBy p))) :
    Weighs p (elementsText es) (elementsWeigh a (weightBy p) es) := by
  induction es with
  | nil => exact ⟨by simp, by simp [tally, elementsWeigh]⟩
  | cons e es ih =>
      obtain ⟨he, hes⟩ := List.forall_mem_cons.mp h
      have hrest := (ih hes).afterComma hp es (by rintro rfl; rfl)
      have hall := (((gap hp e.before).append he).append (.gap hp e.after)).append hrest
      have hweight : 0 + e.body.weigh a (weightBy p) + 0 + elementsWeigh a (weightBy p) es
          = elementsWeigh a (weightBy p) (e :: es) := by
        simp [elementsWeigh]
      rw [elementsText_cons, ← hweight]
      exact hall

lemma Weighs.members {ms : List (Entry Tree)} (hp : Counting p a)
    (h : ∀ e ∈ ms, Weighs p e.value.body.text (e.value.body.weigh a (weightBy p))) :
    Weighs p (membersText ms) (membersWeigh a (weightBy p) ms) := by
  induction ms with
  | nil => exact ⟨by simp, by simp [tally, membersWeigh]⟩
  | cons e ms ih =>
      obtain ⟨he, hms⟩ := List.forall_mem_cons.mp h
      have hrest := (ih hms).afterComma hp ms (by rintro rfl; rfl)
      have hall := (((head hp e).append he).append (.gap hp e.value.after)).append hrest
      have hweight : weightBy p e.key.body + e.value.body.weigh a (weightBy p) + 0
          + membersWeigh a (weightBy p) ms = membersWeigh a (weightBy p) (e :: ms) := by
        simp [membersWeigh]
      rw [membersText_cons, ← hweight]
      exact hall

/-- **What the text of a tree counts** adds up over the tree. -/
theorem weighs_text (hp : Counting p a) (t : Tree) :
    Weighs p t.text (t.weigh a (weightBy p)) := by
  have hlower : ∀ {cs : List Char}, cs.all Char.isLower = true → Weighs p cs 0 :=
    fun hcs => .of_mute hp fun c hc => mute_of_isLower (List.all_eq_true.mp hcs c hc)
  induction t using Tree.induct with
  | null => exact hlower (by decide)
  | bool b => cases b <;> exact hlower (by decide)
  | number text n reads =>
      exact .of_mute hp fun c hc => mute_of_isNumberChar ((number_spec reads).2 c hc)
  | string gs => exact .literal hp gs
  | array gap es ih => exact .between hp rfl rfl gap (.elements hp ih)
  | object gap ms ih => exact .between hp rfl rfl gap (.members hp ih)

lemma tally_document (hp : Counting p a) (d : Document) :
    tally p .outside d.text = d.root.weigh a (weightBy p) := by
  have hall := ((Weighs.gap hp d.lead).append (weighs_text hp d.root)).append (.gap hp d.trail)
  simpa [Document.text] using hall.count

/-! ## Values -/

/-- How many arrays and objects there are in a value. -/
def containers (v : Json) : ℕ := v.weigh 1 fun _ => 0

/-- How many opening brackets there are in the strings and keys of a value. -/
def bracketsInStrings (v : Json) : ℕ := v.weigh 0 openersIn

lemma containers_le (h : read? cs = some w) :
    containers w ≤ tally (whenOutside isOpener) .outside cs := by
  obtain ⟨d, rfl, rfl⟩ := read?_eq_some_iff.mp h
  rw [tally_document counting_openers]
  exact weigh_value_le (fun gs => Nat.zero_le _) d.root

lemma bracketsInStrings_le (h : read? cs = some w) : bracketsInStrings w
    ≤ tally (whenInside fun c => isOpener c || c == '\\') .outside cs := by
  obtain ⟨d, rfl, rfl⟩ := read?_eq_some_iff.mp h
  rw [tally_document (counting_whenInside rfl)]
  exact weigh_value_le openersIn_le d.root

/-- Outside string literals there is no backslash. -/
lemma tally_backslash (h : read? cs = some w) :
    tally (whenOutside (· == '\\')) .outside cs = 0 := by
  obtain ⟨d, rfl, -⟩ := read?_eq_some_iff.mp h
  rw [tally_document counting_backslashes]
  exact d.root.weigh_eq_zero fun gs => (Stays.glyphs gs).nothing _

/-- In string literals there is no newline. -/
lemma tally_newline (h : read? cs = some w) :
    tally (whenInside (· == '\n')) .outside cs = 0 := by
  obtain ⟨d, rfl, -⟩ := read?_eq_some_iff.mp h
  rw [tally_document (counting_whenInside rfl)]
  exact d.root.weigh_eq_zero tally_newline_glyphs

section Distinct

variable {d : Document} (hd : d.root.DistinctKeys)

include hd

/-- **Without a key twice** a value has all containers that are written. -/
lemma le_containers :
    tally (whenOutside isOpener) .outside d.text ≤ containers d.root.value := by
  rw [tally_document counting_openers]
  exact le_weigh_value (fun gs => ((Stays.glyphs gs).nothing isOpener).le) d.root hd

/-- Its strings have all opening brackets that are written in string literals. -/
lemma le_bracketsInStrings :
    tally (whenInside isOpener) .outside d.text ≤ bracketsInStrings d.root.value := by
  rw [tally_document (counting_whenInside rfl)]
  exact le_weigh_value le_openersIn d.root hd

end Distinct

/-! ## Repair -/

/-- What has been copied ends in the region of the repair and counts as much as what has been read,
and nothing but closing brackets is due. -/
structure Mirrors (p : Region → Char → Bool) (n : ℕ) (r : Repair) : Prop where
  region : r.copied.reverse.foldl Region.next .outside = r.region
  count : tally p .outside r.copied.reverse = n
  due : ∀ d ∈ r.due, isCloser d = true

/-- Nothing but a quotation mark leads out of a string literal. -/
lemma of_next_eq_outside (h : r.next c = .outside) (hc : c ≠ '"') : r = .outside := by
  cases r with
  | outside => rfl
  | inside =>
      simp only [Region.next, beq_iff_eq, hc, if_false] at h
      split at h <;> cases h
  | escaped => cases h

/-- Blanks and commas do not end a string literal. -/
lemma region_of_foldl_next (h : ∀ c ∈ cs, c ≠ '"')
    (hout : cs.foldl Region.next r = .outside) : r = .outside := by
  induction cs generalizing r with
  | nil => exact hout
  | cons c cs ih =>
      obtain ⟨hc, hcs⟩ := List.forall_mem_cons.mp h
      exact of_next_eq_outside (ih hcs hout) hc

lemma mute_of_isBlank (h : Text.isBlank c = true) : Mute c := by
  have hne : ∀ d, Text.isBlank d = false → c ≠ d := by
    rintro d hd rfl
    rw [hd] at h
    cases h
  refine ⟨hne '"' (by decide), hne '\\' (by decide), ?_⟩
  simp [isOpener, closerOf?, hne '{' (by decide), hne '[' (by decide)]

/-- A comma at the end, with the blanks behind it, counts nothing. -/
lemma dropComma_spec (hp : Counting p a) (cs : List Char)
    (hout : cs.reverse.foldl Region.next .outside = .outside) :
    (dropComma cs).reverse.foldl Region.next .outside = .outside ∧
      tally p .outside (dropComma cs).reverse = tally p .outside cs.reverse := by
  unfold dropComma
  split
  next rest hdrop =>
    obtain ⟨gap, hgap, hcs⟩ : ∃ gap, (∀ c ∈ gap, Mute c) ∧ cs.reverse = rest.reverse ++ gap := by
      refine ⟨(cs.takeWhile Text.isBlank ++ [',']).reverse, fun c hc => ?_, ?_⟩
      · rw [List.mem_reverse, List.mem_append, List.mem_singleton] at hc
        rcases hc with hc | rfl
        · exact mute_of_isBlank (List.mem_takeWhile_imp hc)
        · exact ⟨by decide, by decide, rfl⟩
      · rw [← List.reverse_append, List.append_assoc, List.singleton_append, ← hdrop,
          List.takeWhile_append_dropWhile]
    rw [hcs, List.foldl_append] at hout
    have hrest := region_of_foldl_next (fun c hc => (hgap c hc).ne_quote) hout
    rw [hcs, tally_append, hrest, (Weighs.of_mute hp hgap).count]
    exact ⟨rfl, rfl⟩
  · exact ⟨hout, rfl⟩

lemma isCloser_of_closerOf {d : Char} (h : closerOf? c = some d) : isCloser d = true := by
  unfold closerOf? at h
  split_ifs at h <;> obtain rfl := Option.some.inj h <;> rfl

lemma region_step (r : Repair) (c : Char) : (r.step c).region = r.region.next c := by
  obtain ⟨copied, due, region⟩ := r
  cases region with
  | inside | escaped => rfl
  | outside =>
      cases hclose : isCloser c with
      | true => simp [Repair.step, hclose, next_of_ne_quote (ne_quote_of_isCloser hclose)]
      | false =>
          cases hopen : closerOf? c with
          | none => simp [Repair.step, hclose, hopen]
          | some d =>
              have hne : c ≠ '"' := by
                rintro rfl
                cases hopen
              simp [Repair.step, hclose, hopen, next_of_ne_quote hne]

namespace Mirrors

variable {repaired : Repair}

/-- One more character is copied. -/
lemma copy {copied due due' : List Char} (h : Mirrors p n ⟨copied, due, r⟩) (c : Char)
    (hdue : ∀ d ∈ due', isCloser d = true) :
    Mirrors p (n + (p r c).toNat) ⟨c :: copied, due', r.next c⟩ := by
  refine ⟨?_, ?_, hdue⟩
  · rw [List.reverse_cons, List.foldl_concat, h.region]
  · rw [List.reverse_cons, tally_append, h.region, h.count]
    rfl

/-- **A step copies its character** and what is counted. -/
theorem step (hp : Counting p a) (h : Mirrors p n repaired) (c : Char) :
    Mirrors p (n + (p repaired.region c).toNat) (repaired.step c) := by
  obtain ⟨copied, due, region⟩ := repaired
  cases region with
  | inside | escaped => exact h.copy c h.due
  | outside =>
      have hstay : c ≠ '"' → Region.next .outside c = .outside := next_of_ne_quote
      cases hclose : isCloser c with
      | true =>
          obtain ⟨hregion, hcount⟩ := dropComma_spec hp copied h.region
          have hdrop : Mirrors p n ⟨dropComma copied, due, .outside⟩ :=
            ⟨hregion, hcount.trans h.count, h.due⟩
          have hdue : ∀ d ∈ (if due.head? == some c then due.tail else due), isCloser d = true := by
            intro d hd
            split at hd
            · exact h.due d (List.mem_of_mem_tail hd)
            · exact h.due d hd
          have hcopy := hdrop.copy c hdue
          rw [hstay (ne_quote_of_isCloser hclose)] at hcopy
          simpa [Repair.step, hclose] using hcopy
      | false =>
          cases hopen : closerOf? c with
          | none => simpa [Repair.step, hclose, hopen] using h.copy c h.due
          | some d =>
              have hne : c ≠ '"' := by
                rintro rfl
                cases hopen
              have hcopy := h.copy c (List.forall_mem_cons.mpr ⟨isCloser_of_closerOf hopen, h.due⟩)
              rw [hstay hne] at hcopy
              simpa [Repair.step, hclose, hopen] using hcopy

lemma foldl (hp : Counting p a) (h : Mirrors p n repaired) (cs : List Char) :
    Mirrors p (n + tally p repaired.region cs) (cs.foldl Repair.step repaired) := by
  induction cs generalizing n repaired with
  | nil => exact h
  | cons c cs ih =>
      have hrest := ih (h.step hp c)
      rw [region_step, Nat.add_assoc] at hrest
      exact hrest

/-- A string literal that is closed counts no more, and what is due counts nothing. -/
lemma close {copied due : List Char} (hp : Counting p a)
    (hin : copied.reverse.foldl Region.next .outside = .inside)
    (hdue : ∀ d ∈ due, isCloser d = true) :
    tally p .outside (('"' :: copied).reverse ++ due) = tally p .outside copied.reverse := by
  have hend : Region.next .inside '"' = .outside := rfl
  have hnothing := (Weighs.of_mute hp fun d hd => mute_of_isCloser (hdue d hd)).count
  rw [List.reverse_cons, List.append_assoc, tally_append, hin, List.singleton_append, tally,
    hp.quote, hend, hnothing]
  rfl

lemma finish (hp : Counting p a) (h : Mirrors p n repaired) :
    tally p .outside repaired.finish ≤ n ∧
      (p .inside '\\' = false → n ≤ tally p .outside repaired.finish) := by
  obtain ⟨copied, due, region⟩ := repaired
  obtain ⟨hregion, hcount, hdue⟩ := h
  suffices heq : tally p .outside (Repair.finish ⟨copied, due, region⟩) = n ∨
      tally p .outside (Repair.finish ⟨copied, due, region⟩) + (p .inside '\\').toNat = n by
    rcases heq with heq | heq
    · exact ⟨heq.le, fun _ => heq.ge⟩
    · refine ⟨by omega, fun hb => ?_⟩
      rw [hb] at heq
      exact heq.ge
  cases region with
  | outside =>
      left
      obtain ⟨hout, hdrop⟩ := dropComma_spec hp copied hregion
      have hnothing := (Weighs.of_mute hp fun d hd => mute_of_isCloser (hdue d hd)).count
      change tally p .outside ((dropComma copied).reverse ++ due) = n
      rw [tally_append, hout, hnothing, hdrop]
      exact hcount
  | inside => exact .inl ((close hp hregion hdue).trans hcount)
  | escaped =>
      right
      rcases copied with _ | ⟨x, copied⟩
      · cases hregion
      · -- what has been copied ends with a backslash, which goes
        simp only [List.reverse_cons, List.foldl_concat] at hregion
        obtain ⟨hin, rfl⟩ := of_next_eq_escaped hregion
        simp only [List.reverse_cons, tally_append, hin] at hcount
        exact (congrArg (· + (p .inside '\\').toNat) (close hp hin hdue)).trans hcount

end Mirrors

lemma mirrors_repair (hp : Counting p a) (cs : List Char) :
    Mirrors p (tally p .outside cs) (cs.foldl Repair.step .start) := by
  have hstart : Mirrors p 0 .start := ⟨rfl, rfl, nofun⟩
  have hall := hstart.foldl hp cs
  rwa [Nat.zero_add] at hall

/-- **Repair adds nothing that is counted.** -/
theorem tally_repair_le (hp : Counting p a) (cs : List Char) :
    tally p .outside (repair cs) ≤ tally p .outside cs :=
  ((mirrors_repair hp cs).finish hp).1

/-- It loses at most a backslash in a string literal. -/
lemma le_tally_repair (hp : Counting p a) (hb : p .inside '\\' = false) (cs : List Char) :
    tally p .outside cs ≤ tally p .outside (repair cs) :=
  ((mirrors_repair hp cs).finish hp).2 hb

end CodeDigest.Reply
