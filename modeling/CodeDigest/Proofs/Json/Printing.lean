import CodeDigest.Json.Printer
import CodeDigest.Proofs.Decimal.Characters
import CodeDigest.Proofs.Json.Grammar

/-!
# Reading what has been written

The indented text of a value is the text of a tree (`exists_tree`), and the tree has the value back:
an escape stands for the character that it was written for (`exists_glyph_escapeChar`), and whole
numbers of 64 bits are read as they are written (`Number.readsBack_nat`).  Three things can be lost
on the way, and `ReadsBack` rules them out: a number of floating point may be read as its neighbour,
an object with a key twice keeps one of the values, and the reader has room for so many open
containers only.
-/

namespace CodeDigest.Json

variable {c : Char} {s : String} {n : Nat} {v : Json} {room depth : Nat}

/-! ## Numbers -/

/-- The number is read as it has been written. -/
def Number.ReadsBack (n : Number) : Prop := Number.ofText? n.write = some n

/-- A number other than zero is written without a zero in front. -/
lemma head_toDigits_ne_zero (hn : n ≠ 0) : (Nat.toDigits 10 n).head? ≠ some '0' := by
  induction n using Nat.strong_induction_on with
  | _ n ih =>
      rcases Nat.lt_or_ge n 10 with h | h
      · have hdigit : ∀ k < 10, k ≠ 0 → k.digitChar ≠ '0' := by decide
        rw [Nat.toDigits_of_lt_base h]
        simpa using hdigit n h hn
      · rw [Nat.toDigits_of_base_le (by decide) h,
          List.head?_append_of_ne_nil _ Nat.toDigits_ne_nil]
        exact ih (n / 10) (by omega) (by omega)

lemma digitsValue_toDigits (n : Nat) : digitsValue (Nat.toDigits 10 n) = n :=
  Nat.ofDigitChars_ten_toDigits

/-- The digits of a number are the whole part of a numeral and nothing else. -/
lemma numeral_toDigits (n : Nat) :
    Numeral.ofText? (Nat.toDigits 10 n) = some ⟨false, Nat.toDigits 10 n, none, none⟩ := by
  have hdigit : ∀ c ∈ Nat.toDigits 10 n, c.isDigit = true := fun c hc =>
    Nat.isDigit_of_mem_toDigits (by decide) (by decide) hc
  have hrun : digitRun (Nat.toDigits 10 n) = (Nat.toDigits 10 n, []) := by
    rw [digitRun, List.takeWhile_eq_self_iff.mpr hdigit, List.dropWhile_eq_nil_iff.mpr hdigit]
  have hwhole : ((Nat.toDigits 10 n).isEmpty
      || ((Nat.toDigits 10 n).head? == some '0' && (Nat.toDigits 10 n).length != 1)) = false := by
    rcases eq_or_ne n 0 with rfl | hn
    · decide
    · simp [head_toDigits_ne_zero hn]
  unfold Numeral.ofText?
  split
  next negative cs heq =>
    have hsign : negative = false ∧ cs = Nat.toDigits 10 n := by
      split at heq
      next hminus => exact absurd (hdigit '-' (by simp [hminus])) (by decide)
      · simpa [eq_comm] using heq
    obtain ⟨rfl, rfl⟩ := hsign
    simp [hrun, hwhole, readFraction, readExponent]

lemma Number.readsBack_nat (h : n < 0x10000000000000000) : (Number.whole n).ReadsBack := by
  have hwrite : (Number.whole n).write = Nat.toDigits 10 n := Decimal.toList_toString n
  rw [ReadsBack, hwrite, Number.ofText?, numeral_toDigits, Option.bind_some]
  simp [Numeral.value?, digitsValue_toDigits, h]

/-! ## Strings -/

/-- The code of a control character. -/
lemma hexCode?_of_control : ∀ n < 0x20,
    hexCode? ['0', '0', hexDigit (n / 16), hexDigit (n % 16)] = some n := by decide

/-- What is written for a character stands for it. -/
lemma exists_glyph_escapeChar (c : Char) : ∃ g : Glyph, g.text = escapeChar c ∧ g.char = c := by
  have hsame : ∀ n, c.toNat = n → Char.ofNat n = c := fun n hn => hn ▸ Char.ofNat_toNat c
  unfold escapeChar
  simp only [beq_iff_eq]
  split_ifs with hquote hbackslash hnewline hreturn htab hbackspace hformfeed hcontrol
  · exact ⟨.short '"' '"' rfl, rfl, hquote.symm⟩
  · exact ⟨.short '\\' '\\' rfl, rfl, hbackslash.symm⟩
  · exact ⟨.short 'n' '\n' rfl, rfl, hnewline.symm⟩
  · exact ⟨.short 'r' '\r' rfl, rfl, hreturn.symm⟩
  · exact ⟨.short 't' '\t' rfl, rfl, htab.symm⟩
  · exact ⟨.short 'b' (Char.ofNat 8) rfl, rfl, hsame 8 hbackspace⟩
  · exact ⟨.short 'f' (Char.ofNat 12) rfl, rfl, hsame 12 hformfeed⟩
  · have hhigh : isHighSurrogate c.toNat = false := by
      simp only [isHighSurrogate, Bool.and_eq_false_iff, decide_eq_false_iff_not]
      omega
    have hlow : isLowSurrogate c.toNat = false := by
      simp only [isLowSurrogate, Bool.and_eq_false_iff, decide_eq_false_iff_not]
      omega
    exact ⟨.code ⟨_, c.toNat, hexCode?_of_control c.toNat hcontrol⟩ hhigh hlow, rfl,
      Char.ofNat_toNat c⟩
  · exact ⟨.plain c hquote hbackslash (by omega), rfl, rfl⟩

/-- A text between quotation marks stands for the text. -/
lemma exists_glyphs_quoted (s : String) :
    ∃ gs : List Glyph, '"' :: glyphsText gs ++ ['"'] = quoted s ∧ glyphsString gs = s := by
  have hglyphs : ∀ cs : List Char, ∃ gs : List Glyph,
      glyphsText gs = cs.flatMap escapeChar ∧ gs.map Glyph.char = cs := by
    intro cs
    induction cs with
    | nil => exact ⟨[], rfl, rfl⟩
    | cons c cs ih =>
        obtain ⟨g, htext, hchar⟩ := exists_glyph_escapeChar c
        obtain ⟨gs, htexts, hchars⟩ := ih
        refine ⟨g :: gs, ?_, by rw [List.map_cons, hchar, hchars]⟩
        rw [glyphsText, List.flatMap_cons, htext, List.flatMap_cons, ← htexts, glyphsText]
  obtain ⟨gs, htext, hchars⟩ := hglyphs s.toList
  exact ⟨gs, by rw [htext, quoted], by rw [glyphsString, hchars, String.ofList_toList]⟩

/-! ## Values -/

/-- Reading brings the value back, where there is room for this many containers in one another. -/
inductive ReadsBack : Nat → Json → Prop
  | null {room : Nat} : ReadsBack room .null
  | bool {room : Nat} (b : Bool) : ReadsBack room (.bool b)
  | number {room : Nat} {n : Number} (h : n.ReadsBack) : ReadsBack room (.number n)
  | string {room : Nat} (s : String) : ReadsBack room (.string s)
  | array {room : Nat} {vs : List Json} (h : ∀ v ∈ vs, ReadsBack room v) :
      ReadsBack (room + 1) (.array vs)
  | object {room : Nat} {ms : List (String × Json)} (hkeys : (ms.map Prod.fst).Nodup)
      (h : ∀ m ∈ ms, ReadsBack room m.2) : ReadsBack (room + 1) (.object ms)

/-- Indented text, as blanks. -/
def newLineGap (depth : Nat) : Gap where
  text := newLine depth
  blank := by simp [newLine, isSpace]

/-- So many blanks. -/
def spaces (n : Nat) : Gap where
  text := List.replicate n ' '
  blank c hc := by simp [List.eq_of_mem_replicate hc, isSpace]

lemma indentedElements_false (depth : Nat) (vs : List Json) :
    indentedElements false depth vs = afterComma vs (indentedElements true depth vs) := by
  cases vs <;> simp [indentedElements, afterComma]

lemma indentedMembers_false (depth : Nat) (ms : List (String × Json)) :
    indentedMembers false depth ms = afterComma ms (indentedMembers true depth ms) := by
  cases ms <;> simp [indentedMembers, afterComma]

/-- The value has a tree with its indented text. -/
def HasTree (room depth : Nat) (v : Json) (t : Tree) : Prop :=
  t.text = indented depth v ∧ t.value = v ∧ t.depth ≤ room

/-- The elements of an array, with what stands between the last of them and the bracket. -/
lemma exists_elements_indented {vs : List Json} (h : ∀ v ∈ vs, ∃ t, HasTree room depth v t)
    (hne : vs ≠ []) (last : Gap) : ∃ es : List (Spaced Tree),
      elementsText es = indentedElements true depth vs ++ last.text ∧
        elementsValue es = vs ∧ elementsDepth es ≤ room := by
  induction vs with
  | nil => exact absurd rfl hne
  | cons v vs ih =>
      obtain ⟨t, htext, hvalue, hdepth⟩ := h v (by simp)
      rcases vs with _ | ⟨w, vs⟩
      · refine ⟨[⟨newLineGap depth, t, last⟩], ?_, by simp [hvalue], by simpa [elementsDepth]⟩
        simp [indentedElements, newLineGap, htext]
      · obtain ⟨es, hes, hvalues, hdepths⟩ :=
          ih (fun u hu => h u (List.mem_cons_of_mem v hu)) (List.cons_ne_nil w vs)
        have hes' : es ≠ [] := by
          rintro rfl
          simp at hvalues
        refine ⟨⟨newLineGap depth, t, spaces 0⟩ :: es, ?_, by simp [hvalue, hvalues], by
          rw [elementsDepth_cons]; exact max_le hdepth hdepths⟩
        rw [elementsText_cons, indentedElements, indentedElements_false]
        simp [newLineGap, spaces, htext, hes, hes', afterComma]

/-- The members of an object, with what stands between the last of them and the brace. -/
lemma exists_members_indented {ms : List (String × Json)}
    (h : ∀ m ∈ ms, ∃ t, HasTree room depth m.2 t) (hne : ms ≠ []) (last : Gap) :
    ∃ ns : List (Entry Tree), membersText ns = indentedMembers true depth ms ++ last.text ∧
      membersValue ns = ms ∧ membersDepth ns ≤ room := by
  induction ms with
  | nil => exact absurd rfl hne
  | cons m ms ih =>
      obtain ⟨k, v⟩ := m
      obtain ⟨t, htext, hvalue, hdepth⟩ := h (k, v) (by simp)
      obtain ⟨gs, hquoted, hkey⟩ := exists_glyphs_quoted k
      -- the head of a member is its key between quotation marks, a colon and a blank
      have hhead : ∀ after : Gap,
          Entry.head ⟨⟨newLineGap depth, gs, spaces 0⟩, ⟨spaces 1, t, after⟩⟩
            = newLine depth ++ quoted k ++ [':', ' '] := by
        intro after
        simp [Entry.head, newLineGap, spaces, ← hquoted]
      rcases ms with _ | ⟨m, ms⟩
      · refine ⟨[⟨⟨newLineGap depth, gs, spaces 0⟩, ⟨spaces 1, t, last⟩⟩], ?_,
          by simp [Entry.name, hkey, hvalue], by simpa [membersDepth]⟩
        rw [membersText_cons, hhead]
        simp [indentedMembers, htext]
      · obtain ⟨ns, hns, hvalues, hdepths⟩ :=
          ih (fun n hn => h n (List.mem_cons_of_mem _ hn)) (List.cons_ne_nil m ms)
        have hns' : ns ≠ [] := by
          rintro rfl
          simp at hvalues
        refine ⟨⟨⟨newLineGap depth, gs, spaces 0⟩, ⟨spaces 1, t, spaces 0⟩⟩ :: ns, ?_,
          by simp [Entry.name, hkey, hvalue, hvalues],
          by rw [membersDepth_cons]; exact max_le hdepth hdepths⟩
        rw [membersText_cons, hhead, indentedMembers, indentedMembers_false]
        simp [spaces, htext, hns, hns', afterComma]

/-- The text of an object is that of a tree with the same keys, each of them once. -/
lemma exists_object_indented {ms : List (String × Json)} (hkeys : (ms.map Prod.fst).Nodup)
    (h : ∀ m ∈ ms, ∃ t, HasTree room (depth + 1) m.2 t) :
    ∃ (gap : Gap) (ns : List (Entry Tree)), ns.map Entry.name = ms.map Prod.fst ∧
      HasTree (room + 1) depth (.object ms) (.object gap ns) := by
  rcases ms with _ | ⟨m, ms⟩
  · exact ⟨spaces 0, [], rfl, by simp [Tree.text, spaces, indented], by simp [Tree.value],
      by simp [Tree.depth, membersDepth]⟩
  · obtain ⟨ns, htext, hvalue, hdepth⟩ :=
      exists_members_indented h (List.cons_ne_nil m ms) (newLineGap depth)
    have hnames : ns.map Entry.name = (m :: ms).map Prod.fst := by
      rw [← map_fst_membersValue, hvalue]
    refine ⟨spaces 0, ns, hnames, ?_, ?_, by simpa [Tree.depth] using hdepth⟩
    · simp [Tree.text, spaces, indented, htext, newLineGap]
    · have hnodup : (([] ++ (m :: ms)).map Prod.fst).Nodup := by simpa using hkeys
      rw [Tree.value, hvalue, putAll_of_nodup hnodup, List.nil_append]

/-- **The indented text of a value is the text of a tree of this value.** -/
theorem exists_tree (h : ReadsBack room v) (depth : Nat) : ∃ t, HasTree room depth v t := by
  induction h generalizing depth with
  | null => exact ⟨.null, by simp [Tree.text, indented, writeLeaf], rfl, by simp [Tree.depth]⟩
  | bool b =>
      refine ⟨.bool b, ?_, rfl, by simp [Tree.depth]⟩
      cases b <;> simp [Tree.text, indented, writeLeaf]
  | @number room n hn =>
      exact ⟨.number n.write n hn, by simp [Tree.text, indented, writeLeaf], rfl,
        by simp [Tree.depth]⟩
  | string s =>
      obtain ⟨gs, htext, hvalue⟩ := exists_glyphs_quoted s
      exact ⟨.string gs, by simp [Tree.text, indented, writeLeaf, ← htext],
        by rw [Tree.value, hvalue], by simp [Tree.depth]⟩
  | @array room vs h ih =>
      rcases vs with _ | ⟨w, ws⟩
      · exact ⟨.array (spaces 0) [], by simp [Tree.text, spaces, indented], by simp [Tree.value],
          by simp [Tree.depth, elementsDepth]⟩
      · obtain ⟨es, htext, hvalue, hdepth⟩ := exists_elements_indented
          (fun v hv => ih v hv (depth + 1)) (List.cons_ne_nil w ws) (newLineGap depth)
        refine ⟨.array (spaces 0) es, ?_, by rw [Tree.value, hvalue],
          by simpa [Tree.depth] using hdepth⟩
        simp [Tree.text, spaces, indented, htext, newLineGap]
  | object hkeys h ih =>
      obtain ⟨gap, ns, -, htree⟩ := exists_object_indented hkeys fun m hm => ih m hm (depth + 1)
      exact ⟨.object gap ns, htree⟩

/-- A document without blanks around its value. -/
lemma exists_document {t : Tree} (h : HasTree maxDepth 0 v t) :
    ∃ d : Document, d.root = t ∧ d.text = v.toPretty.toList := by
  obtain ⟨htext, -, hdepth⟩ := h
  refine ⟨⟨spaces 0, t, spaces 0, hdepth⟩, rfl, ?_⟩
  rw [Document.text, htext, toPretty, String.toList_ofList]
  simp [spaces]

/-- **The reader accepts the indented text of a value and brings the value back.** -/
theorem ofString?_toPretty (h : ReadsBack maxDepth v) : ofString? v.toPretty = some v := by
  obtain ⟨t, ht⟩ := exists_tree h 0
  obtain ⟨d, hroot, htext⟩ := exists_document ht
  rw [ofString?, ← htext, read?_text, hroot, ht.2.1]

end CodeDigest.Json
