import CodeDigest.Json.Shape
import CodeDigest.Proofs.Json.Fields
import CodeDigest.Proofs.Json.Grammar
import CodeDigest.Proofs.Text.Splitting

/-!
# What is read under a shape

`Shape.pick` says on values what is wanted of them.  On the text of a document in which no object
has a key twice, reading under a shape is reading the value and picking from it (`readShape?_text`).

The reader looks at the text alone, so this is an induction on the tree of the document
(`readsUnder`).  The text of a leaf is split off as a whole (`leafText?_text`); elements and members
are taken one by one (`readElements_text`, `readMembers_text`).  Every step takes at least one
character away, so the length of a text bounds the steps that are needed.
-/

namespace CodeDigest.Json

mutual

/-- What is wanted of a value, if it is of the shape. -/
def Shape.pick (shape : Shape) : Json → Option Json
  | .array vs => do
    let (first, others) ← shape.elements?
    (pickElements first others vs).map .array
  | .object ms => do
    let fields ← shape.fields?
    (pickMembers fields ms).map .object
  | v => some (if shape.isWanted then v else .null)

/-- What is wanted of the elements of an array. -/
def pickElements (first : List Shape) (others : Shape) : List Json → Option (List Json)
  | [] => some []
  | v :: vs => do
    let w ← (first.headD others).pick v
    let ws ← pickElements first.tail others vs
    some (w :: ws)

/-- The members of an object that are wanted, with what is wanted of them. -/
def pickMembers (fields : List (String × Shape)) :
    List (String × Json) → Option (List (String × Json))
  | [] => some []
  | (key, v) :: ms => do
    let w ← ((fields.lookup key).getD .ignored).pick v
    let ws ← pickMembers fields ms
    some ((if (fields.lookup key).isSome then [(key, w)] else []) ++ ws)

end

variable {cs rest text : List Char} {c : Char} {shape others : Shape} {first : List Shape}
  {fields : List (String × Shape)} {fuel : ℕ} {t : Tree}

/-! ## Blanks -/

lemma withoutBlanks_append (g : Gap) (cs : List Char) :
    withoutBlanks (g.text ++ cs) = withoutBlanks cs := by
  rw [withoutBlanks, List.dropWhile_append_of_pos g.blank]
  rfl

lemma withoutBlanks_cons (h : isSpace c = false) (cs : List Char) :
    withoutBlanks (c :: cs) = c :: cs := List.dropWhile_cons_of_neg (by simp [h])

lemma readShape_blanks (g : Gap) :
    readShape fuel shape (g.text ++ cs) = readShape fuel shape cs := by
  cases fuel with
  | zero => simp only [readShape]
  | succ fuel => simp only [readShape, withoutBlanks_append]

lemma readElements_blanks (g : Gap) :
    readElements fuel first others (g.text ++ cs) = readElements fuel first others cs := by
  cases fuel with
  | zero => simp only [readElements]
  | succ fuel => simp only [readElements, readShape_blanks]

lemma readMembers_blanks (g : Gap) :
    readMembers fuel fields (g.text ++ cs) = readMembers fuel fields cs := by
  cases fuel with
  | zero => simp only [readMembers]
  | succ fuel => simp only [readMembers, readKey, withoutBlanks_append]

lemma isLeafChar_of_isSpace (h : isSpace c = true) : isLeafChar c = false := by
  simp only [isSpace, Bool.or_eq_true, beq_iff_eq] at h
  rcases h with ((rfl | rfl) | rfl) | rfl <;> decide

/-- What follows a leaf is no part of it. -/
def EndsLeaf (rest : List Char) : Prop := ∀ c ∈ rest.head?, isLeafChar c = false

lemma endsLeaf_cons (h : isLeafChar c = false) (cs : List Char) : EndsLeaf (c :: cs) := by
  simpa [EndsLeaf] using h

lemma EndsLeaf.gap (h : EndsLeaf rest) (g : Gap) : EndsLeaf (g.text ++ rest) := by
  rcases hg : g.text with _ | ⟨c, cs⟩
  · exact h
  · exact endsLeaf_cons (isLeafChar_of_isSpace (g.blank c (by simp [hg]))) _

/-! ## Leaves -/

/-- The text of a tree starts with its first token. -/
lemma Tree.exists_cons_text (t : Tree) : ∃ c cs, t.text = c :: cs ∧ isSpace c = false ∧ c ≠ ']' ∧
    (t.isContainer = false → c ≠ '[' ∧ c ≠ '{') := by
  cases t with
  | null => exact ⟨'n', _, rfl, by decide⟩
  | bool b => cases b <;> exact ⟨_, _, rfl, by decide⟩
  | number text n reads =>
      obtain ⟨⟨c, cs, rfl, hc⟩, -⟩ := number_spec reads
      have hne : ∀ d : Char, d ≠ '-' → d.isDigit = false → c ≠ d := by
        rintro d hd hdigit rfl
        simp [hd, hdigit] at hc
      refine ⟨c, cs, rfl, ?_, hne ']' (by decide) (by decide),
        fun _ => ⟨hne '[' (by decide) (by decide), hne '{' (by decide) (by decide)⟩⟩
      simp [isSpace, hne ' ', hne '\n', hne '\t', hne '\r']
  | string gs => exact ⟨'"', _, rfl, by decide, by decide, fun _ => ⟨by decide, by decide⟩⟩
  | array gap es => exact ⟨'[', _, rfl, by decide, by decide, by simp [isContainer]⟩
  | object gap ms => exact ⟨'{', _, rfl, by decide, by decide, by simp [isContainer]⟩

lemma stringText?_code (code : HexCode) (h : stringText? cs = some (text, rest)) :
    stringText? ('\\' :: 'u' :: (code.digits ++ cs))
      = some ('\\' :: 'u' :: (code.digits ++ text), rest) := by
  obtain ⟨digits, value, reads⟩ := code
  obtain ⟨a, b, c, d, rfl⟩ : ∃ a b c d, digits = [a, b, c, d] := by
    unfold hexCode? at reads
    split at reads
    · exact ⟨_, _, _, _, rfl⟩
    · cases reads
  simp only [hexCode?, Option.bind_eq_bind, Option.bind_eq_some_iff] at reads
  obtain ⟨_, ha, _, hb, _, hc, _, hd, -⟩ := reads
  simp [stringText?, h, ha, hb, hc, hd]

/-- A character of a string is taken as it is written. -/
lemma stringText?_glyph (g : Glyph) (h : stringText? cs = some (text, rest)) :
    stringText? (g.text ++ cs) = some (g.text ++ text, rest) := by
  cases g with
  | plain c hquote hbackslash hprintable =>
      rw [Glyph.text, List.singleton_append, stringText?.eq_5 c cs (fun h => hquote h)
        (fun _ _ _ _ _ h => absurd h hbackslash) (fun _ _ h => absurd h hbackslash),
        if_neg (Nat.not_lt.mpr hprintable), h]
      rfl
  | short letter meaning reads =>
      have hletter : letter ≠ 'u' := by
        rintro rfl
        cases reads
      rw [Glyph.text, List.cons_append, List.singleton_append,
        stringText?.eq_4 letter cs fun _ _ _ _ _ h => absurd h hletter]
      simp [reads, h]
  | code code => exact stringText?_code code h
  | pair high low =>
      rw [Glyph.text, List.append_assoc, List.append_assoc]
      exact stringText?_code high (stringText?_code low h)

/-- A string is split off behind its closing quotation mark. -/
lemma stringText?_glyphs (gs : List Glyph) (rest : List Char) :
    stringText? (glyphsText gs ++ '"' :: rest) = some (glyphsText gs ++ ['"'], rest) := by
  induction gs with
  | nil => rfl
  | cons g gs ih =>
      rw [glyphsText, List.flatMap_cons, ← glyphsText, List.append_assoc, List.append_assoc]
      exact stringText?_glyph g ih

/-- A text without a quotation mark in front is split off where it ends. -/
lemma leafText?_append (hall : text.all isLeafChar = true) (hleaf : isLeafText text = true)
    (hrest : EndsLeaf rest) : leafText? (text ++ rest) = some (text, rest) := by
  rw [List.all_eq_true] at hall
  have hquote : ∀ cs, text ++ rest ≠ '"' :: cs := by
    intro cs heq
    rcases text with _ | ⟨c, text⟩
    · cases hleaf
    · obtain rfl : c = '"' := (List.cons.inj heq).1
      exact absurd (hall '"' (by simp)) (by decide)
  rw [leafText?.eq_2 _ hquote, Text.takeWhile_run hall hrest, Text.dropWhile_run hall hrest,
    if_pos hleaf]

/-- The text of a leaf is split off, if no number or literal goes on behind it. -/
lemma leafText?_text (hleaf : t.isContainer = false) (hrest : EndsLeaf rest) :
    leafText? (t.text ++ rest) = some (t.text, rest) := by
  cases t with
  | null => exact leafText?_append (by decide) (by decide) hrest
  | bool b => cases b <;> exact leafText?_append (by decide) (by decide) hrest
  | number text n reads =>
      obtain ⟨-, hall⟩ := number_spec reads
      obtain ⟨numeral, hnumeral, -⟩ := Option.bind_eq_some_iff.mp reads
      refine leafText?_append (List.all_eq_true.mpr fun d hd => ?_) ?_ hrest
      · simp [isLeafChar, hall d hd]
      · simp [Tree.text, isLeafText, hnumeral]
  | string gs =>
      rw [Tree.text, List.cons_append, List.cons_append, List.append_assoc, List.singleton_append,
        leafText?, stringText?_glyphs]
      rfl
  | array gap es => cases hleaf
  | object gap ms => cases hleaf

lemma readLeaf_text (hleaf : t.isContainer = false) (hrest : EndsLeaf rest) (wanted : Bool) :
    readLeaf wanted (t.text ++ rest) = some (if wanted then t.value else .null, rest) := by
  have hread : read? t.text = some t.value := by
    have hdepth : t.depth ≤ maxDepth := by
      cases t with
      | array gap es => cases hleaf
      | object gap ms => cases hleaf
      | _ => exact Nat.zero_le _
    simpa [Document.text] using read?_text ⟨⟨[], by simp⟩, t, ⟨[], by simp⟩, hdepth⟩
  rw [readLeaf, leafText?_text hleaf hrest]
  cases wanted <;> simp [hread]

/-! ## Containers -/

/-- Under every shape the text of a tree is read for what is wanted of its value. -/
def Tree.ReadsUnder (t : Tree) : Prop :=
  ∀ (fuel : ℕ) (shape : Shape) (rest : List Char), t.text.length < fuel → EndsLeaf rest →
    readShape fuel shape (t.text ++ rest) = (shape.pick t.value).map fun v => (v, rest)

lemma readsUnder_leaf (hleaf : t.isContainer = false) : t.ReadsUnder := by
  intro fuel shape rest hfuel hrest
  obtain ⟨fuel, rfl⟩ : ∃ n, fuel = n + 1 := ⟨fuel - 1, by omega⟩
  have hpick : shape.pick t.value = some (if shape.isWanted then t.value else .null) := by
    cases t with
    | array gap es => cases hleaf
    | object gap ms => cases hleaf
    | _ => simp [Tree.value, Shape.pick]
  have hread : readShape (fuel + 1) shape (t.text ++ rest)
      = readLeaf shape.isWanted (t.text ++ rest) := by
    obtain ⟨c, cs, htext, hc, -, hne⟩ := t.exists_cons_text
    rw [htext, List.cons_append, readShape, withoutBlanks_cons hc]
    split
    next heq => exact absurd (List.cons.inj heq).1 (hne hleaf).1
    next heq => exact absurd (List.cons.inj heq).1 (hne hleaf).2
    next => rfl
  rw [hread, readLeaf_text hleaf hrest, hpick, Option.map_some]

/-- Some elements and the bracket that closes their array. -/
lemma readElements_text {es : List (Spaced Tree)} (hes : ∀ e ∈ es, e.body.ReadsUnder)
    (hne : es ≠ []) (hfuel : (elementsText es).length + 1 < fuel) (rest : List Char) :
    readElements fuel first others (elementsText es ++ ']' :: rest)
      = (pickElements first others (elementsValue es)).map fun vs => (vs, rest) := by
  induction es generalizing fuel first with
  | nil => exact absurd rfl hne
  | cons e es ih =>
      obtain ⟨fuel, rfl⟩ : ∃ n, fuel = n + 1 := ⟨fuel - 1, by omega⟩
      simp only [elementsText_cons, List.append_assoc, List.length_append] at hfuel ⊢
      have helement : ∀ {c : Char} {cs : List Char}, isLeafChar c = false →
          readShape fuel (first.headD others) (e.body.text ++ (e.after.text ++ c :: cs))
            = ((first.headD others).pick e.body.value).map fun v => (v, e.after.text ++ c :: cs) :=
        fun hc => hes _ List.mem_cons_self fuel _ _ (by omega) ((endsLeaf_cons hc _).gap e.after)
      rw [readElements_blanks, elementsValue_cons, pickElements, readElements]
      rcases es with _ | ⟨d, es⟩
      · rw [afterComma_nil, List.nil_append, helement (by decide)]
        cases (first.headD others).pick e.body.value with
        | none => rfl
        | some v => simp [withoutBlanks_append, withoutBlanks_cons, isSpace, pickElements]
      · simp only [afterComma_cons, List.length_cons] at hfuel
        rw [afterComma_cons, List.cons_append, helement (by decide)]
        cases (first.headD others).pick e.body.value with
        | none => rfl
        | some v =>
            simp only [Option.map_some, Option.bind_eq_bind, Option.bind_some, withoutBlanks_append,
              withoutBlanks_cons (show isSpace ',' = false by decide)]
            rw [ih (fun f hf => hes f (List.mem_cons_of_mem _ hf)) (by simp) (by omega)]
            cases pickElements first.tail others (elementsValue (d :: es)) <;> rfl

/-- The key of a member and the colon behind it. -/
lemma readKey_head (m : Entry Tree) (cs : List Char) :
    readKey (m.head ++ cs) = some (m.name, m.value.before.text ++ cs) := by
  have hleaf : readLeaf true ('"' :: (glyphsText m.key.body ++ '"' :: (m.key.after.text
      ++ ':' :: (m.value.before.text ++ cs))))
      = some (.string m.name, m.key.after.text ++ ':' :: (m.value.before.text ++ cs)) := by
    have hkey : (Tree.string m.key.body).isContainer = false := rfl
    have hcolon : EndsLeaf (':' :: (m.value.before.text ++ cs)) := endsLeaf_cons (by decide) _
    simpa [Tree.text, Tree.value, Entry.name] using readLeaf_text hkey (hcolon.gap m.key.after) true
  simp only [Entry.head, List.append_assoc, List.cons_append, readKey, withoutBlanks_append,
    withoutBlanks_cons (show isSpace '"' = false by decide), hleaf,
    withoutBlanks_cons (show isSpace ':' = false by decide)]

/-- Some members and the brace that closes their object. -/
lemma readMembers_text {ms : List (Entry Tree)} (hms : ∀ m ∈ ms, m.value.body.ReadsUnder)
    (hne : ms ≠ []) (hfuel : (membersText ms).length + 1 < fuel) (rest : List Char) :
    readMembers fuel fields (membersText ms ++ '}' :: rest)
      = (pickMembers fields (membersValue ms)).map fun ws => (ws, rest) := by
  induction ms generalizing fuel with
  | nil => exact absurd rfl hne
  | cons m ms ih =>
      obtain ⟨fuel, rfl⟩ : ∃ n, fuel = n + 1 := ⟨fuel - 1, by omega⟩
      simp only [membersText_cons, List.append_assoc, List.length_append] at hfuel ⊢
      set wanted := (fields.lookup m.name).getD .ignored with hwanted
      have hvalue : ∀ {c : Char} {cs : List Char}, isLeafChar c = false →
          readShape fuel wanted
              (m.value.before.text ++ (m.value.body.text ++ (m.value.after.text ++ c :: cs)))
            = (wanted.pick m.value.body.value).map fun v => (v, m.value.after.text ++ c :: cs) := by
        intro c cs hc
        rw [readShape_blanks]
        exact hms m List.mem_cons_self fuel _ _ (by omega) ((endsLeaf_cons hc _).gap m.value.after)
      rw [membersValue_cons, pickMembers, readMembers, readKey_head, ← hwanted]
      simp only [Option.bind_eq_bind, Option.bind_some, ← hwanted]
      rcases ms with _ | ⟨n, ms⟩
      · rw [afterComma_nil, List.nil_append, hvalue (by decide)]
        cases wanted.pick m.value.body.value with
        | none => rfl
        | some v => simp [withoutBlanks_append, withoutBlanks_cons, isSpace, pickMembers]
      · simp only [afterComma_cons, List.length_cons] at hfuel
        rw [afterComma_cons, List.cons_append, hvalue (by decide)]
        cases wanted.pick m.value.body.value with
        | none => rfl
        | some v =>
            simp only [Option.map_some, Option.bind_some, withoutBlanks_append,
              withoutBlanks_cons (show isSpace ',' = false by decide)]
            rw [ih (fun f hf => hms f (List.mem_cons_of_mem _ hf)) (by simp) (by omega)]
            cases pickMembers fields (membersValue (n :: ms)) <;> rfl

/-- What is wanted of some members has keys of theirs, in their order. -/
lemma keys_pickMembers {ms ws : List (String × Json)} (h : pickMembers fields ms = some ws) :
    (ws.map Prod.fst).Sublist (ms.map Prod.fst) := by
  induction ms generalizing ws with
  | nil =>
      obtain rfl := Option.some.inj (pickMembers.eq_1 fields ▸ h)
      exact List.Sublist.refl _
  | cons m ms ih =>
      obtain ⟨key, v⟩ := m
      simp only [pickMembers, Option.bind_eq_bind, Option.bind_eq_some_iff, Option.some.injEq] at h
      obtain ⟨w, -, ws', hws, rfl⟩ := h
      split
      · simpa using (ih hws).cons_cons key
      · simpa using (ih hws).cons key

/-- An array that has elements is not closed at once. -/
lemma withoutBlanks_elements_ne (e : Spaced Tree) (es : List (Spaced Tree)) (cs rest : List Char) :
    withoutBlanks (elementsText (e :: es) ++ cs) ≠ ']' :: rest := by
  obtain ⟨c, ds, htext, hc, hclose, -⟩ := e.body.exists_cons_text
  simp only [elementsText_cons, List.append_assoc, withoutBlanks_append, htext, List.cons_append,
    withoutBlanks_cons hc]
  intro h
  exact hclose (List.cons.inj h).1

/-- An object that has members is not closed at once. -/
lemma withoutBlanks_members_ne (m : Entry Tree) (ms : List (Entry Tree)) (cs rest : List Char) :
    withoutBlanks (membersText (m :: ms) ++ cs) ≠ '}' :: rest := by
  simp only [membersText_cons, Entry.head, List.append_assoc, List.cons_append,
    withoutBlanks_append, withoutBlanks_cons (show isSpace '"' = false by decide)]
  intro h
  cases h

lemma distinctKeys_of_elements {es : List (Spaced Tree)} (h : elementsDistinctKeys es) :
    ∀ e ∈ es, e.body.DistinctKeys := by
  induction es with
  | nil => simp
  | cons e es ih => simpa using ⟨h.1, ih h.2⟩

lemma distinctKeys_of_members {ms : List (Entry Tree)} (h : membersDistinctKeys ms) :
    ∀ m ∈ ms, m.value.body.DistinctKeys := by
  induction ms with
  | nil => simp
  | cons m ms ih => simpa using ⟨h.1, ih h.2⟩

lemma readsUnder_array {gap : Gap} {es : List (Spaced Tree)} (hes : ∀ e ∈ es, e.body.ReadsUnder) :
    (Tree.array gap es).ReadsUnder := by
  intro fuel shape rest hfuel hrest
  obtain ⟨fuel, rfl⟩ : ∃ n, fuel = n + 1 := ⟨fuel - 1, by omega⟩
  simp only [Tree.text, List.cons_append, List.append_assoc, List.nil_append, List.length_cons,
    List.length_append, List.length_nil] at hfuel ⊢
  rw [Tree.value, Shape.pick, readShape, withoutBlanks_cons (by decide)]
  cases shape.elements? with
  | none => rfl
  | some wanted =>
      obtain ⟨first, others⟩ := wanted
      simp only [Option.bind_eq_bind, Option.bind_some, withoutBlanks_append]
      rcases es with _ | ⟨e, es⟩
      · simp [withoutBlanks_cons, isSpace, pickElements]
      · split
        next heq => exact absurd heq (withoutBlanks_elements_ne e es _ _)
        next =>
          rw [readElements_blanks, readElements_text hes (by simp) (by omega), Option.map_map,
            Option.map_map]
          rfl

/-- Where an object has no key twice, neither have the members that are wanted of it. -/
lemma distinctObject?_pickMembers {ms : List (Entry Tree)} {ws : List (String × Json)}
    (hkeys : (ms.map Entry.name).Nodup) (hws : pickMembers fields (membersValue ms) = some ws) :
    distinctObject? ws = some (.object ws) := by
  have hnodup : (ws.map Prod.fst).Nodup := by
    refine (keys_pickMembers hws).nodup ?_
    rw [map_fst_membersValue]
    exact hkeys
  rw [distinctObject?, if_pos hnodup]

lemma readsUnder_object {gap : Gap} {ms : List (Entry Tree)}
    (hkeys : (Tree.object gap ms).DistinctKeys) (hms : ∀ m ∈ ms, m.value.body.ReadsUnder) :
    (Tree.object gap ms).ReadsUnder := by
  intro fuel shape rest hfuel hrest
  obtain ⟨fuel, rfl⟩ : ∃ n, fuel = n + 1 := ⟨fuel - 1, by omega⟩
  rw [value_object hkeys]
  simp only [Tree.text, List.cons_append, List.append_assoc, List.nil_append, List.length_cons,
    List.length_append, List.length_nil] at hfuel ⊢
  rw [Shape.pick, readShape, withoutBlanks_cons (by decide)]
  cases shape.fields? with
  | none => rfl
  | some fields =>
      simp only [Option.bind_eq_bind, Option.bind_some, withoutBlanks_append]
      rcases ms with _ | ⟨m, ms⟩
      · simp [withoutBlanks_cons, isSpace, pickMembers]
      · split
        next heq => exact absurd heq (withoutBlanks_members_ne m ms _ _)
        next =>
          rw [readMembers_blanks, readMembers_text hms (by simp) (by omega)]
          cases hws : pickMembers fields (membersValue (m :: ms)) with
          | none => rfl
          | some ws => simp [distinctObject?_pickMembers hkeys.1 hws]

/-- The text of a tree in which no object has a key twice is read for what is wanted of its
value. -/
theorem readsUnder (t : Tree) (hkeys : t.DistinctKeys) : t.ReadsUnder := by
  induction t using Tree.induct with
  | null => exact readsUnder_leaf rfl
  | bool b => exact readsUnder_leaf rfl
  | number text n reads => exact readsUnder_leaf rfl
  | string gs => exact readsUnder_leaf rfl
  | array gap es ih =>
      exact readsUnder_array fun e he => ih e he (distinctKeys_of_elements hkeys e he)
  | object gap ms ih =>
      exact readsUnder_object hkeys fun m hm => ih m hm (distinctKeys_of_members hkeys.2 m hm)

/-- The text of a document in which no object has a key twice is read for what is wanted of its
value. -/
theorem readShape?_text (d : Document) (hkeys : d.root.DistinctKeys) (shape : Shape) :
    readShape? shape (String.ofList d.text) = shape.pick d.root.value := by
  have hnil : EndsLeaf [] := by simp [EndsLeaf]
  have hend : EndsLeaf d.trail.text := by simpa using hnil.gap d.trail
  have hfuel : d.root.text.length < d.text.length + 1 := by
    simp only [Document.text, List.length_append]
    omega
  have hlead : readShape (d.text.length + 1) shape d.text
      = readShape (d.text.length + 1) shape (d.root.text ++ d.trail.text) := by
    generalize d.text.length + 1 = fuel
    rw [Document.text, List.append_assoc, readShape_blanks]
  rw [readShape?, String.toList_ofList, String.length_ofList, hlead,
    readsUnder d.root hkeys _ shape _ hfuel hend]
  cases shape.pick d.root.value with
  | none => rfl
  | some v => simpa using d.trail.blank

/-! ## What is wanted of a value -/

/-- No object in a value has a key twice. -/
inductive DistinctKeys : Json → Prop
  | null : DistinctKeys .null
  | bool (b : Bool) : DistinctKeys (.bool b)
  | number (n : Number) : DistinctKeys (.number n)
  | string (s : String) : DistinctKeys (.string s)
  | array {vs : List Json} (h : ∀ v ∈ vs, DistinctKeys v) : DistinctKeys (.array vs)
  | object {ms : List (String × Json)} (hkeys : (ms.map Prod.fst).Nodup)
      (h : ∀ m ∈ ms, DistinctKeys m.2) : DistinctKeys (.object ms)

namespace DistinctKeys

variable {vs : List Json} {ms : List (String × Json)} {key : String} {v : Json}

lemma element (h : DistinctKeys (.array vs)) (hv : v ∈ vs) : DistinctKeys v := by
  cases h with
  | array h => exact h v hv

lemma keys (h : DistinctKeys (.object ms)) : (ms.map Prod.fst).Nodup := by
  cases h with
  | object hkeys h => exact hkeys

lemma member (h : DistinctKeys (.object ms)) (hv : ms.lookup key = some v) : DistinctKeys v := by
  cases h with
  | object hkeys h =>
      obtain ⟨front, back, rfl, -⟩ := List.lookup_eq_some_iff.mp hv
      exact h (key, v) (by simp)

end DistinctKeys

/-- What is written without a key twice is a value without one. -/
lemma Tree.DistinctKeys.value {t : Tree} (h : t.DistinctKeys) : Json.DistinctKeys t.value := by
  induction t using Tree.induct with
  | null => exact .null
  | bool b => exact .bool b
  | number text n reads => exact .number n
  | string gs => exact .string _
  | array gap es ih =>
      refine .array fun v hv => ?_
      rw [elementsValue_eq_map] at hv
      obtain ⟨e, he, rfl⟩ := List.mem_map.mp hv
      exact ih e he (distinctKeys_of_elements h e he)
  | object gap ms ih =>
      rw [value_object h]
      refine .object (by rw [map_fst_membersValue]; exact h.1) fun m hm => ?_
      rw [membersValue_eq_map] at hm
      obtain ⟨n, hn, rfl⟩ := List.mem_map.mp hm
      exact ih n hn (distinctKeys_of_members h.2 n hn)

lemma pickElements_cons {element : Shape} {v w : Json} {vs ws : List Json}
    (hw : element.pick v = some w) (hws : pickElements [] element vs = some ws) :
    pickElements [] element (v :: vs) = some (w :: ws) := by
  simp [pickElements, hw, hws]

mutual

/-- Nothing is wanted of any value. -/
theorem exists_pick_ignored (v : Json) : ∃ w, Shape.ignored.pick v = some w := by
  cases v with
  | array vs =>
      obtain ⟨ws, hws⟩ := exists_pickElements_ignored vs
      exact ⟨.array ws, by simp [Shape.pick, Shape.elements?, hws]⟩
  | object ms =>
      obtain ⟨ws, hws⟩ := exists_pickMembers_ignored ms
      exact ⟨.object ws, by simp [Shape.pick, Shape.fields?, hws]⟩
  | _ => exact ⟨.null, by simp [Shape.pick, Shape.isWanted]⟩

theorem exists_pickElements_ignored (vs : List Json) :
    ∃ ws, pickElements [] .ignored vs = some ws := by
  cases vs with
  | nil => exact ⟨[], by simp [pickElements]⟩
  | cons v vs =>
      obtain ⟨w, hw⟩ := exists_pick_ignored v
      obtain ⟨ws, hws⟩ := exists_pickElements_ignored vs
      exact ⟨w :: ws, pickElements_cons hw hws⟩

theorem exists_pickMembers_ignored (ms : List (String × Json)) :
    ∃ ws, pickMembers [] ms = some ws := by
  cases ms with
  | nil => exact ⟨[], by simp [pickMembers]⟩
  | cons m ms =>
      obtain ⟨key, v⟩ := m
      obtain ⟨w, hw⟩ := exists_pick_ignored v
      obtain ⟨ws, hws⟩ := exists_pickMembers_ignored ms
      exact ⟨ws, by simp [pickMembers, hw, hws]⟩

end

/-- What is wanted of elements that are all of the shape. -/
lemma exists_pickElements {element : Shape} {vs : List Json} {P : Json → Prop}
    (h : ∀ v ∈ vs, ∃ w, element.pick v = some w ∧ P w) :
    ∃ ws, pickElements [] element vs = some ws ∧ ∀ w ∈ ws, P w := by
  induction vs with
  | nil => exact ⟨[], by simp [pickElements], by simp⟩
  | cons v vs ih =>
      obtain ⟨w, hw, hp⟩ := h v List.mem_cons_self
      obtain ⟨ws, hws, hps⟩ := ih fun u hu => h u (List.mem_cons_of_mem v hu)
      exact ⟨w :: ws, pickElements_cons hw hws, List.forall_mem_cons.mpr ⟨hp, hps⟩⟩

/-- What is wanted of a list is what is wanted of its elements. -/
lemma pick_list {element : Shape} {vs ws : List Json} (h : pickElements [] element vs = some ws) :
    (Shape.list element).pick (.array vs) = some (.array ws) := by
  simp [Shape.pick, Shape.elements?, h]

/-- What is wanted of a record, where each field is of its shape: the fields, with what is wanted of
them. -/
lemma exists_pick_record {ms : List (String × Json)} (hkeys : (ms.map Prod.fst).Nodup)
    (h : ∀ f ∈ fields, ∀ v, ms.lookup f.1 = some v → ∃ w, f.2.pick v = some w) :
    ∃ ws, (Shape.record fields).pick (.object ms) = some (.object ws) ∧
      ∀ name shape, fields.lookup name = some shape →
        ws.lookup name = (ms.lookup name).bind shape.pick := by
  have hmembers : ∃ ws, pickMembers fields ms = some ws ∧
      ∀ name shape, fields.lookup name = some shape →
        ws.lookup name = (ms.lookup name).bind shape.pick := by
    induction ms with
    | nil => exact ⟨[], by simp [pickMembers], by simp⟩
    | cons m ms ih =>
        obtain ⟨key, v⟩ := m
        rw [List.map_cons, List.nodup_cons] at hkeys
        have hne : ∀ {name : String} {v : Json}, ms.lookup name = some v → name ≠ key := by
          rintro name v hv rfl
          obtain ⟨front, back, rfl, -⟩ := List.lookup_eq_some_iff.mp hv
          exact hkeys.1 (by simp)
        have hrest : ∀ f ∈ fields, ∀ v, ms.lookup f.1 = some v → ∃ w, f.2.pick v = some w :=
          fun f hf v hv => h f hf v (by rw [lookup_cons, if_neg (hne hv), hv])
        have hhead : ∃ w, ((fields.lookup key).getD .ignored).pick v = some w := by
          cases hshape : fields.lookup key with
          | none => exact exists_pick_ignored v
          | some shape =>
              obtain ⟨front, back, rfl, -⟩ := List.lookup_eq_some_iff.mp hshape
              exact h (key, shape) (by simp) v (by rw [lookup_cons, if_pos rfl])
        obtain ⟨w, hw⟩ := hhead
        obtain ⟨ws, hws, hlookup⟩ := ih hkeys.2 hrest
        refine ⟨_, by rw [pickMembers, hw, hws]; rfl, fun name shape hshape => ?_⟩
        rw [lookup_cons]
        by_cases hname : name = key
        · subst hname
          rw [hshape] at hw ⊢
          simpa using hw.symm
        · rw [if_neg hname, ← hlookup name shape hshape]
          split
          · rw [List.singleton_append, lookup_cons, if_neg hname]
          · rfl
  obtain ⟨ws, hws, hlookup⟩ := hmembers
  exact ⟨ws, by simp [Shape.pick, Shape.fields?, hws], hlookup⟩

/-- Fields that are no containers are kept as they are. -/
lemma exists_pick_scalars {names : List String} {ms : List (String × Json)}
    (hkeys : (ms.map Prod.fst).Nodup)
    (h : ∀ name ∈ names, ∀ v, ms.lookup name = some v → Shape.scalar.pick v = some v) :
    ∃ ws, (Shape.scalars names).pick (.object ms) = some (.object ws) ∧
      ∀ name ∈ names, ws.lookup name = ms.lookup name := by
  have hwanted : ∀ name : String, (names.map fun name => (name, Shape.scalar)).lookup name
      = if name ∈ names then some .scalar else none := by
    intro name
    clear h
    induction names with
    | nil => rfl
    | cons key names ih =>
        rw [List.map_cons, lookup_cons, ih]
        by_cases hname : name = key <;> simp [hname]
  have hfields : ∀ f ∈ names.map fun name => (name, Shape.scalar), ∀ v,
      ms.lookup f.1 = some v → ∃ w, f.2.pick v = some w :=
    List.forall_mem_map.mpr fun name hname v hv => ⟨v, h name hname v hv⟩
  obtain ⟨ws, hws, hlookup⟩ := exists_pick_record hkeys hfields
  refine ⟨ws, hws, fun name hname => ?_⟩
  rw [hlookup name .scalar (by rw [hwanted, if_pos hname])]
  cases hv : ms.lookup name with
  | none => rfl
  | some v => exact h name hname v hv

end CodeDigest.Json
