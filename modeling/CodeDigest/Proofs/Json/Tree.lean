import Mathlib.Data.List.Basic
import CodeDigest.Json.Reader

/-!
# JSON texts as trees

`Json.read?` takes a text one character at a time and never looks at the whole.  This file gives the
other view: a `Tree` is a value *as it is written*, with the digits of its numbers, the escapes of
its strings and the blanks between its tokens, so that every statement about where a text may be cut
can be made about the place in the tree.

* `Tree.text` spells a tree, `Tree.value` says what it denotes.  The leaves carry the proof that
  they denote something, so every tree has a value and no tree spells a malformed number or escape.
* `Tree.depth` counts how deep the containers nest, and `Tree.DistinctKeys` says that no object of
  the tree has a key twice; members are compared by what their keys denote, not by how they are
  spelled.
* A `Document` is a tree with blanks around it whose containers nest no deeper than the reader goes.

That the reader accepts exactly the texts of documents is `read?_eq_some_iff`, in `Json.Grammar`.
-/

namespace CodeDigest.Json

/-! ## Blanks and string characters -/

/-- Blanks between two tokens. -/
structure Gap where
  text : List Char
  blank : ∀ c ∈ text, isSpace c = true

/-- The number that four hexadecimal digits denote. -/
def hexCode? : List Char → Option Nat
  | [c₁, c₂, c₃, c₄] => do
    let d₁ ← hexValue? c₁
    let d₂ ← hexValue? c₂
    let d₃ ← hexValue? c₃
    let d₄ ← hexValue? c₄
    some (16 * (16 * (16 * d₁ + d₂) + d₃) + d₄)
  | _ => none

/-- The four digits of a `\u` escape. -/
structure HexCode where
  digits : List Char
  value : Nat
  reads : hexCode? digits = some value

/-- One character of a string as it is written: as itself, as a one-letter escape, as a `\u` escape,
or as the two `\u` escapes of a surrogate pair. -/
inductive Glyph where
  | plain (c : Char) (ne_quote : c ≠ '"') (ne_backslash : c ≠ '\\') (printable : 0x20 ≤ c.toNat)
  | short (letter meaning : Char) (reads : simpleEscape? letter = some meaning)
  | code (c : HexCode) (not_high : isHighSurrogate c.value = false)
      (not_low : isLowSurrogate c.value = false)
  | pair (high low : HexCode) (is_high : isHighSurrogate high.value = true)
      (is_low : isLowSurrogate low.value = true)

namespace Glyph

/-- How a character is written. -/
def text : Glyph → List Char
  | plain c .. => [c]
  | short letter .. => ['\\', letter]
  | code c .. => '\\' :: 'u' :: c.digits
  | pair high low .. => '\\' :: 'u' :: high.digits ++ '\\' :: 'u' :: low.digits

/-- The character that is meant. -/
def char : Glyph → Char
  | plain c .. => c
  | short _ meaning _ => meaning
  | code c .. => Char.ofNat c.value
  | pair high low .. => joinSurrogates high.value low.value

/-- Whether a character is written with a backslash. -/
def isEscape : Glyph → Bool
  | plain .. => false
  | _ => true

end Glyph

/-- The characters of a string between its quotation marks. -/
def glyphsText (gs : List Glyph) : List Char := gs.flatMap Glyph.text

/-- The string that is meant. -/
def glyphsString (gs : List Glyph) : String := String.ofList (gs.map Glyph.char)

/-! ## Trees -/

/-- Something with blanks on both sides. -/
structure Spaced (α : Type) where
  before : Gap
  body : α
  after : Gap

/-- A member of an object: its key and its value. -/
structure Entry (α : Type) where
  key : Spaced (List Glyph)
  value : Spaced α

/-- A JSON value as it is written.  The first gap of a container follows its opening bracket. -/
inductive Tree where
  | null
  | bool (b : Bool)
  | number (text : List Char) (value : Number) (reads : Number.ofText? text = some value)
  | string (glyphs : List Glyph)
  | array (gap : Gap) (elements : List (Spaced Tree))
  | object (gap : Gap) (members : List (Entry Tree))

/-- The key of a member. -/
def Entry.name (m : Entry Tree) : String := glyphsString m.key.body

/-- What stands in front of the value of a member: its key, the colon and the blanks. -/
def Entry.head (m : Entry Tree) : List Char :=
  m.key.before.text ++ '"' :: glyphsText m.key.body ++ '"' :: m.key.after.text
    ++ ':' :: m.value.before.text

/-- A text with a comma in front, unless nothing follows. -/
def afterComma {α : Type} (following : List α) (text : List Char) : List Char :=
  if following.isEmpty then [] else ',' :: text

mutual

/-- The text of a tree. -/
def Tree.text : Tree → List Char
  | .null => "null".toList
  | .bool true => "true".toList
  | .bool false => "false".toList
  | .number text _ _ => text
  | .string gs => '"' :: glyphsText gs ++ ['"']
  | .array gap es => '[' :: gap.text ++ elementsText es ++ [']']
  | .object gap ms => '{' :: gap.text ++ membersText ms ++ ['}']

/-- The elements of an array with commas between them. -/
def elementsText : List (Spaced Tree) → List Char
  | [] => []
  | ⟨before, t, after⟩ :: es =>
    before.text ++ t.text ++ after.text ++ afterComma es (elementsText es)

/-- The members of an object with commas between them. -/
def membersText : List (Entry Tree) → List Char
  | [] => []
  | ⟨key, ⟨before, t, after⟩⟩ :: ms =>
    Entry.head ⟨key, ⟨before, t, after⟩⟩ ++ t.text ++ after.text ++ afterComma ms (membersText ms)

end

/-- Members one after the other, a later value taking the place of an earlier one of its key. -/
def putAll (found : List (String × Json)) (ms : List (String × Json)) : List (String × Json) :=
  ms.foldl (fun acc m => putMember m.1 m.2 acc) found

mutual

/-- The value of a tree. -/
def Tree.value : Tree → Json
  | .null => .null
  | .bool b => .bool b
  | .number _ n _ => .number n
  | .string gs => .string (glyphsString gs)
  | .array _ es => .array (elementsValue es)
  | .object _ ms => .object (putAll [] (membersValue ms))

/-- The values of the elements of an array. -/
def elementsValue : List (Spaced Tree) → List Json
  | [] => []
  | ⟨_, t, _⟩ :: es => t.value :: elementsValue es

/-- The keys and values of the members of an object. -/
def membersValue : List (Entry Tree) → List (String × Json)
  | [] => []
  | ⟨key, ⟨_, t, _⟩⟩ :: ms => (glyphsString key.body, t.value) :: membersValue ms

end

mutual

/-- How deep containers nest in a tree. -/
def Tree.depth : Tree → Nat
  | .array _ es => elementsDepth es + 1
  | .object _ ms => membersDepth ms + 1
  | _ => 0

/-- How deep containers nest in the elements of an array. -/
def elementsDepth : List (Spaced Tree) → Nat
  | [] => 0
  | ⟨_, t, _⟩ :: es => max t.depth (elementsDepth es)

/-- How deep containers nest in the members of an object. -/
def membersDepth : List (Entry Tree) → Nat
  | [] => 0
  | ⟨_, ⟨_, t, _⟩⟩ :: ms => max t.depth (membersDepth ms)

end

mutual

/-- No object has a key twice. -/
def Tree.DistinctKeys : Tree → Prop
  | .array _ es => elementsDistinctKeys es
  | .object _ ms => (ms.map Entry.name).Nodup ∧ membersDistinctKeys ms
  | _ => True

/-- No object in the elements of an array has a key twice. -/
def elementsDistinctKeys : List (Spaced Tree) → Prop
  | [] => True
  | ⟨_, t, _⟩ :: es => t.DistinctKeys ∧ elementsDistinctKeys es

/-- No object in the values of some members has a key twice. -/
def membersDistinctKeys : List (Entry Tree) → Prop
  | [] => True
  | ⟨_, ⟨_, t, _⟩⟩ :: ms => t.DistinctKeys ∧ membersDistinctKeys ms

end

/-- Whether a tree is an array or an object. -/
def Tree.isContainer : Tree → Bool
  | .array .. => true
  | .object .. => true
  | _ => false

/-- A JSON text: a tree that the reader can follow, with blanks around it. -/
structure Document where
  lead : Gap
  root : Tree
  trail : Gap
  shallow : root.depth ≤ maxDepth

/-- The text of a document. -/
def Document.text (d : Document) : List Char := d.lead.text ++ d.root.text ++ d.trail.text

/-! ## The parts of a container -/

variable {α : Type}

@[simp] lemma afterComma_nil (text : List Char) : afterComma ([] : List α) text = [] := rfl

@[simp] lemma afterComma_cons (x : α) (xs : List α) (text : List Char) :
    afterComma (x :: xs) text = ',' :: text := rfl

@[simp] lemma elementsText_nil : elementsText [] = [] := by simp [elementsText]

@[simp] lemma elementsText_cons (e : Spaced Tree) (es : List (Spaced Tree)) :
    elementsText (e :: es)
      = e.before.text ++ e.body.text ++ e.after.text ++ afterComma es (elementsText es) := by
  simp [elementsText]

@[simp] lemma membersText_nil : membersText [] = [] := by simp [membersText]

@[simp] lemma membersText_cons (m : Entry Tree) (ms : List (Entry Tree)) :
    membersText (m :: ms)
      = m.head ++ m.value.body.text ++ m.value.after.text ++ afterComma ms (membersText ms) := by
  simp [membersText]

@[simp] lemma elementsValue_nil : elementsValue [] = [] := by simp [elementsValue]

@[simp] lemma elementsValue_cons (e : Spaced Tree) (es : List (Spaced Tree)) :
    elementsValue (e :: es) = e.body.value :: elementsValue es := by
  simp [elementsValue]

@[simp] lemma membersValue_nil : membersValue [] = [] := by simp [membersValue]

@[simp] lemma membersValue_cons (m : Entry Tree) (ms : List (Entry Tree)) :
    membersValue (m :: ms) = (m.name, m.value.body.value) :: membersValue ms := by
  simp [membersValue, Entry.name]

lemma elementsValue_eq_map (es : List (Spaced Tree)) :
    elementsValue es = es.map fun e => e.body.value := by
  induction es with
  | nil => simp
  | cons e es ih => simp [ih]

lemma membersValue_eq_map (ms : List (Entry Tree)) :
    membersValue ms = ms.map fun m => (m.name, m.value.body.value) := by
  induction ms with
  | nil => simp
  | cons m ms ih => simp [ih]

/-- The keys of the members are the keys of their values. -/
@[simp] lemma map_fst_membersValue (ms : List (Entry Tree)) :
    (membersValue ms).map Prod.fst = ms.map Entry.name := by
  rw [membersValue_eq_map, List.map_map]
  rfl

@[simp] lemma elementsDepth_cons (e : Spaced Tree) (es : List (Spaced Tree)) :
    elementsDepth (e :: es) = max e.body.depth (elementsDepth es) := rfl

@[simp] lemma membersDepth_cons (m : Entry Tree) (ms : List (Entry Tree)) :
    membersDepth (m :: ms) = max m.value.body.depth (membersDepth ms) := rfl

/-- In an object without a key twice the next key is new. -/
lemma name_not_mem_of_nodup {keys : List String} {m : Entry Tree} {ms : List (Entry Tree)}
    (h : (keys ++ (m :: ms).map Entry.name).Nodup) : m.name ∉ keys := by
  rw [List.nodup_append] at h
  intro hmem
  exact h.2.2 _ hmem m.name (by simp) rfl

/-! ## Induction over trees -/

/-- To show something of every tree, show it of the leaves, and of each container whose elements or
values have it. -/
@[elab_as_elim]
theorem Tree.induct {P : Tree → Prop} (null : P .null) (bool : ∀ b, P (.bool b))
    (number : ∀ text n reads, P (.number text n reads)) (string : ∀ gs, P (.string gs))
    (array : ∀ gap es, (∀ e ∈ es, P e.body) → P (.array gap es))
    (object : ∀ gap ms, (∀ m ∈ ms, P m.value.body) → P (.object gap ms)) (t : Tree) : P t := by
  refine @Tree.rec P (fun es => ∀ e ∈ es, P e.body) (fun ms => ∀ m ∈ ms, P m.value.body)
    (fun e => P e.body) (fun m => P m.value.body) null bool number string array object
    ?_ ?_ ?_ ?_ ?_ ?_ t
  · simp
  · intro e es he hes
    simpa using ⟨he, hes⟩
  · simp
  · intro m ms hm hms
    simpa using ⟨hm, hms⟩
  · intro before body after h
    exact h
  · intro key value h
    exact h

/-! ## Setting members -/

/-- A key that is new goes to the end. -/
lemma putMember_of_not_mem {key : String} {ms : List (String × Json)}
    (h : key ∉ ms.map Prod.fst) (v : Json) : putMember key v ms = ms ++ [(key, v)] := by
  induction ms with
  | nil => rfl
  | cons m ms ih =>
      obtain ⟨k, w⟩ := m
      simp only [List.map_cons, List.mem_cons, not_or] at h
      have hk : (k == key) = false := by simpa using Ne.symm h.1
      simp [putMember, hk, ih h.2]

@[simp] lemma putAll_cons (found ms : List (String × Json)) (m : String × Json) :
    putAll found (m :: ms) = putAll (putMember m.1 m.2 found) ms := rfl

@[simp] lemma putAll_nil (found : List (String × Json)) : putAll found [] = found := rfl

/-- Members with keys of their own stay as they are. -/
lemma putAll_of_nodup {found ms : List (String × Json)}
    (h : ((found ++ ms).map Prod.fst).Nodup) : putAll found ms = found ++ ms := by
  induction ms generalizing found with
  | nil => simp
  | cons m ms ih =>
      have hm : m.1 ∉ found.map Prod.fst := by
        rw [List.map_append, List.nodup_append] at h
        intro hmem
        exact h.2.2 _ hmem m.1 (by simp) rfl
      rw [putAll_cons, putMember_of_not_mem hm, ih (by simpa using h)]
      simp

/-- An object without a key twice has all its members, in their order. -/
lemma value_object {gap : Gap} {ms : List (Entry Tree)} (h : (Tree.object gap ms).DistinctKeys) :
    (Tree.object gap ms).value = .object (membersValue ms) := by
  have hnodup : (([] ++ membersValue ms).map Prod.fst).Nodup := by simpa using h.1
  rw [Tree.value, putAll_of_nodup hnodup, List.nil_append]

end CodeDigest.Json
