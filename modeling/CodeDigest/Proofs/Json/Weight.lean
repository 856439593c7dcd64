import CodeDigest.Proofs.Json.Tree

/-!
# Weights of values

A weight of a value adds up its containers, each of which counts as much, and its strings and keys,
each of which counts for itself.  A tree has such a weight by what is written in it.

* `weigh_value_le`: a value weighs no more than its tree, if its strings do not.  It may weigh less,
  because a key that occurs again loses its first value.
* `le_weigh_value`: without a key twice it weighs no less, either.
-/

namespace CodeDigest.Json

variable {a : Nat} {f : String → Nat} {g : List Glyph → Nat}

mutual

/-- The weight of a value: `a` for each container, and `f` of each string and each key. -/
def weigh (a : Nat) (f : String → Nat) : Json → Nat
  | .string s => f s
  | .array vs => a + weighElements a f vs
  | .object ms => a + weighMembers a f ms
  | _ => 0

/-- The weight of some elements. -/
def weighElements (a : Nat) (f : String → Nat) : List Json → Nat
  | [] => 0
  | v :: vs => weigh a f v + weighElements a f vs

/-- The weight of some members. -/
def weighMembers (a : Nat) (f : String → Nat) : List (String × Json) → Nat
  | [] => 0
  | (k, v) :: ms => f k + weigh a f v + weighMembers a f ms

end

mutual

/-- The weight of a tree: `a` for each container, and `g` of what is written for each string and
each key. -/
def Tree.weigh (a : Nat) (g : List Glyph → Nat) : Tree → Nat
  | .string gs => g gs
  | .array _ es => a + elementsWeigh a g es
  | .object _ ms => a + membersWeigh a g ms
  | _ => 0

/-- The weight of the elements of an array. -/
def elementsWeigh (a : Nat) (g : List Glyph → Nat) : List (Spaced Tree) → Nat
  | [] => 0
  | ⟨_, t, _⟩ :: es => t.weigh a g + elementsWeigh a g es

/-- The weight of the members of an object. -/
def membersWeigh (a : Nat) (g : List Glyph → Nat) : List (Entry Tree) → Nat
  | [] => 0
  | ⟨key, ⟨_, t, _⟩⟩ :: ms => g key.body + t.weigh a g + membersWeigh a g ms

end

/-- Without weights of its own a tree has none. -/
lemma Tree.weigh_eq_zero (h : ∀ gs, g gs = 0) (t : Tree) : t.weigh 0 g = 0 := by
  induction t using Tree.induct with
  | null | bool | number => rfl
  | string gs => exact h gs
  | array gap es ih =>
      rw [Tree.weigh, Nat.zero_add]
      induction es with
      | nil => rfl
      | cons e es ih' =>
          obtain ⟨he, hes⟩ := List.forall_mem_cons.mp ih
          rw [elementsWeigh, he, ih' hes]
  | object gap ms ih =>
      rw [Tree.weigh, Nat.zero_add]
      induction ms with
      | nil => rfl
      | cons m ms ih' =>
          obtain ⟨hm, hms⟩ := List.forall_mem_cons.mp ih
          rw [membersWeigh, h, hm, ih' hms]

/-- A value that takes the place of another one takes its weight away. -/
lemma weighMembers_putMember_le (k : String) (v : Json) (ms : List (String × Json)) :
    weighMembers a f (putMember k v ms) ≤ weighMembers a f ms + (f k + weigh a f v) := by
  induction ms with
  | nil => simp [putMember, weighMembers]
  | cons m ms ih =>
      obtain ⟨k', v'⟩ := m
      unfold putMember
      split
      next hk =>
        obtain rfl : k' = k := by simpa using hk
        simp only [weighMembers]
        omega
      next hk =>
        simp only [weighMembers]
        omega

lemma weighMembers_putAll_le (found ms : List (String × Json)) :
    weighMembers a f (putAll found ms) ≤ weighMembers a f found + weighMembers a f ms := by
  induction ms generalizing found with
  | nil => simp [weighMembers]
  | cons m ms ih =>
      obtain ⟨k, v⟩ := m
      have hput := weighMembers_putMember_le (a := a) (f := f) k v found
      have hrest := ih (putMember k v found)
      simp only [putAll_cons, weighMembers]
      omega

/-- **A value weighs no more than its tree.** -/
theorem weigh_value_le (h : ∀ gs, f (glyphsString gs) ≤ g gs) (t : Tree) :
    t.value.weigh a f ≤ t.weigh a g := by
  induction t using Tree.induct with
  | null | bool | number => exact Nat.zero_le _
  | string gs => exact h gs
  | array gap es ih =>
      have helements : weighElements a f (elementsValue es) ≤ elementsWeigh a g es := by
        induction es with
        | nil => exact Nat.zero_le _
        | cons e es ih' =>
            obtain ⟨he, hes⟩ := List.forall_mem_cons.mp ih
            exact Nat.add_le_add he (ih' hes)
      exact Nat.add_le_add_left helements a
  | object gap ms ih =>
      have hmembers : weighMembers a f (membersValue ms) ≤ membersWeigh a g ms := by
        induction ms with
        | nil => exact Nat.zero_le _
        | cons m ms ih' =>
            obtain ⟨hm, hms⟩ := List.forall_mem_cons.mp ih
            exact Nat.add_le_add (Nat.add_le_add (h m.key.body) hm) (ih' hms)
      have hput := weighMembers_putAll_le (a := a) (f := f) [] (membersValue ms)
      rw [weighMembers, Nat.zero_add] at hput
      exact Nat.add_le_add_left (Nat.le_trans hput hmembers) a

/-- **Without a key twice it weighs no less.** -/
theorem le_weigh_value (h : ∀ gs, g gs ≤ f (glyphsString gs)) (t : Tree) (ht : t.DistinctKeys) :
    t.weigh a g ≤ t.value.weigh a f := by
  induction t using Tree.induct with
  | null | bool | number => exact Nat.zero_le _
  | string gs => exact h gs
  | array gap es ih =>
      have helements : elementsWeigh a g es ≤ weighElements a f (elementsValue es) := by
        change elementsDistinctKeys es at ht
        induction es with
        | nil => exact Nat.zero_le _
        | cons e es ih' =>
            obtain ⟨he, hes⟩ := List.forall_mem_cons.mp ih
            exact Nat.add_le_add (he ht.1) (ih' hes ht.2)
      exact Nat.add_le_add_left helements a
  | object gap ms ih =>
      rw [value_object ht]
      have hmembers : membersWeigh a g ms ≤ weighMembers a f (membersValue ms) := by
        have hdistinct : membersDistinctKeys ms := ht.2
        clear ht
        induction ms with
        | nil => exact Nat.zero_le _
        | cons m ms ih' =>
            obtain ⟨hm, hms⟩ := List.forall_mem_cons.mp ih
            exact Nat.add_le_add (Nat.add_le_add (h m.key.body) (hm hdistinct.1))
              (ih' hms hdistinct.2)
      exact Nat.add_le_add_left hmembers a

end CodeDigest.Json
