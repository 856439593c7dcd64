import Mathlib.Data.List.Basic
import Mathlib.Data.List.Nodup
import CodeDigest.Java.Tree

/-!
# Places in a syntax tree

A `Place` is the way down from the root of a tree to one of its nodes, and a `Spot` is a node with
its place: two nodes that look alike are two spots.  The lexicographic order of places is the order
of the source text, a node before those inside it.

* `Tree.Lists` says that a list has the spots of a tree with a property, each once and in the order
  of the text.
* `Tree.spots` finds the nodes that pass a test and lie behind no barrier (`mem_spots`,
  `ordered_spots`); below a place they are the spots of the whole tree (`lists_spots_under`).
* `Tree.within` finds the nodes at the end of a way with given kinds (`mem_within_cons`).
-/

namespace CodeDigest.Java

/-- The way down from the root: which child to take at each node. -/
abbrev Place := List Nat

/-- A node with its place. -/
abbrev Spot := Place × Tree

/-- The spot as it is seen from a tree that has the other tree at a place. -/
def Spot.under (p : Place) (s : Spot) : Spot := (p ++ s.1, s.2)

/-- The spots stand in the order of the text, and none of them twice. -/
def Ordered (found : List Spot) : Prop := found.Pairwise fun s s' => s.1 < s'.1

variable {p q : Place} {s : Spot} {found : List Spot}

@[simp] lemma Spot.under_fst : (s.under p).1 = p ++ s.1 := rfl

@[simp] lemma Spot.under_snd : (s.under p).2 = s.2 := rfl

lemma Ordered.map_under (h : Ordered found) (p : Place) : Ordered (found.map (Spot.under p)) := by
  refine List.pairwise_map.mpr (h.imp fun hlt => ?_)
  induction p with
  | nil => exact hlt
  | cons i p ih => exact List.cons_lt_cons_iff.mpr (.inr ⟨rfl, ih⟩)

lemma Ordered.nodup (h : Ordered found) : (found.map Prod.fst).Nodup :=
  List.pairwise_map.mpr (h.imp Std.ne_of_lt)

namespace Tree

variable {t c n : Tree} {ts : List Tree} {i : Nat} {k : Kind} {ks : List Kind}

mutual

/-- What holds of a tree when it holds of its children holds of every tree. -/
theorem induction {motive : Tree → Prop} (h : ∀ t, (∀ c ∈ t.children, motive c) → motive t) :
    ∀ t : Tree, motive t
  | leaf token => h (leaf token) (by simp [children])
  | node kind children => h (node kind children) (induction_all h children)

theorem induction_all {motive : Tree → Prop}
    (h : ∀ t, (∀ c ∈ t.children, motive c) → motive t) : ∀ ts : List Tree, ∀ t ∈ ts, motive t
  | [] => by simp
  | t :: ts => List.forall_mem_cons.mpr ⟨induction h t, induction_all h ts⟩

end

/-- The node at a place. -/
def at? (t : Tree) : Place → Option Tree
  | [] => some t
  | i :: p => t.children[i]?.bind fun c => c.at? p

@[simp] lemma at?_nil (t : Tree) : t.at? [] = some t := rfl

lemma at?_cons (t : Tree) (i : Nat) (p : Place) :
    t.at? (i :: p) = t.children[i]?.bind fun c => c.at? p := rfl

/-- The way down to a place and on from there. -/
lemma at?_append (t : Tree) (p q : Place) : t.at? (p ++ q) = (t.at? p).bind fun c => c.at? q := by
  induction p generalizing t with
  | nil => rfl
  | cons i p ih =>
      rw [List.cons_append, at?_cons, at?_cons]
      cases t.children[i]? with
      | none => rfl
      | some c => exact ih c

lemma at?_append_of (h : t.at? p = some c) (q : Place) : t.at? (p ++ q) = c.at? q := by
  rw [at?_append, h, Option.bind_some]

/-- The list has the spots with a property, each once and in the order of the text. -/
structure Lists (t : Tree) (P : Spot → Prop) (found : List Spot) : Prop where
  ordered : Ordered found
  mem_iff : ∀ s, s ∈ found ↔ t.at? s.1 = some s.2 ∧ P s

/-- Two lists of the same spots have the same length. -/
lemma Lists.length_eq {P : Spot → Prop} {found' : List Spot} (h : t.Lists P found)
    (h' : t.Lists P found') : found.length = found'.length := by
  have hnodup := List.Nodup.of_map _ h.ordered.nodup
  have hnodup' := List.Nodup.of_map _ h'.ordered.nodup
  refine ((List.perm_ext_iff_of_nodup hnodup hnodup').mpr fun s => ?_).length_eq
  exact (h.mem_iff s).trans (h'.mem_iff s).symm

lemma Lists.filter {P : Spot → Prop} (h : t.Lists P found) (p : Spot → Prop) [DecidablePred p] :
    t.Lists (fun s => P s ∧ p s) (found.filter p) where
  ordered := List.Pairwise.filter _ h.ordered
  mem_iff s := by rw [List.mem_filter, h.mem_iff, decide_eq_true_iff, and_assoc]

/-! ## Searching the children -/

/-- What is found in each of some trees, which are the children of a node from `i` on. -/
def branches (find : Tree → List Spot) : (i : Nat) → List Tree → List Spot
  | _, [] => []
  | i, t :: ts => (find t).map (Spot.under [i]) ++ branches find (i + 1) ts

section Branches

variable {find : Tree → List Spot}

lemma mem_branches : s ∈ branches find i ts ↔
    ∃ j c, ts[j]? = some c ∧ ∃ s' ∈ find c, s'.under [i + j] = s := by
  induction ts generalizing i with
  | nil => simp [branches]
  | cons t ts ih =>
      rw [branches, List.mem_append, List.mem_map, ih]
      constructor
      · rintro (⟨s', hs', rfl⟩ | ⟨j, c, hc, s', hs', rfl⟩)
        · exact ⟨0, t, rfl, s', hs', rfl⟩
        · exact ⟨j + 1, c, hc, s', hs', by rw [Nat.add_right_comm, Nat.add_assoc]⟩
      · rintro ⟨_ | j, c, hc, s', hs', rfl⟩
        · exact .inl ⟨s', Option.some.inj hc ▸ hs', rfl⟩
        · exact .inr ⟨j, c, hc, s', hs', by rw [Nat.add_right_comm, Nat.add_assoc]⟩

lemma ordered_branches (h : ∀ t ∈ ts, Ordered (find t)) : Ordered (branches find i ts) := by
  induction ts generalizing i with
  | nil => exact .nil
  | cons t ts ih =>
      refine List.pairwise_append.mpr ⟨(h t (by simp)).map_under [i],
        ih fun u hu => h u (List.mem_cons_of_mem t hu), ?_⟩
      intro a ha b hb
      obtain ⟨a, -, rfl⟩ := List.mem_map.mp ha
      obtain ⟨j, c, -, b, -, rfl⟩ := mem_branches.mp hb
      exact List.cons_lt_cons_iff.mpr (.inl (by omega))

lemma map_snd_branches : (branches find i ts).map Prod.snd
    = ts.flatMap fun t => (find t).map Prod.snd := by
  induction ts generalizing i with
  | nil => rfl
  | cons t ts ih =>
      rw [branches, List.map_append, ih, List.map_map, List.flatMap_cons]
      rfl

end Branches

/-! ## Searching the whole tree -/

mutual

/-- The nodes that pass a test, without those behind a node that is not entered. -/
def spots (wanted enter : Tree → Bool) : Tree → List Spot
  | leaf token => if wanted (leaf token) then [([], leaf token)] else []
  | node kind children =>
    (if wanted (node kind children) then [([], node kind children)] else [])
      ++ spotsOfAll wanted enter 0 children

/-- `spots` over some trees, which are the children of a node from `i` on. -/
def spotsOfAll (wanted enter : Tree → Bool) : (i : Nat) → List Tree → List Spot
  | _, [] => []
  | i, t :: ts =>
    (if enter t then t.spots wanted enter else []).map (Spot.under [i])
      ++ spotsOfAll wanted enter (i + 1) ts

end

/-- Nothing on the way to a place is closed; the root may be. -/
def Open (t : Tree) (enter : Tree → Bool) (p : Place) : Prop :=
  ∀ q, q ≠ [] → q <+: p → ∀ n, t.at? q = some n → enter n = true

section Spots

variable {wanted enter : Tree → Bool}

lemma spotsOfAll_eq (wanted enter : Tree → Bool) (i : Nat) (ts : List Tree) :
    spotsOfAll wanted enter i ts
      = branches (fun t => if enter t then t.spots wanted enter else []) i ts := by
  induction ts generalizing i with
  | nil => rfl
  | cons t ts ih => rw [spotsOfAll, branches, ih]

lemma spots_eq (wanted enter : Tree → Bool) (t : Tree) : t.spots wanted enter
    = (if wanted t then [([], t)] else [])
      ++ branches (fun c => if enter c then c.spots wanted enter else []) 0 t.children := by
  cases t with
  | leaf token => simp [spots, children, branches]
  | node kind children => rw [spots, spotsOfAll_eq, Tree.children]

@[simp] lemma open_nil : t.Open enter [] := fun _ hq hbegins =>
  absurd (List.prefix_nil.mp hbegins) hq

lemma open_cons (hc : t.children[i]? = some c) :
    t.Open enter (i :: p) ↔ enter c = true ∧ c.Open enter p := by
  have hat : ∀ q, t.at? (i :: q) = c.at? q := fun q => by rw [at?_cons, hc, Option.bind_some]
  constructor
  · intro h
    refine ⟨h [i] (by simp) (by simp) c (hat []), fun q hq hbegins n hn => ?_⟩
    exact h (i :: q) (by simp) (by simpa using hbegins) n ((hat q).trans hn)
  · rintro ⟨henter, h⟩ q hq hbegins n hn
    rcases q with _ | ⟨j, q⟩
    · exact absurd rfl hq
    obtain ⟨rfl, hrest⟩ := List.cons_prefix_cons.mp hbegins
    rw [hat] at hn
    rcases q with _ | ⟨j, q⟩
    · obtain rfl : c = n := Option.some.inj hn
      exact henter
    · exact h (j :: q) (by simp) hrest n hn

lemma mem_spots : s ∈ t.spots wanted enter ↔
    t.at? s.1 = some s.2 ∧ wanted s.2 = true ∧ t.Open enter s.1 := by
  induction t using Tree.induction generalizing s with
  | _ t ih =>
      obtain ⟨p, n⟩ := s
      rw [spots_eq, List.mem_append, mem_branches]
      rcases p with _ | ⟨i, p⟩
      · have hroot : (([], n) : Spot) ∈ (if wanted t then [([], t)] else [] : List Spot)
            ↔ t = n ∧ wanted n = true := by
          by_cases hw : wanted t = true <;> grind
        simp [hroot, Spot.under]
      · have hroot : ((i :: p, n) : Spot) ∉ (if wanted t then [([], t)] else [] : List Spot) := by
          split <;> simp
        simp only [hroot, false_or, Nat.zero_add]
        constructor
        · rintro ⟨j, c, hc, s, hs, heq⟩
          obtain ⟨rfl, rfl⟩ : j = i ∧ s = (p, n) := by
            simpa [Spot.under, Prod.ext_iff, and_assoc] using heq
          split at hs
          next henter =>
            obtain ⟨hat, hwanted, hopen⟩ := (ih c (List.mem_of_getElem? hc)).mp hs
            exact ⟨by rw [at?_cons, hc, Option.bind_some, hat], hwanted,
              (open_cons hc).mpr ⟨henter, hopen⟩⟩
          next => simp at hs
        · rintro ⟨hat, hwanted, hopen⟩
          obtain ⟨c, hc, hn⟩ := Option.bind_eq_some_iff.mp hat
          obtain ⟨henter, hopen⟩ := (open_cons hc).mp hopen
          refine ⟨i, c, hc, (p, n), ?_, rfl⟩
          rw [if_pos henter]
          exact (ih c (List.mem_of_getElem? hc)).mpr ⟨hn, hwanted, hopen⟩

lemma ordered_spots : Ordered (t.spots wanted enter) := by
  induction t using Tree.induction with
  | _ t ih =>
      rw [spots_eq]
      refine List.pairwise_append.mpr ⟨?_, ordered_branches fun c hc => ?_, ?_⟩
      · split <;> simp
      · split
        · exact ih c hc
        · exact .nil
      · intro a ha b hb
        have hroot : a.1 = [] := by
          split at ha
          · simp_all
          · simp at ha
        obtain ⟨j, c, -, b, -, rfl⟩ := mem_branches.mp hb
        rw [hroot]
        exact List.nil_lt_cons _ _

/-- What is found in the node at a place, seen from the whole tree. -/
theorem lists_spots_under (h : t.at? q = some c) (wanted enter : Tree → Bool) :
    t.Lists (fun s => wanted s.2 = true ∧ ∃ r, s.1 = q ++ r ∧
        ∀ way, way ≠ [] → way <+: r → ∀ n, t.at? (q ++ way) = some n → enter n = true)
      ((c.spots wanted enter).map (Spot.under q)) := by
  refine ⟨ordered_spots.map_under q, fun s => ?_⟩
  rw [List.mem_map]
  simp only [at?_append_of h]
  constructor
  · rintro ⟨s, hs, rfl⟩
    obtain ⟨hat, hwanted, hopen⟩ := mem_spots.mp hs
    exact ⟨by simpa [at?_append_of h] using hat, hwanted, s.1, rfl, hopen⟩
  · obtain ⟨p, n⟩ := s
    rintro ⟨hat, hwanted, r, rfl, hopen⟩
    rw [at?_append_of h] at hat
    exact ⟨(r, n), mem_spots.mpr ⟨hat, hwanted, hopen⟩, rfl⟩

end Spots

/-! ## Going down by kinds -/

/-- The nodes to which a way leads, by the kinds of the nodes on it. -/
def within : List Kind → Tree → List Spot
  | [], t => [([], t)]
  | k :: ks, t => branches (fun c => if c.is k then c.within ks else []) 0 t.children

lemma mem_within_cons : s ∈ t.within (k :: ks) ↔
    ∃ (i : Nat) (c : Tree), t.children[i]? = some c ∧ c.is k = true ∧
      ∃ s' ∈ c.within ks, Spot.under [i] s' = s := by
  rw [within, mem_branches]
  simp only [Nat.zero_add]
  refine exists_congr fun i => exists_congr fun c => and_congr_right fun _ => ?_
  by_cases hk : c.is k = true <;> simp [hk]

lemma mem_within_singleton : s ∈ t.within [k] ↔
    ∃ i, t.at? [i] = some s.2 ∧ s.2.is k = true ∧ s.1 = [i] := by
  obtain ⟨p, n⟩ := s
  rw [mem_within_cons]
  constructor
  · rintro ⟨i, c, hc, hk, s, hs, heq⟩
    obtain rfl : s = ([], c) := by simpa [within] using hs
    cases heq
    exact ⟨i, by simp [at?_cons, hc], hk, rfl⟩
  · rintro ⟨i, hat, hk, rfl⟩
    obtain ⟨c, hc, hn⟩ := Option.bind_eq_some_iff.mp hat
    obtain rfl := Option.some.inj hn
    exact ⟨i, c, hc, hk, ([], c), by simp [within], rfl⟩

lemma ordered_within (ks : List Kind) (t : Tree) : Ordered (t.within ks) := by
  induction ks generalizing t with
  | nil => exact List.pairwise_singleton _ _
  | cons k ks ih =>
      refine ordered_branches fun c _ => ?_
      split
      · exact ih c
      · exact .nil

lemma map_snd_within_cons : (t.within (k :: ks)).map Prod.snd
    = (t.childrenOf k).flatMap fun c => (c.within ks).map Prod.snd := by
  rw [within, map_snd_branches, childrenOf]
  induction t.children with
  | nil => rfl
  | cons c cs ih =>
      by_cases hk : c.is k = true <;> simp [hk, ih]

lemma map_snd_within_singleton : (t.within [k]).map Prod.snd = t.childrenOf k := by
  rw [map_snd_within_cons]
  exact List.flatMap_singleton' _

end Tree

end CodeDigest.Java
