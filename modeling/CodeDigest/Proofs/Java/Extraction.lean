import Mathlib.Data.List.Nodup
import CodeDigest.Proofs.Java.Growth

/-!
# What the record of a source file holds

An `Inventory` of a syntax tree lists what its record has to be made of, by place: the class
declarations, the methods that stand directly in the body of each, the bodies of these methods and
of the constructors beside them, and the decision points that count for each body.
`outlineBy_records` says that the record of a file is made of an inventory of its tree, so nothing
is lost and nothing is taken twice.

The classes are found by one search of the whole tree (`map_snd_spots_is`), methods and bodies by
going down by kinds from each class (`lists_membersAt`, `mem_bodiesOf`), and decision points by a
search that stops at the bodies of classes (`decisions_eq_length`).  That no decision point counts
twice is because of the last: a body inside another one lies in the body of a class there
(`eq_of_counts`).
-/

namespace CodeDigest.Java

namespace Tree

/-! ## Where members stand -/

/-- At `q` stands a node directly in the body of the class declared at `p`. -/
def InClass (t : Tree) (p q : Place) : Prop :=
  ∃ c body i j, t.at? p = some c ∧ c.is .classDeclaration = true ∧
    t.at? (p ++ [i]) = some body ∧ body.is .classBody = true ∧ q = p ++ [i, j]

/-- The spot is that of the body of a member of a class. -/
def IsBodyOf (t : Tree) (member body : Kind) (s : Spot) : Prop :=
  ∃ p q m i, t.InClass p q ∧ t.at? q = some m ∧ m.is member = true ∧ s.1 = q ++ [i] ∧
    s.2.is body = true

/-- The spot is that of the body of a method or constructor of a class. -/
def IsScored (t : Tree) (s : Spot) : Prop :=
  t.IsBodyOf .methodDeclaration .block s ∨ t.IsBodyOf .constructorDeclaration .constructorBody s

/-- The spot is that of a decision point below `q`, without the body of a class between the two. -/
def CountsFor (t : Tree) (q : Place) (s : Spot) : Prop :=
  s.2.isDecision = true ∧ ∃ r, s.1 = q ++ r ∧
    ∀ way, way ≠ [] → way <+: r → ∀ n, t.at? (q ++ way) = some n → n.is .classBody = false

end Tree

/-- The declarations of a tree that are recorded, and the decision points that are counted. -/
structure Inventory (t : Tree) where
  /-- The class declarations, at any depth. -/
  classes : List Spot
  /-- The methods of the class at a place. -/
  methods : Place → List Spot
  /-- The bodies that have a complexity. -/
  bodies : List Spot
  /-- The decision points that count for the body at a place. -/
  points : Place → List Spot
  lists_classes : t.Lists (fun s => s.2.is .classDeclaration = true) classes
  lists_methods : ∀ p,
    t.Lists (fun s => s.2.is .methodDeclaration = true ∧ t.InClass p s.1) (methods p)
  bodies_nodup : (bodies.map Prod.fst).Nodup
  mem_bodies : ∀ s, s ∈ bodies ↔ t.at? s.1 = some s.2 ∧ t.IsScored s
  lists_points : ∀ b ∈ bodies, t.Lists (t.CountsFor b.1) (points b.1)
  /-- A method is one of a single class. -/
  methods_once : ∀ p p' s, s ∈ methods p → s ∈ methods p' → p = p'
  /-- A decision point counts for a single body. -/
  points_once : ∀ b ∈ bodies, ∀ b' ∈ bodies, ∀ s, s ∈ points b.1 → s ∈ points b'.1 → b = b'

namespace Inventory

variable {t : Tree} (inv : Inventory t) (rules : BusinessRules)

/-- The complexity of the body at a place. -/
def score (q : Place) : Float := ((inv.points q).length + 1).toFloat

/-- The record of a class. -/
def classAt (package : Option String) (s : Spot) : SourceClass where
  name := (s.2.textOf? .declaredName).getD ""
  package
  annotations := s.2.annotations
  methods := (inv.methods s.1).map fun m => m.2.toMethod rules

/-- The record of a file has a class for each declaration, and the mean of the complexities. -/
structure Records (file : SourceFile) : Prop where
  classes : file.classes = inv.classes.map (inv.classAt rules file.package)
  complexity : file.complexity = if inv.bodies = [] then none else
    some (ComplexityMetrics.sumOf (inv.bodies.map fun b => inv.score b.1)
      / inv.bodies.length.toFloat)

end Inventory

namespace Tree

variable {t c b : Tree} {p q : Place} {s : Spot} {kind member body : Kind} {ks : List Kind}

/-! ## The searches -/

lemma nodesOfAll_eq (kind : Kind) (ts : List Tree) :
    nodesOfAll kind ts = ts.flatMap (nodesOf kind) := by
  induction ts with
  | nil => rfl
  | cons t ts ih => rw [nodesOfAll, ih, List.flatMap_cons]

/-- The nodes of a kind are found by a search that enters everything. -/
lemma map_snd_spots_is (kind : Kind) (t : Tree) :
    (t.spots (is kind) fun _ => true).map Prod.snd = t.nodesOf kind := by
  induction t using Tree.induction with
  | _ t ih =>
      rw [spots_eq, List.map_append, map_snd_branches]
      cases t with
      | leaf token => simp [nodesOf, children, is, kind?]
      | node k cs =>
          have hroot : (if (node k cs).is kind then [(([], node k cs) : Spot)] else []).map Prod.snd
              = if k = kind then [node k cs] else [] := by
            by_cases hk : k = kind <;> simp [is, kind?, hk]
          rw [hroot, nodesOf, nodesOfAll_eq]
          exact congrArg _ (List.flatMap_congr fun c hc => ih c hc)

lemma length_branches (find : Tree → List Spot) (i : Nat) (ts : List Tree) :
    (branches find i ts).length = sumOf (ts.map fun t => (find t).length) := by
  induction ts generalizing i with
  | nil => rfl
  | cons t ts ih =>
      rw [branches, List.length_append, ih, List.length_map, List.map_cons, sumOf_cons]

lemma decisionsOfAll_eq (ts : List Tree) : decisionsOfAll ts
    = sumOf (ts.map fun t => if t.is .classBody then 0 else t.decisions) := by
  induction ts with
  | nil => rfl
  | cons t ts ih => rw [decisionsOfAll, ih, List.map_cons, sumOf_cons]

/-- The decision points are found by a search that enters no body of a class. -/
lemma decisions_eq_length (t : Tree) :
    t.decisions = (t.spots isDecision fun c => !c.is .classBody).length := by
  induction t using Tree.induction with
  | _ t ih =>
      rw [spots_eq, List.length_append, length_branches]
      cases t with
      | leaf token => rfl
      | node k cs =>
          have hroot : (if (node k cs).isDecision then [(([], node k cs) : Spot)] else []).length
              = if (node k cs).isDecision then 1 else 0 := by
            split <;> rfl
          rw [hroot, decisions, decisionsOfAll_eq]
          refine congrArg (_ + sumOf ·) (List.map_congr_left fun c hc => ?_)
          by_cases hbody : c.is .classBody = true
          · simp [hbody]
          · simp [hbody, ih c hc]

/-- The class declarations, at any depth. -/
def classSpots (t : Tree) : List Spot := t.spots (is .classDeclaration) fun _ => true

lemma map_snd_classSpots (t : Tree) : t.classSpots.map Prod.snd = t.nodesOf .classDeclaration :=
  map_snd_spots_is .classDeclaration t

lemma lists_classSpots (t : Tree) :
    t.Lists (fun s => s.2.is .classDeclaration = true) t.classSpots where
  ordered := ordered_spots
  mem_iff s := by simp [classSpots, mem_spots, Open]

/-! ## Members and their bodies -/

/-- The members of a kind of the class at a place. -/
def membersAt (t : Tree) (kind : Kind) (p : Place) : List Spot :=
  match t.at? p with
  | some c =>
    if c.is .classDeclaration then (c.within [.classBody, kind]).map (Spot.under p) else []
  | none => []

/-- The bodies of the members of a kind, class by class. -/
def bodiesOf (t : Tree) (member body : Kind) : List Spot :=
  t.classSpots.flatMap fun c =>
    (t.membersAt member c.1).flatMap fun m => (m.2.within [body]).map (Spot.under m.1)

lemma mem_within_members : s ∈ c.within [.classBody, kind] ↔ ∃ i j body,
    c.at? [i] = some body ∧ body.is .classBody = true ∧ s.1 = [i, j] ∧ c.at? s.1 = some s.2 ∧
      s.2.is kind = true := by
  obtain ⟨q, n⟩ := s
  rw [mem_within_cons]
  constructor
  · rintro ⟨i, body, hchild, hclass, s, hs, heq⟩
    obtain ⟨j, hat, hkind, hj⟩ := mem_within_singleton.mp hs
    obtain ⟨rfl, rfl⟩ : [i] ++ s.1 = q ∧ s.2 = n := Prod.ext_iff.mp heq
    have hbody : c.at? [i] = some body := by simp [at?_cons, hchild]
    exact ⟨i, j, body, hbody, hclass, by simp [hj], by rw [at?_append_of hbody, hj, hat], hkind⟩
  · rintro ⟨i, j, body, hbody, hclass, rfl, hat, hkind⟩
    obtain ⟨b, hchild, hb⟩ := Option.bind_eq_some_iff.mp hbody
    obtain rfl : b = body := Option.some.inj hb
    have hn : b.at? [j] = some n := by simpa [at?_cons, hchild] using hat
    exact ⟨i, b, hchild, hclass, ([j], n), mem_within_singleton.mpr ⟨j, hn, hkind, rfl⟩, rfl⟩

lemma lists_membersAt (t : Tree) (kind : Kind) (p : Place) :
    t.Lists (fun s => s.2.is kind = true ∧ t.InClass p s.1) (t.membersAt kind p) := by
  unfold membersAt
  split
  next c hc =>
    split
    next hclass =>
      refine ⟨(ordered_within _ c).map_under p, fun s => ?_⟩
      rw [List.mem_map]
      constructor
      · rintro ⟨s, hs, rfl⟩
        obtain ⟨i, j, body, hbody, hclassBody, hplace, hat, hkind⟩ := mem_within_members.mp hs
        refine ⟨by simpa [at?_append_of hc] using hat, hkind, c, body, i, j, hc, hclass, ?_,
          hclassBody, by simp [hplace]⟩
        rw [at?_append_of hc, hbody]
      · obtain ⟨q, n⟩ := s
        rintro ⟨hat, hkind, d, body, i, j, hd, -, hbody, hclassBody, rfl⟩
        rw [at?_append_of hc] at hat hbody
        exact ⟨([i, j], n), mem_within_members.mpr ⟨i, j, body, hbody, hclassBody, rfl, hat, hkind⟩,
          rfl⟩
    next hclass =>
      refine ⟨.nil, fun s => iff_of_false (by simp) ?_⟩
      rintro ⟨-, -, d, -, -, -, hd, hisclass, -⟩
      exact hclass (Option.some.inj (hc.symm.trans hd) ▸ hisclass)
  next hc =>
    refine ⟨.nil, fun s => iff_of_false (by simp) ?_⟩
    rintro ⟨-, -, d, -, -, -, hd, -⟩
    cases hc.symm.trans hd

/-- A place is one in a single class. -/
lemma InClass.unique {p' : Place} (h : t.InClass p q) (h' : t.InClass p' q) : p = p' := by
  obtain ⟨-, -, i, j, -, -, -, -, rfl⟩ := h
  obtain ⟨-, -, i', j', -, -, -, -, heq⟩ := h'
  exact (List.append_inj' heq rfl).1

lemma mem_bodiesOf : s ∈ t.bodiesOf member body ↔
    t.at? s.1 = some s.2 ∧ t.IsBodyOf member body s := by
  obtain ⟨q, n⟩ := s
  simp only [bodiesOf, List.mem_flatMap, List.mem_map, (lists_classSpots t).mem_iff,
    (lists_membersAt t member _).mem_iff]
  constructor
  · rintro ⟨c, -, m, ⟨hm, hmember, hclass⟩, s, hs, heq⟩
    obtain ⟨i, hat, hbody, hi⟩ := mem_within_singleton.mp hs
    obtain ⟨rfl, rfl⟩ : m.1 ++ s.1 = q ∧ s.2 = n := Prod.ext_iff.mp heq
    refine ⟨?_, c.1, m.1, m.2, i, hclass, hm, hmember, by rw [hi], hbody⟩
    rw [at?_append_of hm, hi, hat]
  · rintro ⟨hat, p, q, m, i, hclass, hm, hmember, rfl, hbody⟩
    have ⟨c, _, _, _, hc, hisclass, _⟩ := hclass
    rw [at?_append_of hm] at hat
    exact ⟨(p, c), ⟨hc, hisclass⟩, (q, m), ⟨hm, hmember, hclass⟩, ([i], n),
      mem_within_singleton.mpr ⟨i, hat, hbody, rfl⟩, rfl⟩

lemma nodup_bodiesOf (t : Tree) (member body : Kind) :
    ((t.bodiesOf member body).map Prod.fst).Nodup := by
  have hplace : ∀ {m : Spot} {q : Place},
      q ∈ ((m.2.within [body]).map (Spot.under m.1)).map Prod.fst → ∃ i, q = m.1 ++ [i] := by
    intro m q hq
    simp only [List.mem_map] at hq
    obtain ⟨-, ⟨s, hs, rfl⟩, rfl⟩ := hq
    obtain ⟨i, -, -, hi⟩ := mem_within_singleton.mp hs
    exact ⟨i, by rw [Spot.under_fst, hi]⟩
  rw [bodiesOf, List.map_flatMap, List.nodup_flatMap]
  constructor
  · intro c _
    rw [List.map_flatMap, List.nodup_flatMap]
    refine ⟨fun m _ => ((ordered_within _ m.2).map_under m.1).nodup, ?_⟩
    refine (lists_membersAt t member c.1).ordered.imp fun {m m'} hlt => ?_
    intro q hq hq'
    obtain ⟨i, rfl⟩ := hplace hq
    obtain ⟨i', heq⟩ := hplace hq'
    exact Std.ne_of_lt hlt (List.append_inj' heq rfl).1
  · refine (lists_classSpots t).ordered.imp fun {c c'} hlt => ?_
    intro q hq hq'
    simp only [List.map_flatMap, List.mem_flatMap] at hq hq'
    obtain ⟨m, hm, hq⟩ := hq
    obtain ⟨m', hm', hq'⟩ := hq'
    obtain ⟨i, rfl⟩ := hplace hq
    obtain ⟨i', heq⟩ := hplace hq'
    have hsame : m.1 = m'.1 := (List.append_inj' heq rfl).1
    have hclass := (((lists_membersAt t member c.1).mem_iff m).mp hm).2.2
    have hclass' := (((lists_membersAt t member c'.1).mem_iff m').mp hm').2.2
    exact Std.ne_of_lt hlt (hclass.unique (hsame ▸ hclass'))

/-! ## Decision points -/

/-- The decision points that count for the body at a place. -/
def pointsAt (t : Tree) (q : Place) : List Spot :=
  match t.at? q with
  | some b => (b.spots isDecision fun c => !c.is .classBody).map (Spot.under q)
  | none => []

lemma length_pointsAt (h : t.at? q = some b) : (t.pointsAt q).length = b.decisions := by
  simp [pointsAt, h, decisions_eq_length]

lemma lists_pointsAt (h : t.at? q = some b) : t.Lists (t.CountsFor q) (t.pointsAt q) := by
  have hlists := lists_spots_under h isDecision fun c => !c.is .classBody
  simp only [Bool.not_eq_true'] at hlists
  simp only [pointsAt, h]
  exact hlists

/-- A node has one kind. -/
lemma kind_unique {n : Tree} {k k' : Kind} (h : n.is k = true) (h' : n.is k' = true) : k = k' := by
  simp only [is, beq_iff_eq] at h h'
  exact Option.some.inj (h.symm.trans h')

/-- What stands on the way to a body. -/
lemma IsScored.exists_way (h : t.IsScored s) : ∃ p i j k body m, s.1 = p ++ [i, j, k] ∧
    t.at? (p ++ [i]) = some body ∧ body.is .classBody = true ∧ t.at? (p ++ [i, j]) = some m ∧
      (m.is .methodDeclaration = true ∧ s.2.is .block = true ∨
        m.is .constructorDeclaration = true ∧ s.2.is .constructorBody = true) := by
  rcases h with ⟨p, q, m, k, hclass, hm, hmember, hplace, hbody⟩ |
    ⟨p, q, m, k, hclass, hm, hmember, hplace, hbody⟩
  all_goals
    obtain ⟨-, body, i, j, -, -, hat, hclassBody, rfl⟩ := hclass
    refine ⟨p, i, j, k, body, m, by simp [hplace], hat, hclassBody, hm, ?_⟩
  · exact .inl ⟨hmember, hbody⟩
  · exact .inr ⟨hmember, hbody⟩

/-- Between a body and another one inside it lies the body of a class. -/
lemma exists_classBody {b b' : Spot} {r : Place} (hat : t.at? b.1 = some b.2)
    (hb : t.IsScored b) (hb' : t.IsScored b') (hr : r ≠ []) (heq : b'.1 = b.1 ++ r) :
    ∃ way n, way ≠ [] ∧ way <+: r ∧ t.at? (b.1 ++ way) = some n ∧ n.is .classBody = true := by
  obtain ⟨_, _, _, _, _, _, -, -, -, -, hkind⟩ := hb.exists_way
  obtain ⟨p, i, j, k, body, m, hplace, hbody, hclassBody, hm, hmember⟩ := hb'.exists_way
  have hbegins : b.1 <+: p ++ [i] ++ [j] ++ [k] := ⟨r, by simp [← heq, hplace]⟩
  rw [List.prefix_concat_iff, List.prefix_concat_iff, List.prefix_concat_iff] at hbegins
  rcases hbegins with hsame | hsame | hsame | ⟨x, rfl⟩
  · refine absurd ?_ hr
    simpa [heq, hsame] using hplace
  · -- the outer body would be the member itself
    obtain rfl : b.2 = m := by simpa [hsame, hm, eq_comm] using hat
    rcases hkind with ⟨-, hkind⟩ | ⟨-, hkind⟩ <;> rcases hmember with ⟨hmember, -⟩ | ⟨hmember, -⟩
    all_goals cases kind_unique hkind hmember
  · -- the outer body would be the body of the class
    obtain rfl : b.2 = body := by simpa [hsame, hbody, eq_comm] using hat
    rcases hkind with ⟨-, hkind⟩ | ⟨-, hkind⟩
    all_goals cases kind_unique hkind hclassBody
  · refine ⟨x ++ [i], body, by simp, ⟨[j, k], ?_⟩, by simpa using hbody, hclassBody⟩
    rw [heq, List.append_assoc] at hplace
    simpa [eq_comm] using hplace

lemma place_eq_of_counts {b b' : Spot} (hat : t.at? b.1 = some b.2) (hb : t.IsScored b)
    (hb' : t.IsScored b') (hs : t.CountsFor b.1 s) (hbegins : b.1 <+: b'.1) (hs' : b'.1 <+: s.1) :
    b.1 = b'.1 := by
  obtain ⟨x, hx⟩ := hbegins
  rcases eq_or_ne x [] with rfl | hne
  · simpa using hx
  obtain ⟨way, n, hway, hbegins, hn, hclassBody⟩ := exists_classBody hat hb hb' hne hx.symm
  obtain ⟨-, r, hr, hopen⟩ := hs
  have hxr : x <+: r := by rwa [← hx, hr, List.prefix_append_right_inj] at hs'
  rw [hopen way hway (hbegins.trans hxr) n hn] at hclassBody
  cases hclassBody

/-- A decision point counts for one body. -/
lemma eq_of_counts {b b' : Spot} (hat : t.at? b.1 = some b.2) (hat' : t.at? b'.1 = some b'.2)
    (hb : t.IsScored b) (hb' : t.IsScored b') (hs : t.CountsFor b.1 s) (hs' : t.CountsFor b'.1 s) :
    b = b' := by
  have hbegins : b.1 <+: s.1 := hs.2.imp fun r hr => hr.1.symm
  have hbegins' : b'.1 <+: s.1 := hs'.2.imp fun r hr => hr.1.symm
  have hplace : b.1 = b'.1 := by
    rcases List.prefix_or_prefix_of_prefix hbegins hbegins' with h | h
    · exact place_eq_of_counts hat hb hb' hs h hbegins'
    · exact (place_eq_of_counts hat' hb' hb hs' h hbegins).symm
  refine Prod.ext hplace ?_
  rw [hplace, hat'] at hat
  exact (Option.some.inj hat).symm

/-! ## What the record is made of -/

/-- What a class declaration has for members is found below it. -/
lemma map_snd_membersAt (h : t.Shaped) (hat : t.at? p = some c)
    (hclass : c.is .classDeclaration = true) (kind : Kind) :
    (t.membersAt kind p).map Prod.snd = c.members kind := by
  have hshaped : c.Shaped := h.of_at? hat
  have hbody : c.childrenOf .classBody = (c.child? .classBody).toList :=
    hshaped.childrenOf_eq_child? hclass (by decide)
  have hsnd : Prod.snd ∘ Spot.under p = Prod.snd := rfl
  simp only [membersAt, hat, hclass, if_true]
  rw [List.map_map, hsnd, map_snd_within_cons, hbody, members]
  cases c.child? .classBody with
  | none => rfl
  | some body => simp [map_snd_within_singleton]

/-- The complexities of the bodies of members, as they are taken from each class. -/
lemma map_bodiesOf (h : t.Shaped) (hsingle : body ∈ member.single) (f : Tree → Float) :
    (t.bodiesOf member body).map (fun b => f b.2) = (t.nodesOf .classDeclaration).flatMap fun c =>
      (c.members member).filterMap fun m => (m.child? body).map f := by
  rw [bodiesOf, List.map_flatMap, ← map_snd_classSpots, List.flatMap_map]
  refine List.flatMap_congr fun c hc => ?_
  obtain ⟨hat, hclass⟩ := ((lists_classSpots t).mem_iff c).mp hc
  rw [← map_snd_membersAt h hat hclass, List.filterMap_map, List.filterMap_eq_flatMap_toList,
    List.map_flatMap]
  refine List.flatMap_congr fun m hm => ?_
  obtain ⟨hm, hmember, -⟩ := ((lists_membersAt t member c.1).mem_iff m).mp hm
  have hshaped : m.2.Shaped := h.of_at? hm
  have hbody := hshaped.childrenOf_eq_child? hmember hsingle
  have hsnd : (fun b : Spot => f b.2) ∘ Spot.under m.1 = f ∘ Prod.snd := rfl
  rw [List.map_map, hsnd, ← List.map_map, map_snd_within_singleton, hbody]
  cases h : m.2.child? body <;> simp [h]

/-- The bodies of the methods, class by class, and then those of the constructors. -/
def bodies (t : Tree) : List Spot :=
  t.bodiesOf .methodDeclaration .block ++ t.bodiesOf .constructorDeclaration .constructorBody

lemma mem_bodies : s ∈ t.bodies ↔ t.at? s.1 = some s.2 ∧ t.IsScored s := by
  rw [bodies, List.mem_append, mem_bodiesOf, mem_bodiesOf, ← and_or_left, IsScored]

lemma nodup_bodies (t : Tree) : (t.bodies.map Prod.fst).Nodup := by
  rw [bodies, List.map_append, List.nodup_append]
  refine ⟨nodup_bodiesOf t _ _, nodup_bodiesOf t _ _, ?_⟩
  rintro q hq q' hq' rfl
  obtain ⟨b, hb, rfl⟩ := List.mem_map.mp hq
  obtain ⟨b', hb', heq⟩ := List.mem_map.mp hq'
  obtain ⟨hat, _, _, _, _, -, -, -, -, hbody⟩ := mem_bodiesOf.mp hb
  obtain ⟨hat', _, _, _, _, -, -, -, -, hbody'⟩ := mem_bodiesOf.mp hb'
  rw [heq, hat] at hat'
  rw [← Option.some.inj hat'] at hbody'
  cases kind_unique hbody hbody'

end Tree

/-- The inventory of a tree. -/
def Inventory.ofTree (t : Tree) : Inventory t where
  classes := t.classSpots
  methods := t.membersAt .methodDeclaration
  bodies := t.bodies
  points := t.pointsAt
  lists_classes := t.lists_classSpots
  lists_methods := t.lists_membersAt .methodDeclaration
  bodies_nodup := t.nodup_bodies
  mem_bodies _ := Tree.mem_bodies
  lists_points _ hb := Tree.lists_pointsAt (Tree.mem_bodies.mp hb).1
  methods_once p p' s hs hs' :=
    have hclass := (((t.lists_membersAt _ p).mem_iff s).mp hs).2.2
    hclass.unique (((t.lists_membersAt _ p').mem_iff s).mp hs').2.2
  points_once b hb b' hb' s hs hs' := by
    obtain ⟨hat, hscored⟩ := Tree.mem_bodies.mp hb
    obtain ⟨hat', hscored'⟩ := Tree.mem_bodies.mp hb'
    exact Tree.eq_of_counts hat hat' hscored hscored'
      (((Tree.lists_pointsAt hat).mem_iff s).mp hs).2
      (((Tree.lists_pointsAt hat').mem_iff s).mp hs').2

variable {t : Tree} {rules : BusinessRules} {path content : String}

/-- The complexities that a file's own is the mean of. -/
lemma scores_outline (rules : BusinessRules) (path content : String) (h : t.Shaped) :
    (((outline rules path content t).classes.flatMap (·.methods)).filterMap (·.complexity)
      ++ (t.nodesOf .classDeclaration).flatMap Tree.constructorScores)
      = t.bodies.map fun b => b.2.complexity.toFloat := by
  have hmethod : .block ∈ Kind.single .methodDeclaration := by decide
  have hconstructor : .constructorBody ∈ Kind.single .constructorDeclaration := by decide
  rw [Tree.bodies, List.map_append, Tree.map_bodiesOf h hmethod (·.complexity.toFloat),
    Tree.map_bodiesOf h hconstructor (·.complexity.toFloat)]
  simp only [outline, List.flatMap_map, List.filterMap_flatMap, Tree.toClass, List.filterMap_map]
  rfl

/-- The record of a file is made of the inventory of its tree. -/
lemma Inventory.records_ofTree (h : t.Shaped) :
    (ofTree t).Records rules (outline rules path content t) where
  classes := by
    simp only [outline, ofTree, ← Tree.map_snd_classSpots, List.map_map]
    refine List.map_congr_left fun c hc => ?_
    obtain ⟨hat, hclass⟩ := (t.lists_classSpots.mem_iff c).mp hc
    simp only [Function.comp_apply, Tree.toClass, classAt, ← Tree.map_snd_membersAt h hat hclass,
      List.map_map]
    rfl
  complexity := by
    have hscore : ∀ b ∈ t.bodies, (ofTree t).score b.1 = b.2.complexity.toFloat := fun b hb => by
      rw [score, ofTree, Tree.length_pointsAt (Tree.mem_bodies.mp hb).1, Tree.complexity]
    have hcomplexity : (outline rules path content t).complexity
        = meanScore? (t.bodies.map fun b => b.2.complexity.toFloat) := by
      rw [← scores_outline rules path content h]
      rfl
    rw [hcomplexity, meanScore?, ← List.map_congr_left hscore]
    simp only [List.isEmpty_map, List.isEmpty_iff, List.length_map]
    rfl

/-- **Extraction loses nothing and takes nothing twice.**

This is so for every text that has a syntax tree, and whatever parser has read it. -/
theorem outlineBy_records (parser : Parser) (h : parser.tree? content = some t)
    (rules : BusinessRules) (path : String) :
    ∃ file, outlineBy parser.tree? rules path content = .ok file ∧
      ∃ inv : Inventory t, inv.Records rules file := by
  refine ⟨outline rules path content t, ?_, .ofTree t, Inventory.records_ofTree (parser.shaped h)⟩
  simp only [outlineBy, h]

/-- A class with a constructor, a method that returns a member of an anonymous class, and a class
inside. -/
def nestedSource : String :=
  "class A\x7bA()\x7b\x7dint f()\x7breturn a?1:new B()\x7bint g()\x7breturn b?1:2;\x7d\x7d.g();\x7d"
    ++ "class C\x7bvoid h()\x7b\x7d\x7d\x7d"

theorem outlineBy_records_of_nested : ∃ t file, tree? nestedSource = some t ∧
    outlineOf .standard "A.java" nestedSource = .ok file ∧
      file.classes.map (·.name) = ["A", "C"] ∧
        ∃ inv : Inventory t, inv.Records .standard file := by
  obtain ⟨t, ht⟩ : ∃ t, tree? nestedSource = some t :=
    Option.isSome_iff_exists.mp (by decide +kernel)
  rw [← Parser.tree?_standard] at ht
  obtain ⟨file, hfile, hrecords⟩ := outlineBy_records .standard ht .standard "A.java"
  rw [Parser.tree?_standard] at ht hfile
  have hnames : (outlineOf .standard "A.java" nestedSource).toOption.map
      (fun file => file.classes.map (·.name)) = some ["A", "C"] := by decide +kernel
  rw [outlineOf, hfile] at hnames
  exact ⟨t, file, ht, hfile, Option.some.inj hnames, hrecords⟩

end CodeDigest.Java
