import CodeDigest.Proofs.Java.Extraction

/-!
# Types that are declared in a body

A body can declare types, and the bodies of these have decision points of their own.  `Tree.emptied`
takes out of a tree all that stands in them, which leaves a tree that the grammar allows
(`Tree.Grown.emptied`).  The complexity of what is left counts the decision points outside all
bodies of types (`Tree.decisions_emptied`).

The complexity of the tree itself counts more (`complexity_of_local_types`).  Bodies of classes and
records are passed over, local and anonymous ones, but bodies of enumerations, interfaces and
annotation types are not: the decision points in them count, unless a class lies in between
(`complexity_of_local_enum`).
-/

namespace CodeDigest.Java

/-- The kinds of the bodies of types that are no classes. -/
def Kind.isOpenBody : Kind → Bool
  | .interfaceBody | .enumBody | .annotationBody => true
  | _ => false

/-- The kinds of the bodies of types. -/
def Kind.isTypeBody (kind : Kind) : Bool := kind == .classBody || kind.isOpenBody

namespace Tree

/-- Whether a tree is the body of a type that is no class. -/
def isOpenBody (t : Tree) : Bool := t.kind?.any Kind.isOpenBody

/-- Whether a tree is the body of a type. -/
def isTypeBody (t : Tree) : Bool := t.kind?.any Kind.isTypeBody

lemma isTypeBody_eq (t : Tree) : t.isTypeBody = (t.is .classBody || t.isOpenBody) := by
  cases t <;> rfl

/-- A body with nothing between its braces. -/
def emptyBody (kind : Kind) : Tree :=
  node kind [leaf ⟨[], .symbol, "\x7b"⟩, leaf ⟨[], .symbol, "\x7d"⟩]

mutual

/-- A tree with nothing in the bodies of the types that are declared in it. -/
def emptied : Tree → Tree
  | leaf token => leaf token
  | node kind children => node kind (emptiedOfAll children)

/-- `emptied` over the children of a node, among which there may be bodies of types. -/
def emptiedOfAll : List Tree → List Tree
  | [] => []
  | leaf token :: ts => leaf token :: emptiedOfAll ts
  | node kind children :: ts =>
    (if kind.isTypeBody then emptyBody kind else (node kind children).emptied) :: emptiedOfAll ts

end

/-- A child of a node, emptied. -/
def shrunk : Tree → Tree
  | leaf token => leaf token
  | node kind children => if kind.isTypeBody then emptyBody kind else (node kind children).emptied

variable {t b c n : Tree} {q : Place} {s : Spot} {k kind : Kind} {ts : List Tree}
  {pattern : Pattern}

lemma emptiedOfAll_eq (ts : List Tree) : emptiedOfAll ts = ts.map shrunk := by
  induction ts with
  | nil => rfl
  | cons t ts ih => cases t <;> simp [emptiedOfAll, shrunk, ih]

lemma emptied_node (kind : Kind) (children : List Tree) :
    (node kind children).emptied = node kind (children.map shrunk) := by
  rw [emptied, emptiedOfAll_eq]

@[simp] lemma is_shrunk (kind : Kind) (t : Tree) : t.shrunk.is kind = t.is kind := by
  cases t with
  | leaf token => rfl
  | node k cs =>
      rw [shrunk]
      split
      · rfl
      · rw [emptied_node]
        rfl

end Tree

open CodeDigest.Java.Tree

/-! ## What is left obeys the grammar -/

/-- A type may have nothing in its body. -/
lemma reads_emptyBody {kind : Kind} (h : kind.isTypeBody = true) : Reads Grammar.rule
    (Grammar.rule kind) [.leaf ⟨[], .symbol, "\x7b"⟩, .leaf ⟨[], .symbol, "\x7d"⟩] := by
  have hbody : ∀ inner : Pattern, Reads Grammar.rule inner [] → Reads Grammar.rule
      (.between "\x7b" "\x7d" inner)
      [.leaf ⟨[], .symbol, "\x7b"⟩, .leaf ⟨[], .symbol, "\x7d"⟩] := fun inner hinner =>
    .both (.token (by decide)) (.both hinner (.token (by decide)))
  have hmaybe : ∀ p : Pattern, Reads Grammar.rule (.maybe p) [] := fun p => .right (.empty rfl)
  cases kind <;> try cases h
  · exact hbody _ (.empty rfl)
  · exact hbody _ (.empty rfl)
  · exact hbody _ (.both (hmaybe _) (.both (hmaybe _) (hmaybe _)))
  · exact hbody _ (.empty rfl)

/-- A node may have its children with the bodies of types emptied. -/
lemma Kind.Allows.shrunk {k : Kind} {ts : List Tree} (h : k.Allows ts) :
    k.Allows (ts.map Tree.shrunk) where
  required kind hkind := by
    obtain ⟨c, hc, his⟩ := h.required kind hkind
    exact ⟨c.shrunk, List.mem_map_of_mem hc, by rw [is_shrunk, his]⟩
  single kind hkind := by
    have hsame : Tree.is kind ∘ Tree.shrunk = Tree.is kind := funext (is_shrunk kind)
    rw [List.countP_map, hsame]
    exact h.single kind hkind
  declaredName hk := by
    obtain ⟨token, rfl⟩ := h.declaredName hk
    exact ⟨token, rfl⟩
  name hk := by
    obtain ⟨tokens, rfl, hchain⟩ := h.name hk
    exact ⟨tokens, by simp [Function.comp_def, Tree.shrunk], hchain⟩
  switchLabel hk := by
    obtain ⟨token, rest, rfl⟩ := h.switchLabel hk
    exact ⟨token, rest.map Tree.shrunk, rfl⟩

/-- With the bodies of types emptied a pattern is still followed. -/
lemma Reads.shrunk {pattern : Pattern} {ts : List Tree} (h : Reads Grammar.rule pattern ts) :
    Reads Grammar.rule pattern (ts.map Tree.shrunk) := by
  induction h with
  | empty h => exact .empty h
  | token h => exact .token h
  | both _ _ ihp ihq =>
      rw [List.map_append]
      exact .both ihp ihq
  | left _ ih => exact .left ih
  | right _ ih => exact .right ih
  | many _ _ ihfirst ihmore =>
      rw [List.map_append]
      exact .many ihfirst ihmore
  | @part kind children _ ih =>
      rw [List.map_singleton, Tree.shrunk]
      split
      next htype => exact .part (reads_emptyBody htype)
      next => exact emptied_node kind children ▸ .part ih

namespace Tree

variable {t b c n : Tree} {q : Place} {s : Spot} {k kind : Kind} {ts : List Tree}

/-- **A tree with the bodies of its types emptied obeys the grammar.** -/
theorem Grown.emptied (h : t.Grown Grammar.rule) : t.emptied.Grown Grammar.rule := by
  cases t with
  | leaf token => exact h
  | node k children =>
      rw [emptied_node]
      have hreads : Reads Grammar.rule (.part k) [node k (children.map shrunk)] :=
        .part h.root.shrunk
      exact hreads.grown _ (List.mem_singleton_self _)

lemma shaped_emptyBody (h : kind.isTypeBody = true) : (emptyBody kind).Shaped := by
  refine .node ?_ (by simp [Throughout.leaf])
  cases kind <;> try cases h
  all_goals exact ⟨by simp [Kind.required], by simp [Kind.single], by simp, by simp, by simp⟩

/-- **Emptying the bodies of types keeps the shape** of a tree. -/
theorem Shaped.emptied (h : t.Shaped) : t.emptied.Shaped := by
  induction t using Tree.induction with
  | _ t ih =>
      cases t with
      | leaf token => exact h
      | node k cs =>
          rw [emptied_node]
          refine .node h.root.shrunk fun c hc => ?_
          obtain ⟨c, hcs, rfl⟩ := List.mem_map.mp hc
          cases c with
          | leaf token => exact .leaf token
          | node k' cs' =>
              rw [shrunk]
              split
              next htype => exact shaped_emptyBody htype
              next => exact ih _ hcs (h.of_mem_children hcs)

/-! ## What is left counts -/

/-- Emptying makes and loses no decision point at the root. -/
lemma isDecision_emptied (h : t.Shaped) : t.emptied.isDecision = t.isDecision := by
  cases t with
  | leaf token => rfl
  | node k children =>
      rw [emptied_node]
      cases k <;> try rfl
      obtain ⟨token, rest, rfl⟩ := h.root.switchLabel rfl
      rfl

/-- **The decision points that are left** are found by a search that enters no body of a type. -/
theorem decisions_emptied (h : t.Shaped) :
    t.emptied.decisions = (t.spots isDecision fun c => !c.isTypeBody).length := by
  induction t using Tree.induction with
  | _ t ih =>
      rw [spots_eq, List.length_append, length_branches]
      cases t with
      | leaf token => rfl
      | node k cs =>
          have hroot : (if (node k cs).isDecision then [(([], node k cs) : Spot)] else []).length
              = if (node k cs).isDecision then 1 else 0 := by
            split <;> rfl
          rw [hroot, ← isDecision_emptied h, emptied_node, decisions, decisionsOfAll_eq,
            List.map_map]
          refine congrArg (_ + sumOf ·) (List.map_congr_left fun c hc => ?_)
          cases c with
          | leaf token => rfl
          | node k' cs' =>
              by_cases htype : k'.isTypeBody = true
              · have hempty : (emptyBody k').decisions = 0 := by
                  cases k' <;> first | rfl | cases htype
                simp [shrunk, htype, hempty, isTypeBody, kind?]
              · -- no body of a class, so the search goes on in it
                have hclass : (node k' cs').emptied.is .classBody = false := by
                  rw [emptied_node]
                  refine Bool.eq_false_iff.mpr fun hclass => htype ?_
                  obtain rfl : k' = .classBody := by simpa [is, kind?] using hclass
                  rfl
                simp [shrunk, htype, hclass, isTypeBody, kind?, ih _ hc (h.of_mem_children hc)]

/-! ## What the bodies of types add -/

/-- On the way from one place to another lies the body of a type that is no class. -/
def InOpenBody (t : Tree) (q p : Place) : Prop :=
  ∃ r way n, p = q ++ r ∧ way ≠ [] ∧ way <+: r ∧ t.at? (q ++ way) = some n ∧ n.isOpenBody = true

/-- The decision points below a place that lie in the body of no type. -/
lemma lists_outer (h : t.at? q = some b) :
    t.Lists (fun s => t.CountsFor q s ∧ ¬ t.InOpenBody q s.1)
      ((b.spots isDecision fun c => !c.isTypeBody).map (Spot.under q)) := by
  have hlists := lists_spots_under h isDecision fun c => !c.isTypeBody
  refine ⟨hlists.ordered, fun s => (hlists.mem_iff s).trans (and_congr_right fun _ => ?_)⟩
  simp only [isTypeBody_eq, Bool.not_eq_true', Bool.or_eq_false_iff]
  constructor
  · rintro ⟨hdecision, r, hr, hway⟩
    refine ⟨⟨hdecision, r, hr, fun way hne hbegins n hn => (hway way hne hbegins n hn).1⟩, ?_⟩
    rintro ⟨r', way, n, hr', hne, hbegins, hn, hopen⟩
    obtain rfl := List.append_cancel_left (hr.symm.trans hr')
    rw [(hway way hne hbegins n hn).2] at hopen
    cases hopen
  · rintro ⟨⟨hdecision, r, hr, hway⟩, houter⟩
    refine ⟨hdecision, r, hr, fun way hne hbegins n hn => ⟨hway way hne hbegins n hn, ?_⟩⟩
    exact Bool.eq_false_iff.mpr fun hopen => houter ⟨r, way, n, hr, hne, hbegins, hn, hopen⟩

/-- What a body counts more than its emptied form are the decision points in the bodies of types
that are no classes. -/
theorem exists_strays (hat : t.at? q = some b) (hshaped : b.Shaped) :
    ∃ strays, t.Lists (fun s => t.CountsFor q s ∧ t.InOpenBody q s.1) strays ∧
      b.complexity = b.emptied.complexity + strays.length := by
  classical
  have hpoints := lists_pointsAt hat
  refine ⟨_, hpoints.filter fun s => t.InOpenBody q s.1, ?_⟩
  have houter : b.emptied.decisions
      = ((t.pointsAt q).filter fun s => ¬ t.InOpenBody q s.1).length := by
    rw [decisions_emptied hshaped, (hpoints.filter _).length_eq (lists_outer hat), List.length_map]
  have hsplit := List.length_eq_length_filter_add (l := t.pointsAt q)
    fun s => decide (t.InOpenBody q s.1)
  simp only [← decide_not] at hsplit
  rw [length_pointsAt hat, ← houter] at hsplit
  rw [complexity, complexity, hsplit]
  omega

/-- The record of a method has the complexity of its body. -/
lemma complexity_toMethod {m : Tree} {i : Nat} (h : t.Shaped) (hm : t.at? q = some m)
    (hmethod : m.is .methodDeclaration = true) (hb : t.at? (q ++ [i]) = some b)
    (hblock : b.is .block = true) (rules : BusinessRules) :
    (m.toMethod rules).complexity = some b.complexity.toFloat := by
  have hmem : b ∈ m.childrenOf .block := by
    rw [at?_append_of hm] at hb
    obtain ⟨c, hc, hcb⟩ := Option.bind_eq_some_iff.mp hb
    obtain rfl := Option.some.inj hcb
    exact List.mem_filter.mpr ⟨List.mem_of_getElem? hc, hblock⟩
  have hshaped : m.Shaped := h.of_at? hm
  rw [hshaped.childrenOf_eq_child? hmethod (by decide), Option.mem_toList] at hmem
  exact congrArg (Option.map fun b : Tree => b.complexity.toFloat) hmem

end Tree

variable {t : Tree} {content : String}

/-- **What a body counts.**

The complexity that the record of a method has, and that the complexity of the file is made of, is
that of the body with the bodies of its types emptied, and one more for each decision point that
lies in the body of an enumeration, an interface or an annotation type and in the body of no class.
So emptying them changes nothing just when there is no such decision point.

This is so whatever parser has read the tree.  With the bodies of its types emptied a tree is of the
shape of a parser's trees, and it obeys the grammar where it did before. -/
theorem complexity_of_local_types (parser : Parser) (h : parser.tree? content = some t)
    (rules : BusinessRules) (path : String) :
    ∃ file, outlineBy parser.tree? rules path content = .ok file ∧
      ∃ inv : Inventory t, inv.Records rules file ∧
        ∀ b ∈ inv.bodies,
          (b.2.emptied.Shaped ∧ (b.2.Grown Grammar.rule → b.2.emptied.Grown Grammar.rule)) ∧
          ∃ strays, t.Lists (fun s => t.CountsFor b.1 s ∧ t.InOpenBody b.1 s.1) strays ∧
            inv.score b.1 = (b.2.emptied.complexity + strays.length).toFloat ∧
            (b.2.complexity = b.2.emptied.complexity ↔ strays = []) ∧
            ∀ p, ∀ m ∈ inv.methods p, ∀ i, b.1 = m.1 ++ [i] →
              (m.2.toMethod rules).complexity = some (inv.score b.1) := by
  have hshaped := parser.shaped h
  refine ⟨outline rules path content t, by simp only [outlineBy, h], .ofTree t,
    Inventory.records_ofTree hshaped, fun b hb => ?_⟩
  obtain ⟨hat, hscored⟩ := Tree.mem_bodies.mp hb
  have hbody : b.2.Shaped := hshaped.of_at? hat
  obtain ⟨strays, hlists, hcomplexity⟩ := exists_strays hat hbody
  have hscore : (Inventory.ofTree t).score b.1 = b.2.complexity.toFloat := by
    rw [Inventory.score, Inventory.ofTree, Tree.length_pointsAt hat, Tree.complexity]
  have hsame : b.2.complexity = b.2.emptied.complexity ↔ strays = [] := by
    rw [hcomplexity, Nat.add_eq_left, List.length_eq_zero_iff]
  refine ⟨⟨hbody.emptied, Grown.emptied⟩, strays, hlists, hcomplexity ▸ hscore, hsame,
    fun p m hm i hplace => ?_⟩
  obtain ⟨hmat, hmethod, -⟩ := ((t.lists_membersAt _ p).mem_iff m).mp hm
  have hblock : b.2.is .block = true := by
    rcases hscored with ⟨_, q, m', j, -, hm', hmember, hq, hbody⟩ |
      ⟨_, q, m', j, -, hm', hmember, hq, hbody⟩
    · exact hbody
    · -- the member above the body is the method
      obtain rfl : q = m.1 := (List.append_inj' (hq.symm.trans hplace) rfl).1
      obtain rfl := Option.some.inj (hm'.symm.trans hmat)
      cases kind_unique hmember hmethod
  rw [hscore]
  exact complexity_toMethod hshaped hmat hmethod (hplace ▸ hat) hblock rules

/-- A method with a local enumeration that branches in a method of its own. -/
def enumSource : String :=
  "class A\x7bvoid m()\x7benum E\x7bX;void f()\x7bif(a)b();\x7d\x7d\x7d\x7d"

/-- The same with nothing in the body of the enumeration. -/
def emptyEnumSource : String := "class A\x7bvoid m()\x7benum E\x7b\x7d\x7d\x7d"

/-- One body is scored, that of the method around the enumeration. -/
theorem complexity_of_local_types_in_enum : ∃ t file, tree? enumSource = some t ∧
    outlineOf .standard "A.java" enumSource = .ok file ∧
      ∃ inv : Inventory t, inv.Records .standard file ∧
        ∀ b ∈ inv.bodies, b.2.emptied.Grown Grammar.rule ∧ ∃ strays,
          t.Lists (fun s => t.CountsFor b.1 s ∧ t.InOpenBody b.1 s.1) strays ∧
          inv.score b.1 = (b.2.emptied.complexity + strays.length).toFloat ∧
          (b.2.complexity = b.2.emptied.complexity ↔ strays = []) ∧
          ∀ p, ∀ m ∈ inv.methods p, ∀ i, b.1 = m.1 ++ [i] →
            (m.2.toMethod .standard).complexity = some (inv.score b.1) := by
  obtain ⟨t, ht⟩ : ∃ t, tree? enumSource = some t :=
    Option.isSome_iff_exists.mp (by decide +kernel)
  have hgrown := grown_of_tree? ht
  rw [← Parser.tree?_standard] at ht
  obtain ⟨file, hfile, inv, hrecords, hbodies⟩ :=
    complexity_of_local_types .standard ht .standard "A.java"
  rw [Parser.tree?_standard] at ht hfile
  refine ⟨t, file, ht, hfile, inv, hrecords, fun b hb => ?_⟩
  obtain ⟨⟨-, hemptied⟩, hstrays⟩ := hbodies b hb
  exact ⟨hemptied (hgrown.of_at? ((inv.mem_bodies b).mp hb).1), hstrays⟩

/-- The complexities of the methods in a source text. -/
def methodComplexities (content : String) : Option (List (Option Float)) :=
  (outlineOf .standard "A.java" content).toOption.map fun file =>
    (file.classes.flatMap (·.methods)).map (·.complexity)

/-- **A local enumeration raises the complexity** of the method around it. -/
theorem complexity_of_local_enum :
    methodComplexities enumSource = some [some (Nat.toFloat 2)] ∧
      methodComplexities emptyEnumSource = some [some (Nat.toFloat 1)] ∧
      Nat.toFloat 2 ≠ Nat.toFloat 1 := by
  refine ⟨?_, ?_, by decide⟩
  · decide +kernel
  · decide +kernel

end CodeDigest.Java
