import CodeDigest.Proofs.Java.Leads
import CodeDigest.Proofs.Java.LocalTypes

/-!
# What an outline has without leads

Most of an outline can be read off the tree without leads: which classes there are, which methods
and parameters they have, and every complexity.  There is one lemma for each function that takes
part in it, and they come together in the `skeleton` of the classes (`skeletons_outline`) and in the
complexity of the file (`complexity_outline`).  The texts that are cut out of the source are another
matter; of these only the declared names have a lemma here, because they are one word each.
-/

namespace CodeDigest

/-- What the record of a method has besides texts that are cut out of the source. -/
def SourceMethod.skeleton (m : SourceMethod) : String × Nat × Option Float :=
  (m.name, m.parameterCount, m.complexity)

/-- The name of a class and its methods. -/
def SourceClass.skeleton (c : SourceClass) : String × List (String × Nat × Option Float) :=
  (c.name, c.methods.map SourceMethod.skeleton)

namespace Java

namespace Tree

variable {t n m : Tree} {kind : Kind} {ts : List Tree}

/-! ## What does not depend on leads -/

@[simp] lemma childrenOf_stripped (kind : Kind) (t : Tree) :
    t.stripped.childrenOf kind = (t.childrenOf kind).map stripped := by
  rw [childrenOf, children_stripped, List.filter_map]
  exact congrArg (fun p => (t.children.filter p).map stripped) (funext fun c => is_stripped kind c)

@[simp] lemma child?_stripped (kind : Kind) (t : Tree) :
    t.stripped.child? kind = (t.child? kind).map stripped := by
  rw [child?, children_stripped, List.find?_map]
  exact congrArg (fun p => (t.children.find? p).map stripped) (funext fun c => is_stripped kind c)

lemma nodesOf_stripped (kind : Kind) (t : Tree) :
    t.stripped.nodesOf kind = (t.nodesOf kind).map stripped := by
  induction t using Tree.induction with
  | _ t ih =>
      cases t with
      | leaf token => simp [nodesOf]
      | node k cs =>
          rw [stripped_node, nodesOf, nodesOf, nodesOfAll_eq, nodesOfAll_eq, List.map_append,
            List.flatMap_map, List.map_flatMap]
          refine congrArg₂ _ ?_ (List.flatMap_congr fun c hc => ih c hc)
          split <;> simp

lemma members_stripped (kind : Kind) (t : Tree) :
    t.stripped.members kind = (t.members kind).map stripped := by
  rw [members, members, child?_stripped]
  cases t.child? .classBody <;> simp

lemma isDecision_stripped (t : Tree) : t.stripped.isDecision = t.isDecision := by
  cases t with
  | leaf token => simp [isDecision]
  | node k cs =>
      have htokens := tokens_stripped (node k cs)
      rw [stripped_node, tokens, tokens] at htokens
      rw [stripped_node]
      cases k <;> try rfl
      simp [isDecision, htokens, Function.comp_def]

lemma decisions_stripped (t : Tree) : t.stripped.decisions = t.decisions := by
  induction t using Tree.induction with
  | _ t ih =>
      cases t with
      | leaf token => simp [decisions]
      | node k cs =>
          have hroot := isDecision_stripped (node k cs)
          rw [stripped_node] at hroot ⊢
          rw [decisions, decisions, hroot, decisionsOfAll_eq, decisionsOfAll_eq, List.map_map]
          refine congrArg (_ + sumOf ·) (List.map_congr_left fun c hc => ?_)
          simp [ih c hc]

lemma complexity_stripped (t : Tree) : t.stripped.complexity = t.complexity := by
  rw [complexity, complexity, decisions_stripped]

lemma isSome_variadicType? (t : Tree) : t.variadicType?.isSome = (t.child? .typeName).isSome := by
  rw [variadicType?]
  cases t.child? .typeName with
  | none => rfl
  | some type =>
      simp only [Option.bind_eq_bind, Option.bind_some]
      split <;> rfl

/-- Whether a parameter is listed is a matter of its children. -/
lemma isSome_parameter?_stripped (t : Tree) :
    t.stripped.parameter?.isSome = t.parameter?.isSome := by
  simp only [parameter?, kind?_stripped]
  split
  · simp only [textOf?, child?_stripped]
    cases t.child? .typeName <;> cases t.child? .declaredName <;> rfl
  · have htype := isSome_variadicType? t.stripped
    rw [child?_stripped, Option.isSome_map, ← isSome_variadicType?] at htype
    simp only [textOf?, child?_stripped]
    cases t.child? .declarator with
    | none => rfl
    | some d =>
        simp only [Option.map_some, Option.bind_eq_bind, Option.bind_some, child?_stripped]
        cases d.child? .declaredName with
        | none => rfl
        | some name =>
            cases hold : t.variadicType? <;> cases hnew : t.stripped.variadicType? <;> simp_all
  · rfl

lemma length_parameterList_stripped (t : Tree) :
    t.stripped.parameterList.length = t.parameterList.length := by
  rw [parameterList, parameterList, child?_stripped]
  cases t.child? .parameters with
  | none => rfl
  | some ps =>
      simp only [Option.map_some, children_stripped]
      rw [List.filterMap_map, List.length_filterMap_eq_countP, List.length_filterMap_eq_countP]
      exact List.countP_congr fun c _ => by simp [isSome_parameter?_stripped]

/-! ## Names of one word -/

/-- A declared name is one word. -/
lemma textOf?_declaredName_stripped (h : t.Shaped) :
    t.stripped.textOf? .declaredName = t.textOf? .declaredName := by
  rw [textOf?, textOf?, child?_stripped]
  cases hname : t.child? .declaredName with
  | none => rfl
  | some name =>
      have hshaped : name.Shaped := h.of_child? hname
      obtain ⟨token, rfl⟩ := hshaped.exists_word (List.find?_some hname)
      simp [slice, tokens, tokensOfAll, sliceOf]

/-! ## Methods and classes -/

variable {rules : BusinessRules}

lemma Throughout.of_mem_nodesOf {test : Kind → List Tree → Prop} (h : t.Throughout test)
    (hn : n ∈ t.nodesOf kind) : n.Throughout test := by
  rw [← map_snd_spots_is] at hn
  obtain ⟨s, hs, rfl⟩ := List.mem_map.mp hn
  exact h.of_at? (mem_spots.mp hs).1

lemma Throughout.of_mem_members {test : Kind → List Tree → Prop} (h : t.Throughout test)
    (hn : n ∈ t.members kind) : n.Throughout test := by
  rw [members] at hn
  split at hn
  next body hbody => exact (h.of_child? hbody).of_mem_children (List.mem_of_mem_filter hn)
  next => cases hn

lemma skeleton_toMethod_stripped (h : t.Shaped) (rules : BusinessRules) :
    (t.stripped.toMethod rules).skeleton = (t.toMethod rules).skeleton := by
  have hscore : (t.stripped.child? .block).map (·.complexity.toFloat)
      = (t.child? .block).map (·.complexity.toFloat) := by
    rw [child?_stripped, Option.map_map]
    exact congrArg (fun f => (t.child? .block).map f)
      (funext fun b => congrArg Nat.toFloat (complexity_stripped b))
  simp only [SourceMethod.skeleton, toMethod, textOf?_declaredName_stripped h,
    length_parameterList_stripped, hscore]

lemma skeleton_toClass_stripped (h : t.Shaped) (rules : BusinessRules)
    (package package' : Option String) :
    (t.stripped.toClass rules package').skeleton = (t.toClass rules package).skeleton := by
  simp only [SourceClass.skeleton, toClass, textOf?_declaredName_stripped h, members_stripped,
    List.map_map]
  refine congrArg (_, ·) (List.map_congr_left fun m hm => ?_)
  exact skeleton_toMethod_stripped (h.of_mem_members hm) rules

lemma constructorScores_stripped (t : Tree) :
    t.stripped.constructorScores = t.constructorScores := by
  rw [constructorScores, constructorScores, members_stripped, List.filterMap_map]
  refine List.filterMap_congr fun c _ => ?_
  rw [Function.comp_apply, child?_stripped, Option.map_map]
  exact congrArg (fun f => (c.child? .constructorBody).map f)
    (funext fun b => congrArg Nat.toFloat (complexity_stripped b))

end Tree

/-! ## Files -/

variable {t t' : Tree} {rules : BusinessRules}

/-- The skeletons of the classes, from the tree without leads. -/
lemma skeletons_outline (h : t.Shaped) (rules : BusinessRules) (path content : String) :
    (outline rules path content t).classes.map SourceClass.skeleton
      = (t.stripped.nodesOf .classDeclaration).map fun d => (d.toClass rules none).skeleton := by
  simp only [outline, List.map_map, Tree.nodesOf_stripped]
  refine List.map_congr_left fun d hd => ?_
  exact (Tree.skeleton_toClass_stripped (h.of_mem_nodesOf hd) rules _ _).symm

/-- The complexity of a file, from the skeletons of its classes and the tree without leads. -/
lemma complexity_outline (rules : BusinessRules) (path content : String) :
    (outline rules path content t).complexity = meanScore?
      ((((outline rules path content t).classes.map SourceClass.skeleton).flatMap (·.2)).filterMap
          (·.2.2)
        ++ (t.stripped.nodesOf .classDeclaration).flatMap Tree.constructorScores) := by
  have hscores : (t.stripped.nodesOf .classDeclaration).flatMap Tree.constructorScores
      = (t.nodesOf .classDeclaration).flatMap Tree.constructorScores := by
    rw [Tree.nodesOf_stripped, List.flatMap_map]
    exact List.flatMap_congr fun d _ => Tree.constructorScores_stripped d
  have hmethods : ∀ classes : List SourceClass, (classes.map SourceClass.skeleton).flatMap (·.2)
      = (classes.flatMap (·.methods)).map SourceMethod.skeleton := fun classes => by
    rw [List.flatMap_map, List.map_flatMap]
    rfl
  rw [hscores, hmethods, List.filterMap_map]
  rfl

end Java

end CodeDigest
