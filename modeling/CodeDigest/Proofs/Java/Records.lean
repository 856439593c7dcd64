import Mathlib.Data.List.Forall2
import CodeDigest.Proofs.Codebase.LineCounts
import CodeDigest.Proofs.Java.Skeletons

/-!
# Records and declarations

The record of a Java file is made of its syntax tree: there is one class for each declaration
(`RecordsClass`), one method for each method in its body (`RecordsMethod`), and in the signature of
a method one parameter for each that it declares (`Listed`).  The fields of a method that say the
same thing twice agree, since they are taken from the same texts.

That no declared parameter is passed over, and that no method is without a name, is a matter of the
shape of the tree: these nodes have all the parts that are listed (`Tree.Shaped.exists_child?`).

A text that cannot be read, and a text in another language, has a record with its lines only.
`SourceFile.record_ofContentBy` is about all of them.
-/

namespace CodeDigest

namespace Java

/-! ## Methods -/

namespace Tree

/-- Whether a node among the parameters of a method declares one; a receiver does not. -/
def declaresParameter (t : Tree) : Bool := t.is .parameter || t.is .variadicParameter

/-- The parameters that a method declares. -/
def declaredParameters (declaration : Tree) : List Tree :=
  (declaration.childrenOf .parameters).flatMap fun ps => ps.children.filter declaresParameter

/-- The bodies of the constructors of all classes. -/
def constructorBodies (t : Tree) : List Tree :=
  (t.nodesOf .classDeclaration).flatMap fun d =>
    (d.members .constructorDeclaration).filterMap (·.child? .constructorBody)

end Tree

/-- How a parameter is listed in a signature: with its type and its name. -/
inductive Listed : Tree → String → Prop
  | parameter {p type name : Tree} (kind : p.is .parameter = true)
      (typed : p.child? .typeName = some type) (named : p.child? .declaredName = some name) :
      Listed p (type.slice ++ " " ++ name.slice)
  | variadic {p declarator name : Tree} {type : String} (kind : p.is .variadicParameter = true)
      (typed : p.variadicType? = some type) (declared : p.child? .declarator = some declarator)
      (named : declarator.child? .declaredName = some name) :
      Listed p (type ++ "... " ++ name.slice)

/-- A method record says what a declaration says. -/
structure RecordsMethod (rules : BusinessRules) (declaration : Tree) (m : SourceMethod) : Prop where
  name : ∃ t, declaration.child? .declaredName = some t ∧ m.name = t.slice
  returnType : ∃ t, declaration.child? .typeName = some t ∧
    m.returnType = if t.slice = "void" then none else some t.slice
  signature : ∃ parameters, List.Forall₂ Listed declaration.declaredParameters parameters ∧
    parameters.length = m.parameterCount ∧
    m.signature = m.returnType.getD "void" ++ " " ++ m.name ++ "(" ++ joined ", " parameters ++ ")"
  isBusiness : m.isBusiness = rules.isBusiness m.name m.annotations m.parameterCount
  /-- A method without a body has no complexity. -/
  unscored : m.complexity = none ↔ declaration.child? .block = none
  scored : ∀ score ∈ m.complexity, ∃ body, declaration.child? .block = some body ∧
    score = (body.decisions + 1).toFloat

/-- A class record has the package and a method for each that the class declares. -/
structure RecordsClass (rules : BusinessRules) (package : Option String) (declaration : Tree)
    (c : SourceClass) : Prop where
  package : c.package = package
  methods : List.Forall₂ (RecordsMethod rules) (declaration.members .methodDeclaration) c.methods

/-- The complexities that are recorded for methods. -/
def methodScores (file : SourceFile) : List Float :=
  (file.classes.flatMap (·.methods)).filterMap (·.complexity)

/-- A file record has a class for each declaration, and the mean of the complexities. -/
structure RecordsFile (rules : BusinessRules) (tree : Tree) (file : SourceFile) : Prop where
  fileType : file.fileType = "java"
  classes : List.Forall₂ (RecordsClass rules file.package) (tree.nodesOf .classDeclaration)
    file.classes
  complexity :
    let scores := methodScores file
      ++ tree.constructorBodies.map fun body => (body.decisions + 1).toFloat
    file.complexity = if scores = [] then none
      else some (ComplexityMetrics.sumOf scores / scores.length.toFloat)

variable {rules : BusinessRules} {t d p : Tree} {ts : List Tree}

/-! ## Parameters -/

lemma kind?_of_is {kind : Kind} (h : t.is kind = true) : t.kind? = some kind := by
  simpa [Tree.is] using h

lemma exists_listed_of_parameter (h : p.Shaped) (hkind : p.is .parameter = true) :
    ∃ s, p.parameter? = some s ∧ Listed p s := by
  obtain ⟨type, htype⟩ := h.exists_child? hkind .typeName (by decide)
  obtain ⟨name, hname⟩ := h.exists_child? hkind .declaredName (by decide)
  refine ⟨_, ?_, .parameter hkind htype hname⟩
  simp only [Tree.parameter?, kind?_of_is hkind, Tree.textOf?, htype, hname]
  rfl

lemma exists_listed_of_variadic (h : p.Shaped)
    (hkind : p.is .variadicParameter = true) : ∃ s, p.parameter? = some s ∧ Listed p s := by
  obtain ⟨typeName, htypeName⟩ := h.exists_child? hkind .typeName (by decide)
  obtain ⟨type, htype⟩ : ∃ type, p.variadicType? = some type := by
    rw [← Option.isSome_iff_exists, Tree.isSome_variadicType?, htypeName, Option.isSome_some]
  obtain ⟨declarator, hdeclarator⟩ := h.exists_child? hkind .declarator (by decide)
  have hbelow : declarator.Shaped := h.of_child? hdeclarator
  obtain ⟨name, hname⟩ :=
    hbelow.exists_child? (List.find?_some hdeclarator) .declaredName (by decide)
  refine ⟨_, ?_, .variadic hkind htype hdeclarator hname⟩
  simp only [Tree.parameter?, kind?_of_is hkind, Tree.textOf?, htype, hdeclarator,
    Option.bind_eq_bind, Option.bind_some, hname]
  rfl

/-- The parameters in a signature are those that are declared. -/
lemma forall₂_listed (h : ∀ t ∈ ts, t.Shaped) :
    List.Forall₂ Listed (ts.filter Tree.declaresParameter) (ts.filterMap Tree.parameter?) := by
  induction ts with
  | nil => exact .nil
  | cons t ts ih =>
      obtain ⟨ht, hts⟩ := List.forall_mem_cons.mp h
      by_cases hdeclares : t.declaresParameter = true
      · obtain ⟨s, hs, hlisted⟩ : ∃ s, t.parameter? = some s ∧ Listed t s := by
          rcases Bool.or_eq_true_iff.mp hdeclares with hkind | hkind
          · exact exists_listed_of_parameter ht hkind
          · exact exists_listed_of_variadic ht hkind
        rw [List.filter_cons_of_pos hdeclares, List.filterMap_cons_some hs]
        exact .cons hlisted (ih hts)
      · have hnone : t.parameter? = none := by
          unfold Tree.parameter?
          split
          next hkind => simp [Tree.declaresParameter, Tree.is, hkind] at hdeclares
          next hkind => simp [Tree.declaresParameter, Tree.is, hkind] at hdeclares
          next => rfl
        rw [List.filter_cons_of_neg hdeclares, List.filterMap_cons_none hnone]
        exact ih hts

lemma forall₂_parameterList (h : d.Shaped) (hkind : d.is .methodDeclaration = true) :
    List.Forall₂ Listed d.declaredParameters d.parameterList := by
  obtain ⟨ps, hps⟩ := h.exists_child? hkind .parameters (by decide)
  have hone : d.childrenOf .parameters = [ps] := by
    rw [h.childrenOf_eq_child? hkind (by decide), hps, Option.toList_some]
  have hbelow : ps.Shaped := h.of_child? hps
  rw [Tree.declaredParameters, hone, List.flatMap_singleton, Tree.parameterList, hps]
  exact forall₂_listed fun t ht => hbelow.of_mem_children ht

/-! ## From declarations to records -/

lemma recordsMethod_toMethod (rules : BusinessRules) (h : d.Shaped)
    (hkind : d.is .methodDeclaration = true) : RecordsMethod rules d (d.toMethod rules) := by
  obtain ⟨name, hname⟩ := h.exists_child? hkind .declaredName (by decide)
  obtain ⟨type, htype⟩ := h.exists_child? hkind .typeName (by decide)
  exact
    { name := ⟨name, hname, by simp [Tree.toMethod, Tree.textOf?, hname]⟩
      returnType := ⟨type, htype, by
        simp only [Tree.toMethod, Tree.textOf?, htype, Option.map_some, Option.filter_some]
        by_cases hvoid : type.slice = "void" <;> simp [hvoid]⟩
      signature := ⟨d.parameterList, forall₂_parameterList h hkind, rfl, rfl⟩
      isBusiness := rfl
      unscored := Option.map_eq_none_iff
      scored := fun score hscore => by
        obtain ⟨body, hbody, rfl⟩ := Option.map_eq_some_iff.mp hscore
        exact ⟨body, hbody, rfl⟩ }

lemma forall₂_map {α β : Type} {R : α → β → Prop} {f : α → β} {xs : List α}
    (h : ∀ x ∈ xs, R x (f x)) : List.Forall₂ R xs (xs.map f) :=
  List.forall₂_map_right_iff.mpr (List.forall₂_same.mpr h)

lemma is_of_mem_members {kind : Kind} (h : t ∈ d.members kind) : t.is kind = true := by
  unfold Tree.members at h
  split at h
  next => exact (List.mem_filter.mp h).2
  next => cases h

lemma recordsClass_toClass (rules : BusinessRules) (package : Option String)
    (h : d.Shaped) : RecordsClass rules package d (d.toClass rules package) where
  package := rfl
  methods := forall₂_map fun _ hm =>
    recordsMethod_toMethod rules (h.of_mem_members hm) (is_of_mem_members hm)

lemma constructorScores_eq (t : Tree) :
    (t.nodesOf .classDeclaration).flatMap Tree.constructorScores
      = t.constructorBodies.map fun body => (body.decisions + 1).toFloat := by
  rw [Tree.constructorBodies, List.map_flatMap]
  refine List.flatMap_congr fun d _ => ?_
  rw [Tree.constructorScores, List.map_filterMap]
  rfl

/-- The record of a tree. -/
lemma recordsFile_outline (rules : BusinessRules) (path content : String) (h : t.Shaped) :
    RecordsFile rules t (outline rules path content t) where
  fileType := rfl
  classes := forall₂_map fun _ hd => recordsClass_toClass rules _ (h.of_mem_nodesOf hd)
  complexity := by
    rw [← constructorScores_eq]
    change meanScore? _ = _
    rw [meanScore?]
    simp only [List.isEmpty_iff]
    rfl

end Java

namespace SourceFile

/-- A record has nothing but lines. -/
structure HasLinesOnly (file : SourceFile) : Prop where
  package : file.package = none
  imports : file.imports = []
  classes : file.classes = []
  complexity : file.complexity = none

variable {tree? : String → Option Java.Tree} {rules : BusinessRules} {project : Language}
  {path content : String}

lemma totalLines_ofContentBy :
    (ofContentBy tree? rules project path content).totalLines = 1 + content.toList.count '\n' := by
  have hcount := congrArg LineCount.total (lineCount_ofContentBy tree? rules project path content)
  rw [LineCount.ofText, Text.split, Text.length_splitBy, Nat.add_comm] at hcount
  exact hcount

lemma codeLines_add_commentLines_ofContentBy :
    (ofContentBy tree? rules project path content).codeLines
        + (ofContentBy tree? rules project path content).commentLines
      = (ofContentBy tree? rules project path content).totalLines := by
  have hcount := lineCount_ofContentBy tree? rules project path content
  have hsum := LineCount.code_add_comment content (languageOf project path).commentPrefix
  rw [← hcount] at hsum
  exact hsum

lemma ofContentBy_of_tree (hjava : languageOf project path = .java) {tree : Java.Tree}
    (h : tree? content = some tree) :
    ofContentBy tree? rules project path content = Java.outline rules path content tree := by
  simp only [ofContentBy, if_pos hjava, Java.outlineBy, h]

lemma ofContentBy_of_no_tree (h : languageOf project path = .java → tree? content = none) :
    ofContentBy tree? rules project path content
      = counted path content (languageOf project path) := by
  by_cases hjava : languageOf project path = .java
  · simp only [ofContentBy, if_pos hjava, Java.outlineBy, h hjava]
  · simp only [ofContentBy, if_neg hjava]

/-- **What the record of a source text says is consistent**, whatever the text.

The lines are one more than the newlines, and each is a line of code or another one.  A Java text
that can be read has the record of its tree, in which every class has the package of the file, every
method says the same in each of its fields, and the complexity of the file is the mean of those of
its methods and constructors.  Every other text has a record with its lines only.  This is so
whatever parser reads the trees. -/
theorem record_ofContentBy (parser : Java.Parser) (rules : BusinessRules) (project : Language)
    (path content : String) :
    let file := ofContentBy parser.tree? rules project path content
    file.totalLines = 1 + content.toList.count '\n' ∧
    file.codeLines + file.commentLines = file.totalLines ∧
    (languageOf project path = .java ∧
        (∃ tree, parser.tree? content = some tree ∧ Java.RecordsFile rules tree file) ∨
      (languageOf project path = .java → parser.tree? content = none) ∧ file.HasLinesOnly) ∧
    (file.classes ≠ [] ∨ file.package.isSome ∨ file.imports ≠ [] ∨ file.complexity.isSome →
      file.fileType = "java") := by
  refine ⟨totalLines_ofContentBy, codeLines_add_commentLines_ofContentBy, ?_⟩
  by_cases hread : languageOf project path = .java ∧ ∃ tree, parser.tree? content = some tree
  · obtain ⟨hjava, tree, htree⟩ := hread
    have hrecords := Java.recordsFile_outline rules path content (parser.shaped htree)
    rw [ofContentBy_of_tree hjava htree]
    exact ⟨.inl ⟨hjava, tree, htree, hrecords⟩, fun _ => rfl⟩
  · have hnone : languageOf project path = .java → parser.tree? content = none := fun hjava =>
      Option.eq_none_iff_forall_not_mem.mpr fun tree htree => hread ⟨hjava, tree, htree⟩
    have hlines : (counted path content (languageOf project path)).HasLinesOnly :=
      ⟨rfl, rfl, rfl, rfl⟩
    rw [ofContentBy_of_no_tree hnone]
    refine ⟨.inr ⟨hnone, hlines⟩, fun hmore => ?_⟩
    simp [hlines.classes, hlines.package, hlines.imports, hlines.complexity] at hmore

/-- A class whose method has a receiver and no body, with a constructor beside it. -/
def receiverSource : String :=
  "abstract class A { A() { } abstract void m(A this, int i, String... s); }"

/-- The record is the one of a tree.  The receiver is no parameter, and the mean is that of the
constructor alone. -/
theorem record_ofContentBy_of_receiver : ∃ tree, Java.tree? receiverSource = some tree ∧
    let file := ofContent .standard .unknown "A.java" receiverSource
    Java.RecordsFile .standard tree file ∧
      file.classes.map (fun c => c.methods.map fun m => (m.signature, m.parameterCount))
        = [[("void m(int i, String... s)", 2)]] ∧
      file.complexity.isSome = true ∧ file.totalLines = 1 := by
  have hread : (Java.tree? receiverSource).isSome = true := by decide +kernel
  obtain ⟨-, -, hrecord, -⟩ :=
    record_ofContentBy .standard .standard .unknown "A.java" receiverSource
  rw [Java.Parser.tree?_standard] at hrecord
  rcases hrecord with ⟨-, tree, htree, hrecords⟩ | ⟨hnone, -⟩
  · exact ⟨tree, htree, hrecords, by decide +kernel, by decide +kernel, by decide +kernel⟩
  · rw [hnone (by decide)] at hread
    cases hread

end SourceFile

end CodeDigest
