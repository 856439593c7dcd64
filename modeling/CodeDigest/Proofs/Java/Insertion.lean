import CodeDigest.Component
import CodeDigest.Proofs.Java.Names

/-!
# Layout that is put in between two tokens

`Insertion` is a place between two tokens of a text that is Java, and blanks and comments that are
put in there.  The tokens of the new text differ from the old ones in one lead
(`Insertion.tokenize?_result`), so its tree differs in that lead, and what the outline has without
leads is the same.  Annotations are cut out of the text, and whether they and all that hangs on them
are the same depends on the place: `outlineBy_of_insertion` says where they are, and
`annotationsAndRoles_of_split_names` that they are not everywhere.
-/

namespace CodeDigest

/-- What the record of a class has of the texts of annotations. -/
def SourceClass.marks (c : SourceClass) : List String × List (List String × Bool) :=
  (c.annotations, c.methods.map fun m => (m.annotations, m.isBusiness))

namespace Java

/-! ## Annotations and roles -/

section Marks

variable {t t' d' : Tree} {rules : BusinessRules}

/-- What is the same for all pairs of two lists is the same for the lists. -/
lemma map_eq_of_forall₂ {α β γ : Type*} {R : α → β → Prop} {f : α → γ} {g : β → γ}
    {l : List α} {l' : List β} (h : List.Forall₂ R l l') (hfg : ∀ a ∈ l, ∀ b, R a b → g b = f a) :
    l'.map g = l.map f := by
  induction h with
  | nil => rfl
  | cons hab _ ih =>
      rw [List.map_cons, List.map_cons, hfg _ List.mem_cons_self _ hab,
        ih fun a ha => hfg a (List.mem_cons_of_mem _ ha)]

/-- The names of all annotations are the same, without their qualifiers. -/
def SameAnnotations (t t' : Tree) : Prop :=
  ∀ a a', Tree.Twins t t' a a' → a.is .annotationUse = true →
    (a'.textOf? .name).map Tree.lastSegment = (a.textOf? .name).map Tree.lastSegment

lemma SameAnnotations.annotations_eq {d : Tree} (hsame : SameAnnotations t t')
    (h : t'.stripped = t.stripped) (hd : Tree.Twins t t' d d') :
    d'.annotations = d.annotations := by
  obtain ⟨q, hat, hat'⟩ := hd
  rw [Tree.annotations, Tree.annotations]
  cases hms : d.child? .modifiers with
  | none => rw [Tree.Twins.child?_none h ⟨q, hat, hat'⟩ hms]
  | some ms =>
      obtain ⟨i, ms', hms', hi, hi'⟩ := Tree.Twins.child? h hat hat' hms
      rw [hms']
      have huses := Tree.Twins.childrenOf h ⟨_, hi, hi'⟩ .annotationUse
      have hmap := map_eq_of_forall₂ huses fun a ha a' haa' =>
        hsame a a' haa' (List.of_mem_filter ha)
      simpa [List.filterMap_map] using congrArg (List.filterMap id) hmap

/-- The record of a method has the same annotations and counts as business or not as before. -/
lemma SameAnnotations.toMethod_eq {m m' : Tree} (hsame : SameAnnotations t t')
    (h : t'.stripped = t.stripped) (hshaped : t.Shaped) (hshaped' : t'.Shaped)
    (hm : Tree.Twins t t' m m') (rules : BusinessRules) :
    (m'.toMethod rules).annotations = (m.toMethod rules).annotations ∧
      (m'.toMethod rules).isBusiness = (m.toMethod rules).isBusiness := by
  have hannotations := hsame.annotations_eq h hm
  have hstripped := hm.stripped_eq h
  obtain ⟨q, hat, hat'⟩ := hm
  have hskeleton : (m'.toMethod rules).skeleton = (m.toMethod rules).skeleton := by
    rw [← Tree.skeleton_toMethod_stripped (hshaped'.of_at? hat'), hstripped,
      Tree.skeleton_toMethod_stripped (hshaped.of_at? hat)]
  have hname : (m'.toMethod rules).name = (m.toMethod rules).name := congrArg Prod.fst hskeleton
  have hcount : (m'.toMethod rules).parameterCount = (m.toMethod rules).parameterCount :=
    congrArg (·.2.1) hskeleton
  refine ⟨hannotations, ?_⟩
  change rules.isBusiness (m'.toMethod rules).name m'.annotations (m'.toMethod rules).parameterCount
    = rules.isBusiness (m.toMethod rules).name m.annotations (m.toMethod rules).parameterCount
  rw [hname, hcount, hannotations]

lemma skeleton_eq {d : Tree} (h : t'.stripped = t.stripped) (hshaped : t.Shaped)
    (hshaped' : t'.Shaped) (hd : Tree.Twins t t' d d') (rules : BusinessRules)
    (package package' : Option String) :
    (d'.toClass rules package').skeleton = (d.toClass rules package).skeleton := by
  have hstripped := hd.stripped_eq h
  obtain ⟨q, hat, hat'⟩ := hd
  rw [← Tree.skeleton_toClass_stripped (hshaped'.of_at? hat') rules package' package', hstripped,
    Tree.skeleton_toClass_stripped (hshaped.of_at? hat)]

lemma SameAnnotations.marks_eq {d : Tree} (hsame : SameAnnotations t t')
    (h : t'.stripped = t.stripped) (hshaped : t.Shaped) (hshaped' : t'.Shaped)
    (hd : Tree.Twins t t' d d') (rules : BusinessRules) (package package' : Option String) :
    (d'.toClass rules package').marks = (d.toClass rules package).marks := by
  have hmethods := map_eq_of_forall₂ (Tree.Twins.members h hd .methodDeclaration)
    (f := fun m => ((m.toMethod rules).annotations, (m.toMethod rules).isBusiness))
    (g := fun m => ((m.toMethod rules).annotations, (m.toMethod rules).isBusiness))
    fun m _ m' hm => by
      obtain ⟨hannotations, hbusiness⟩ := hsame.toMethod_eq h hshaped hshaped' hm rules
      rw [hannotations, hbusiness]
  simp only [SourceClass.marks, Tree.toClass, List.map_map, hsame.annotations_eq h hd]
  exact congrArg (_, ·) hmethods

/-- The role of a class hangs on its name, its annotations and the package. -/
lemma ofClass?_eq {file file' : SourceFile} {c c' : SourceClass} (hname : c'.name = c.name)
    (hannotations : c'.annotations = c.annotations)
    (hpackage : file'.package.any (occursIn "entities") = file.package.any (occursIn "entities")) :
    Role.ofClass? file' c' = Role.ofClass? file c := by
  have hfits : Role.Fits file' c' = Role.Fits file c := by
    funext role
    cases role <;> simp [Role.Fits, SourceClass.hasAnnotation, hname, hannotations, hpackage]
  rw [Role.ofClass?, Role.ofClass?, hfits]

/-- Whether a text occurs in the name of the package. -/
lemma any_package_eq {word : String} (h : t'.stripped = t.stripped)
    (hsame : ∀ a a', Tree.Twins t t' a a' → a.is .packageDeclaration = true →
      (a'.textOf? .name).map (occursIn word) = (a.textOf? .name).map (occursIn word))
    (rules : BusinessRules) (path content content' : String) :
    (outline rules path content' t').package.any (occursIn word)
      = (outline rules path content t).package.any (occursIn word) := by
  have hany : ∀ (rules : BusinessRules) (path content : String) (t : Tree),
      (outline rules path content t).package.any (occursIn word)
        = ((((t.nodesOf .packageDeclaration).map fun d =>
            (d.textOf? .name).map (occursIn word)).filterMap id).head?).getD false := by
    intro rules path content t
    rw [List.filterMap_map, Function.id_comp, ← List.map_filterMap, List.head?_map]
    change (((t.nodesOf .packageDeclaration).filterMap (·.textOf? .name)).head?).any _ = _
    cases ((t.nodesOf .packageDeclaration).filterMap (·.textOf? .name)).head? <;> rfl
  have hmap := map_eq_of_forall₂ (Tree.Twins.nodesOf h ⟨[], rfl, rfl⟩ .packageDeclaration)
    fun a ha a' haa' => hsame a a' haa' (Tree.is_of_mem_nodesOf ha)
  rw [hany, hany, hmap]

end Marks

/-! ## Insertions -/

/-- Blanks and comments are put in between two tokens of a text, so that what stands between them is
layout again.  The two are no parts of one operator.  Directly behind a slash no comment is put in,
because the two would make the mark of another comment. -/
structure Insertion (t : Tree) (content : String) where
  /-- The tokens in front, each with whether it goes on with an operator. -/
  before : List (Token × Bool)
  /-- The token behind. -/
  token : Token
  after : List (Token × Bool)
  parts_eq : t.parts = before ++ (token, false) :: after
  before_ne : before ≠ []
  /-- What stands between the two tokens, in front of the place and behind it. -/
  left : List Char
  right : List Char
  lead_eq : token.lead = left ++ right
  /-- What is put in. -/
  gap : List Char
  layout : Layout (left ++ gap ++ right)
  slash : left = [] → (spelled (before.map Prod.fst)).toList.getLast? = some '/' →
    gap.head? ≠ some '/'
  /-- The text in front of the place. -/
  front : List Char
  back : List Char
  front_eq : withoutMark front = (spelled (before.map Prod.fst)).toList ++ left
  content_eq : content.toList = front ++ back

namespace Insertion

variable {t : Tree} {content : String} (ins : Insertion t content)

/-- The new text. -/
def result : String := String.ofList (ins.front ++ ins.gap ++ ins.back)

/-- The number of the token behind the place. -/
def index : Nat := ins.before.length

/-- The lead of the token behind the place, with what is put in. -/
def lead : List Char := ins.left ++ ins.gap ++ ins.right

lemma tokens_eq : t.tokens
    = ins.before.map Prod.fst ++ ins.token :: ins.after.map Prod.fst := by
  rw [← Tree.map_fst_parts, ins.parts_eq, List.map_append, List.map_cons]

/-- A mark at the front of a text stays there. -/
lemma withoutMark_append {front : List Char} (hne : front ≠ []) (back : List Char) :
    withoutMark (front ++ back) = withoutMark front ++ back := by
  obtain ⟨c, front, rfl⟩ := List.exists_cons_of_ne_nil hne
  simp only [List.cons_append, withoutMark]
  split <;> rfl

/-- **The tokens of the new text.** -/
lemma tokenize?_result (htokens : tokenize? content = some t.tokens) : tokenize? ins.result
    = some (ins.before.map Prod.fst
        ++ { ins.token with lead := ins.lead } :: ins.after.map Prod.fst) := by
  rw [ins.tokens_eq] at htokens
  rcases eq_or_ne ins.gap [] with hgap | hgap
  · have hsame : ins.result = content := String.toList_injective <| by
      rw [result, String.toList_ofList, ins.content_eq, hgap, List.append_nil]
    rw [hsame, htokens, lead, hgap, List.append_nil, ← ins.lead_eq]
  have hlexes := tokenize?_eq_some_iff.mp htokens
  have hfront : ins.front ≠ [] := by
    intro hnone
    obtain ⟨first, rest, hfirst⟩ := List.exists_cons_of_ne_nil ins.before_ne
    have heq := ins.front_eq
    rw [hnone, hfirst, List.map_cons, toList_spelled_cons] at heq
    have htext := (hlexes.forall_mem first.1 (by simp [hfirst])).2
    simp only [withoutMark, List.append_assoc, eq_comm (a := ([] : List Char)),
      List.append_eq_nil_iff] at heq
    exact htext heq.2.1
  obtain ⟨rest, hsplit, hrelaid⟩ := hlexes.exists_relaid
  rw [ins.content_eq, withoutMark_append hfront, ins.front_eq, ins.lead_eq] at hsplit
  have hback : ins.back = ins.right ++ rest := by simpa using hsplit
  have hnew := hrelaid ins.lead ins.layout (by simp [lead, hgap]) fun hslash hhead => by
    rcases hleft : ins.left with _ | ⟨c, left⟩
    · obtain ⟨c, gap, hc⟩ := List.exists_cons_of_ne_nil hgap
      refine absurd ?_ (ins.slash hleft hslash)
      simpa [lead, hleft, hc] using hhead
    · rw [ins.lead_eq, hleft]
      simpa [lead, hleft] using hhead
  rw [tokenize?_eq_some_iff, result, String.toList_ofList, List.append_assoc,
    withoutMark_append hfront, ins.front_eq, hback]
  simpa [lead] using hnew

end Insertion

variable {t : Tree} {content : String}

/-- **Layout in between two tokens.**

The new text is read as well, and the record of the file has the same classes with the same methods,
parameters and complexities.  Annotations have the same names, so the same methods count as
business, unless something is put in behind the last dot of an annotation's name.  Then the roles
are the same too, unless something is put in inside the name of the package and what stands there
has the word `entities` in it now but had it not before.

This is so whatever reads the trees, as long as it goes by the tokens. -/
theorem outlineBy_of_insertion (parser : TokenParser) (h : parser.tree? content = some t)
    (ins : Insertion t content) (rules : BusinessRules) (path : String) :
    ∃ file file', outlineBy parser.tree? rules path content = .ok file ∧
      outlineBy parser.tree? rules path ins.result = .ok file' ∧
      file'.classes.map SourceClass.skeleton = file.classes.map SourceClass.skeleton ∧
      file'.complexity = file.complexity ∧
      (¬ t.InName .annotationUse ins.index 0 →
        file'.classes.map SourceClass.marks = file.classes.map SourceClass.marks ∧
          (((∃ back, t.InName .packageDeclaration ins.index back) →
              occursIn "entities" (String.ofList ins.lead)
                = occursIn "entities" (String.ofList ins.token.lead)) →
            file'.classes.map (Role.ofClass? file') = file.classes.map (Role.ofClass? file))) := by
  have htokens := TokenParser.tokenize?_of_tree? h
  obtain ⟨t', ht', hstripped, htokens'⟩ := TokenParser.exists_tree?_of_relaid h ins.parts_eq
    (ins.tokenize?_result htokens)
  have hshaped := TokenParser.shaped_of_tree? h
  have hshaped' := TokenParser.shaped_of_tree? ht'
  have hroot : Tree.Twins t t' t t' := ⟨[], rfl, rfl⟩
  have hdeclarations := Tree.Twins.nodesOf hstripped hroot .classDeclaration
  have hskeletons : (outline rules path ins.result t').classes.map SourceClass.skeleton
      = (outline rules path content t).classes.map SourceClass.skeleton := by
    rw [skeletons_outline hshaped', skeletons_outline hshaped, hstripped]
  refine ⟨outline rules path content t, outline rules path ins.result t',
    by simp only [outlineBy, h], by simp only [outlineBy, ht'], hskeletons, ?_,
    fun hannotation => ?_⟩
  · rw [complexity_outline, complexity_outline, hskeletons, hstripped]
  have hsame : SameAnnotations t t' := fun a a' haa' ha =>
    Tree.Twins.lastSegment_eq hstripped ins.tokens_eq htokens' hshaped haa' ha
      (by rwa [List.length_map])
  refine ⟨?_, fun hentities => ?_⟩
  · simp only [outline, List.map_map]
    exact map_eq_of_forall₂ hdeclarations fun d _ d' hd =>
      hsame.marks_eq hstripped hshaped hshaped' hd rules _ _
  have hlead : Layout ins.token.lead := by
    have hlexes := tokenize?_eq_some_iff.mp htokens
    exact (hlexes.forall_mem ins.token (by simp [ins.tokens_eq])).1
  have hword : ('.' :: stops).all (fun d => !"entities".toList.contains d) = true := by decide
  have hpackage := any_package_eq hstripped (fun a a' haa' ha =>
    Tree.Twins.occursIn_eq hstripped ins.tokens_eq htokens' "entities"
      (by simpa using hword) hshaped hlead ins.layout haa' ha
      (by rwa [List.length_map])) rules path content ins.result
  simp only [outline, List.map_map]
  refine map_eq_of_forall₂ hdeclarations fun d _ d' hd => ofClass?_eq ?_ ?_ hpackage
  · exact congrArg Prod.fst (skeleton_eq hstripped hshaped hshaped' hd rules none none)
  · exact hsame.annotations_eq hstripped hd

/-! ## Two insertions -/

/-- A class with an annotation and a method. -/
def serviceSource : String := "@Service class A\x7bvoid f()\x7b\x7d\x7d"

/-- The tokens in front of the name of the class. -/
def serviceFront : List (Token × Bool) :=
  [(⟨[], .symbol, "@"⟩, false), (⟨[], .word, "Service"⟩, false), (⟨[' '], .word, "class"⟩, false)]

/-- The tokens behind the name of the class. -/
def serviceBack : List (Token × Bool) :=
  [(⟨[], .symbol, "\x7b"⟩, false), (⟨[], .word, "void"⟩, false), (⟨[' '], .word, "f"⟩, false),
   (⟨[], .symbol, "("⟩, false), (⟨[], .symbol, ")"⟩, false), (⟨[], .symbol, "\x7b"⟩, false),
   (⟨[], .symbol, "\x7d"⟩, false), (⟨[], .symbol, "\x7d"⟩, false)]

/-- A comment with a dot in it is put in before the name of the class. -/
def commentInsertion {t : Tree}
    (h : t.parts = serviceFront ++ (⟨[' '], .word, "A"⟩, false) :: serviceBack) :
    Insertion t serviceSource where
  before := serviceFront
  token := ⟨[' '], .word, "A"⟩
  after := serviceBack
  parts_eq := h
  before_ne := List.cons_ne_nil _ _
  left := [' ']
  right := []
  lead_eq := rfl
  gap := "/*a. b*/ ".toList
  layout :=
    have hclosed : ¬ ['*', '/'] <:+: "a. b".toList := by decide
    .blank (by decide) (.blockComment hclosed (.blank (by decide) .nothing))
  slash := by simp
  front := "@Service class ".toList
  back := "A\x7bvoid f()\x7b\x7d\x7d".toList
  front_eq := by decide
  content_eq := by decide

theorem outlineBy_of_insertion_of_comment : ∃ t, tree? serviceSource = some t ∧
    ∃ ins : Insertion t serviceSource,
      ins.result = "@Service class /*a. b*/ A\x7bvoid f()\x7b\x7d\x7d" ∧
      ∃ file file', outlineOf .standard "A.java" serviceSource = .ok file ∧
        outlineOf .standard "A.java" ins.result = .ok file' ∧
        file'.classes.map SourceClass.skeleton = file.classes.map SourceClass.skeleton ∧
        file'.complexity = file.complexity ∧
        file'.classes.map SourceClass.marks = file.classes.map SourceClass.marks ∧
        file'.classes.map (Role.ofClass? file') = file.classes.map (Role.ofClass? file) := by
  have hall : (tree? serviceSource).map (fun t =>
      (t.parts, t.hasPlainNames .annotationUse, t.hasPlainNames .packageDeclaration))
        = some (serviceFront ++ (⟨[' '], .word, "A"⟩, false) :: serviceBack, true, true) := by
    decide +kernel
  obtain ⟨t, ht, heq⟩ := Option.map_eq_some_iff.mp hall
  simp only [Prod.mk.injEq] at heq
  obtain ⟨hparts, hannotations, hpackages⟩ := heq
  rw [← TokenParser.tree?_standard] at ht
  obtain ⟨file, file', hfile, hfile', hskeletons, hcomplexity, hrest⟩ :=
    outlineBy_of_insertion .standard ht (commentInsertion hparts) .standard "A.java"
  rw [TokenParser.tree?_standard] at ht hfile hfile'
  obtain ⟨hmarks, hroles⟩ := hrest (Tree.not_inName hannotations _ _)
  refine ⟨t, ht, commentInsertion hparts, rfl, file, file', hfile, hfile', hskeletons, hcomplexity,
    hmarks, hroles ?_⟩
  rintro ⟨back, hpackage⟩
  exact absurd hpackage (Tree.not_inName hpackages _ _)

/-- A class whose annotation has a qualified name. -/
def qualifiedSource : String := "@org.springframework.stereotype.Service class A \x7b\x7d"

/-- The same with a blank behind the last dot. -/
def splitSource : String := "@org.springframework.stereotype. Service class A \x7b\x7d"

/-- The tokens up to the last dot. -/
def qualifiedFront : List (Token × Bool) :=
  [(⟨[], .symbol, "@"⟩, false), (⟨[], .word, "org"⟩, false), (⟨[], .symbol, "."⟩, false),
   (⟨[], .word, "springframework"⟩, false), (⟨[], .symbol, "."⟩, false),
   (⟨[], .word, "stereotype"⟩, false), (⟨[], .symbol, "."⟩, false)]

/-- The tokens behind the name of the annotation. -/
def qualifiedBack : List (Token × Bool) :=
  [(⟨[' '], .word, "class"⟩, false), (⟨[' '], .word, "A"⟩, false),
   (⟨[' '], .symbol, "\x7b"⟩, false), (⟨[], .symbol, "\x7d"⟩, false)]

/-- A blank is put in behind the last dot. -/
def blankInsertion {t : Tree}
    (h : t.parts = qualifiedFront ++ (⟨[], .word, "Service"⟩, false) :: qualifiedBack) :
    Insertion t qualifiedSource where
  before := qualifiedFront
  token := ⟨[], .word, "Service"⟩
  after := qualifiedBack
  parts_eq := h
  before_ne := List.cons_ne_nil _ _
  left := []
  right := []
  lead_eq := rfl
  gap := [' ']
  layout := .blank (by decide) .nothing
  slash := by simp
  front := "@org.springframework.stereotype.".toList
  back := "Service class A \x7b\x7d".toList
  front_eq := by decide
  content_eq := by decide

/-- The annotations of the classes of a source text, and their roles. -/
def annotationsAndRoles (content : String) : Option (List (List String × Option Role)) :=
  (outlineOf .standard "A.java" content).toOption.map fun file =>
    file.classes.map fun c => (c.annotations, Role.ofClass? file c)

/-- **Layout in a name.**  A blank behind the last dot of an annotation's name is taken for a part
of the annotation, which makes the role of the class go away, and a comment in the name of the
package can give a class a role. -/
theorem annotationsAndRoles_of_split_names :
    (∃ t, tree? qualifiedSource = some t ∧
      ∃ ins : Insertion t qualifiedSource, ins.gap = [' '] ∧ ins.result = splitSource) ∧
    annotationsAndRoles qualifiedSource = some [(["Service"], some .services)] ∧
    annotationsAndRoles splitSource = some [([" Service"], none)] ∧
    annotationsAndRoles "package shop.web;class A\x7b\x7d" = some [([], none)] ∧
    annotationsAndRoles "package shop./* no entities */web;class A\x7b\x7d"
      = some [([], some .entities)] := by
  refine ⟨?_, by decide +kernel, by decide +kernel, by decide +kernel, by decide +kernel⟩
  have hall : (tree? qualifiedSource).map Tree.parts
      = some (qualifiedFront ++ (⟨[], .word, "Service"⟩, false) :: qualifiedBack) := by
    decide +kernel
  obtain ⟨t, ht, hparts⟩ := Option.map_eq_some_iff.mp hall
  exact ⟨t, ht, blankInsertion hparts, rfl, rfl⟩

end Java

end CodeDigest
