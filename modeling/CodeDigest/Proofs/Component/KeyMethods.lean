import Mathlib.Data.List.Basic
import CodeDigest.KeyMethod
import CodeDigest.Proofs.Component.Declarations

/-!
# Which declarations the key methods come from

The role of a class is looked up by its name, and a name has the role of its first declaration with
a role.  So a declaration contributes its methods under the role of its name, whatever its own role
is.

* `KeyMethod.mem_ofFiles_iff` says which methods are reported.
* `KeyMethod.ofDeclaration` is what a declaration would contribute by its own role.  It contributes
  just that if and only if its own role and the role of its name agree as far as controllers and
  services go, or it has no business method (`KeyMethod.ofClass_eq_ofDeclaration_iff`).
* `KeyMethod.reported_of_shadowed_name` has the two ways in which they can disagree: an entity that
  shares its name with a controller in front of it contributes, and a controller that shares its
  name with an entity in front of it does not.
-/

namespace CodeDigest

variable {ds : List Declaration} {d : Declaration} {files : List SourceFile} {name : String}
  {role : Role} {m : ComponentMap} {k : KeyMethod}

/-! ## The role of a name -/

/-- The role of a name is the one under which the map lists it. -/
lemma ComponentMap.Lists.roleOf?_eq_some_iff (h : m.Lists ds) :
    m.roleOf? name = some role ↔ name ∈ m.get role := by
  have hmem : ∀ {other}, m.roleOf? name = some other → name ∈ m.get other := fun hother => by
    simpa using List.find?_some hother
  refine ⟨hmem, fun hrole => ?_⟩
  have hsome : (m.roleOf? name).isSome = true := by
    simp only [roleOf?, List.find?_isSome, List.mem_reverse, List.contains_iff_mem]
    exact ⟨role, role.mem_all, hrole⟩
  obtain ⟨other, hother⟩ := Option.isSome_iff_exists.mp hsome
  obtain ⟨i, hi⟩ := (h.mem_get name role).mp hrole
  obtain ⟨j, hj⟩ := (h.mem_get name other).mp (hmem hother)
  rw [hother, (hi.unique hj).2]

/-- The role of a name is that of its first declaration with a role. -/
lemma ComponentMap.roleOf?_ofFiles : (ofFiles files).roleOf? name = some role ↔
    ∃ i, FirstWithRole (declarations files) name i role := by
  rw [(lists_ofFiles files).roleOf?_eq_some_iff, (lists_ofFiles files).mem_get]

namespace KeyMethod

/-! ## Methods by the role of the name -/

/-- A class contributes its business methods when its name is that of a controller or a service. -/
lemma mem_ofClass_iff {c : SourceClass} : k ∈ ofClass m c ↔
    ∃ role, m.roleOf? c.name = some role ∧ role.hasKeyMethods = true ∧
      ∃ method ∈ c.businessMethods, ofMethod role c method = k := by
  unfold ofClass
  cases h : m.roleOf? c.name with
  | none => simp
  | some role => cases hkey : role.hasKeyMethods <;> simp [hkey]

/-- The key methods of a code base are those of its declarations, in their order. -/
lemma ofFiles_eq_flatMap :
    ofFiles m files = (declarations files).flatMap fun d => ofClass m d.body := by
  rw [ofFiles, declarations, List.flatMap_assoc, List.flatMap_assoc]
  congr 1
  funext file
  rw [List.flatMap_map]

/-- **The methods that are reported** are the business methods of all declarations whose name is
that of a controller or a service, under the role of the name: that of the first declaration of the
name with a role. -/
theorem mem_ofFiles_iff : k ∈ ofFiles (.ofFiles files) files ↔
    ∃ d ∈ declarations files, ∃ i role, FirstWithRole (declarations files) d.name i role ∧
      role.hasKeyMethods = true ∧
        ∃ method ∈ d.body.businessMethods, ofMethod role d.body method = k := by
  simp only [ofFiles_eq_flatMap, List.mem_flatMap, mem_ofClass_iff, ComponentMap.roleOf?_ofFiles]
  constructor
  · rintro ⟨d, hd, role, ⟨i, hfirst⟩, hkey, hmethod⟩
    exact ⟨d, hd, i, role, hfirst, hkey, hmethod⟩
  · rintro ⟨d, hd, i, role, hfirst, hkey, hmethod⟩
    exact ⟨d, hd, role, ⟨i, hfirst⟩, hkey, hmethod⟩

/-! ## Methods by a declaration's own role -/

/-- The key methods of a class in a role, or in none. -/
def ofRole? (role? : Option Role) (c : SourceClass) : List KeyMethod :=
  match role? with
  | some role => if role.hasKeyMethods then c.businessMethods.map (ofMethod role c) else []
  | none => []

/-- The key methods of a declaration by its own role. -/
def ofDeclaration (d : Declaration) : List KeyMethod := ofRole? d.role? d.body

lemma ofRole?_eq_filter (role? : Option Role) (c : SourceClass) :
    ofRole? role? c = ofRole? (role?.filter Role.hasKeyMethods) c := by
  cases role? with
  | none => rfl
  | some role => cases hkey : role.hasKeyMethods <;> simp [ofRole?, Option.filter, hkey]

/-- The first key method of a class tells its role, if there is one. -/
lemma role_head_ofRole? (role? : Option Role) {c : SourceClass} (hc : c.businessMethods ≠ []) :
    (ofRole? role? c).head?.bind KeyMethod.role = role?.filter Role.hasKeyMethods := by
  obtain ⟨method, rest, hmethods⟩ := List.exists_cons_of_ne_nil hc
  cases role? with
  | none => rfl
  | some role =>
      cases hkey : role.hasKeyMethods <;> simp [ofRole?, Option.filter, hkey, hmethods, ofMethod]

/-- Two roles give a class the same key methods when they agree as far as controllers and services
go, or when it has no business method. -/
lemma ofRole?_eq_iff {a b : Option Role} {c : SourceClass} : ofRole? a c = ofRole? b c ↔
    c.businessMethods ≠ [] → a.filter Role.hasKeyMethods = b.filter Role.hasKeyMethods := by
  constructor
  · intro heq hc
    rw [← role_head_ofRole? a hc, ← role_head_ofRole? b hc, heq]
  · intro h
    by_cases hc : c.businessMethods = []
    · have hnil : ∀ role?, ofRole? role? c = [] := by
        intro role?
        cases role? with
        | none => rfl
        | some role => simp [ofRole?, hc]
      rw [hnil, hnil]
    · rw [ofRole?_eq_filter a, ofRole?_eq_filter b, h hc]

/-- A declaration contributes the key methods of its own role if and only if it has no business
method, or agrees with the first declaration of its name that has a role, as far as controllers and
services go. -/
lemma ofClass_eq_iff (files : List SourceFile) (d : Declaration) :
    ofClass (.ofFiles files) d.body = ofDeclaration d ↔
      (d.body.businessMethods ≠ [] → ∀ role, role.hasKeyMethods = true →
        ((∃ i, FirstWithRole (declarations files) d.name i role) ↔ d.role? = some role)) := by
  have hagree : ∀ a b : Option Role, a.filter Role.hasKeyMethods = b.filter Role.hasKeyMethods ↔
      ∀ role, role.hasKeyMethods = true → (a = some role ↔ b = some role) := by
    intro a b
    rw [Option.ext_iff]
    refine forall_congr' fun role => ?_
    rw [Option.filter_eq_some_iff, Option.filter_eq_some_iff]
    exact and_congr_left_iff
  have hclass : ofClass (.ofFiles files) d.body
      = ofRole? ((ComponentMap.ofFiles files).roleOf? d.name) d.body := rfl
  rw [hclass, ofDeclaration, ofRole?_eq_iff]
  refine imp_congr_right fun _ => ?_
  simp only [hagree, ComponentMap.roleOf?_ofFiles]

/-- **When declarations contribute by their own roles.**  Every declaration contributes the key
methods of its own role if and only if each one with a business method agrees with the first
declaration of its name that has a role, as far as controllers and services go. -/
theorem ofClass_eq_ofDeclaration_iff (files : List SourceFile) :
    (∀ d ∈ declarations files, ofClass (.ofFiles files) d.body = ofDeclaration d) ↔
      ∀ d ∈ declarations files, d.body.businessMethods ≠ [] → ∀ role, role.hasKeyMethods = true →
        ((∃ i, FirstWithRole (declarations files) d.name i role) ↔ d.role? = some role) :=
  forall₂_congr fun d _ => ofClass_eq_iff files d

/-- Where all declarations of a name have one role the key methods are those of the controllers and
services. -/
theorem ofFiles_eq_of_one_role {files : List SourceFile}
    (h : ∀ d ∈ declarations files, ∀ e ∈ declarations files, d.name = e.name → d.role? = e.role?) :
    ofFiles (.ofFiles files) files = (declarations files).flatMap ofDeclaration := by
  rw [ofFiles_eq_flatMap]
  refine List.flatMap_congr fun d hd => (ofClass_eq_iff files d).mpr fun _ role _ => ?_
  constructor
  · rintro ⟨i, ⟨e, he, hname, hrole⟩, -⟩
    rw [h d hd e (List.mem_of_getElem? he) hname.symm, hrole]
  · intro hrole
    obtain ⟨i, other, hfirst⟩ := exists_firstWithRole_iff.mpr ⟨d, hd, rfl, by simp [hrole]⟩
    obtain ⟨e, he, hname, hother⟩ := hfirst.1
    have hsame := h d hd e (List.mem_of_getElem? he) hname.symm
    rw [hrole, hother] at hsame
    exact ⟨i, Option.some.inj hsame ▸ hfirst⟩

/-! ### A name that two declarations share -/

/-- A method that does some of the application's work. -/
def workingMethod (name : String) : SourceMethod :=
  ⟨name, "void " ++ name ++ "()", none, none, none, [], true, 0⟩

/-- A file with one class, which has one such method. -/
def fileOf (path : String) (package : Option String) (annotations : List String)
    (method : String) : SourceFile where
  path := path
  fileType := "java"
  package := package
  imports := []
  classes := [⟨"Order", package, annotations, [workingMethod method]⟩]
  totalLines := 0
  codeLines := 0
  commentLines := 0
  complexity := none

/-- A controller by its annotation. -/
def orderController : SourceFile :=
  fileOf "src/web/Order.java" none ["Controller"] "createOrder"

/-- An entity by its package. -/
def orderEntity : SourceFile :=
  fileOf "src/model/Order.java" (some "shop.entities") [] "calculateTotal"

/-- **Declarations do not always contribute by their own roles.**  Behind a controller an entity of
the same name contributes its method, and behind an entity a controller of the same name does
not. -/
theorem reported_of_shadowed_name :
    ((declarations [orderController, orderEntity]).map Declaration.role?
        = [some .controllers, some .entities] ∧
      (ofFiles (.ofFiles [orderController, orderEntity]) [orderController, orderEntity]).map
        (fun k => (k.methodName, k.role))
        = [("createOrder", some .controllers), ("calculateTotal", some .controllers)]) ∧
    (declarations [orderEntity, orderController]).map Declaration.role?
        = [some .entities, some .controllers] ∧
      ofFiles (.ofFiles [orderEntity, orderController]) [orderEntity, orderController] = [] := by
  decide

end KeyMethod

end CodeDigest
