import Mathlib.Data.List.Forall2
import CodeDigest.Proofs.Component.KeyMethods
import CodeDigest.Proofs.Narration.Answers

/-!
# Key methods and what is asked about them

The key methods of a code base with their descriptions, for any component map, also one that lists a
name several times.

* `ComponentMap.Puts` says under which role a map puts a name: the last one that lists it.
* `KeyMethod.Stems` relates a key method to the declared method that it is about.  There is one key
  method for each business method of a class that the map puts under controllers or services, in the
  order of the declarations (`KeyMethod.forall₂_stems_ofFiles`).
* `Narrator.recorded` keeps a record of what is asked and what is answered, and answers as before.
  The record of a run over some key methods is the list of these methods, each with its description
  as the answer (`KeyMethod.mapM_describe_recorded`).
* `KeyMethod.described_in_order` has both together.
-/

namespace CodeDigest

variable {σ : Type} {narrator : Narrator σ} {m : ComponentMap} {name : String} {role : Role}
  {k k' : KeyMethod} {c : SourceClass} {method : SourceMethod}

/-! ## The role that a map gives a name -/

/-- The roles behind a role, in the order of roles. -/
def Role.behind (role : Role) : List Role := (all.dropWhile (· != role)).tail

/-- A map puts a name under the last role that lists it. -/
def ComponentMap.Puts (m : ComponentMap) (name : String) (role : Role) : Prop :=
  name ∈ m.get role ∧ ∀ later ∈ role.behind, name ∉ m.get later

instance (m : ComponentMap) (name : String) (role : Role) : Decidable (m.Puts name role) :=
  inferInstanceAs (Decidable (_ ∧ _))

lemma ComponentMap.roleOf?_eq_some_iff_puts : m.roleOf? name = some role ↔ m.Puts name role := by
  unfold roleOf? Puts
  rw [List.find?_eq_some_iff_append]
  constructor
  · rintro ⟨hlists, later, earlier, hroles, hlater⟩
    have hbehind : role.behind = later.reverse := by
      have hall : Role.all = earlier.reverse ++ role :: later.reverse := by
        rw [← List.reverse_reverse Role.all, hroles]
        simp
      have hnodup : Role.all.Nodup := by decide
      rw [hall] at hnodup
      have hfront : ∀ r ∈ earlier.reverse, (r != role) = true := by
        intro r hr
        rw [bne_iff_ne]
        rintro rfl
        exact (List.nodup_append.mp hnodup).2.2 r hr r List.mem_cons_self rfl
      rw [Role.behind, hall, List.dropWhile_append_of_pos hfront,
        List.dropWhile_cons_of_neg (by simp), List.tail_cons]
    refine ⟨by simpa using hlists, fun r hr => ?_⟩
    rw [hbehind, List.mem_reverse] at hr
    simpa using hlater r hr
  · rintro ⟨hlists, hlater⟩
    refine ⟨by simpa using hlists, role.behind.reverse, (Role.all.takeWhile (· != role)).reverse,
      by cases role <;> rfl, fun r hr => ?_⟩
    simpa using hlater r (List.mem_reverse.mp hr)

/-- A map exposes the classes that it puts under controllers or services. -/
def ComponentMap.Exposes (m : ComponentMap) (name : String) : Prop :=
  m.Puts name .controllers ∨ m.Puts name .services

instance (m : ComponentMap) (name : String) : Decidable (m.Exposes name) :=
  inferInstanceAs (Decidable (_ ∨ _))

/-- The last role that lists a name counts, however often it is listed; under repositories the name
is not exposed. -/
example : (⟨["Order"], ["Order", "Order"], [], [], []⟩ : ComponentMap).Puts "Order" .services ∧
    ¬(⟨["Order"], ["Order"], ["Order"], [], []⟩ : ComponentMap).Exposes "Order" := by decide

/-! ## Declared methods -/

/-- The methods of some files with the classes that declare them, in the order of the files, of the
classes and of the methods. -/
def declaredMethods (files : List SourceFile) : List (SourceClass × SourceMethod) :=
  (declarations files).flatMap fun d => d.body.methods.map fun method => (d.body, method)

/-- A method is worth reporting if it is a business method of a class that the map exposes. -/
def ComponentMap.reports (m : ComponentMap) (p : SourceClass × SourceMethod) : Bool :=
  p.2.isBusiness && decide (m.Exposes p.1.name)

namespace KeyMethod

/-- A key method is about a declared method: it has the name of the class, the name, signature and
annotations of the method, and the role under which the map puts the class, which is that of
controllers or of services. -/
structure Stems (m : ComponentMap) (p : SourceClass × SourceMethod) (k : KeyMethod) : Prop where
  className : k.className = p.1.name
  methodName : k.methodName = p.2.name
  signature : k.signature = p.2.signature
  annotations : k.annotations = p.2.annotations
  role : ∃ role ∈ [Role.controllers, Role.services], k.role = some role ∧ m.Puts p.1.name role

/-- A description changes nothing else. -/
lemma Stems.of_bare_eq {p : SourceClass × SourceMethod} (h : Stems m p k) (hk : k'.bare = k.bare) :
    Stems m p k' := by
  simp only [bare, KeyMethod.mk.injEq, true_and] at hk
  obtain ⟨hclass, hmethod, hsignature, hannotations, hrole⟩ := hk
  exact ⟨hclass.trans h.className, hmethod.trans h.methodName, hsignature.trans h.signature,
    hannotations.trans h.annotations, hrole ▸ h.role⟩

lemma hasKeyMethods_iff : role.hasKeyMethods = true ↔ role ∈ [Role.controllers, Role.services] := by
  cases role <;> decide

/-- The key methods of a class, one for each of its methods that is worth reporting. -/
lemma forall₂_stems_ofClass (m : ComponentMap) (c : SourceClass) :
    List.Forall₂ (Stems m) ((c.methods.map fun method => (c, method)).filter m.reports)
      (ofClass m c) := by
  by_cases hexposes : m.Exposes c.name
  · obtain ⟨role, hputs, hrole⟩ : ∃ role, m.Puts c.name role ∧
        role ∈ [Role.controllers, Role.services] := by
      rcases hexposes with h | h
      · exact ⟨_, h, by decide⟩
      · exact ⟨_, h, by decide⟩
    have hclass : ofClass m c = c.businessMethods.map (ofMethod role c) := by
      rw [ofClass, ComponentMap.roleOf?_eq_some_iff_puts.mpr hputs]
      exact if_pos (hasKeyMethods_iff.mpr hrole)
    have hreports : (fun method => m.reports (c, method)) = (·.isBusiness) := by
      funext method
      simp [ComponentMap.reports, hexposes]
    have hfilter : (c.methods.map fun method => (c, method)).filter m.reports
        = c.businessMethods.map fun method => (c, method) := by
      rw [List.filter_map, SourceClass.businessMethods, ← hreports]
      rfl
    rw [hclass, hfilter, List.forall₂_map_left_iff, List.forall₂_map_right_iff, List.forall₂_same]
    exact fun method _ => ⟨rfl, rfl, rfl, rfl, role, hrole, rfl, hputs⟩
  · have hnone : (c.methods.map fun method => (c, method)).filter m.reports = [] := by
      rw [List.filter_eq_nil_iff]
      simp [ComponentMap.reports, hexposes]
    have hclass : ofClass m c = [] := by
      rw [List.eq_nil_iff_forall_not_mem]
      intro k hk
      obtain ⟨role, hputs, hkey, -⟩ := mem_ofClass_iff.mp hk
      rw [ComponentMap.roleOf?_eq_some_iff_puts] at hputs
      rcases List.mem_pair.mp (hasKeyMethods_iff.mp hkey) with rfl | rfl
      · exact hexposes (.inl hputs)
      · exact hexposes (.inr hputs)
    rw [hnone, hclass]
    exact .nil

/-- **The key methods of a code base**, one for each declared method that is worth reporting, in
their order. -/
theorem forall₂_stems_ofFiles (m : ComponentMap) (files : List SourceFile) :
    List.Forall₂ (Stems m) ((declaredMethods files).filter m.reports) (ofFiles m files) := by
  rw [ofFiles_eq_flatMap, declaredMethods, List.filter_flatMap]
  induction declarations files with
  | nil => exact .nil
  | cons d ds ih =>
      rw [List.flatMap_cons, List.flatMap_cons]
      exact List.rel_append (forall₂_stems_ofClass m d.body) ih

end KeyMethod

/-! ## Questions and answers -/

/-- What was asked and what was answered. -/
abbrev Dialogue := List ((q : Question) × q.Answer)

/-- The narrator that keeps a record of what it is asked and what it answers. -/
def Narrator.recorded (narrator : Narrator σ) : Narrator (σ × Dialogue) := fun q s =>
  let reply := narrator q s.1
  (reply.1, reply.2, s.2 ++ [⟨q, reply.1⟩])

namespace KeyMethod

/-- The question for the description of a method, with the description as the answer. -/
def exchange (k : KeyMethod) : (q : Question) × q.Answer :=
  ⟨.method k.signature k.className k.annotations, k.description⟩

lemma describe_recorded (narrator : Narrator σ) (k : KeyMethod) (s : σ) (record : Dialogue) :
    describe narrator.recorded k (s, record)
      = ((describe narrator k s).1, (describe narrator k s).2,
          record ++ [(describe narrator k s).1.exchange]) := rfl

/-- **The record of a run over some methods** is what the methods have got: each of them was asked
for once, in their order, and its description is the answer. -/
theorem mapM_describe_recorded (narrator : Narrator σ) (ks : List KeyMethod) (s : σ)
    (record : Dialogue) :
    ks.mapM (describe narrator.recorded) (s, record)
      = ((ks.mapM (describe narrator) s).1, (ks.mapM (describe narrator) s).2,
          record ++ (ks.mapM (describe narrator) s).1.map exchange) := by
  induction ks generalizing s record with
  | nil =>
      rw [List.mapM_nil, List.mapM_nil, pure_apply, pure_apply, List.map_nil, List.append_nil]
  | cons k ks ih =>
      simp only [List.mapM_cons, bind_apply, pure_apply, describe_recorded, ih, List.map_cons,
        List.append_assoc, List.singleton_append]

/-- With descriptions the methods are about the same declared methods. -/
lemma forall₂_stems_mapM_describe (narrator : Narrator σ) {ps : List (SourceClass × SourceMethod)}
    {ks : List KeyMethod} (h : List.Forall₂ (Stems m) ps ks) (s : σ) :
    List.Forall₂ (Stems m) ps (ks.mapM (describe narrator) s).1 := by
  induction h generalizing s with
  | nil => exact .nil
  | cons hstems _ ih =>
      rw [List.mapM_cons]
      exact .cons (hstems.of_bare_eq rfl) (ih _)

/-- **Key methods for any component map.**

There is one entry for each business method of each class that the map puts under controllers or
services, in the order of the files, of the classes and of the methods; it has the name of the
class, the name, the signature and the annotations of the method, and the role.  If descriptions are
wanted the narrator is asked once for each entry, in the order of the entries, and what it answers
is the description of the entry.  If not, it is asked nothing and no entry has a description.
Keeping the record changes neither the entries nor the narrator. -/
theorem described_in_order (m : ComponentMap) (files : List SourceFile) (narrator : Narrator σ)
    (wanted : Bool) (s : σ) :
    let run := describeAll narrator.recorded wanted (ofFiles m files) (s, [])
    List.Forall₂ (Stems m) ((declaredMethods files).filter m.reports) run.1 ∧
      run.2.2 = (if wanted then run.1.map exchange else []) ∧
      (wanted = false → ∀ k ∈ run.1, k.description = none) ∧
      describeAll narrator wanted (ofFiles m files) s = (run.1, run.2.1) := by
  cases wanted with
  | true =>
      have hrun : describeAll narrator.recorded true (ofFiles m files) (s, []) = _ :=
        mapM_describe_recorded narrator (ofFiles m files) s []
      rw [hrun]
      exact ⟨forall₂_stems_mapM_describe narrator (forall₂_stems_ofFiles m files) s, rfl,
        nofun, rfl⟩
  | false =>
      refine ⟨forall₂_stems_ofFiles m files, rfl, fun _ k hk => ?_, rfl⟩
      exact congrArg KeyMethod.description (bare_of_mem hk).symm

end KeyMethod

end CodeDigest
