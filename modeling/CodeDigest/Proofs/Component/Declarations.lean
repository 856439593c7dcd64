import Mathlib.Data.List.Induction
import CodeDigest.Component

/-!
# Components and declarations

Names of classes may repeat, within a file and between files, and the declarations of one name may
have different roles.  This module says which declaration of a name the component map goes by.

* `declarations` lists the classes of all files, file by file and class by class.
* `FirstWithRole ds name i role` says that at place `i` of the list stands the first declaration of
  `name` that has a role at all, and that this is its role.  Declarations of the same name without a
  role may stand in front of it.
* `ComponentMap.Lists` is the specification of a map: it holds the names of these declarations, each
  once, and in each role in their order.
* `ComponentMap.lists_ofFiles` says that the map of a code base meets it, and
  `ComponentMap.names_of_first_declarations` what this comes to.  The map is built by entering one
  declaration after the other (`ofFiles_eq_foldl`), so it is enough that entering one keeps the
  specification (`Lists.enter`).
-/

namespace CodeDigest

/-! ## Declarations -/

/-- A class with the file that it is declared in. -/
structure Declaration where
  file : SourceFile
  body : SourceClass

/-- The declared name. -/
def Declaration.name (d : Declaration) : String := d.body.name

/-- The role of a declaration by its own name, annotations and package. -/
def Declaration.role? (d : Declaration) : Option Role := Role.ofClass? d.file d.body

/-- The declarations of some files, in the order of the files and of the classes in them. -/
def declarations (files : List SourceFile) : List Declaration :=
  files.flatMap fun file => file.classes.map (Declaration.mk file)

/-- At place `i` stands the first declaration of a name that has a role, and this is its role. -/
def FirstWithRole (ds : List Declaration) (name : String) (i : ℕ) (role : Role) : Prop :=
  (∃ d, ds[i]? = some d ∧ d.name = name ∧ d.role? = some role) ∧
    ∀ j < i, ∀ e, ds[j]? = some e → e.name = name → e.role? = none

variable {ds : List Declaration} {d : Declaration} {name : String} {i : ℕ} {role : Role}
  {m : ComponentMap}

lemma FirstWithRole.lt_length (h : FirstWithRole ds name i role) : i < ds.length := by
  obtain ⟨⟨d, hd, -⟩, -⟩ := h
  exact (List.getElem?_eq_some_iff.mp hd).1

/-- Of the declarations of a name that have a role there is one first. -/
lemma FirstWithRole.unique {j : ℕ} {other : Role} (h : FirstWithRole ds name i role)
    (h' : FirstWithRole ds name j other) : i = j ∧ role = other := by
  obtain ⟨⟨d, hd, hname, hrole⟩, hfirst⟩ := h
  obtain ⟨⟨d', hd', hname', hrole'⟩, hfirst'⟩ := h'
  obtain rfl : i = j := by
    rcases Nat.lt_trichotomy i j with hlt | heq | hlt
    · rw [hfirst' i hlt d hd hname] at hrole
      cases hrole
    · exact heq
    · rw [hfirst j hlt d' hd' hname'] at hrole'
      cases hrole'
  obtain rfl : d = d' := Option.some.inj (hd.symm.trans hd')
  exact ⟨rfl, Option.some.inj (hrole.symm.trans hrole')⟩

/-- One more declaration is the first of its name with a role, or changes nothing. -/
lemma firstWithRole_concat : FirstWithRole (ds ++ [d]) name i role ↔
    FirstWithRole ds name i role ∨
      i = ds.length ∧ d.name = name ∧ d.role? = some role ∧
        ∀ e ∈ ds, e.name = name → e.role? = none := by
  have hold : ∀ {j}, j < ds.length → (ds ++ [d])[j]? = ds[j]? := fun hj =>
    List.getElem?_append_left hj
  constructor
  · intro h
    have hlt := h.lt_length
    obtain ⟨⟨c, hc, hname, hrole⟩, hfirst⟩ := h
    rw [List.length_append, List.length_singleton] at hlt
    rcases Nat.lt_or_ge i ds.length with hi | hi
    · rw [hold hi] at hc
      refine .inl ⟨⟨c, hc, hname, hrole⟩, fun j hj e he => hfirst j hj e ?_⟩
      rwa [hold (Nat.lt_trans hj hi)]
    · obtain rfl : i = ds.length := by omega
      obtain rfl : d = c := by simpa using hc
      refine .inr ⟨rfl, hname, hrole, fun e he hn => ?_⟩
      obtain ⟨j, hj, rfl⟩ := List.mem_iff_getElem.mp he
      exact hfirst j hj _ (by rw [hold hj, List.getElem?_eq_getElem hj]) hn
  · rintro (h | ⟨rfl, hname, hrole, hnone⟩)
    · have hi := h.lt_length
      obtain ⟨⟨c, hc, hname, hrole⟩, hfirst⟩ := h
      refine ⟨⟨c, by rw [hold hi, hc], hname, hrole⟩, fun j hj e he => hfirst j hj e ?_⟩
      rwa [hold (Nat.lt_trans hj hi)] at he
    · refine ⟨⟨d, by simp, hname, hrole⟩, fun j hj e he => hnone e ?_⟩
      rw [hold hj] at he
      exact List.mem_of_getElem? he

/-- A name has a first declaration with a role as soon as it has any declaration with one. -/
lemma exists_firstWithRole_iff :
    (∃ i role, FirstWithRole ds name i role) ↔ ∃ d ∈ ds, d.name = name ∧ d.role?.isSome = true := by
  induction ds using List.reverseRecOn with
  | nil => simp [FirstWithRole]
  | append_singleton ds d ih =>
      simp only [firstWithRole_concat, List.mem_append, List.mem_singleton]
      constructor
      · rintro ⟨i, role, h | ⟨-, hname, hrole, -⟩⟩
        · obtain ⟨e, he, hname, hsome⟩ := ih.mp ⟨i, role, h⟩
          exact ⟨e, .inl he, hname, hsome⟩
        · exact ⟨d, .inr rfl, hname, by simp [hrole]⟩
      · rintro ⟨e, he, hname, hsome⟩
        by_cases hds : ∃ e ∈ ds, e.name = name ∧ e.role?.isSome = true
        · obtain ⟨i, role, h⟩ := ih.mpr hds
          exact ⟨i, role, .inl h⟩
        · rcases he with he | rfl
          · exact absurd ⟨e, he, hname, hsome⟩ hds
          · obtain ⟨role, hrole⟩ := Option.isSome_iff_exists.mp hsome
            refine ⟨ds.length, role, .inr ⟨rfl, hname, hrole, fun c hc hn => ?_⟩⟩
            rw [← Option.not_isSome_iff_eq_none]
            exact fun hs => hds ⟨c, hc, hn, hs⟩

namespace ComponentMap

/-! ## Names in a map -/

/-- All names of a map, role by role. -/
def names (m : ComponentMap) : List String := Role.all.flatMap m.get

lemma mem_names : name ∈ m.names ↔ ∃ role, name ∈ m.get role := by
  simp only [names, List.mem_flatMap]
  exact ⟨fun ⟨role, _, h⟩ => ⟨role, h⟩, fun ⟨role, h⟩ => ⟨role, role.mem_all, h⟩⟩

lemma has_iff : m.has name = true ↔ ∃ role, name ∈ m.get role := by
  simp only [has, rows, List.any_map, List.any_eq_true, Function.comp_apply, List.contains_iff_mem]
  exact ⟨fun ⟨role, _, h⟩ => ⟨role, h⟩, fun ⟨role, h⟩ => ⟨role, role.mem_all, h⟩⟩

lemma count_names (m : ComponentMap) (name : String) :
    m.names.count name = sumOf (Role.all.map fun role => (m.get role).count name) := by
  rw [names, List.count_flatMap]
  rfl

/-- A name that is added occurs once more, any other as often as before. -/
lemma count_names_add (m : ComponentMap) (role : Role) (added name : String) :
    (m.add role added).names.count name
      = m.names.count name + if name = added then 1 else 0 := by
  have hget : ∀ other, ((m.add role added).get other).count name
      = (m.get other).count name + if other = role ∧ name = added then 1 else 0 := by
    intro other
    rw [get_add]
    by_cases ho : other = role
    · have hone : List.count name [added] = if name = added then 1 else 0 := by
        rw [List.count_singleton]
        exact if_congr (by rw [beq_iff_eq, eq_comm]) rfl rfl
      simp only [ho, if_true, true_and, List.count_append, hone]
    · simp [ho]
  simp only [count_names, hget]
  cases role <;> simp [Role.all] <;> omega

lemma nodup_names_add {added : String} (hm : m.names.Nodup) (hnew : added ∉ m.names)
    (role : Role) : (m.add role added).names.Nodup := by
  rw [List.nodup_iff_count]
  intro name
  rw [count_names_add]
  by_cases hname : name = added
  · subst hname
    simp [List.count_eq_zero_of_not_mem hnew]
  · simpa [hname] using List.nodup_iff_count.mp hm name

/-! ## The specification -/

/-- A map lists declarations when it goes by the first one of each name that has a role. -/
structure Lists (m : ComponentMap) (ds : List Declaration) : Prop where
  /-- The names of a role are those whose first declaration with a role has this role. -/
  mem_get : ∀ name role, name ∈ m.get role ↔ ∃ i, FirstWithRole ds name i role
  /-- No name stands in the map twice, all roles taken together. -/
  once : m.names.Nodup
  /-- The names of a role stand in the order of these declarations. -/
  ordered : ∀ role, (m.get role).Pairwise fun a b =>
    ∃ i j, FirstWithRole ds a i role ∧ FirstWithRole ds b j role ∧ i < j

/-- Enters one declaration. -/
def enter (m : ComponentMap) (d : Declaration) : ComponentMap := addClass d.file m d.body

lemma ofFiles_eq_foldl (files : List SourceFile) :
    ofFiles files = (declarations files).foldl enter empty := by
  rw [ofFiles, declarations, List.foldl_flatMap]
  congr 1
  funext m file
  rw [addFile, List.foldl_map]
  rfl

lemma Lists.empty : ComponentMap.empty.Lists [] where
  mem_get := by simp [FirstWithRole]
  once := by simp [names, Role.all]
  ordered := by simp

/-- A name is known to the map when some declaration of it has a role. -/
lemma Lists.exists_mem_get_iff (h : m.Lists ds) :
    (∃ role, name ∈ m.get role) ↔ ∃ d ∈ ds, d.name = name ∧ d.role?.isSome = true := by
  rw [← exists_firstWithRole_iff, exists_comm]
  exact exists_congr fun role => h.mem_get name role

/-- A declaration that adds no first one with a role changes nothing. -/
lemma Lists.concat (h : m.Lists ds)
    (hd : d.role? = none ∨ ∃ e ∈ ds, e.name = d.name ∧ e.role?.isSome = true) :
    m.Lists (ds ++ [d]) := by
  have hsame : ∀ name i role,
      FirstWithRole (ds ++ [d]) name i role ↔ FirstWithRole ds name i role := by
    intro name i role
    rw [firstWithRole_concat, or_iff_left]
    rintro ⟨-, rfl, hrole, hnone⟩
    rcases hd with hd | ⟨e, he, hname, hsome⟩
    · simp [hd] at hrole
    · simp [hnone e he hname] at hsome
  exact ⟨by simpa only [hsame] using h.mem_get, h.once, by simpa only [hsame] using h.ordered⟩

/-- The first declaration of a name with a role is entered behind those before it. -/
lemma Lists.add (h : m.Lists ds) (hrole : d.role? = some role)
    (hnone : ∀ e ∈ ds, e.name = d.name → e.role? = none) :
    (m.add role d.name).Lists (ds ++ [d]) := by
  have hnew : d.name ∉ m.names := by
    rw [mem_names, h.exists_mem_get_iff]
    rintro ⟨e, he, hname, hsome⟩
    simp [hnone e he hname] at hsome
  have hlast : ∀ name i other, FirstWithRole (ds ++ [d]) name i other ↔
      FirstWithRole ds name i other ∨ i = ds.length ∧ name = d.name ∧ other = role := by
    intro name i other
    rw [firstWithRole_concat, hrole]
    refine or_congr_right (and_congr_right fun _ => ⟨?_, ?_⟩)
    · rintro ⟨hname, hother, -⟩
      exact ⟨hname.symm, (Option.some.inj hother).symm⟩
    · rintro ⟨rfl, rfl⟩
      exact ⟨rfl, rfl, hnone⟩
  refine ⟨fun name other => ?_, nodup_names_add h.once hnew role, fun other => ?_⟩
  · simp only [hlast, get_add]
    by_cases ho : other = role
    · subst ho
      simp only [if_true, List.mem_append, List.mem_singleton, h.mem_get, and_true]
      rw [exists_or]
      simp
    · simp [ho, h.mem_get]
  · have hbefore : (m.get other).Pairwise fun a b => ∃ i j,
        FirstWithRole (ds ++ [d]) a i other ∧ FirstWithRole (ds ++ [d]) b j other ∧ i < j := by
      refine (h.ordered other).imp ?_
      rintro a b ⟨i, j, hi, hj, hlt⟩
      exact ⟨i, j, (hlast _ _ _).mpr (.inl hi), (hlast _ _ _).mpr (.inl hj), hlt⟩
    rw [get_add]
    split_ifs with ho
    · refine List.pairwise_append.mpr ⟨hbefore, List.pairwise_singleton _ _, fun a ha b hb => ?_⟩
      obtain ⟨i, hi⟩ := (h.mem_get a other).mp ha
      rw [List.mem_singleton] at hb
      exact ⟨i, ds.length, (hlast _ _ _).mpr (.inl hi), (hlast _ _ _).mpr (.inr ⟨rfl, hb, ho⟩),
        hi.lt_length⟩
    · exact hbefore

/-- Entering a declaration keeps the specification. -/
lemma Lists.enter (h : m.Lists ds) (d : Declaration) : (m.enter d).Lists (ds ++ [d]) := by
  have hhas : m.has d.name = true ↔ ∃ e ∈ ds, e.name = d.name ∧ e.role?.isSome = true := by
    rw [has_iff, h.exists_mem_get_iff]
  simp only [ComponentMap.enter, addClass]
  split_ifs with hseen
  · exact h.concat (.inr (hhas.mp hseen))
  · cases hrole : Role.ofClass? d.file d.body with
    | none => exact h.concat (.inl hrole)
    | some role =>
        refine h.add hrole fun e he hname => ?_
        rw [← Option.not_isSome_iff_eq_none]
        exact fun hs => hseen (hhas.mpr ⟨e, he, hname, hs⟩)

lemma lists_ofFiles (files : List SourceFile) : (ofFiles files).Lists (declarations files) := by
  rw [ofFiles_eq_foldl]
  generalize declarations files = ds
  induction ds using List.reverseRecOn with
  | nil => exact .empty
  | append_singleton ds d ih =>
      rw [List.foldl_append]
      exact ih.enter d

/-- **The component map goes by the first declaration of each name that has a role.**  A name is in
the map exactly when some declaration of it has a role; no name is in the map twice; the role of a
name is that of its first declaration with a role; and the names of a role stand in the order of
these declarations. -/
theorem names_of_first_declarations (files : List SourceFile) :
    (∀ name, name ∈ (ofFiles files).names ↔
      ∃ d ∈ declarations files, d.name = name ∧ d.role?.isSome = true) ∧
    (ofFiles files).names.Nodup ∧
    (∀ name role, name ∈ (ofFiles files).get role ↔
      ∃ i, FirstWithRole (declarations files) name i role) ∧
    ∀ role, ((ofFiles files).get role).Pairwise fun a b => ∃ i j,
      FirstWithRole (declarations files) a i role ∧ FirstWithRole (declarations files) b j role ∧
        i < j := by
  have h := lists_ofFiles files
  refine ⟨fun name => ?_, h.once, h.mem_get, h.ordered⟩
  rw [mem_names, h.exists_mem_get_iff]

end ComponentMap

end CodeDigest
