import CodeDigest.Business
import CodeDigest.Proofs.Text.Searching

/-!
# What the business rules depend on

The lists behind the rules pull in opposite directions.  Names exclude a method: it is an
`Accessor`, or a utility.  Annotations and keywords mark it.  A method counts when it is marked and
not excluded (`BusinessRules.isBusiness_iff`), so exclusions win over marks wherever both apply.

Exclusions and marks ask for members of the lists only, and more members make more of them
(`Excludes.mono`, `Marks.mono`).  `BusinessRules.isBusiness_monotone` draws the conclusions: longer
lists of marks keep every method that counts, longer lists of utilities add none, and order and
repetitions make no difference.
-/

namespace CodeDigest.BusinessRules

variable {r r' : BusinessRules} {name : String} {parameterCount : Nat}
  {annotations annotations' : List String}

/-! ## Exclusions and marks -/

/-- A method that hands out or takes in a value, by its name and number of parameters. -/
inductive Accessor (name : String) : Nat → Prop
  | getter (h : "get".toList <+: name.toList) : Accessor name 0
  | setter (h : "set".toList <+: name.toList) : Accessor name 1
  | question (h : "is".toList <+: name.toList) : Accessor name 0

/-- The rules exclude a method by its name. -/
def Excludes (r : BusinessRules) (name : String) (parameterCount : Nat) : Prop :=
  Accessor name parameterCount ∨ name ∈ r.utilityMethods

/-- The rules mark a method, by an annotation or by a keyword in its name. -/
def Marks (r : BusinessRules) (name : String) (annotations : List String) : Prop :=
  (∃ a ∈ annotations, a ∈ r.businessAnnotations) ∨
    ∃ k ∈ r.businessKeywords, (lowercased k).toList <:+: (lowercased name).toList

lemma isAccessor_iff : isAccessor name parameterCount = true ↔ Accessor name parameterCount := by
  simp only [isAccessor, startsWith, Bool.or_eq_true, Bool.and_eq_true, beq_iff_eq,
    Text.isSome_dropPrefix?]
  constructor
  · rintro ((⟨h, rfl⟩ | ⟨h, rfl⟩) | ⟨h, rfl⟩)
    · exact .getter h
    · exact .setter h
    · exact .question h
  · rintro (h | h | h)
    · exact .inl (.inl ⟨h, rfl⟩)
    · exact .inl (.inr ⟨h, rfl⟩)
    · exact .inr ⟨h, rfl⟩

instance (name : String) (parameterCount : Nat) : Decidable (Accessor name parameterCount) :=
  decidable_of_iff _ isAccessor_iff

instance (r : BusinessRules) (name : String) (parameterCount : Nat) :
    Decidable (r.Excludes name parameterCount) :=
  inferInstanceAs (Decidable (_ ∨ _))

/-- A method counts when the rules mark it and do not exclude it. -/
lemma isBusiness_iff : r.isBusiness name annotations parameterCount = true ↔
    ¬r.Excludes name parameterCount ∧ r.Marks name annotations := by
  rw [isBusiness, Excludes, Marks, not_or, ← isAccessor_iff]
  simp only [Bool.and_eq_true, Bool.or_eq_true, Bool.not_eq_true', Bool.not_eq_true,
    List.contains_eq_mem, decide_eq_false_iff_not, List.any_eq_true, decide_eq_true_eq,
    holdsKeyword, occursIn_iff]

/-! ## Longer lists -/

lemma Excludes.mono (h : r.Excludes name parameterCount)
    (hutilities : r.utilityMethods ⊆ r'.utilityMethods) : r'.Excludes name parameterCount :=
  h.imp_right fun hname => hutilities hname

lemma Marks.mono (h : r.Marks name annotations) (hannotations : annotations ⊆ annotations')
    (hbusiness : r.businessAnnotations ⊆ r'.businessAnnotations)
    (hkeywords : r.businessKeywords ⊆ r'.businessKeywords) : r'.Marks name annotations' := by
  rcases h with ⟨a, ha, hmarked⟩ | ⟨k, hk, hheld⟩
  · exact .inl ⟨a, hannotations ha, hbusiness hmarked⟩
  · exact .inr ⟨k, hkeywords hk, hheld⟩

/-- A method keeps counting when marks are added and no utility is. -/
lemma isBusiness_mono (h : r.isBusiness name annotations parameterCount = true)
    (hutilities : r'.utilityMethods ⊆ r.utilityMethods) (hannotations : annotations ⊆ annotations')
    (hbusiness : r.businessAnnotations ⊆ r'.businessAnnotations)
    (hkeywords : r.businessKeywords ⊆ r'.businessKeywords) :
    r'.isBusiness name annotations' parameterCount = true := by
  obtain ⟨hkept, hmarked⟩ := isBusiness_iff.mp h
  exact isBusiness_iff.mpr
    ⟨fun hexcluded => hkept (hexcluded.mono hutilities),
      hmarked.mono hannotations hbusiness hkeywords⟩

/-- Two lists have the same members, in whatever order and however often. -/
def SameMembers (l l' : List String) : Prop := ∀ s, s ∈ l ↔ s ∈ l'

lemma SameMembers.subset {l l' : List String} (h : SameMembers l l') : l ⊆ l' :=
  fun s hs => (h s).mp hs

lemma SameMembers.symm {l l' : List String} (h : SameMembers l l') : SameMembers l' l :=
  fun s => (h s).symm

/-- **Which way each list pulls.**

Whatever the annotations and the marking lists are, an accessor or utility never counts.  Otherwise
a method counts when it carries a business annotation or its name holds a keyword, letter case
aside.  So more annotations of the method, business annotations or keywords never make a method that
counts stop counting, more utilities never make another one count, and lists with the same members
decide alike. -/
theorem isBusiness_monotone (r : BusinessRules) (name : String) (annotations : List String)
    (parameterCount : Nat) :
    (r.Excludes name parameterCount → ∀ annotations' business keywords,
      ({ r with businessAnnotations := business, businessKeywords := keywords } :
        BusinessRules).isBusiness name annotations' parameterCount = false) ∧
    (¬r.Excludes name parameterCount →
      (r.isBusiness name annotations parameterCount = true ↔ r.Marks name annotations)) ∧
    (∀ (r' : BusinessRules) (annotations' : List String), r'.utilityMethods = r.utilityMethods →
      annotations ⊆ annotations' → r.businessAnnotations ⊆ r'.businessAnnotations →
      r.businessKeywords ⊆ r'.businessKeywords →
      r.isBusiness name annotations parameterCount = true →
      r'.isBusiness name annotations' parameterCount = true) ∧
    (∀ utilities, r.utilityMethods ⊆ utilities →
      r.isBusiness name annotations parameterCount = false →
      ({ r with utilityMethods := utilities } :
        BusinessRules).isBusiness name annotations parameterCount = false) ∧
    ∀ (r' : BusinessRules) (annotations' : List String),
      SameMembers r.utilityMethods r'.utilityMethods → SameMembers annotations annotations' →
      SameMembers r.businessAnnotations r'.businessAnnotations →
      SameMembers r.businessKeywords r'.businessKeywords →
      r'.isBusiness name annotations' parameterCount
        = r.isBusiness name annotations parameterCount := by
  refine ⟨fun hexcluded annotations' business keywords => ?_, fun hkept => ?_,
    fun r' annotations' hutilities hannotations hbusiness hkeywords h => ?_,
    fun utilities hutilities h => ?_,
    fun r' annotations' hutilities hannotations hbusiness hkeywords => ?_⟩
  · rw [Bool.eq_false_iff]
    exact fun h => (isBusiness_iff.mp h).1 (hexcluded.mono (List.Subset.refl _))
  · rw [isBusiness_iff]
    exact ⟨fun h => h.2, fun h => ⟨hkept, h⟩⟩
  · exact isBusiness_mono h (hutilities ▸ List.Subset.refl _) hannotations hbusiness hkeywords
  · -- taking the utilities away again would keep the method
    rw [Bool.eq_false_iff] at h ⊢
    exact fun hmore => h (isBusiness_mono hmore hutilities (List.Subset.refl _)
      (List.Subset.refl _) (List.Subset.refl _))
  · rw [Bool.eq_iff_iff]
    exact
      ⟨fun h => isBusiness_mono h hutilities.subset hannotations.symm.subset
        hbusiness.symm.subset hkeywords.symm.subset,
      fun h => isBusiness_mono h hutilities.symm.subset hannotations.subset
        hbusiness.subset hkeywords.subset⟩

/-- A utility does not count although it carries a marked annotation and its name holds a keyword.
Another method counts by its annotation, also when there are more annotations and keywords; one
without marks does not count when another one becomes a utility; and one with a keyword counts when
a list is turned round and an annotation is repeated. -/
theorem isBusiness_monotone_of_changed_lists :
    ({ standard with businessAnnotations := ["Audited"], businessKeywords := ["string"] } :
        BusinessRules).isBusiness "toString" ["Audited"] 0 = false ∧
      ({ standard with businessKeywords := "ship" :: standard.businessKeywords } :
        BusinessRules).isBusiness "handle" ["Override", "Async"] 1 = true ∧
      ({ standard with utilityMethods := "run" :: standard.utilityMethods } :
        BusinessRules).isBusiness "helper" [] 0 = false ∧
      ¬standard.Excludes "createOrder" 2 ∧
      ({ standard with utilityMethods := standard.utilityMethods.reverse } :
        BusinessRules).isBusiness "createOrder" ["Override", "Override"] 2 = true := by
  have hutility := (isBusiness_monotone standard "toString" [] 0).1 (by decide) ["Audited"]
    ["Audited"] ["string"]
  have hannotated := (isBusiness_monotone standard "handle" ["Async"] 1).2.2.1
    { standard with businessKeywords := "ship" :: standard.businessKeywords } ["Override", "Async"]
    rfl (by decide) (List.Subset.refl _) (List.subset_cons_self _ _) (by decide)
  have hhelper := (isBusiness_monotone standard "helper" [] 0).2.2.2.1
    ("run" :: standard.utilityMethods) (List.subset_cons_self _ _) (by decide)
  obtain ⟨-, hcounts, -, -, hsame⟩ := isBusiness_monotone standard "createOrder" ["Override"] 2
  have hkept : ¬standard.Excludes "createOrder" 2 := by decide
  have hmarked : standard.Marks "createOrder" ["Override"] :=
    .inr ⟨"create", by decide, occursIn_iff.mp (by decide)⟩
  have hturned := hsame { standard with utilityMethods := standard.utilityMethods.reverse }
    ["Override", "Override"] (fun _ => List.mem_reverse.symm) (fun _ => by simp) (fun _ => Iff.rfl)
    (fun _ => Iff.rfl)
  exact ⟨hutility, hannotated, hhelper, hkept, hturned.trans ((hcounts hkept).mpr hmarked)⟩

end CodeDigest.BusinessRules
