import CodeDigest.Proofs.Component.KeyMethods
import CodeDigest.Proofs.Narration.Locality
import CodeDigest.Proofs.Narration.Requests

/-!
# Sections that fit each other

The sections of a report are computed on their own: the statistics file by file, the components name
by name, the key methods class by class, the complexity from the scores alone.  `Report.Fits` lists
what nevertheless holds between them, and `Report.fits_ofFiles` says that it holds in every report,
whoever narrates.

Each inequality has a counting argument of its own.  Entering a declaration adds at most one name
(`ComponentMap.total_enter_le`), a class contributes no more key methods than it has business
methods (`KeyMethod.length_ofClass_le`), and a file is counted under one type
(`Statistics.sum_fileTypes`).  What a narrator adds touches none of this, so it is shown of the
figures only (`Report.Fits.of_bare`).
-/

namespace CodeDigest

variable {files : List SourceFile} {m : ComponentMap} {k : KeyMethod}

/-- Sums of counts of which none is larger. -/
lemma sumOf_map_le {α : Type} {f g : α → Nat} {xs : List α} (h : ∀ x ∈ xs, f x ≤ g x) :
    sumOf (xs.map f) ≤ sumOf (xs.map g) := by
  induction xs with
  | nil => simp
  | cons x xs ih =>
      have hx := h x (by simp)
      have hxs := ih fun y hy => h y (by simp [hy])
      simp only [List.map_cons, sumOf_cons]
      omega

/-- A flattened list is as long as its parts together. -/
lemma length_flatMap_eq_sumOf {α β : Type} (f : α → List β) (xs : List α) :
    (xs.flatMap f).length = sumOf (xs.map fun x => (f x).length) := by
  induction xs with
  | nil => rfl
  | cons x xs ih => simp [ih]

/-! ## Counts -/

namespace Statistics

/-- Every file is counted once. -/
lemma sum_fileTypes (files : List SourceFile) (counts : List (String × Nat)) :
    sumOf ((files.foldl (fun counts f => countKey f.fileType counts) counts).map (·.2))
      = sumOf (counts.map (·.2)) + files.length := by
  induction files generalizing counts with
  | nil => simp
  | cons f files ih =>
      rw [List.foldl_cons, ih, sum_countKey, List.length_cons]
      omega

lemma word_of_lt {n : Nat} (h : n < 0x10000000000000000) : word n = n := Nat.mod_eq_of_lt h

/-- There are no more lines of code than lines, if this holds of every file. -/
lemma totalCodeLines_le (hsum : sumOf (files.map (·.totalLines)) < 0x10000000000000000)
    (h : ∀ f ∈ files, f.codeLines ≤ f.totalLines) :
    (ofFiles files).totalCodeLines ≤ (ofFiles files).totalLines := by
  have hle : sumOf (files.map (·.codeLines)) ≤ sumOf (files.map (·.totalLines)) := sumOf_map_le h
  simp only [ofFiles]
  rw [word_of_lt hsum, word_of_lt (by omega)]
  exact hle

end Statistics

/-- There are as many declarations as classes in the files. -/
lemma length_declarations (files : List SourceFile) :
    (declarations files).length = sumOf (files.map (·.classes.length)) := by
  simp only [declarations, length_flatMap_eq_sumOf, List.length_map]

namespace ComponentMap

/-- A declaration adds at most one name. -/
lemma total_enter_le (m : ComponentMap) (d : Declaration) : (m.enter d).total ≤ m.total + 1 := by
  unfold enter addClass
  split
  · omega
  · split
    · simp
    · omega

/-- There are no more components than declarations. -/
lemma total_ofFiles_le (files : List SourceFile) :
    (ofFiles files).total ≤ (declarations files).length := by
  rw [ofFiles_eq_foldl]
  generalize declarations files = ds
  induction ds using List.reverseRecOn with
  | nil => simp
  | append_singleton ds d ih =>
      have hstep := total_enter_le (ds.foldl enter empty) d
      rw [List.foldl_concat, List.length_append, List.length_singleton]
      omega

/-- Every component is named after a class. -/
lemma exists_class_of_mem_names {name : String} (h : name ∈ (ofFiles files).names) :
    ∃ f ∈ files, ∃ c ∈ f.classes, c.name = name := by
  rw [mem_names, (lists_ofFiles files).exists_mem_get_iff] at h
  obtain ⟨d, hd, hname, -⟩ := h
  obtain ⟨f, hf, hd⟩ := List.mem_flatMap.mp hd
  obtain ⟨c, hc, rfl⟩ := List.mem_map.mp hd
  exact ⟨f, hf, c, hc, hname⟩

/-- A name is listed under one role only. -/
lemma eq_of_mem_get {name : String} {role other : Role} (h : name ∈ (ofFiles files).get role)
    (h' : name ∈ (ofFiles files).get other) : other = role := by
  obtain ⟨i, hi⟩ := ((lists_ofFiles files).mem_get name role).mp h
  obtain ⟨j, hj⟩ := ((lists_ofFiles files).mem_get name other).mp h'
  exact (hj.unique hi).2

end ComponentMap

namespace KeyMethod

/-- A class has at most its business methods to contribute. -/
lemma length_ofClass_le (m : ComponentMap) (c : SourceClass) :
    (ofClass m c).length ≤ c.businessMethods.length := by
  unfold ofClass
  split
  · split
    · simp
    · simp
  · simp

/-- There are no more key methods than business methods. -/
lemma length_ofFiles_le (m : ComponentMap) (files : List SourceFile) :
    (ofFiles m files).length ≤ sumOf (files.map Statistics.businessCount) := by
  rw [ofFiles, List.flatMap_assoc, length_flatMap_eq_sumOf]
  refine sumOf_map_le fun f _ => ?_
  rw [length_flatMap_eq_sumOf, Statistics.businessCount]
  exact sumOf_map_le fun c _ => length_ofClass_le m c

/-- A key method belongs to a controller or a service, and its class is listed under this role
only. -/
lemma role_of_mem_ofFiles (h : k ∈ ofFiles (.ofFiles files) files) :
    ∃ role, k.role = some role ∧ (role = .controllers ∨ role = .services) ∧
      ∀ other, k.className ∈ (ComponentMap.ofFiles files).get other ↔ other = role := by
  obtain ⟨d, -, i, role, hfirst, hkey, method, -, rfl⟩ := mem_ofFiles_iff.mp h
  have hmem : d.name ∈ (ComponentMap.ofFiles files).get role :=
    ((ComponentMap.lists_ofFiles files).mem_get d.name role).mpr ⟨i, hfirst⟩
  refine ⟨role, rfl, ?_, fun other => ⟨ComponentMap.eq_of_mem_get hmem, ?_⟩⟩
  · cases role <;> simp_all [Role.hasKeyMethods]
  · rintro rfl
    exact hmem

end KeyMethod

/-! ## Complexity -/

namespace ComplexityMetrics

/-- There are figures unless no file has a complexity. -/
lemma ofFiles?_eq_none_iff (files : List SourceFile) (threshold : Float) :
    ofFiles? files threshold = none ↔ ∀ f ∈ files, f.complexity = none := by
  rw [← Option.not_isSome_iff_eq_none, isSome_ofFiles?]
  simp

/-- The files above the threshold are some of those with a complexity, in their order. -/
lemma highComplexityFiles_sublist {threshold : Float} {metrics : ComplexityMetrics}
    (h : ofFiles? files threshold = some metrics) :
    List.Sublist metrics.highComplexityFiles
      ((files.filter (·.complexity.isSome)).map (·.path)) := by
  unfold ofFiles? at h
  split at h
  · cases h
  · obtain rfl := Option.some.inj h
    refine List.Sublist.map _ (List.monotone_filter_right files fun f hf => ?_)
    unfold isHigh at hf
    split at hf
    next c hc => simp [hc]
    · cases hf

end ComplexityMetrics

/-! ## Reports -/

/-- The sections of a report fit each other and the files that the report is about. -/
structure Report.Fits (files : List SourceFile) (r : Report) : Prop where
  /-- Every file is counted under one type. -/
  fileTypes : sumOf (r.statistics.fileTypes.map (·.2)) = r.statistics.totalFiles
  componentCount : r.keyComponents.total ≤ r.statistics.totalClasses
  componentNames : ∀ name ∈ r.keyComponents.names, ∃ f ∈ files, ∃ c ∈ f.classes, c.name = name
  keyMethodCount : r.keyMethods.length ≤ r.statistics.totalMethods
  /-- The class of a key method is listed under the role of the method and under no other. -/
  keyMethodRoles : ∀ k ∈ r.keyMethods, ∃ role, k.role = some role ∧
    (role = .controllers ∨ role = .services) ∧
      ∀ other, k.className ∈ r.keyComponents.get other ↔ other = role
  noData : (∃ message, r.complexitySummary = .noData message) ↔ ∀ f ∈ files, f.complexity = none
  highComplexityFiles : ∀ metrics interpretation,
    r.complexitySummary = .measured metrics interpretation →
      List.Sublist metrics.highComplexityFiles
        ((files.filter (·.complexity.isSome)).map (·.path))
  codeLines : (∀ f ∈ files, f.codeLines ≤ f.totalLines) →
    r.statistics.totalCodeLines ≤ r.statistics.totalLines

/-- What a narrator has said does not matter. -/
lemma Report.Fits.of_bare {r : Report} (h : r.bare.Fits files) : r.Fits files where
  fileTypes := h.fileTypes
  componentCount := h.componentCount
  componentNames := h.componentNames
  keyMethodCount := by simpa [Report.bare] using h.keyMethodCount
  keyMethodRoles := fun k hk => h.keyMethodRoles k.bare (List.mem_map_of_mem hk)
  noData := by
    rw [← h.noData]
    cases hs : r.complexitySummary <;> simp [Report.bare, hs, ComplexitySummary.bare]
  highComplexityFiles := by
    intro metrics interpretation hs
    exact h.highComplexityFiles metrics none (by rw [Report.bare, hs, ComplexitySummary.bare])
  codeLines := h.codeLines

lemma Report.fits_figures (options : AnalysisOptions) (overview : ProjectOverview)
    (hsum : sumOf (files.map (·.totalLines)) < 0x10000000000000000) :
    (figures options files overview).Fits files where
  fileTypes := by simpa [figures, Statistics.ofFiles] using Statistics.sum_fileTypes files []
  componentCount := by
    rw [figures, Statistics.ofFiles, ← length_declarations]
    exact ComponentMap.total_ofFiles_le files
  componentNames := fun _ h => ComponentMap.exists_class_of_mem_names h
  keyMethodCount := KeyMethod.length_ofFiles_le _ files
  keyMethodRoles := fun _ h => KeyMethod.role_of_mem_ofFiles h
  noData := by
    rw [← ComplexityMetrics.ofFiles?_eq_none_iff files options.highComplexityThreshold, figures,
      ComplexitySummary.ofAnswer]
    cases ComplexityMetrics.ofFiles? files options.highComplexityThreshold <;> simp
  highComplexityFiles := by
    intro metrics interpretation hs
    rw [figures, ComplexitySummary.ofAnswer] at hs
    cases hfigures : ComplexityMetrics.ofFiles? files options.highComplexityThreshold with
    | none => simp [hfigures] at hs
    | some found =>
        simp only [hfigures, ComplexitySummary.measured.injEq] at hs
        obtain ⟨rfl, -⟩ := hs
        exact ComplexityMetrics.highComplexityFiles_sublist hfigures
  codeLines := Statistics.totalCodeLines_le hsum

/-- **The sections of every report fit each other**, whoever narrates. -/
theorem Report.fits_ofFiles {σ : Type} (narrator : Narrator σ) (options : AnalysisOptions)
    (files : List SourceFile) (overview : ProjectOverview) (context : ProjectContext) (s : σ)
    (hsum : sumOf (files.map (·.totalLines)) < 0x10000000000000000) :
    ((ofFiles narrator options files overview context s).1).Fits files := by
  refine .of_bare ?_
  rw [bare_ofFiles]
  exact fits_figures options overview hsum

/-- Two files that declare the same controller make one component and two key methods. -/
theorem Report.fits_ofFiles_of_same_name :
    let r := (ofFiles .offline .standard [shopFile, shopFile] shopOverview shopContext ()).1
    r.Fits [shopFile, shopFile] ∧ r.keyComponents.names = ["ShopController"] ∧
      r.keyMethods.length = 2 := by
  have hsum : sumOf ([shopFile, shopFile].map (·.totalLines)) < 0x10000000000000000 := by decide
  refine ⟨fits_ofFiles .offline .standard _ shopOverview shopContext () hsum, ?_, ?_⟩
  · rfl
  · rfl

end CodeDigest
