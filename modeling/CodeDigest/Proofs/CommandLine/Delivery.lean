import CodeDigest.CommandLine
import CodeDigest.Proofs.Codebase.Lookups
import CodeDigest.Proofs.Narration.Answers

/-!
# What an offline analysis does

An analysis reads a code base and delivers a report.  Offline nobody is asked anything, so the
report is a function of the code base (`Codebase.offlineReport`), and the whole run one of what it
finds (`CommandLine.analyze_offline`).

* `Codebase.ofTree_eq_ok_iff`: a code base has been read when something is detected and the patterns
  are patterns, and its records are those of the files that are chosen.
* `CommandLine.deliver_spec`: a report that has been delivered can be read where it has been
  written, the tree has grown by nothing else, and another report can be delivered in its place.
-/

namespace CodeDigest

variable {σ : Type}

/-! ## Computations that succeed -/

/-- Two computations in a row succeed when both do. -/
lemma bind_eq_ok {α β : Type} {x : Except Failure α} {f : α → Except Failure β} {b : β} :
    (x >>= f) = .ok b ↔ ∃ a, x = .ok a ∧ f a = .ok b := by
  cases x <;> simp [bind, Except.bind]

lemma mapError_eq_ok {ε α : Type} {x : Except ε α} {f : ε → Failure} {a : α} :
    x.mapError f = .ok a ↔ x = .ok a := by
  cases x <;> simp [Except.mapError]

/-! ## Code bases -/

namespace Codebase

variable {t : FileTree} {s : Settings} {c : Codebase}

/-- The language of a code base: one that is given, or else the one that is detected. -/
def languageIn (t : FileTree) (s : Settings) : Language :=
  match s.codebase.language with
  | .ok (some l) => l
  | _ => Detection.detectLanguage t s.codebase.path

/-- The names of the files that settings choose in a tree. -/
def chosenNames (t : FileTree) (s : Settings) : List (List String) :=
  match FileChoice.ofOptions (scanOptions s.codebase (languageIn t s)) with
  | .ok choice => (chosenFiles t s.codebase.path choice).map (·.names)
  | .error _ => []

lemma isDirectory_of_detect {given : Option Language} {d : Detection} {root : String}
    (h : Detection.detect t root given = .ok d) : t.isDirectory root = true := by
  unfold Detection.detect at h
  split_ifs at h with hdir
  exact hdir

lemma language_of_detect {given : Option Language} {d : Detection}
    (hgiven : s.codebase.language = .ok given)
    (h : Detection.detect t s.codebase.path given = .ok d) : d.language = languageIn t s := by
  unfold Detection.detect at h
  split_ifs at h
  obtain rfl := Except.ok.inj h
  cases given <;> simp [languageIn, hgiven]

/-- **A code base has been read** when something is detected of it and its patterns are patterns;
the records are those of the chosen files. -/
theorem ofTree_eq_ok_iff : ofTree t s = .ok c ↔
    ∃ given choice, s.codebase.language = .ok given ∧
      Detection.detect t s.codebase.path given = .ok c.detection ∧
      FileChoice.ofOptions (scanOptions s.codebase c.detection.language) = .ok choice ∧
      c.paths = chosenPaths t s.codebase.path choice ∧
      c.files = SourceFile.ofTree s.rules c.detection.language t s.codebase.path
        (chosenPaths t s.codebase.path choice) := by
  constructor
  · intro h
    obtain ⟨given, hgiven, h⟩ := bind_eq_ok.mp h
    obtain ⟨detection, hdetect, h⟩ := bind_eq_ok.mp h
    obtain ⟨choice, hchoice, h⟩ := bind_eq_ok.mp h
    rw [scan_eq (isDirectory_of_detect hdetect)] at h
    obtain rfl := Except.ok.inj h
    exact ⟨given, choice, mapError_eq_ok.mp hgiven, hdetect, hchoice, rfl, rfl⟩
  · obtain ⟨detection, paths, files⟩ := c
    dsimp only
    rintro ⟨given, choice, hgiven, hdetect, hchoice, rfl, rfl⟩
    refine bind_eq_ok.mpr ⟨given, mapError_eq_ok.mpr hgiven, bind_eq_ok.mpr ⟨_, hdetect,
      bind_eq_ok.mpr ⟨choice, hchoice, ?_⟩⟩⟩
    rw [scan_eq (isDirectory_of_detect hdetect)]
    rfl

/-- The report that is written offline. -/
def offlineReport (s : Settings) (c : Codebase) : Report :=
  .offline s.analysis c.files (ProjectOverview.ofDraft .empty c.detection)

lemma report_offline (t : FileTree) (s : Settings) (c : Codebase) (state : σ) :
    (c.report Narrator.offline t s state).1 = c.offlineReport s := by
  simp only [report, ProjectOverview.build, bind_apply]
  rw [Report.ofFiles_of_silent Narrator.silent_offline]
  rfl

end Codebase

/-! ## Delivery -/

namespace CommandLine

variable {s : Surroundings} {settingsFile : Option String} {settings : Settings}
  {choices : Overrides} {quiet : Bool}

/-- An offline analysis reads the code base and delivers the report on it. -/
lemma analyze_offline (hprepare : prepare s settingsFile choices = .ok (settings, .offline))
    (transport : Transport σ) (quiet : Bool) (state : σ) :
    (analyze transport s settingsFile quiet choices state).1
      = match Codebase.ofTree s.tree settings with
        | .error failure =>
          .failure (unlessQuiet quiet (announcement .offline)) failure s.tree
        | .ok c => deliver s quiet settings .offline (c.offlineReport settings) := by
  simp only [analyze, hprepare]
  cases Codebase.ofTree s.tree settings with
  | error failure => rfl
  | ok c =>
      simp only [bind_apply, pure_apply]
      rw [NarratorChoice.narrator, Codebase.report_offline]

/-- What is printed by a run that ends well. -/
def deliveredText (quiet : Bool) (settings : Settings) (choice : NarratorChoice) (report : Report) :
    String :=
  unlessQuiet quiet (announcement choice)
    ++ unlessQuiet quiet (report.summary settings.codebase.output)

lemma deliver_of_write {choice : NarratorChoice} {report : Report} {t₁ t' : FileTree}
    (hparent : s.tree.makeParent settings.codebase.output = .ok t₁)
    (hwrite : t₁.write settings.codebase.output (report.render (metadata s choice)).toUTF8
      = .ok t') :
    deliver s quiet settings choice report
      = .success (deliveredText quiet settings choice report) t' := by
  simp only [deliver, FileTree.tryText_eq_iff.mpr ⟨t₁, hparent, hwrite⟩]
  rfl

/-- Where a report has been delivered its directory has been made and it has been written. -/
lemma exists_write_of_deliver {choice : NarratorChoice} {report : Report}
    (hstatus : (deliver s quiet settings choice report).status = 0) :
    ∃ t₁ t', s.tree.makeParent settings.codebase.output = .ok t₁ ∧
      t₁.write settings.codebase.output (report.render (metadata s choice)).toUTF8 = .ok t' := by
  cases hattempt : s.tree.tryText settings.codebase.output (report.render (metadata s choice)) with
  | mk t' fault? =>
      cases fault? with
      | none =>
          obtain ⟨t₁, hparent, hwrite⟩ := FileTree.tryText_eq_iff.mp hattempt
          exact ⟨t₁, t', hparent, hwrite⟩
      | some fault =>
          simp only [deliver, hattempt] at hstatus
          cases hstatus

/-- **A report that has been delivered** is in the tree, which has grown by nothing else, and
another report can be delivered in its place. -/
theorem deliver_spec {choice : NarratorChoice} {report : Report} (hs : s.tree.HasHere)
    (hstatus : (deliver s quiet settings choice report).status = 0) :
    ∃ t' names, deliver s quiet settings choice report
        = .success (deliveredText quiet settings choice report) t' ∧
      t'.readText? settings.codebase.output = some (report.render (metadata s choice)) ∧
      t'.canonical? settings.codebase.output = some names ∧
      (∀ keeps, keeps names = false → s.tree.Grows keeps t') ∧
      ∀ timestamp report', ∃ t'',
        deliver ⟨t', s.environment, timestamp⟩ quiet settings choice report'
            = .success (deliveredText quiet settings choice report') t'' ∧
          t''.readText? settings.codebase.output
            = some (report'.render (metadata ⟨t', s.environment, timestamp⟩ choice)) := by
  obtain ⟨t₁, t', hparent, hwrite⟩ := exists_write_of_deliver hstatus
  obtain ⟨hgrows₁, hagain⟩ := FileTree.makeParent_spec hs hparent
  obtain ⟨husable, hslash, names, hloc, hgrows⟩ :=
    FileTree.write_spec ((hgrows₁ fun _ => true).hasHere hs) hwrite
  have hs' : t'.HasHere := ((hgrows₁ _).trans (hgrows (fun _ => false) rfl)).hasHere hs
  refine ⟨t', names, deliver_of_write hparent hwrite, FileTree.readText?_of_locate hloc, ?_,
    fun keeps hkeeps => (hgrows₁ keeps).trans (hgrows keeps hkeeps), fun timestamp report' => ?_⟩
  · rw [FileTree.canonical?, hloc]
  · obtain ⟨t'', hwrite'⟩ := FileTree.write_again hloc hslash
      (report'.render (metadata ⟨t', s.environment, timestamp⟩ choice)).toUTF8
    obtain ⟨-, -, names', hloc', -⟩ := FileTree.write_spec hs' hwrite'
    have hparent' := hagain husable (fun _ => false) t' (hgrows _ rfl)
    exact ⟨t'', deliver_of_write (s := ⟨t', s.environment, timestamp⟩) hparent' hwrite',
      FileTree.readText?_of_locate hloc'⟩

end CommandLine

end CodeDigest
