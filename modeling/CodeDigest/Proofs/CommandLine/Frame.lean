import CodeDigest.Proofs.CommandLine.Project
import CodeDigest.Proofs.FileTree.Frame

/-!
# What an analysis leaves alone

An analysis loads and checks its settings, chooses a narrator, detects the language, chooses the
files and reads them, asks its questions, and only then writes.  `CommandLine.ComesTo` says that it
gets as far as that, and `CommandLine.analyze_cases` lists the ways in which it can end.

`CommandLine.run_frame`: an analysis that fails has touched nothing, unless it is the report that
could not be written; one that succeeds has changed nothing but the report and the directories that
have been made for it.
-/

namespace CodeDigest.CommandLine

open FileTree

variable {σ : Type} {s : Surroundings} {settingsFile : Option String} {settings : Settings}
  {choices : Overrides} {choice : NarratorChoice} {quiet : Bool} {report : Report}

/-- An analysis comes to its report: it is prepared, the code base is read, and a text is to be
written to a path. -/
def ComesTo (transport : Transport σ) (s : Surroundings) (settingsFile : Option String)
    (choices : Overrides) (state : σ) (path text : String) : Prop :=
  ∃ settings choice c, prepare s settingsFile choices = .ok (settings, choice) ∧
    Codebase.ofTree s.tree settings = .ok c ∧ path = settings.codebase.output ∧
    text = (c.report (choice.narrator transport) s.tree settings state).1.render (metadata s choice)

/-- The text of a report is written, or it cannot be written and the run fails. -/
lemma deliver_cases :
    let outcome := deliver s quiet settings choice report
    let written := s.tree.writeText settings.codebase.output (report.render (metadata s choice))
    outcome.status = 0 ∧ written = .ok outcome.tree ∨
      outcome.status ≠ 0 ∧ ∃ fault, written = .error fault := by
  intro outcome written
  simp only [outcome, written, writeText, deliver]
  rcases s.tree.tryText settings.codebase.output (report.render (metadata s choice)) with
    ⟨tree, _ | fault⟩
  · exact .inl ⟨rfl, rfl⟩
  · exact .inr ⟨Nat.one_ne_zero, fault, rfl⟩

/-- **How an analysis ends**: it fails before there is a report, and then it has touched nothing, or
it comes to its report, which is written or cannot be written. -/
theorem analyze_cases (transport : Transport σ) (s : Surroundings) (settingsFile : Option String)
    (quiet : Bool) (choices : Overrides) (state : σ) :
    let outcome := (analyze transport s settingsFile quiet choices state).1
    outcome.status ≠ 0 ∧ outcome.tree = s.tree ∨
      ∃ path text, ComesTo transport s settingsFile choices state path text ∧
        (outcome.status = 0 ∧ s.tree.writeText path text = .ok outcome.tree ∨
          outcome.status ≠ 0 ∧ ∃ fault, s.tree.writeText path text = .error fault) := by
  intro outcome
  simp only [outcome, analyze]
  cases hprepare : prepare s settingsFile choices with
  | error failure => exact .inl ⟨Nat.one_ne_zero, rfl⟩
  | ok prepared =>
      obtain ⟨settings, choice⟩ := prepared
      cases hc : Codebase.ofTree s.tree settings with
      | error failure =>
          exact .inl ⟨by simp only [hc]; exact Nat.one_ne_zero, by simp only [hc]; rfl⟩
      | ok c =>
          simp only [hc, bind_apply, pure_apply]
          exact .inr ⟨_, _, ⟨settings, choice, c, hprepare, hc, rfl, rfl⟩, deliver_cases⟩

/-- **An analysis leaves the files alone.**

When it fails, the file tree is the one that it has found, unless it has come to its report and that
could not be written.  When it succeeds, the report is at the end of its path, where nothing or a
file was, directories have been made that were missing above it, and every other entry of the file
tree is as it was. -/
theorem run_frame {words : List String} {i : Invocation}
    (hwords : Invocation.ofArguments? words = some i) (hcommand : i.command = .analyze choices)
    (hs : s.tree.HasHere) (transport : Transport σ) (state : σ) :
    let outcome := (run transport s words state).1
    (outcome.status ≠ 0 → outcome.tree = s.tree ∨ ∃ path text fault,
      ComesTo transport s i.settingsFile choices state path text ∧
        s.tree.writeText path text = .error fault) ∧
    (outcome.status = 0 → ∃ path text names,
      ComesTo transport s i.settingsFile choices state path text ∧
        Written path text names s.tree outcome.tree) := by
  intro outcome
  have hrun : outcome = (analyze transport s i.settingsFile i.quiet choices state).1 := by
    simp only [outcome, run, hwords, perform, hcommand]
  rw [hrun]
  rcases analyze_cases transport s i.settingsFile i.quiet choices state with
    ⟨hstatus, htree⟩ | ⟨path, text, hcomes, ⟨hstatus, hwrite⟩ | ⟨hstatus, fault, hwrite⟩⟩
  · exact ⟨fun _ => .inl htree, fun h => absurd h hstatus⟩
  · obtain ⟨names, hwritten⟩ := writeText_frame hs hwrite
    exact ⟨fun h => absurd hstatus h, fun _ => ⟨path, text, names, hcomes, hwritten⟩⟩
  · exact ⟨fun _ => .inr ⟨path, text, fault, hcomes, hwrite⟩, fun h => absurd h hstatus⟩

/-- What is chosen on a command line for an analysis in a language that is not known. -/
def unknownChoices : Overrides := { offlineChoices with language := some "cobol" }

/-- An analysis in a language that is not known leaves the report of an earlier one where it is.  An
analysis of the same project without that report succeeds when nothing else is set. -/
theorem run_frame_of_project :
    let words := ["analyze", "--offline", "--language", "cobol"]
    let reported : FileTree := project (withReport "\x7b\x7d".toUTF8 [])
    let s : Surroundings := ⟨reported, [], "2024-05-01T12:00:00+00:00"⟩
    let failed := (run Transport.none s words ()).1
    let s' : Surroundings := ⟨project [], [], "2024-05-01T12:00:00+00:00"⟩
    let succeeded := (run Transport.none s' ["analyze", "--offline"] ()).1
    (failed.status = 1 ∧ failed.tree = reported ∧
      failed.tree.readText? "./output/analysis_results.json" = some "\x7b\x7d") ∧
    succeeded.status = 0 ∧ ∃ path text names,
      ComesTo Transport.none s' none offlineChoices () path text ∧
        Written path text names s'.tree succeeded.tree := by
  intro words reported s failed s' succeeded
  constructor
  · have hbare : reported.Bare := bare_withReport bare_empty _
    have hwords : Invocation.ofArguments? words = some ⟨none, false, .analyze unknownChoices⟩ := by
      rfl
    have hprepare : prepare s none unknownChoices = .error (.settings (.language "cobol")) := by
      have hload : Settings.load s.tree s.environment none = .ok .standard :=
        Settings.load_of_unset (hbare.shown_settingsFile reported.here)
      have hfault : (unknownChoices.apply .standard).fault? = some (.language "cobol") := by
        decide +kernel
      rw [prepare, hload]
      simp only [bind, Except.bind, Settings.check, hfault]
    have hstatus : failed.status = 1 := by
      simp only [failed, run, hwords, perform, analyze, hprepare]
      rfl
    have htree : failed.tree = reported := by
      refine ((run_frame hwords rfl hasHere_project Transport.none ()).1 ?_).resolve_right ?_
      · exact hstatus ▸ Nat.one_ne_zero
      · rintro ⟨path, text, fault, ⟨settings, choice, c, hprepared, -⟩, -⟩
        rw [hprepare] at hprepared
        cases hprepared
    refine ⟨hstatus, htree, ?_⟩
    rw [htree]
    exact readText?_of_locate (locate_report rfl _)
  · have hlanguage : Detection.detectLanguage (project []) "." = .unknown := by
      rw [detectLanguage_project [] rfl]
      decide +kernel
    obtain ⟨filters, hfilters, -⟩ := exists_standardFilters
    obtain ⟨buildFile, hc⟩ := ofTree_project bare_empty hlanguage hfilters
    have hstatus : succeeded.status = 0 := by
      have hrun := (run_of_bare bare_empty hc s'.timestamp).trans (deliver_project rfl rfl ..)
      exact congrArg Outcome.status hrun
    exact ⟨hstatus,
      (run_frame ofArguments?_offline rfl hasHere_project Transport.none ()).2 hstatus⟩

end CodeDigest.CommandLine
