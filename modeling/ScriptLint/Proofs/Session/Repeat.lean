import ScriptLint.Proofs.Session.Deactivated
import ScriptLint.Proofs.Session.Update

/-!
# Updating the report again

Updating the report reads the files of the workspace and writes one file.  Where this file
is kept aside from what the workspace sees, an update finds what the one before it found,
so it writes the same text and leaves everything as it is.
-/

namespace ScriptLint

namespace Session

variable {session later : Session} {report : Path} {paths : List Path} {outcome : Option Path}

/-- What the report has on a file: nothing if the file cannot be read or checked. -/
def reportGroup? (session : Session) (path : Path) : Option (String × List Diagnostic) :=
  (session.checked? path).map fun result =>
    (path.toString, Diagnostic.ofResult path.toString result)

theorem ofDiagnostics_reported (distinct : (paths.map Path.toString).Nodup) :
    Report.ofDiagnostics (paths.flatMap session.reported) =
      Report.render (paths.filterMap session.reportGroup?) := by
  rw [ofDiagnostics_of_part distinct fun path _ => Or.inl rfl]
  refine (Report.render_map_getD paths Path.toString fun path =>
    (session.checked? path).map (Diagnostic.ofResult path.toString)).trans ?_
  simp only [Option.map_map]
  rfl

section Updating

theorem of_updateReport_some (updated : session.updateReport.1 = .ok (some report)) :
    session.workspace.reportPath? = some report ∧
      ∃ paths, session.workspace.files session.files = .ok paths := by
  unfold updateReport at updated
  split at updated
  · simp at updated
  · rename_i path kept
    split at updated
    · simp at updated
    · rename_i paths listed
      split at updated
      · simp at updated
      · obtain ⟨rfl, -, -⟩ := of_writeReport (Prod.ext updated rfl)
        exact ⟨kept, paths, listed⟩

theorem updateReport_keepsFiles (quiet : session.interruptions = []) :
    session.KeepsFiles session.updateReport.2 := by
  obtain ⟨follows, -, same | written⟩ := updateReport_effect quiet
  · exact keepsFiles_of_eq same
  · exact written.keepsFiles follows

theorem files_updateReport_of_unlisted
    (nothing : session.workspace.reportPath? = none ∨
      ∃ error, session.workspace.files session.files = .error error) :
    session.updateReport.2.files = session.files := by
  unfold updateReport
  split
  · rfl
  · rename_i path kept
    rcases nothing with none | ⟨error, unlisted⟩
    · simp [none] at kept
    · simp only [unlisted]
      rfl

/-- An update that comes to an end replaces the report, or tries to. -/
theorem files_updateReport_cases (quiet : session.interruptions = [])
    (resolved : ∀ path ∈ paths, path.resolve = path)
    (kept : session.workspace.reportPath? = some report)
    (listed : session.workspace.files session.files = .ok paths) :
    (∃ failure, session.updateReport.1 = .error failure) ∧
        session.updateReport.2.files = session.files ∨
      session.updateReport.2.files = (session.files.replaceFile report
        (Utf8.encode (Report.ofDiagnostics (paths.flatMap session.reported)).toList)).2 := by
  have rests := checkFiles_rests quiet paths
  unfold updateReport
  simp only [kept, listed]
  cases checked : session.checkFiles paths with
  | mk result after =>
      rw [checked] at rests
      cases result with
      | error failure => exact Or.inl ⟨⟨failure, rfl⟩, rests.files⟩
      | ok diagnostics =>
          right
          obtain ⟨-, -, replaced⟩ := writeReport_effect after updatingWords report diagnostics
          rw [← of_checkFiles quiet resolved (by rw [checked]), ← rests.files]
          exact replaced

end Updating

/-- An update that comes to an end leaves everything as it is the next time. -/
theorem files_updateReport_again (regular : session.Regular)
    (returned : session.updateReport.1 = .ok outcome)
    (aside : ∀ report, session.workspace.reportPath? = some report →
      session.workspace.KeepsAside session.files report) :
    session.updateReport.2.updateReport.2.files = session.updateReport.2.files := by
  have quiet := regular.undisturbed
  have follows := (updateReport_effect quiet).1
  have unlistedAgain : (session.workspace.reportPath? = none ∨
      ∃ error, session.workspace.files session.files = .error error) →
        session.updateReport.2.updateReport.2.files = session.updateReport.2.files := by
    intro nothing
    apply files_updateReport_of_unlisted
    rwa [follows.workspace, files_updateReport_of_unlisted nothing]
  cases kept : session.workspace.reportPath? with
  | none => exact unlistedAgain (Or.inl kept)
  | some report =>
      cases listed : session.workspace.files session.files with
      | error error => exact unlistedAgain (Or.inr ⟨error, listed⟩)
      | ok paths =>
          have resolved := regular.resolved listed
          rcases files_updateReport_cases quiet resolved kept listed with ⟨⟨_, failed⟩, -⟩ | first
          · simp [failed] at returned
          · have sees := (aside report kept).seesSame regular.rooted resolved listed
              (Utf8.encode (Report.ofDiagnostics (paths.flatMap session.reported)).toList)
            rw [← first] at sees
            have second := files_updateReport_cases (follows.undisturbed quiet) resolved
              (by rw [follows.workspace, kept]) (by rw [follows.workspace]; exact sees.listed)
            rw [flatMap_reported_of_seesSame follows sees] at second
            rcases second with ⟨-, same⟩ | replaced
            · exact same
            · rw [replaced, first, FileTree.replaceFile_again]

/-- Updating the report is a function of the sources: it leaves what is stored and every other
file alone, and what it writes is the report on the listed files in their order, each with what
a check of its present text finds.  Where the report is kept aside from what the workspace sees,
the next update leaves everything as it is. -/
theorem updateReport_pure_idempotent (regular : session.Regular)
    (returned : session.updateReport.1 = .ok outcome) :
    session.updateReport.2.store = session.store ∧
      session.updateReport.2.workspace = session.workspace ∧
      session.KeepsFiles session.updateReport.2 ∧
      (∀ report, outcome = some report →
        session.workspace.reportPath? = some report ∧
          ∃ paths, session.workspace.files session.files = .ok paths ∧
            session.updateReport.2.files.HoldsText report
              (Report.render (paths.filterMap session.reportGroup?))) ∧
      ((∀ report, session.workspace.reportPath? = some report →
          session.workspace.KeepsAside session.files report) →
        session.updateReport.2.updateReport.2.files = session.updateReport.2.files) := by
  have quiet := regular.undisturbed
  obtain ⟨follows, stored, -⟩ := updateReport_effect quiet
  refine ⟨stored, follows.workspace, updateReport_keepsFiles quiet, ?_,
    files_updateReport_again regular returned⟩
  rintro report rfl
  obtain ⟨kept, paths, listed⟩ := of_updateReport_some returned
  refine ⟨kept, paths, listed, ?_⟩
  rw [← ofDiagnostics_reported
    (Workspace.nodup_texts_files regular.named regular.rooted listed)]
  exact of_updateReport quiet (regular.resolved listed) listed returned

section Samples

theorem updateReport_mixedSession :
    (projectSession mixedFiles).updateReport.1 = .ok (some projectReport) := by
  have regular := regular_mixedSession
  have free : ∀ path ∈ mixedPaths, path.holdsNull = false := fun path member =>
    Workspace.free_of_mem_files regular.named regular.rooted listed_mixedSession member
  exact updateReport_of_replaced rfl rfl listed_mixedSession
    (not_checkEscapes free wellFormed_mixedSession) fun _ => rfl

theorem updateReport_pure_idempotent_mixedSession :
    (projectSession mixedFiles).updateReport.2.store = (projectSession mixedFiles).store ∧
      (projectSession mixedFiles).updateReport.2.files.HoldsText projectReport
        (Report.render [("/tmp/lintsync/a.js", [quotesNote "/tmp/lintsync/a.js"]),
          ("/tmp/lintsync/src/c.js", [brokenNote "/tmp/lintsync/src/c.js"]),
          ("/tmp/lintsync/src/d.js", [quotesNote "/tmp/lintsync/src/d.js"])]) ∧
      (projectSession mixedFiles).updateReport.2.updateReport.2.files =
        (projectSession mixedFiles).updateReport.2.files := by
  have regular := regular_mixedSession
  obtain ⟨stored, -, -, written, again⟩ :=
    updateReport_pure_idempotent regular updateReport_mixedSession
  obtain ⟨-, paths, listed, holds⟩ := written projectReport rfl
  obtain rfl := Except.ok.inj (listed_mixedSession.symm.trans listed)
  have sections : mixedPaths.filterMap (projectSession mixedFiles).reportGroup? =
      [("/tmp/lintsync/a.js", [quotesNote "/tmp/lintsync/a.js"]),
        ("/tmp/lintsync/src/c.js", [brokenNote "/tmp/lintsync/src/c.js"]),
        ("/tmp/lintsync/src/d.js", [quotesNote "/tmp/lintsync/src/d.js"])] := by
    decide +kernel
  rw [sections] at holds
  exact ⟨stored, holds, again fun report kept =>
    keepsAside_of_default rfl regular.rooted listed kept⟩

/-- A file with an error beside an ignore file that is no text and that is looked for on a way
through the folder of the report. -/
def detourSession : Session :=
  { brokenSession { ignoreName := "lint-report/../hidden" } "a.js" with
    files := projectFiles [("a.js", brokenFile), ("hidden", rawFile)] }

theorem regular_detourSession : detourSession.Regular := by
  refine regular_of_project rfl rfl rfl (isNamed_projectFiles (by decide) ?_)
  simp only [List.forall_mem_cons, List.not_mem_nil, false_implies, implies_true, and_true]
  exact ⟨.file _ _, .file _ _⟩

theorem ineligible_detourSession : ¬detourSession.workspace.Eligible projectReport.resolve := by
  rintro ⟨accepted, -⟩
  exact Bool.false_ne_true (unaccepted_default.symm.trans accepted)

/-- Where a folder that is made for the report opens the way to the ignore file, the next
update writes another report. -/
theorem updateReport_differs_detourSession :
    detourSession.Regular ∧ detourSession.workspace.reportPath? = some projectReport ∧
      ¬detourSession.workspace.Eligible projectReport.resolve ∧
      (∀ ignore, detourSession.workspace.ignorePath? = some ignore →
        ignore.resolve.names ≠ projectReport.resolve.names) ∧
      detourSession.updateReport.1 = .ok (some projectReport) ∧
      detourSession.updateReport.2.updateReport.2.files ≠ detourSession.updateReport.2.files := by
  refine ⟨regular_detourSession, rfl, ineligible_detourSession, ?_,
    eq_ok_of_toOption (by decide +kernel), ?_⟩
  · intro ignore known
    obtain rfl : projectPath ["lint-report", "..", "hidden"] = ignore := Option.some.inj known
    decide
  · intro same
    have bytes := congrArg (fun files => (files.readBytes projectReport).toOption) same
    revert bytes
    decide +kernel

end Samples

end Session

end ScriptLint
