import ScriptLint.Proofs.Session.Agreement
import ScriptLint.Proofs.Workspace.Standard

/-!
# Two ways to the report

The report is saved from what a scan found or written anew by checking all files.  On the
same files the two ways differ for those whose language is not known, which a scan leaves
out.  Under the default settings these are the files whose names are nothing but a suffix.
-/

namespace ScriptLint

namespace Session

variable {session later : Session} {path report : Path} {paths : List Path}

/-- The diagnostics of a file in a report that is written anew, whatever its language. -/
def reported (session : Session) (path : Path) : List Diagnostic :=
  ((session.checked? path).map (Diagnostic.ofResult path.toString)).getD []

theorem findings_eq_reported :
    session.findings path =
      if path.language?.isNone = true then [] else session.reported path := by
  unfold findings findings? reported
  split
  · rfl
  · rfl

theorem reported_eq_nil_iff :
    session.reported path = [] ↔
      ∀ result, session.checked? path = some result → result.messages = [] := by
  unfold reported
  cases session.checked? path with
  | none => simp
  | some result => simp [Diagnostic.ofResult]

section Updating

theorem checkFile_eq_checked? (quiet : session.interruptions = [])
    (resolved : path.resolve = path) :
    (session.checkFile path).1.toOption =
      (session.checked? path).map (Diagnostic.ofResult path.toString) := by
  unfold checkFile
  cases opened : Document.open session.files path with
  | error error =>
      rw [checked?_of_unopened resolved opened]
      rfl
  | ok document =>
      obtain ⟨-, located, -, read⟩ := open_eq_ok_iff.mp opened
      rw [resolved] at located read
      dsimp only
      rw [check_of_undisturbed quiet, located, checked?, read]
      cases checked : session.lintResult path.toString document.text with
      | error failure => simp [Except.toOption, checked]
      | ok result => simp [Except.toOption, checked]

theorem of_checkFiles {diagnostics : List Diagnostic} (quiet : session.interruptions = [])
    (resolved : ∀ path ∈ paths, path.resolve = path)
    (returned : (session.checkFiles paths).1 = .ok diagnostics) :
    diagnostics = paths.flatMap session.reported := by
  induction paths generalizing session diagnostics with
  | nil => exact (Except.ok.inj returned).symm
  | cons path rest induction =>
      obtain ⟨resolvedHere, resolvedRest⟩ := List.forall_mem_cons.mp resolved
      have rests := checkFile_rests quiet path
      have own := checkFile_eq_checked? quiet resolvedHere
      have onward : ∀ (after : Session) others, after.Rests session →
          (after.checkFiles rest).1 = .ok others → others = rest.flatMap session.reported := by
        intro after others restsAfter checked
        rw [induction (restsAfter.undisturbed quiet) resolvedRest checked]
        refine List.flatMap_congr fun path _ => ?_
        rw [reported, reported, checked?_congr restsAfter.toFollows restsAfter.files]
      rw [List.flatMap_cons, reported, ← own]
      rw [checkFiles] at returned
      split at returned
      · rename_i here after checked
        rw [checked] at rests ⊢
        split at returned
        · rename_i others last checkedRest
          obtain rfl := Except.ok.inj returned
          rw [onward after others rests (by rw [checkedRest])]
          rfl
        · simp at returned
      · rename_i failure after checked
        rw [checked] at rests ⊢
        split at returned
        · exact onward _ _ ((rests_notify after _ _).trans rests) returned
        · simp at returned

theorem of_updateReport (quiet : session.interruptions = [])
    (resolved : ∀ path ∈ paths, path.resolve = path)
    (listed : session.workspace.files session.files = .ok paths)
    (updated : session.updateReport.1 = .ok (some report)) :
    session.updateReport.2.files.HoldsText report
      (Report.ofDiagnostics (paths.flatMap session.reported)) := by
  unfold updateReport at updated ⊢
  split at updated
  · simp at updated
  · rename_i kept path
    simp only [listed] at updated ⊢
    cases checked : session.checkFiles paths with
    | mk outcome after =>
        cases outcome with
        | error failure => simp [checked] at updated
        | ok diagnostics =>
            simp only [checked] at updated ⊢
            rw [← of_checkFiles quiet resolved (by rw [checked])]
            obtain ⟨rfl, -, replaced⟩ := of_writeReport (Prod.ext updated rfl)
            exact FileTree.find_of_replaceFile replaced

end Updating

section Comparing

/-- Where a report has for each file the diagnostics of a check or none, it comes file by
file. -/
theorem ofDiagnostics_of_part {found : Path → List Diagnostic}
    (distinct : (paths.map Path.toString).Nodup)
    (part : ∀ path ∈ paths, found path = session.reported path ∨ found path = []) :
    Report.ofDiagnostics (paths.flatMap found) =
      Report.render (paths.map fun path => (path.toString, found path)) := by
  have about : ∀ path, ∀ diagnostic ∈ session.reported path,
      diagnostic.path = path.toString := by
    intro path diagnostic member
    unfold reported at member
    cases checked : session.checked? path with
    | none => simp [checked] at member
    | some result =>
        rw [checked] at member
        obtain ⟨message, -, rfl⟩ := List.mem_map.mp member
        rfl
  have byFile : Report.ByFile (paths.map fun path => (path.toString, found path)) := by
    refine ⟨by rw [List.map_map]; exact distinct, ?_⟩
    intro entry member diagnostic inEntry
    obtain ⟨path, listed, rfl⟩ := List.mem_map.mp member
    rcases part path listed with checked | none
    · rw [checked] at inEntry
      exact about path diagnostic inEntry
    · simp [none] at inEntry
  rw [← Report.ofDiagnostics_flatMap byFile, List.flatMap_map]

theorem ofDiagnostics_findings_eq_iff (distinct : (paths.map Path.toString).Nodup) :
    Report.ofDiagnostics (paths.flatMap session.findings) =
        Report.ofDiagnostics (paths.flatMap session.reported) ↔
      ∀ path ∈ paths, path.language?.isNone = true → session.reported path = [] := by
  have part : ∀ path ∈ paths, session.findings path = session.reported path ∨
      session.findings path = [] := by
    intro path _
    rw [findings_eq_reported]
    split
    · exact Or.inr rfl
    · exact Or.inl rfl
  rw [ofDiagnostics_of_part distinct part,
    ofDiagnostics_of_part distinct fun path _ => Or.inl rfl, Report.render_eq_iff part]
  refine forall₂_congr fun path _ => ?_
  rw [findings_eq_reported]
  split
  · rename_i unknown
    exact ⟨fun none _ => none.symm, fun none => (none unknown).symm⟩
  · rename_i known
    simp [known]

end Comparing

section Unchanged

theorem checked?_of_seesSame (follows : later.Follows session)
    (sees : session.workspace.SeesSame paths session.files later.files) (member : path ∈ paths) :
    later.checked? path = session.checked? path := by
  have ignoring := ignoreRules_congr follows sees.ignored
  unfold checked? lintResult
  rw [sees.read path member, ignoring, follows.config, follows.parse]

theorem flatMap_reported_of_seesSame (follows : later.Follows session)
    (sees : session.workspace.SeesSame paths session.files later.files) :
    paths.flatMap later.reported = paths.flatMap session.reported := by
  refine List.flatMap_congr fun path member => ?_
  rw [reported, reported, checked?_of_seesSame follows sees member]

variable (regular : session.Regular) (active : session.cancelled = false)
  (standard : session.workspace.settings = {})
  (listed : session.workspace.files session.files = .ok paths)
  (unfixed : ∀ path ∈ paths, session.Unfixed path) (saves : session.SavesReport report)

include regular active listed unfixed saves

/-- A scan that has nothing to fix saves a report on the findings and leaves everything
else as it was. -/
theorem replaceFile_of_unfixed :
    session.workspace.reportPath? = some report ∧
      session.files.replaceFile report
        (Utf8.encode (Report.ofDiagnostics (paths.flatMap session.findings)).toList) =
          (none, session.activate.2.files) := by
  have quiet := regular.undisturbed
  have resolved := regular.resolved listed
  obtain ⟨kept, diagnostics, scanned, -, -, replaced⟩ := saves.activate
  rw [(scan_follows quiet).workspace] at kept
  have scanning : session.scan = session.scanFiles paths := by
    rw [scan, listed]
  rw [scanning] at scanned replaced
  rw [files_scanFiles_of_unfixed quiet active resolved unfixed] at replaced
  obtain ⟨found, -⟩ := of_scanFiles quiet active resolved (Prod.ext scanned rfl)
  rw [foundBy_of_unfixed quiet active resolved unfixed, List.flatMap_map] at found
  have whole : paths.flatMap session.findings = diagnostics := by
    rw [found]
    refine List.flatMap_congr fun path _ => ?_
    rw [findings]
  rw [whole]
  exact ⟨kept, replaced⟩

include standard

theorem seesSame_activate :
    session.workspace.SeesSame paths session.files session.activate.2.files := by
  obtain ⟨kept, replaced⟩ := replaceFile_of_unfixed regular active listed unfixed saves
  exact seesSame_replaceFile standard regular.rooted (regular.resolved listed) listed kept replaced

/-- The two ways to the report, from the same state or one after the other. -/
theorem activate_updateReport_holdText (same : later = session ∨ later = session.activate.2)
    (updated : later.updateReport.1 = .ok (some report)) :
    session.activate.2.files.HoldsText report
        (Report.ofDiagnostics (paths.flatMap session.findings)) ∧
      later.updateReport.2.files.HoldsText report
        (Report.ofDiagnostics (paths.flatMap session.reported)) := by
  have quiet := regular.undisturbed
  obtain ⟨-, replaced⟩ := replaceFile_of_unfixed regular active listed unfixed saves
  refine ⟨FileTree.find_of_replaceFile replaced, ?_⟩
  -- In either state the workspace sees the files of the first one.
  obtain ⟨follows, sees⟩ : later.Follows session ∧
      session.workspace.SeesSame paths session.files later.files := by
    rcases same with rfl | rfl
    · exact ⟨.refl _, .refl listed⟩
    · exact ⟨activate_follows quiet,
        seesSame_activate regular active standard listed unfixed saves⟩
  have written := of_updateReport (follows.undisturbed quiet) (regular.resolved listed)
    (by rw [follows.workspace]; exact sees.listed) updated
  rwa [flatMap_reported_of_seesSame follows sees] at written

end Unchanged

/-- Under the default settings, where nothing is to be fixed, the report that is saved after
a scan and the one that is written anew, from the same state or after the scan, are the same
if and only if no file whose name is nothing but a suffix has messages. -/
theorem saved_eq_updated_iff (regular : session.Regular) (active : session.cancelled = false)
    (standard : session.workspace.settings = {})
    (listed : session.workspace.files session.files = .ok paths)
    (unfixed : ∀ path ∈ paths, session.Unfixed path) (saves : session.SavesReport report)
    (same : later = session ∨ later = session.activate.2)
    (updated : later.updateReport.1 = .ok (some report)) :
    ∃ saved anew, session.activate.2.files.HoldsText report saved ∧
      later.updateReport.2.files.HoldsText report anew ∧
      (saved = anew ↔ ∀ path ∈ paths, path.name ∈ scriptEnds →
        ∀ result, session.checked? path = some result → result.messages = []) := by
  obtain ⟨holdsSaved, holdsAnew⟩ := activate_updateReport_holdText regular active standard
    listed unfixed saves same updated
  refine ⟨_, _, holdsSaved, holdsAnew, ?_⟩
  rw [ofDiagnostics_findings_eq_iff
    (Workspace.nodup_texts_files regular.named regular.rooted listed)]
  refine forall₂_congr fun path member => ?_
  have accepted := Workspace.name_of_mem_files listed member
  rw [standard] at accepted
  rw [language?_isNone_iff accepted, reported_eq_nil_iff]

section Samples

theorem updateReport_of_replaced (quiet : session.interruptions = [])
    (kept : session.workspace.reportPath? = some report)
    (listed : session.workspace.files session.files = .ok paths)
    (checks : ¬∃ path ∈ paths, session.CheckEscapes path)
    (replaced : ∀ bytes, (session.files.replaceFile report bytes).1 = none) :
    session.updateReport.1 = .ok (some report) := by
  have escapes := checkFiles_escapesIf quiet paths
  have rests := checkFiles_rests quiet paths
  rw [updateReport, kept]
  simp only [listed]
  cases checked : session.checkFiles paths with
  | mk outcome after =>
      rw [checked] at escapes rests
      cases outcome with
      | error failure => exact absurd escapes.of_error.2 checks
      | ok diagnostics =>
          apply writeReport_of_replaced updatingWords
          rw [rests.files]
          exact replaced _

/-- The report can be written anew after a scan if it can be replaced again. -/
theorem updateReport_activate (regular : session.Regular) (active : session.cancelled = false)
    (standard : session.workspace.settings = {})
    (listed : session.workspace.files session.files = .ok paths)
    (unfixed : ∀ path ∈ paths, session.Unfixed path) (saves : session.SavesReport report)
    (wellFormed : ¬session.RefusesIgnoreFile)
    (replaced : ∀ first after bytes, session.files.replaceFile report first = (none, after) →
      (after.replaceFile report bytes).1 = none) :
    session.activate.2.updateReport.1 = .ok (some report) := by
  have follows := activate_follows regular.undisturbed
  have sees := seesSame_activate regular active standard listed unfixed saves
  obtain ⟨kept, saved⟩ := replaceFile_of_unfixed regular active listed unfixed saves
  have wellFormedLater : ¬session.activate.2.RefusesIgnoreFile := by
    rw [← ignoreRules_fails_iff] at wellFormed ⊢
    rwa [ignoreRules_congr follows sees.ignored]
  have free : ∀ path ∈ paths, path.holdsNull = false := fun path member =>
    Workspace.free_of_mem_files regular.named regular.rooted listed member
  apply updateReport_of_replaced (follows.undisturbed regular.undisturbed)
    (by rw [follows.workspace]; exact kept) (by rw [follows.workspace]; exact sees.listed)
    (not_checkEscapes free wellFormedLater)
  intro bytes
  exact replaced _ _ bytes saved

/-- A file that is no text and two with errors. -/
def unfixedFiles : List (String × FileTree) :=
  [("b.js", rawFile), ("c.js", brokenFile), ("src", .folder 0o755 [("d.js", brokenFile)])]

def unfixedPaths : List Path :=
  [projectPath ["b.js"], projectPath ["c.js"], projectPath ["src", "d.js"]]

theorem regular_unfixedSession : (projectSession unfixedFiles).Regular := by
  refine regular_of_project rfl rfl rfl (isNamed_projectFiles (by decide) ?_)
  simp only [unfixedFiles, List.forall_mem_cons, List.not_mem_nil, false_implies, implies_true,
    and_true]
  exact ⟨.file _ _, .file _ _, .singleton _ (by decide) (.file _ _)⟩

theorem listed_unfixedSession :
    (projectSession unfixedFiles).workspace.files (projectSession unfixedFiles).files =
      .ok unfixedPaths :=
  (Workspace.files_of_sorted rfl (by decide +kernel)).trans (by decide +kernel)

theorem unfixed_unfixedSession :
    ∀ path ∈ unfixedPaths, (projectSession unfixedFiles).Unfixed path := by
  have computed : unfixedPaths.all (fun path =>
      ((projectSession unfixedFiles).checked? path).all (·.output.isNone)) = true := by
    decide +kernel
  intro path member result found
  have none := List.all_eq_true.mp computed path member
  rw [found] at none
  exact Option.isNone_iff_eq_none.mp none

theorem savesReport_unfixedSession :
    (projectSession unfixedFiles).SavesReport projectReport :=
  savesReport_of_computed listed_unfixedSession (by decide +kernel)

def unfixedReported (bytes : List UInt8) : FileTree :=
  projectFiles (unfixedFiles ++
    [("lint-report", .folder 0o755 [("eslint-report.txt", .file bytes 0o644)])])

theorem replaced_unfixedFiles (first : List UInt8) (after : FileTree) (bytes : List UInt8)
    (replaced : (projectFiles unfixedFiles).replaceFile projectReport first = (none, after)) :
    (after.replaceFile projectReport bytes).1 = none := by
  have saved : (projectFiles unfixedFiles).replaceFile projectReport first =
      (none, unfixedReported first) := rfl
  obtain rfl := (Prod.mk.inj (saved.symm.trans replaced)).2
  -- The name of the temporary file is compared with that of the report, which stays
  -- closed; everything else holds by computation, whatever the bytes are.
  have fresh : FileTree.freshName ("." ++ projectReport.name ++ ".") ["eslint-report.txt"] =
      ".eslint-report.txt.TEMPNAME" := by
    decide +kernel
  have temporary : (unfixedReported first).temporaryPath projectReport =
      projectPath ["lint-report", ".eslint-report.txt.TEMPNAME"] := by
    rw [← fresh]
    rfl
  have made : (unfixedReported first).makeFolders projectReport.parent =
      (none, unfixedReported first) := rfl
  rw [FileTree.replaceFile, made]
  dsimp only
  rw [temporary]
  rfl

theorem saved_eq_updated_iff_unfixedSession :
    ∃ text, (projectSession unfixedFiles).activate.2.files.HoldsText projectReport text ∧
      (projectSession unfixedFiles).activate.2.updateReport.2.files.HoldsText projectReport
        text := by
  have updated := updateReport_activate regular_unfixedSession rfl rfl listed_unfixedSession
    unfixed_unfixedSession savesReport_unfixedSession
    (wellFormed_of_ignoreRules (by decide +kernel)) replaced_unfixedFiles
  obtain ⟨saved, anew, holdsSaved, holdsAnew, same⟩ := saved_eq_updated_iff
    regular_unfixedSession rfl rfl listed_unfixedSession unfixed_unfixedSession
    savesReport_unfixedSession (Or.inr rfl) updated
  obtain rfl : saved = anew := by
    refine same.mpr fun path member bare => ?_
    have named : ∀ path ∈ unfixedPaths, path.name ∉ scriptEnds := by decide
    exact absurd bare (named path member)
  exact ⟨saved, holdsSaved, holdsAnew⟩

/-- A file that is named by a suffix only is missing in the saved report. -/
theorem saved_ne_updated_bareSuffix :
    ∃ saved anew, (brokenSession {} ".js").activate.2.files.HoldsText projectReport saved ∧
      (brokenSession {} ".js").activate.2.updateReport.2.files.HoldsText projectReport anew ∧
      saved ≠ anew := by
  refine ⟨Report.ofDiagnostics [], Report.ofDiagnostics [brokenNote "/tmp/lintsync/.js"],
    ?_, ?_, ?_⟩
  · exact FileTree.holdsText_of_readBytes (by decide +kernel)
  · exact FileTree.holdsText_of_readBytes (by decide +kernel)
  · decide +kernel

end Samples

end Session

end ScriptLint
