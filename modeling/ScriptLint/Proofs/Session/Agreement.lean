import ScriptLint.Proofs.Report
import ScriptLint.Proofs.Session.Independence

/-!
# Agreement after a full scan

A scan that leaves out no file and whose report is written leaves three records of what
it found: the diagnostics it returns, the entries of the store and the text of the report.
They say the same.  Here as well each fixed file can be rewritten: where that failed, the
store would be ahead of the other two.
-/

namespace ScriptLint

/-- There is a file at a path, and this is its text. -/
def FileTree.HoldsText (files : FileTree) (path : Path) (text : String) : Prop :=
  ∃ mode, files.find path.resolve.names = .ok (.file (Utf8.encode text.toList) mode)

theorem FileTree.holdsText_of_readBytes {files : FileTree} {path : Path} {text : String}
    (read : (files.readBytes path).toOption = some (Utf8.encode text.toList)) :
    files.HoldsText path text := by
  obtain ⟨mode, reached⟩ := FileTree.readBytes_eq_ok_iff.mp (eq_ok_of_toOption read)
  exact ⟨mode, FileTree.find_of_reach reached⟩

namespace Session

variable {session : Session} {path report : Path} {paths : List Path}

section Found

theorem map_fst_foundBy (session : Session) (paths : List Path) :
    (session.foundBy paths).map (·.1) = paths.map Path.toString := by
  induction paths generalizing session with
  | nil => rfl
  | cons path rest induction => rw [foundBy, List.map_cons, List.map_cons, induction]

theorem path_of_findings? {diagnostics : List Diagnostic}
    (found : session.findings? path = some diagnostics) :
    ∀ diagnostic ∈ diagnostics, diagnostic.path = path.toString := by
  unfold findings? at found
  split at found
  · simp at found
  · obtain ⟨result, -, rfl⟩ := Option.map_eq_some_iff.mp found
    intro diagnostic member
    obtain ⟨message, -, rfl⟩ := List.mem_map.mp member
    rfl

/-- What a scan finds in a file is about this file. -/
theorem path_of_mem_foundBy {entry : String × Option (List Diagnostic)}
    {diagnostics : List Diagnostic} (member : entry ∈ session.foundBy paths)
    (found : entry.2 = some diagnostics) :
    ∀ diagnostic ∈ diagnostics, diagnostic.path = entry.1 := by
  induction paths generalizing session with
  | nil => simp [foundBy] at member
  | cons path rest induction =>
      rw [foundBy] at member
      rcases List.mem_cons.mp member with here | later
      · simp only [here] at found ⊢
        exact path_of_findings? found
      · exact induction later

end Found

section Reporting

theorem of_writeReport {words : ReportWords} {diagnostics : List Diagnostic}
    {after : Session} {written : Path}
    (ended : session.writeReport words report diagnostics = (.ok (some written), after)) :
    written = report ∧ after.store = session.store ∧
      session.files.replaceFile report
        (Utf8.encode (Report.ofDiagnostics diagnostics).toList) = (none, after.files) := by
  unfold writeReport at ended
  dsimp only at ended
  split at ended
  · split at ended
    · simp at ended
    · simp at ended
  · rename_i files replaced
    obtain ⟨returned, rfl⟩ := Prod.mk.inj ended
    have same : report = written := by simpa using returned
    exact ⟨same.symm, rfl, replaced⟩

theorem writeReport_of_replaced {diagnostics : List Diagnostic} (words : ReportWords)
    (replaced : (session.files.replaceFile report
      (Utf8.encode (Report.ofDiagnostics diagnostics).toList)).1 = none) :
    (session.writeReport words report diagnostics).1 = .ok (some report) := by
  unfold writeReport
  dsimp only
  split
  · rename_i error files failed
    simp [failed] at replaced
  · rfl

/-- A scan writes its report to a path. -/
def SavesReport (session : Session) (report : Path) : Prop :=
  ∃ diagnostics, session.scan.1 = .ok diagnostics ∧
    (session.scan.2.saveReport diagnostics).1 = .ok (some report)

theorem SavesReport.activate (saves : session.SavesReport report) :
    session.scan.2.workspace.reportPath? = some report ∧
      ∃ diagnostics, session.scan.1 = .ok diagnostics ∧
        session.activate.1 = .ok diagnostics ∧
        session.activate.2.store = session.scan.2.store ∧
        session.scan.2.files.replaceFile report
          (Utf8.encode (Report.ofDiagnostics diagnostics).toList) =
            (none, session.activate.2.files) := by
  obtain ⟨diagnostics, scanned, saved⟩ := saves
  have whole : session.activate =
      (.ok diagnostics, (session.scan.2.saveReport diagnostics).2) := by
    unfold Session.activate
    split
    · rename_i failure after ended
      simp [ended] at scanned
    · rename_i returned after ended
      obtain rfl : returned = diagnostics := by simpa [ended] using scanned
      rw [ended] at saved ⊢
      split
      · rename_i failure last done
        simp [done] at saved
      · rename_i written last done
        rw [done]
  have kept : ∃ path, session.scan.2.workspace.reportPath? = some path := by
    unfold saveReport at saved
    split at saved
    · simp at saved
    · rename_i path here
      exact ⟨path, here⟩
  obtain ⟨path, kept⟩ := kept
  rw [saveReport, kept] at saved whole
  obtain ⟨rfl, stored, replaced⟩ := of_writeReport (Prod.ext saved rfl)
  rw [whole]
  exact ⟨kept, diagnostics, scanned, rfl, stored, replaced⟩

end Reporting

/-- A scan that leaves out no file, since every one of them is in a known language, can
be read and is checked without failure, and whose report is written to a path. -/
structure ScansFully (session : Session) (paths : List Path) (report : Path) : Prop where
  listed : session.workspace.files session.files = .ok paths
  analysed : ∀ entry ∈ session.foundBy paths, entry.2.isSome = true
  reported : session.SavesReport report

/-- What is returned, stored and reported on some files is the same. -/
structure Agrees (paths : List Path) (report : Path)
    (outcome : Except Failure (List Diagnostic) × Session) : Prop where
  returned : outcome.1 = .ok (paths.flatMap fun path => outcome.2.store.get path.toString)
  written : outcome.2.files.HoldsText report (Report.render
    (paths.map fun path => (path.toString, outcome.2.store.get path.toString)))

section Agreeing

/-- A store that recorded findings under distinct paths gives them back. -/
theorem eq_map_get_of_recordAll (store : Store)
    {found : List (String × Option (List Diagnostic))}
    (distinct : (found.map (·.1)).Nodup) (all : ∀ entry ∈ found, entry.2.isSome = true) :
    found = (found.map (·.1)).map fun text => (text, some ((store.recordAll found).get text)) := by
  rw [List.map_map]
  nth_rewrite 1 [← List.map_id found]
  apply List.map_congr_left
  rintro ⟨text, result⟩ member
  obtain ⟨diagnostics, rfl⟩ := Option.isSome_iff_exists.mp (all _ member)
  simp [Store.get, Store.getNamed?_recordAll_of_mem distinct member]

variable (regular : session.Regular) (active : session.cancelled = false)
  (full : session.ScansFully paths report)

include regular active full

theorem activate_of_full :
    session.activate.2.store = session.store.recordAll (session.foundBy paths) ∧
      ∃ diagnostics,
        diagnostics = (session.foundBy paths).flatMap (fun entry => entry.2.getD []) ∧
        session.activate.1 = .ok diagnostics ∧
        session.activate.2.files.HoldsText report (Report.ofDiagnostics diagnostics) := by
  obtain ⟨-, diagnostics, scanned, returned, stored, replaced⟩ := full.reported.activate
  have whole : session.scan = session.scanFiles paths := by
    rw [scan, full.listed]
  rw [whole] at scanned stored
  obtain ⟨found, recorded⟩ := of_scanFiles regular.undisturbed active
    (regular.resolved full.listed) (Prod.ext scanned rfl)
  exact ⟨stored.trans recorded, diagnostics, found, returned,
    FileTree.find_of_replaceFile replaced⟩

theorem foundBy_of_full :
    session.foundBy paths =
      paths.map fun path => (path.toString, some (session.activate.2.store.get path.toString)) := by
  have distinct := Workspace.nodup_texts_files regular.named regular.rooted full.listed
  rw [← map_fst_foundBy session] at distinct
  have given := eq_map_get_of_recordAll session.store distinct full.analysed
  rw [map_fst_foundBy, List.map_map, ← (activate_of_full regular active full).1] at given
  exact given

theorem byFile_of_full :
    Report.ByFile
      (paths.map fun path => (path.toString, session.activate.2.store.get path.toString)) := by
  refine ⟨?_, ?_⟩
  · rw [List.map_map]
    exact Workspace.nodup_texts_files regular.named regular.rooted full.listed
  · intro entry member
    obtain ⟨path, listed, rfl⟩ := List.mem_map.mp member
    have found : (path.toString, some (session.activate.2.store.get path.toString)) ∈
        session.foundBy paths := by
      rw [foundBy_of_full regular active full]
      exact List.mem_map.mpr ⟨path, listed, rfl⟩
    exact path_of_mem_foundBy found rfl

theorem activate_agrees : Agrees paths report session.activate := by
  obtain ⟨-, diagnostics, found, returned, written⟩ := activate_of_full regular active full
  have whole : diagnostics =
      paths.flatMap fun path => session.activate.2.store.get path.toString := by
    rw [found, foundBy_of_full regular active full, List.flatMap_map]
    rfl
  refine ⟨whole ▸ returned, ?_⟩
  have rendered := Report.ofDiagnostics_flatMap (byFile_of_full regular active full)
  rw [List.flatMap_map] at rendered
  rw [← rendered, ← whole]
  exact written

theorem mem_paths_activate (text : String) :
    text ∈ session.activate.2.store.paths ↔
      text ∈ session.store.paths ∨ text ∈ paths.map Path.toString := by
  have distinct := Workspace.nodup_texts_files regular.named regular.rooted full.listed
  rw [← map_fst_foundBy session] at distinct
  rw [Store.mem_paths_iff, Store.mem_paths_iff, (activate_of_full regular active full).1,
    ← map_fst_foundBy session]
  by_cases visited : text ∈ (session.foundBy paths).map (·.1)
  · obtain ⟨⟨own, result⟩, member, rfl⟩ := List.mem_map.mp visited
    obtain ⟨diagnostics, rfl⟩ := Option.isSome_iff_exists.mp (full.analysed _ member)
    rw [Store.getNamed?_recordAll_of_mem distinct member]
    exact iff_of_true rfl (Or.inr visited)
  · rw [Store.getNamed?_recordAll_of_absent fun diagnostics member =>
      visited (List.mem_map.mpr ⟨_, member, rfl⟩), or_iff_left visited]

end Agreeing

section Folders

theorem Regular.withFolders (regular : session.Regular) {roots : Option (List Path)}
    (proper : ∀ given, roots = some given → ∀ root ∈ given, root.IsProper) :
    (session.withFolders roots).Regular := by
  cases roots with
  | none => exact regular
  | some given =>
      exact ⟨regular.undisturbed, Path.resolve_of_mem_map,
        Path.isProper_of_mem_map (proper given rfl), regular.named⟩

theorem paths_prune (listed : session.workspace.files session.files = .ok paths)
    (text : String) (held : text ∈ session.prune.store.paths) :
    text ∈ paths.map Path.toString := by
  rw [Store.mem_paths_iff, prune, listed] at held
  dsimp only at held
  rw [Store.getNamed?_retain] at held
  by_contra absent
  simp [absent] at held

end Folders

/-- After a full scan of a session the returned diagnostics, the store and the report
agree.  After a change of the folders the store holds the enumerated files and no others. -/
theorem full_scan_agrees (reached : session.Reached) (active : session.cancelled = false) :
    (∀ paths report, session.ScansFully paths report →
      Agrees paths report session.activate) ∧
    ∀ roots paths report,
      (∀ given, roots = some given →
        ∀ root ∈ given, root.IsProper ∧ root.holdsNull = false) →
      (session.withFolders roots).prune.ScansFully paths report →
        Agrees paths report (session.changeFolders roots) ∧
        ∀ text, text ∈ (session.changeFolders roots).2.store.paths ↔
          text ∈ paths.map Path.toString := by
  have regular := reached.regular
  refine ⟨fun paths report full => activate_agrees regular active full, ?_⟩
  intro roots paths report given full
  have whole : session.changeFolders roots = (session.withFolders roots).prune.activate := by
    rcases changeFolders_cases session roots with ⟨⟨_, asked, root, member, null⟩, -⟩ | ⟨-, whole⟩
    · simp [(given _ asked root member).2] at null
    · exact whole
  have regularNow := regular.withFolders fun _ asked root member =>
    (given _ asked root member).1
  have pruned := prune_follows (session.withFolders roots)
  have regularPruned := regularNow.of_follows pruned (by rw [files_prune]; exact regularNow.named)
  have activePruned : (session.withFolders roots).prune.cancelled = false := by
    rw [pruned.cancelled]
    cases roots with
    | none => exact active
    | some _ => exact active
  rw [whole]
  refine ⟨activate_agrees regularPruned activePruned full, fun text => ?_⟩
  rw [mem_paths_activate regularPruned activePruned full]
  apply or_iff_right_of_imp
  have listed := full.listed
  rw [pruned.workspace, files_prune] at listed
  exact paths_prune listed text

section Samples

def projectReport : Path :=
  projectPath ["lint-report", "eslint-report.txt"]

theorem savesReport_of_computed (listed : session.workspace.files session.files = .ok paths)
    (reported : ((session.scanFiles paths).1.toOption.bind fun diagnostics =>
      ((session.scanFiles paths).2.saveReport diagnostics).1.toOption) = some (some report)) :
    session.SavesReport report := by
  obtain ⟨diagnostics, scanned, saved⟩ := Option.bind_eq_some_iff.mp reported
  have whole : session.scan = session.scanFiles paths := by
    rw [scan, listed]
  refine ⟨diagnostics, ?_, ?_⟩
  · rw [whole]
    exact eq_ok_of_toOption scanned
  · rw [whole]
    exact eq_ok_of_toOption saved

/-- Whether a scan of the files at some paths finds something or nothing in each of them and
writes its report to a path. -/
def scansTo (session : Session) (paths : List Path) (report : Path) : Bool :=
  (session.foundBy paths).all (·.2.isSome) &&
    decide (((session.scanFiles paths).1.toOption.bind fun diagnostics =>
      ((session.scanFiles paths).2.saveReport diagnostics).1.toOption) = some (some report))

theorem scansFully_of_scansTo (listed : session.workspace.files session.files = .ok paths)
    (scans : session.scansTo paths report = true) : session.ScansFully paths report := by
  obtain ⟨analysed, reported⟩ := Bool.and_eq_true_iff.mp scans
  exact ⟨listed, fun entry member => List.all_eq_true.mp analysed entry member,
    savesReport_of_computed listed (of_decide_eq_true reported)⟩

/-- A file to be fixed, and below it one with an error and another one to be fixed. -/
def readableFiles : List (String × FileTree) :=
  [("a.js", quotedFile),
    ("src", .folder 0o755 [("c.js", brokenFile), ("d.js", quotedFile)])]

def readablePaths : List Path :=
  [projectPath ["a.js"], projectPath ["src", "c.js"], projectPath ["src", "d.js"]]

/-- A session that was used for a while: two other files have come and gone. -/
def usedSession : Session :=
  let first := start parseQuoted singleQuotes ⟨[projectPath []], {}⟩
    (projectFiles [("old.js", brokenFile)])
  let second := { (first.perform .activate).2 with files := projectFiles [("b.js", brokenFile)] }
  { (second.perform (.saved (projectPath ["b.js"]))).2 with files := projectFiles readableFiles }

theorem reached_usedSession : usedSession.Reached := by
  have opened : Workspace.ofRoots [projectPath []] {} = .ok ⟨[projectPath []], {}⟩ := rfl
  have proper : ∀ root ∈ [projectPath []], root.IsProper := by
    intro root member
    obtain rfl := List.mem_singleton.mp member
    intro folder inRoot
    revert folder
    decide
  have named : ∀ name, FileTree.IsFileName name → (projectFiles [(name, brokenFile)]).IsNamed := by
    intro name isName
    exact isNamed_projectFiles (by simpa using isName) (by simpa using .file _ _)
  have lastNamed : (projectFiles readableFiles).IsNamed := by
    refine isNamed_projectFiles (by decide) ?_
    simp only [readableFiles, List.forall_mem_cons, List.not_mem_nil, false_implies,
      implies_true, and_true]
    exact ⟨.file _ _, isNamed_sourceFolder⟩
  have activating : Operation.activate.IsProper := by simp [Operation.IsProper]
  have saving : (Operation.saved (projectPath ["b.js"])).IsProper := by
    simp [Operation.IsProper]
  have first := Reached.start parseQuoted singleQuotes opened proper (named "old.js" (by decide))
  have second := (first.perform activating).edit (named "b.js" (by decide))
  exact (second.perform saving).edit lastNamed

/-- The files of the folder that the session moves to. -/
def movedPaths : List Path :=
  [projectPath ["src", "c.js"], projectPath ["src", "d.js"]]

def movedReport : Path :=
  projectPath ["src", "lint-report", "eslint-report.txt"]

def movedSession : Session :=
  { usedSession.withFolders (some [projectPath ["src"]]) with
    store := (usedSession.store.retain (movedPaths.map Path.toString)).2 }

-- All is evaluated at once, so that the kernel follows the history of the session only once.
theorem computed_usedSession :
    (usedSession.workspace = ⟨[projectPath []], {}⟩ ∧ usedSession.cancelled = false ∧
      usedSession.store.paths = ["/tmp/lintsync/old.js", "/tmp/lintsync/b.js"] ∧
      usedSession.scansTo readablePaths projectReport = true) ∧
    movedSession.workspace = ⟨[projectPath ["src"]], {}⟩ ∧
      movedSession.scansTo movedPaths movedReport = true := by
  decide +kernel

theorem scansFully_usedSession : usedSession.ScansFully readablePaths projectReport := by
  obtain ⟨⟨workspace, -, -, scans⟩, -⟩ := computed_usedSession
  apply scansFully_of_scansTo _ scans
  rw [workspace]
  exact (Workspace.files_of_sorted rfl (by decide +kernel)).trans (by decide +kernel)

theorem scansFully_movedSession :
    (usedSession.withFolders (some [projectPath ["src"]])).prune.ScansFully movedPaths
      movedReport := by
  obtain ⟨-, workspace, scans⟩ := computed_usedSession
  have moved : (usedSession.withFolders (some [projectPath ["src"]])).workspace =
      ⟨[projectPath ["src"]], {}⟩ := workspace
  have listed : (usedSession.withFolders (some [projectPath ["src"]])).workspace.files
      (usedSession.withFolders (some [projectPath ["src"]])).files = .ok movedPaths := by
    rw [moved]
    exact (Workspace.files_of_sorted rfl (by decide +kernel)).trans (by decide +kernel)
  have pruned : (usedSession.withFolders (some [projectPath ["src"]])).prune = movedSession := by
    rw [prune, listed]
    rfl
  rw [pruned]
  exact scansFully_of_scansTo listed scans

theorem full_scan_agrees_usedSession :
    usedSession.store.paths = ["/tmp/lintsync/old.js", "/tmp/lintsync/b.js"] ∧
      Agrees readablePaths projectReport usedSession.activate ∧
      Agrees movedPaths (projectPath ["src", "lint-report", "eslint-report.txt"])
        (usedSession.changeFolders (some [projectPath ["src"]])) ∧
      ∀ text, text ∈ (usedSession.changeFolders (some [projectPath ["src"]])).2.store.paths ↔
        text ∈ ["/tmp/lintsync/src/c.js", "/tmp/lintsync/src/d.js"] := by
  obtain ⟨⟨-, active, stale, -⟩, -⟩ := computed_usedSession
  obtain ⟨activated, changed⟩ := full_scan_agrees reached_usedSession active
  have proper : ∀ given, some [projectPath ["src"]] = some given →
      ∀ root ∈ given, root.IsProper ∧ root.holdsNull = false := by
    intro given same root member
    obtain rfl := Option.some.inj same
    obtain rfl := List.mem_singleton.mp member
    refine ⟨?_, by decide +kernel⟩
    intro folder inRoot
    revert folder
    decide
  obtain ⟨agrees, keys⟩ := changed _ movedPaths _ proper scansFully_movedSession
  refine ⟨stale, activated _ _ scansFully_usedSession, agrees, ?_⟩
  have texts : movedPaths.map Path.toString =
      ["/tmp/lintsync/src/c.js", "/tmp/lintsync/src/d.js"] := by decide +kernel
  rwa [texts] at keys

end Samples

end Session

end ScriptLint
