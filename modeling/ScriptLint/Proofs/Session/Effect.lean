import ScriptLint.Proofs.Files.Replace
import ScriptLint.Session.Scan

/-!
# What analyses do to files

In a session that nothing interrupts, the analysis of a file may rewrite this file
with its fixed text and may replace the report; nothing else happens to the files.
A scan rewrites files one after the other in the order in which it comes to them.
-/

namespace ScriptLint

namespace Session

/-- A later state of a session: what was set up at its start is the same. -/
structure Follows (later session : Session) : Prop where
  parse : later.parse = session.parse
  config : later.config = session.config
  workspace : later.workspace = session.workspace
  cancelled : later.cancelled = session.cancelled
  interruptions : later.interruptions = session.interruptions

namespace Follows

theorem refl (session : Session) : session.Follows session :=
  ⟨rfl, rfl, rfl, rfl, rfl⟩

theorem trans {last later session : Session} (right : last.Follows later)
    (left : later.Follows session) : last.Follows session :=
  ⟨right.parse.trans left.parse, right.config.trans left.config,
    right.workspace.trans left.workspace, right.cancelled.trans left.cancelled,
    right.interruptions.trans left.interruptions⟩

theorem symm {later session : Session} (follows : later.Follows session) :
    session.Follows later :=
  ⟨follows.parse.symm, follows.config.symm, follows.workspace.symm,
    follows.cancelled.symm, follows.interruptions.symm⟩

theorem undisturbed {later session : Session} (follows : later.Follows session)
    (quiet : session.interruptions = []) : later.interruptions = [] :=
  follows.interruptions.trans quiet

end Follows

/-- A later state with the same files and the same stored diagnostics. -/
structure Rests (later session : Session) : Prop extends later.Follows session where
  files : later.files = session.files
  store : later.store = session.store

namespace Rests

theorem refl (session : Session) : session.Rests session :=
  ⟨.refl session, rfl, rfl⟩

theorem trans {last later session : Session} (right : last.Rests later)
    (left : later.Rests session) : last.Rests session :=
  ⟨right.toFollows.trans left.toFollows, right.files.trans left.files,
    right.store.trans left.store⟩

end Rests

theorem rests_notify (session : Session) (level : NoticeLevel) (text : String) :
    (session.notify level text).Rests session :=
  ⟨⟨rfl, rfl, rfl, rfl, rfl⟩, rfl, rfl⟩

/-- The session with one more check counted. -/
def counted (session : Session) : Session :=
  { session with checks := session.checks + 1 }

theorem rests_counted (session : Session) : session.counted.Rests session :=
  ⟨⟨rfl, rfl, rfl, rfl, rfl⟩, rfl, rfl⟩

section Checking

variable {session : Session}

theorem check_of_undisturbed (quiet : session.interruptions = []) (path : String)
    (text : List Char) :
    session.check path text =
      match session.lintResult path text with
      | .error failure => (.error failure, session)
      | .ok result => (.ok result, session.counted) := by
  have counting : session.countCheck = (none, session.counted) := by
    simp [countCheck, quiet, interruptAll, counted]
  rw [check]
  cases session.lintResult path text with
  | error failure => rfl
  | ok result => rw [counting]

/-- Checking a file changes nothing but the number of checks. -/
theorem checkFile_rests (quiet : session.interruptions = []) (path : Path) :
    (session.checkFile path).2.Rests session := by
  unfold checkFile
  split
  · exact .refl session
  · rename_i document _
    dsimp only
    rw [check_of_undisturbed quiet]
    cases session.lintResult document.path.toString document.text with
    | error failure => exact .refl session
    | ok result => exact rests_counted session

theorem checkFiles_rests (quiet : session.interruptions = []) (paths : List Path) :
    (session.checkFiles paths).2.Rests session := by
  induction paths generalizing session with
  | nil => exact .refl session
  | cons path rest induction =>
      have step := checkFile_rests quiet path
      rw [checkFiles]
      split
      · rename_i diagnostics after checked
        rw [checked] at step
        have later := induction (step.undisturbed quiet)
        split
        · rename_i others last checkedOthers
          rw [checkedOthers] at later
          exact later.trans step
        · rename_i failure last checkedOthers
          rw [checkedOthers] at later
          exact later.trans step
      · rename_i failure after checked
        rw [checked] at step
        split
        · have noticed := rests_notify after .error
            ("Error updating ESLint report: " ++ failure.message)
          exact (induction (noticed.undisturbed (step.undisturbed quiet))).trans
            (noticed.trans step)
        · exact step

end Checking

section Reporting

variable {session : Session}

/-- The report was to be replaced by some bytes, and may have been. -/
def WritesReport (session : Session) (before after : FileTree) : Prop :=
  ∃ path bytes, session.workspace.reportPath? = some path ∧
    after = (before.replaceFile path bytes).2

theorem writeReport_effect (session : Session) (words : ReportWords) (path : Path)
    (diagnostics : List Diagnostic) :
    (session.writeReport words path diagnostics).2.Follows session ∧
      (session.writeReport words path diagnostics).2.store = session.store ∧
      (session.writeReport words path diagnostics).2.files =
        (session.files.replaceFile path
          (Utf8.encode (Report.ofDiagnostics diagnostics).toList)).2 := by
  unfold writeReport
  dsimp only
  split
  · rename_i error files replaced
    split
    · exact ⟨⟨rfl, rfl, rfl, rfl, rfl⟩, rfl, by rw [replaced]⟩
    · exact ⟨⟨rfl, rfl, rfl, rfl, rfl⟩, rfl, by rw [replaced]; rfl⟩
  · rename_i files replaced
    exact ⟨⟨rfl, rfl, rfl, rfl, rfl⟩, rfl, by rw [replaced]; rfl⟩

/-- Updating the report changes nothing but the report. -/
theorem updateReport_effect (quiet : session.interruptions = []) :
    session.updateReport.2.Follows session ∧
      session.updateReport.2.store = session.store ∧
      (session.updateReport.2.files = session.files ∨
        session.WritesReport session.files session.updateReport.2.files) := by
  unfold updateReport
  split
  · exact ⟨(rests_notify session _ _).toFollows, rfl, Or.inl rfl⟩
  · rename_i path kept
    split
    · exact ⟨(rests_notify session _ _).toFollows, rfl, Or.inl rfl⟩
    · rename_i paths _
      have rests := checkFiles_rests quiet paths
      split
      · rename_i failure after checked
        rw [checked] at rests
        exact ⟨rests.toFollows, rests.store, Or.inl rests.files⟩
      · rename_i diagnostics after checked
        rw [checked] at rests
        obtain ⟨follows, sameStore, replaced⟩ :=
          writeReport_effect after updatingWords path diagnostics
        exact ⟨follows.trans rests.toFollows, sameStore.trans rests.store,
          Or.inr ⟨path, _, kept, by rw [replaced, rests.files]⟩⟩

end Reporting

section Analysing

variable {session : Session}

/-- The file at a path was rewritten with its fixed text. -/
def FixesAt (session : Session) (path : Path) (before after : FileTree) : Prop :=
  ∃ bytes mode raw result fixed,
    before.find path.resolve.names = .ok (.file bytes mode) ∧
    Utf8.decode bytes = .ok raw ∧
    lintText session.parse RuleBook.standard session.config path.resolve.toString
      (Text.unifyBreaks raw) = .ok result ∧
    result.output = some fixed ∧
    after = before.put path.resolve.names (.file (Utf8.encode fixed) mode)

theorem Follows.fixesAt {later : Session} {path : Path} {before after : FileTree}
    (follows : later.Follows session) (fixes : later.FixesAt path before after) :
    session.FixesAt path before after := by
  obtain ⟨bytes, mode, raw, result, fixed, there, decoded, linted, output, rfl⟩ := fixes
  rw [follows.parse, follows.config] at linted
  exact ⟨bytes, mode, raw, result, fixed, there, decoded, linted, output, rfl⟩

theorem FixesAt.keeps {path : Path} {before after : FileTree}
    (fixes : session.FixesAt path before after) :
    FileTree.Keeps (· = path.resolve.names) before after := by
  obtain ⟨bytes, mode, raw, result, fixed, there, -, -, -, rfl⟩ := fixes
  exact FileTree.keeps_put _ (by simp [there])

theorem open_eq_ok_iff {files : FileTree} {path : Path} {document : Document} :
    Document.open files path = .ok document ↔
      path.holdsNull = false ∧ document.path = path.resolve ∧
        document.language = path.resolve.language? ∧
        files.readText path.resolve = .ok document.text := by
  obtain ⟨place, language, text⟩ := document
  unfold Document.open Path.resolved
  cases path.holdsNull with
  | true => simp
  | false =>
      simp only [Bool.false_eq_true, if_false, true_and]
      cases files.readText path.resolve with
      | error error => simp [Except.map]
      | ok read => simp [Except.map, eq_comm]

theorem lintText_of_lintResult {path : String} {text fixed : List Char}
    {result : LintResult} (checked : session.lintResult path text = .ok result)
    (output : result.output = some fixed) :
    lintText session.parse RuleBook.standard session.config path text = .ok result := by
  unfold lintResult at checked
  split at checked
  · simp at checked
  · split at checked
    · simp at checked
    · split at checked
      · obtain rfl := Except.ok.inj checked
        simp at output
      · cases linted : lintText session.parse RuleBook.standard session.config path text with
        | error error => simp [linted, Except.mapError] at checked
        | ok own => simpa [linted, Except.mapError] using checked

/-- The session after the fixed text of a file, if there is one, was written. -/
def withOutput (session : Session) (path : Path) : Option (List Char) → Session
  | none => session
  | some fixed =>
      { session with
        files := ((session.files.writeBytes path (Utf8.encode fixed)).toOption).getD
          session.files }

/-- A file that still holds the text that was checked can be written. -/
theorem applyResult_of_readText {path : Path} {text : List Char}
    (read : session.files.readText path = .ok text) (result : LintResult) :
    session.applyResult path text result =
      (.ok (), session.withOutput path result.output) := by
  unfold applyResult writeFixes
  cases result.output with
  | none => rfl
  | some fixed =>
      obtain ⟨bytes, mode, raw, reached, -, -⟩ := FileTree.readText_eq_ok_iff.mp read
      simp only [read, if_true, FileTree.writeBytes_of_reach reached, withOutput,
        Except.toOption, Option.getD_some]

theorem withOutput_follows (session : Session) (path : Path)
    (output : Option (List Char)) : (session.withOutput path output).Follows session := by
  cases output with
  | none => exact .refl session
  | some fixed => exact ⟨rfl, rfl, rfl, rfl, rfl⟩

theorem files_withOutput_some {path : Path} {text : List Char}
    (read : session.files.readText path.resolve = .ok text) (fixed : List Char) :
    ∃ bytes mode raw, session.files.find path.resolve.names = .ok (.file bytes mode) ∧
      Utf8.decode bytes = .ok raw ∧ text = Text.unifyBreaks raw ∧
      (session.withOutput path.resolve (some fixed)).files =
        session.files.put path.resolve.names (.file (Utf8.encode fixed) mode) := by
  obtain ⟨bytes, mode, raw, reached, decoded, rfl⟩ := FileTree.readText_eq_ok_iff.mp read
  have there := FileTree.find_of_reach reached
  rw [Path.resolve_resolve] at there
  refine ⟨bytes, mode, raw, there, decoded, rfl, ?_⟩
  simp [withOutput, FileTree.writeBytes_of_reach reached, Except.toOption]

def storing (session : Session) (path : String) (result : LintResult) : Session :=
  { session with store := session.store.set path (Diagnostic.ofResult path result) }

/-- The session after a result was stored and its fixed text, if there is one,
written. -/
def concluded (session : Session) (document : Document) (result : LintResult) : Session :=
  (session.storing document.path.toString result).withOutput document.path result.output

theorem concluded_follows (session : Session) (document : Document)
    (result : LintResult) : (session.concluded document result).Follows session := by
  have storing : (session.storing document.path.toString result).Follows session :=
    ⟨rfl, rfl, rfl, rfl, rfl⟩
  exact (withOutput_follows _ _ _).trans storing

theorem files_concluded {path : Path} {document : Document} {result : LintResult}
    (located : document.path = path.resolve)
    (read : session.files.readText path.resolve = .ok document.text)
    (linted : ∀ fixed, result.output = some fixed →
      lintText session.parse RuleBook.standard session.config path.resolve.toString
        document.text = .ok result) :
    (session.concluded document result).files = session.files ∨
      session.FixesAt path session.files (session.concluded document result).files := by
  rw [concluded, located]
  cases output : result.output with
  | none => exact Or.inl rfl
  | some fixed =>
      have readStored : (session.storing path.resolve.toString result).files.readText
          path.resolve = .ok document.text := read
      obtain ⟨bytes, mode, raw, there, decoded, whole, written⟩ :=
        files_withOutput_some readStored fixed
      exact Or.inr ⟨bytes, mode, raw, result, fixed, there, decoded,
        whole ▸ linted fixed output, output, written⟩

/-- What a conclusion is where the file holds the text that was checked: a result
without messages is only stored. -/
theorem conclude_of_readText {document : Document}
    (read : session.files.readText document.path = .ok document.text)
    (updatesReport : Bool) (result : LintResult) :
    session.conclude document updatesReport result =
      let diagnostics := Diagnostic.ofResult document.path.toString result
      if diagnostics.isEmpty then
        (.ok diagnostics, session.storing document.path.toString result)
      else if updatesReport then
        match (session.concluded document result).updateReport with
        | (.error failure, session) => (.error failure, session)
        | (.ok _, session) => (.ok diagnostics, session)
      else (.ok diagnostics, session.concluded document result) := by
  have readStored : (session.storing document.path.toString result).files.readText
      document.path = .ok document.text := read
  have applied := applyResult_of_readText readStored result
  unfold concluded
  unfold storing at applied ⊢
  rw [conclude]
  dsimp only
  rewrite [applied]
  rfl

/-- What analysing the file at a path may do to the files: it fixes the file, and
the report is updated then, if it is to be. -/
def Analyses (session : Session) (path : Path) (updatesReport : Bool)
    (before after : FileTree) : Prop :=
  ∃ middle, (middle = before ∨ session.FixesAt path before middle) ∧
    (after = middle ∨ updatesReport = true ∧ session.WritesReport middle after)

theorem Analyses.refl (session : Session) (path : Path) (updatesReport : Bool)
    (files : FileTree) : session.Analyses path updatesReport files files :=
  ⟨files, Or.inl rfl, Or.inl rfl⟩

theorem Follows.analyses {later : Session} {path : Path} {updatesReport : Bool}
    {before after : FileTree} (follows : later.Follows session)
    (analyses : later.Analyses path updatesReport before after) :
    session.Analyses path updatesReport before after := by
  obtain ⟨middle, fixing, writing⟩ := analyses
  refine ⟨middle, fixing.imp id follows.fixesAt, writing.imp id ?_⟩
  rintro ⟨updates, report, bytes, kept, replaced⟩
  exact ⟨updates, report, bytes, follows.workspace ▸ kept, replaced⟩

theorem conclude_effect {path : Path} {document : Document} {result : LintResult}
    (quiet : session.interruptions = []) (updatesReport : Bool)
    (located : document.path = path.resolve)
    (read : session.files.readText path.resolve = .ok document.text)
    (linted : ∀ fixed, result.output = some fixed →
      lintText session.parse RuleBook.standard session.config path.resolve.toString
        document.text = .ok result) :
    (session.conclude document updatesReport result).2.Follows session ∧
      session.Analyses path updatesReport session.files
        (session.conclude document updatesReport result).2.files := by
  have laterFollows := concluded_follows session document result
  have fixing := files_concluded located read linted
  rw [conclude_of_readText (located ▸ read)]
  dsimp only
  generalize session.concluded document result = after at laterFollows fixing ⊢
  split
  · exact ⟨⟨rfl, rfl, rfl, rfl, rfl⟩, .refl session path updatesReport _⟩
  · split
    · rename_i updates
      obtain ⟨updated, -, reported⟩ :=
        updateReport_effect (laterFollows.undisturbed quiet)
      have written : after.updateReport.2.files = after.files ∨ updatesReport = true ∧
          session.WritesReport after.files after.updateReport.2.files := by
        rcases reported with same | ⟨report, bytes, kept, replaced⟩
        · exact Or.inl same
        · exact Or.inr ⟨updates, report, bytes, laterFollows.workspace ▸ kept, replaced⟩
      split
      · rename_i failure last ended
        rw [ended] at updated written
        exact ⟨updated.trans laterFollows, _, fixing, written⟩
      · rename_i report last ended
        rw [ended] at updated written
        exact ⟨updated.trans laterFollows, _, fixing, written⟩
    · exact ⟨laterFollows, _, fixing, Or.inl rfl⟩

theorem noticeFailure_rests (outcome : Except Failure (List Diagnostic) × Session) :
    (noticeFailure outcome).2.Rests outcome.2 := by
  obtain ⟨result, session⟩ := outcome
  cases result with
  | ok diagnostics => exact .refl session
  | error failure =>
      rw [noticeFailure]
      split
      · exact rests_notify session _ _
      · exact .refl session

/-- An analysis that takes place is a check of the text and a conclusion from it. -/
theorem analyze_of_active {document : Document} (quiet : session.interruptions = [])
    (active : session.cancelled = false) (known : document.language.isNone = false)
    (updatesReport : Bool) :
    session.analyze document updatesReport =
      noticeFailure
        (match session.lintResult document.path.toString document.text with
        | .error failure => (.error failure, session)
        | .ok result => session.counted.conclude document updatesReport result) := by
  have running : session.counted.cancelled = false := active
  rw [analyze, if_neg (by simp [active, known]), examine, check_of_undisturbed quiet]
  cases session.lintResult document.path.toString document.text with
  | error failure => rfl
  | ok result => simp only [running, Bool.false_eq_true, if_false]

theorem analyze_effect {path : Path} {document : Document}
    (quiet : session.interruptions = [])
    (opened : Document.open session.files path = .ok document) (updatesReport : Bool) :
    (session.analyze document updatesReport).2.Follows session ∧
      session.Analyses path updatesReport session.files
        (session.analyze document updatesReport).2.files := by
  by_cases skipped : (session.cancelled || document.language.isNone) = true
  · rw [analyze, if_pos skipped]
    exact ⟨.refl session, .refl session path updatesReport _⟩
  · obtain ⟨active, known⟩ := Bool.or_eq_false_iff.mp (Bool.eq_false_iff.mpr skipped)
    obtain ⟨-, located, -, read⟩ := open_eq_ok_iff.mp opened
    rw [analyze_of_active quiet active known, located]
    have noticed := noticeFailure_rests
      (match session.lintResult path.resolve.toString document.text with
      | .error failure => (.error failure, session)
      | .ok result => session.counted.conclude document updatesReport result)
    rw [noticed.files]
    refine And.imp noticed.toFollows.trans id ?_
    cases checked : session.lintResult path.resolve.toString document.text with
    | error failure => exact ⟨.refl session, .refl session path updatesReport _⟩
    | ok result =>
        have counting := rests_counted session
        obtain ⟨follows, effect⟩ := conclude_effect
          (counting.undisturbed quiet) updatesReport located read
          (fun fixed output => lintText_of_lintResult checked output)
        exact ⟨follows.trans counting.toFollows, counting.toFollows.analyses effect⟩

/-- A file that is opened or saved is analysed, and the report is updated. -/
theorem analyzeFile_effect (quiet : session.interruptions = []) (path : Path) :
    (session.analyzeFile path).2.Follows session ∧
      session.Analyses path true session.files (session.analyzeFile path).2.files := by
  rw [analyzeFile]
  split
  · exact ⟨.refl session, .refl session path true _⟩
  · split
    · rename_i error _
      have noticed := noticeFailure_rests (.error (.read error), session)
      exact ⟨noticed.toFollows, noticed.files ▸ .refl session path true _⟩
    · rename_i document opened
      exact analyze_effect quiet opened true

/-- What a scan of some paths may do to the files: it fixes some of them, one after
the other. -/
inductive Scans (session : Session) : List Path → FileTree → FileTree → Prop
  | stop (paths : List Path) (files : FileTree) : Scans session paths files files
  | pass {path : Path} {rest : List Path} {files after : FileTree} :
      Scans session rest files after → Scans session (path :: rest) files after
  | fix {path : Path} {rest : List Path} {files middle after : FileTree} :
      session.FixesAt path files middle → Scans session rest middle after →
        Scans session (path :: rest) files after

theorem Follows.scans {later : Session} {paths : List Path} {files after : FileTree}
    (follows : later.Follows session) (scans : later.Scans paths files after) :
    session.Scans paths files after := by
  induction scans with
  | stop paths files => exact .stop paths files
  | pass _ induction => exact .pass induction
  | fix fixes _ induction => exact .fix (follows.fixesAt fixes) induction

theorem Scans.keeps {paths : List Path} {before after : FileTree}
    (scans : session.Scans paths before after) :
    FileTree.Keeps (· ∈ paths.map fun path => path.resolve.names) before after := by
  induction scans with
  | stop paths files => exact .refl files
  | pass _ induction => exact induction.mono fun place member => List.mem_cons_of_mem _ member
  | fix fixes _ induction =>
      refine (fixes.keeps.mono ?_).trans
        (induction.mono fun place member => List.mem_cons_of_mem _ member)
      rintro place rfl
      exact List.mem_cons_self

theorem scanFiles_effect (quiet : session.interruptions = []) (paths : List Path) :
    (session.scanFiles paths).2.Follows session ∧
      session.Scans paths session.files (session.scanFiles paths).2.files := by
  induction paths generalizing session with
  | nil => exact ⟨.refl session, .stop [] _⟩
  | cons path rest induction =>
      rw [scanFiles]
      split
      · exact ⟨.refl session, .stop _ _⟩
      · split
        · rename_i error _
          have noticed : (session.noticeScan error.message).Rests session :=
            rests_notify session _ _
          obtain ⟨follows, scans⟩ := induction (noticed.undisturbed quiet)
          refine ⟨follows.trans noticed.toFollows, .pass (noticed.toFollows.scans ?_)⟩
          exact noticed.files ▸ scans
        · rename_i document opened
          obtain ⟨follows, middle, fixing, written⟩ := analyze_effect quiet opened false
          -- Without an update of the report, only the fixes are left.
          obtain rfl : (session.analyze document false).2.files = middle := by
            simpa using written
          have onward : ∀ after, session.Scans rest
              (session.analyze document false).2.files after →
                session.Scans (path :: rest) session.files after := by
            intro after scans
            rcases fixing with same | fixes
            · exact .pass (same ▸ scans)
            · exact .fix fixes scans
          split
          · rename_i failure after ended
            rw [ended] at follows onward
            exact ⟨follows, onward _ (.stop rest _)⟩
          · rename_i diagnostics after ended
            rw [ended] at follows onward
            obtain ⟨laterFollows, scans⟩ := induction (follows.undisturbed quiet)
            split
            · rename_i failure last scanned
              rw [scanned] at laterFollows scans
              exact ⟨laterFollows.trans follows, onward _ (follows.scans scans)⟩
            · rename_i others last scanned
              rw [scanned] at laterFollows scans
              exact ⟨laterFollows.trans follows, onward _ (follows.scans scans)⟩

end Analysing

end Session

end ScriptLint
