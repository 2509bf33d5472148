import ScriptLint.Proofs.Ignore
import ScriptLint.Proofs.Session.Effect

/-!
# Failures that are not noticed

Nearly every failure of an analysis becomes a notice.  What goes through is a refused
line of the ignore file, which every check of a text reads anew, and a path with a null
character.
-/

namespace ScriptLint

theorem Document.isRefusal_of_open {files : FileTree} {path : Path} {error : ReadError}
    (failed : Document.open files path = .error error) :
    error.isRefusal = path.holdsNull := by
  cases null : path.holdsNull with
  | true =>
      simp only [Document.open, Path.resolved, null, if_true, Except.error.injEq] at failed
      subst failed
      rfl
  | false =>
      have freeResolved : path.resolve.holdsNull = false := by
        rw [Path.holdsNull_eq_false_iff] at null ⊢
        intro name member
        exact null name (Path.of_mem_resolveNames member).1
      simp only [Document.open, Path.resolved, null, Bool.false_eq_true, if_false] at failed
      cases read : files.readText path.resolve with
      | ok text => simp [read, Except.map] at failed
      | error own =>
          obtain rfl : own = error := by simpa [read, Except.map] using failed
          exact (FileTree.isRefusal_of_readText read).trans freeResolved

/-- A result fails exactly under a condition, and its failure is not noticed. -/
structure EscapesIf {α : Type} (condition : Prop) (result : Except Failure α) : Prop where
  unnoticed : ∀ failure, result = .error failure → failure.isNoticed = false
  fails_iff : (∃ failure, result = .error failure) ↔ condition

namespace EscapesIf

variable {α : Type} {condition other : Prop}

theorem ok (value : α) (never : ¬condition) : EscapesIf condition (.ok value) :=
  ⟨by simp, by simp [never]⟩

theorem error {failure : Failure} (unnoticed : failure.isNoticed = false)
    (always : condition) : EscapesIf condition (.error failure : Except Failure α) :=
  ⟨by simp [unnoticed], by simp [always]⟩

theorem of_ok {value : α} (escapes : EscapesIf condition (.ok value)) : ¬condition := by
  rw [← escapes.fails_iff]
  simp

theorem of_error {failure : Failure}
    (escapes : EscapesIf condition (.error failure : Except Failure α)) :
    failure.isNoticed = false ∧ condition :=
  ⟨escapes.unnoticed failure rfl, escapes.fails_iff.mp ⟨failure, rfl⟩⟩

theorem map {result : Except Failure α} {β : Type} (escapes : EscapesIf condition result)
    (convert : α → β) : EscapesIf condition (result.map convert) := by
  cases result with
  | ok value => exact .ok _ escapes.of_ok
  | error failure => exact .error escapes.of_error.1 escapes.of_error.2

theorem congr {result : Except Failure α} (escapes : EscapesIf condition result)
    (same : condition ↔ other) : EscapesIf other result :=
  ⟨escapes.unnoticed, escapes.fails_iff.trans same⟩

end EscapesIf

namespace Session

variable {session : Session}

/-- The ignore file can be read, and one of its lines is not a pattern. -/
def RefusesIgnoreFile (session : Session) : Prop :=
  ∃ path text, session.workspace.ignorePath? = some path ∧
    session.files.readText path = .ok text ∧
    ∃ line ∈ Text.boundaryLines text, ∃ error, IgnorePattern.ofLine line = .error error

theorem Rests.refusesIgnoreFile_iff {later : Session} (rests : later.Rests session) :
    later.RefusesIgnoreFile ↔ session.RefusesIgnoreFile := by
  unfold RefusesIgnoreFile
  rw [rests.files, rests.workspace]

theorem ignoreRules_fails_iff :
    (∃ failure, session.ignoreRules = .error failure ∧ failure.isNoticed = false) ↔
      session.RefusesIgnoreFile := by
  unfold ignoreRules RefusesIgnoreFile Workspace.ignorePath?
  cases session.workspace.primary? with
  | none => simp
  | some root =>
      simp only [Option.map_some, Option.some.injEq, exists_and_left, exists_eq_left',
        ← IgnoreRules.load_refused_iff]
      cases loaded : IgnoreRules.load session.files root
          session.workspace.settings.ignoreName with
      | ok rules => simp
      | error problem =>
          cases problem with
          | read error => simp [Failure.isNoticed, IgnoreRules.isRefusal_of_load loaded]
          | pattern error => simp [Failure.isNoticed]

theorem lintResult_fails_iff (session : Session) (path : String) (text : List Char) :
    (∃ failure, session.lintResult path text = .error failure ∧
        failure.isNoticed = false) ↔ session.RefusesIgnoreFile := by
  rw [← ignoreRules_fails_iff, lintResult]
  cases session.ignoreRules with
  | error failure => simp
  | ok rules =>
      refine iff_of_false ?_ (by simp)
      rintro ⟨failure, failed, unnoticed⟩
      dsimp only at failed
      split at failed
      · obtain rfl := Except.error.inj failed
        simp [Failure.isNoticed] at unnoticed
      · split at failed
        · simp at failed
        · cases linted : lintText session.parse RuleBook.standard session.config path
              text with
          | ok result => simp [linted, Except.mapError] at failed
          | error problem =>
              simp only [linted, Except.mapError, Except.error.injEq] at failed
              subst failed
              simp [Failure.isNoticed] at unnoticed

theorem not_refusesIgnoreFile_of_lintResult {path : String} {text : List Char}
    {result : LintResult} (checked : session.lintResult path text = .ok result) :
    ¬session.RefusesIgnoreFile := by
  intro refuses
  obtain ⟨failure, failed, -⟩ := (lintResult_fails_iff session path text).mpr refuses
  simp [checked] at failed

theorem ignoreRules_of_absent {root : Path}
    (first : session.workspace.primary? = some root)
    (absent : session.files.readTextIfFile
      (root.join (Path.ofString session.workspace.settings.ignoreName)) = .ok none) :
    session.ignoreRules = .ok (some ⟨root, [.packages]⟩) := by
  rw [ignoreRules, first]
  dsimp only
  rw [IgnoreRules.load_of_absent absent]

theorem lintResult_of_seen {rules : IgnoreRules} {path : String}
    (ignoring : session.ignoreRules = .ok (some rules))
    (accepted : RuleConfig.validate RuleBook.standard session.config = .ok ())
    (seen : rules.ignores (Path.ofString path) = false) (text : List Char) :
    session.lintResult path text =
      (lintText session.parse RuleBook.standard session.config path text).mapError .lint := by
  rw [lintResult, ignoring]
  dsimp only
  rw [accepted]
  dsimp only
  rw [Option.any_some, seen, if_neg Bool.false_ne_true]

section Reporting

/-- Checking a file for the report escapes: its path is refused, or it can be opened
and the ignore file is refused. -/
def CheckEscapes (session : Session) (path : Path) : Prop :=
  path.holdsNull = true ∨
    session.RefusesIgnoreFile ∧ ∃ document, Document.open session.files path = .ok document

theorem checkFile_fails_iff (quiet : session.interruptions = []) (path : Path) :
    (∃ failure, (session.checkFile path).1 = .error failure ∧
        failure.isNoticed = false) ↔ session.CheckEscapes path := by
  rw [checkFile, CheckEscapes]
  cases opened : Document.open session.files path with
  | error error =>
      simp [Failure.isNoticed, Document.isRefusal_of_open opened]
  | ok document =>
      have free : path.holdsNull = false := (open_eq_ok_iff.mp opened).1
      dsimp only
      rw [check_of_undisturbed quiet, free,
        ← lintResult_fails_iff session document.path.toString document.text]
      cases session.lintResult document.path.toString document.text with
      | error failure => simp
      | ok result => simp

theorem Rests.checkEscapes_iff {later : Session} (rests : later.Rests session)
    (path : Path) : later.CheckEscapes path ↔ session.CheckEscapes path := by
  rw [CheckEscapes, CheckEscapes, rests.refusesIgnoreFile_iff, rests.files]

theorem checkFiles_escapesIf (quiet : session.interruptions = []) (paths : List Path) :
    EscapesIf (∃ path ∈ paths, session.CheckEscapes path)
      (session.checkFiles paths).1 := by
  induction paths generalizing session with
  | nil => exact .ok _ (by simp)
  | cons path rest induction =>
      have step := checkFile_fails_iff quiet path
      have rests := checkFile_rests quiet path
      simp only [List.exists_mem_cons_iff]
      rw [checkFiles]
      split
      · rename_i diagnostics after checked
        rw [checked] at step rests
        have here : ¬session.CheckEscapes path := by
          rw [← step]
          simp
        have later := induction (rests.undisturbed quiet)
        simp only [rests.checkEscapes_iff] at later
        simp only [here, false_or]
        split
        · rename_i others last ended
          rw [ended] at later
          exact .ok _ later.of_ok
        · rename_i failure last ended
          rw [ended] at later
          exact .error later.of_error.1 later.of_error.2
      · rename_i failure after checked
        rw [checked] at step rests
        split
        · rename_i noticed
          have here : ¬session.CheckEscapes path := by
            rw [← step]
            simp [noticed]
          have restsOn := (rests_notify after .error
            ("Error updating ESLint report: " ++ failure.message)).trans rests
          have later := induction (restsOn.undisturbed quiet)
          simp only [restsOn.checkEscapes_iff] at later
          simpa only [here, false_or] using later
        · rename_i unnoticed
          have kind := Bool.eq_false_iff.mpr unnoticed
          exact .error kind (Or.inl (step.mp ⟨failure, rfl, kind⟩))

/-- The path of the report is refused, after its folder was made if that is not. -/
def RefusesReport (session : Session) : Prop :=
  ∃ path, session.workspace.reportPath? = some path ∧ path.holdsNull = true ∧
    (path.parent.holdsNull = true ∨ (session.files.makeFolders path.parent).1 = none)

theorem Rests.refusesReport_iff {later : Session} (rests : later.Rests session) :
    later.RefusesReport ↔ session.RefusesReport := by
  unfold RefusesReport
  rw [rests.files, rests.workspace]

theorem writeReport_escapesIf {path : Path} (words : ReportWords)
    (kept : session.workspace.reportPath? = some path) (diagnostics : List Diagnostic) :
    EscapesIf session.RefusesReport (session.writeReport words path diagnostics).1 := by
  have refused := session.files.replaceFile_refused_iff path
    (Utf8.encode (Report.ofDiagnostics diagnostics).toList)
  have condition : session.RefusesReport ↔ path.holdsNull = true ∧
      (path.parent.holdsNull = true ∨ (session.files.makeFolders path.parent).1 = none) := by
    simp [RefusesReport, kept]
  rw [← condition] at refused
  unfold writeReport
  dsimp only
  split
  · rename_i error files replaced
    rw [replaced] at refused
    split
    · rename_i refusal
      exact .error (by simp [Failure.isNoticed, ReadError.isRefusal, refusal])
        (refused.mp ⟨error, rfl, refusal⟩)
    · rename_i other
      refine .ok _ ?_
      rw [← refused]
      simpa using other
  · rename_i files replaced
    refine .ok _ ?_
    rw [← refused, replaced]
    simp

/-- Updating the report escapes for a file that is checked or for the report itself. -/
def UpdateEscapes (session : Session) : Prop :=
  session.workspace.reportPath? ≠ none ∧
    ∃ paths, session.workspace.files session.files = .ok paths ∧
      ((∃ path ∈ paths, session.CheckEscapes path) ∨ session.RefusesReport)

theorem updateReport_escapesIf (quiet : session.interruptions = []) :
    EscapesIf session.UpdateEscapes session.updateReport.1 := by
  unfold updateReport UpdateEscapes
  split
  · rename_i none
    exact .ok _ (by simp [none])
  · rename_i path kept
    split
    · rename_i error failed
      exact .ok _ (by simp [failed])
    · rename_i paths listed
      have checks := checkFiles_escapesIf quiet paths
      have rests := checkFiles_rests quiet paths
      simp only [kept, listed, ne_eq, reduceCtorEq, not_false_eq_true, true_and,
        Except.ok.injEq, exists_eq_left']
      split
      · rename_i failure after ended
        rw [ended] at checks
        exact .error checks.of_error.1 (Or.inl checks.of_error.2)
      · rename_i diagnostics after ended
        rw [ended] at checks rests
        have written := writeReport_escapesIf updatingWords
          (rests.workspace ▸ kept) diagnostics
        exact written.congr (by
          rw [rests.refusesReport_iff, or_iff_right checks.of_ok])

end Reporting

section Analysing

theorem noticeFailure_escapesIf (outcome : Except Failure (List Diagnostic) × Session) :
    EscapesIf (∃ failure, outcome.1 = .error failure ∧ failure.isNoticed = false)
      (noticeFailure outcome).1 := by
  obtain ⟨result, session⟩ := outcome
  cases result with
  | ok diagnostics => exact .ok _ (by simp)
  | error failure =>
      rw [noticeFailure]
      split
      · rename_i noticed
        exact .ok _ (by simp [noticed])
      · rename_i unnoticed
        have kind := Bool.eq_false_iff.mpr unnoticed
        exact .error kind ⟨failure, rfl, kind⟩

theorem eq_nil_of_noticeFailure {failure : Failure} {diagnostics : List Diagnostic}
    {after : Session}
    (ended : noticeFailure (.error failure, session) = (.ok diagnostics, after)) :
    diagnostics = [] := by
  rw [noticeFailure] at ended
  split at ended
  · simpa using (Prod.mk.inj ended).1.symm
  · simp at ended

/-- The update of the report after an analysis escapes: there are diagnostics, and
the report cannot be updated in the state that the analysis leaves. -/
def UpdateAfterEscapes (session : Session) (document : Document) : Prop :=
  ∃ diagnostics after, session.analyze document false = (.ok diagnostics, after) ∧
    diagnostics ≠ [] ∧ after.UpdateEscapes

/-- The analysis of a document escapes: its language is known, and the ignore file is
refused or the update of the report escapes, if there is one. -/
def AnalysisEscapes (session : Session) (document : Document) (updatesReport : Bool) :
    Prop :=
  document.language.isNone = false ∧
    (session.RefusesIgnoreFile ∨
      updatesReport = true ∧ session.UpdateAfterEscapes document)

theorem updateAfterEscapes_iff {document : Document} {result : LintResult}
    (quiet : session.interruptions = []) (active : session.cancelled = false)
    (known : document.language.isNone = false)
    (read : session.files.readText document.path = .ok document.text)
    (checked : session.lintResult document.path.toString document.text = .ok result) :
    session.UpdateAfterEscapes document ↔
      (Diagnostic.ofResult document.path.toString result).isEmpty = false ∧
        (session.counted.concluded document result).UpdateEscapes := by
  have readCounted : session.counted.files.readText document.path = .ok document.text :=
    read
  rw [UpdateAfterEscapes, analyze_of_active quiet active known, checked]
  dsimp only
  rw [conclude_of_readText readCounted]
  dsimp only
  cases Diagnostic.ofResult document.path.toString result with
  | nil =>
      simp only [List.isEmpty_nil, if_true, noticeFailure]
      simp
  | cons first rest =>
      simp only [List.isEmpty_cons, Bool.false_eq_true, if_false, noticeFailure]
      simp

theorem conclude_fails_iff {document : Document} (quiet : session.interruptions = [])
    (read : session.files.readText document.path = .ok document.text)
    (updatesReport : Bool) (result : LintResult) :
    (∃ failure, (session.conclude document updatesReport result).1 = .error failure ∧
        failure.isNoticed = false) ↔
      updatesReport = true ∧
        (Diagnostic.ofResult document.path.toString result).isEmpty = false ∧
          (session.concluded document result).UpdateEscapes := by
  have updated := updateReport_escapesIf
    ((concluded_follows session document result).undisturbed quiet)
  rw [conclude_of_readText read, ← updated.fails_iff]
  dsimp only
  cases (Diagnostic.ofResult document.path.toString result).isEmpty with
  | true => simp
  | false =>
      cases updatesReport with
      | false => simp
      | true =>
          simp only [Bool.false_eq_true, if_false, if_true, true_and]
          split
          · rename_i failure after ended
            rw [ended] at updated ⊢
            simp [updated.of_error.1]
          · rename_i report after ended
            simp [ended]

theorem analyze_escapesIf {path : Path} {document : Document}
    (quiet : session.interruptions = []) (active : session.cancelled = false)
    (opened : Document.open session.files path = .ok document) (updatesReport : Bool) :
    EscapesIf (session.AnalysisEscapes document updatesReport)
      (session.analyze document updatesReport).1 := by
  obtain ⟨-, located, -, read⟩ := open_eq_ok_iff.mp opened
  rw [← located] at read
  unfold AnalysisEscapes
  cases known : document.language.isNone with
  | true =>
      rw [analyze, if_pos (by simp [known])]
      exact .ok _ (by simp)
  | false =>
      have counting := rests_counted session
      have failing := lintResult_fails_iff session document.path.toString document.text
      rw [analyze_of_active quiet active known]
      refine (noticeFailure_escapesIf _).congr ?_
      cases checked : session.lintResult document.path.toString document.text with
      | error failure =>
          -- Without a result there are no diagnostics to report on.
          have noUpdate : ¬session.UpdateAfterEscapes document := by
            rintro ⟨diagnostics, after, ended, some, -⟩
            rw [analyze_of_active quiet active known, checked] at ended
            exact some (eq_nil_of_noticeFailure ended)
          rw [checked] at failing
          simpa [noUpdate] using failing
      | ok result =>
          rw [updateAfterEscapes_iff quiet active known read checked,
            or_iff_right (not_refusesIgnoreFile_of_lintResult checked)]
          simpa using conclude_fails_iff (counting.undisturbed quiet) read updatesReport result

/-- Opening or saving a file escapes: its path is refused, or its analysis escapes. -/
def FileEscapes (session : Session) (path : Path) : Prop :=
  session.cancelled = false ∧
    (path.holdsNull = true ∨
      ∃ document, Document.open session.files path = .ok document ∧
        session.AnalysisEscapes document true)

theorem analyzeFile_escapesIf (quiet : session.interruptions = []) (path : Path) :
    EscapesIf (session.FileEscapes path) (session.analyzeFile path).1 := by
  unfold FileEscapes
  rw [analyzeFile]
  split
  · rename_i cancelled
    exact .ok _ (by simp [cancelled])
  · rename_i running
    have active := Bool.eq_false_iff.mpr running
    split
    · rename_i error failed
      refine (noticeFailure_escapesIf _).congr ?_
      simp [active, failed, Failure.isNoticed, Document.isRefusal_of_open failed]
    · rename_i document opened
      refine (analyze_escapesIf quiet active opened true).congr ?_
      simp [active, opened, (open_eq_ok_iff.mp opened).1]

end Analysing

end Session

end ScriptLint
