import ScriptLint.Proofs.Session.Failure
import ScriptLint.Proofs.Text.Utf8
import ScriptLint.Proofs.Workspace.Roots

/-!
# Operations of a session

A session is asked for one operation after the other, and others may change the files
in between.  Every operation returns diagnostics unless a refused line of the ignore
file or a path with a null character lies in its way.
-/

namespace ScriptLint

theorem exists_prefix_cons_iff {α : Type} {first : α} {rest : List α}
    {holds : List α → α → Prop} :
    (∃ before last, before ++ [last] <+: first :: rest ∧ holds before last) ↔
      holds [] first ∨ ∃ before last, before ++ [last] <+: rest ∧
        holds (first :: before) last := by
  constructor
  · rintro ⟨before, last, visited, found⟩
    cases before with
    | nil =>
        obtain rfl : last = first := by simpa using visited
        exact Or.inl found
    | cons head before =>
        obtain ⟨rfl, visitedRest⟩ := List.cons_prefix_cons.mp visited
        exact Or.inr ⟨before, last, visitedRest, found⟩
  · rintro (found | ⟨before, last, visited, found⟩)
    · exact ⟨[], first, by simp, found⟩
    · exact ⟨first :: before, last, List.cons_prefix_cons.mpr ⟨rfl, visited⟩, found⟩

/-- What a session can be asked for. -/
inductive Operation where
  | activate
  | opened (path : Path)
  | saved (path : Path)
  | foldersChanged (roots : Option (List Path))
  | deactivate

namespace Session

def perform (session : Session) :
    Operation → Except Failure (List Diagnostic) × Session
  | .activate => session.activate
  | .opened path => session.analyzeFile path
  | .saved path => session.analyzeFile path
  | .foldersChanged roots => session.changeFolders roots
  | .deactivate => (.ok [], session.deactivate)

/-- The session after others changed the files. -/
def editing (session : Session) (edit : FileTree → FileTree) : Session :=
  { session with files := edit session.files }

/-- Carries out operations in order, each after a change of the files by others.  An
operation that fails does not end the session. -/
def performAll (session : Session) :
    List ((FileTree → FileTree) × Operation) →
      List (Except Failure (List Diagnostic)) × Session
  | [] => ([], session)
  | (edit, operation) :: rest =>
      let (outcome, after) := (session.editing edit).perform operation
      let (outcomes, last) := after.performAll rest
      (outcome :: outcomes, last)

variable {session : Session}

section Following

theorem saveReport_follows (session : Session) (diagnostics : List Diagnostic) :
    (session.saveReport diagnostics).2.Follows session := by
  unfold saveReport
  split
  · exact (rests_notify session _ _).toFollows
  · exact (writeReport_effect session _ _ _).1

theorem scan_follows (quiet : session.interruptions = []) :
    session.scan.2.Follows session := by
  unfold scan
  split
  · exact (rests_notify session _ _).toFollows
  · exact (scanFiles_effect quiet _).1

theorem activate_follows (quiet : session.interruptions = []) :
    session.activate.2.Follows session := by
  have scanned := scan_follows quiet
  unfold activate
  split
  · rename_i failure after ended
    rwa [ended] at scanned
  · rename_i diagnostics after ended
    rw [ended] at scanned
    have saved := (saveReport_follows after diagnostics).trans scanned
    split
    · rename_i failure last done
      rwa [done] at saved
    · rename_i report last done
      rwa [done] at saved

theorem prune_follows (session : Session) : session.prune.Follows session := by
  unfold prune
  split
  · exact .refl session
  · exact ⟨rfl, rfl, rfl, rfl, rfl⟩

theorem perform_undisturbed (quiet : session.interruptions = []) (operation : Operation) :
    (session.perform operation).2.interruptions = [] := by
  cases operation with
  | activate => exact (activate_follows quiet).undisturbed quiet
  | opened path => exact (analyzeFile_effect quiet path).1.undisturbed quiet
  | saved path => exact (analyzeFile_effect quiet path).1.undisturbed quiet
  | deactivate => exact quiet
  | foldersChanged roots =>
      have scanned : ∀ session : Session, session.interruptions = [] →
          session.prune.activate.2.interruptions = [] := by
        intro session quiet
        have pruned := (prune_follows session).undisturbed quiet
        exact (activate_follows pruned).undisturbed pruned
      rw [perform, changeFolders.eq_def]
      split
      · exact scanned session quiet
      · split
        · exact quiet
        · exact scanned _ quiet

end Following

section Scanning

/-- A scan of some paths escapes: it comes to a file in a known language and can open
it, and the ignore file is refused then. -/
def ScanEscapes (session : Session) (paths : List Path) : Prop :=
  session.cancelled = false ∧
    ∃ before path, before ++ [path] <+: paths ∧
      ∃ document, Document.open (session.scanFiles before).2.files path = .ok document ∧
        document.language.isNone = false ∧ (session.scanFiles before).2.RefusesIgnoreFile

/-- If a scan goes on after its first file, it escapes there or later. -/
theorem scanEscapes_cons_iff {path : Path} {after : Session} (rest : List Path)
    (active : session.cancelled = false) (activeAfter : after.cancelled = false)
    (onward : ∀ paths, (session.scanFiles (path :: paths)).2 = (after.scanFiles paths).2) :
    session.ScanEscapes (path :: rest) ↔
      (∃ document, Document.open session.files path = .ok document ∧
        session.AnalysisEscapes document false) ∨ after.ScanEscapes rest := by
  have start : (session.scanFiles []).2 = session := rfl
  unfold ScanEscapes
  rw [exists_prefix_cons_iff]
  simp only [active, activeAfter, true_and, start, onward, AnalysisEscapes,
    Bool.false_eq_true, false_and, or_false]

theorem ScanEscapes.here {path : Path} {rest : List Path} {document : Document}
    (active : session.cancelled = false)
    (opened : Document.open session.files path = .ok document)
    (escapes : session.AnalysisEscapes document false) :
    session.ScanEscapes (path :: rest) := by
  obtain ⟨known, refuses | ⟨updates, -⟩⟩ := escapes
  · exact ⟨active, [], path, by simp, document, opened, known, refuses⟩
  · simp at updates

theorem scanFiles_cons_unopened {path : Path} {error : ReadError}
    (active : session.cancelled = false)
    (failed : Document.open session.files path = .error error) (rest : List Path) :
    session.scanFiles (path :: rest) =
      (session.noticeScan error.message).scanFiles rest := by
  rw [scanFiles, if_neg (by simp [active]), failed]

theorem scanFiles_cons_analyzed {path : Path} {document : Document}
    {diagnostics : List Diagnostic} {after : Session}
    (active : session.cancelled = false)
    (opened : Document.open session.files path = .ok document)
    (ended : session.analyze document false = (.ok diagnostics, after))
    (rest : List Path) :
    session.scanFiles (path :: rest) =
      ((after.scanFiles rest).1.map (diagnostics ++ ·), (after.scanFiles rest).2) := by
  rw [scanFiles, if_neg (by simp [active]), opened]
  dsimp only
  rw [ended]
  dsimp only
  split
  · rename_i failure last scanned
    rw [scanned]
    rfl
  · rename_i others last scanned
    rw [scanned]
    rfl

theorem scanFiles_escapesIf (quiet : session.interruptions = []) (paths : List Path) :
    EscapesIf (session.ScanEscapes paths) (session.scanFiles paths).1 := by
  induction paths generalizing session with
  | nil => exact .ok _ (by simp [ScanEscapes])
  | cons path rest induction =>
      cases active : session.cancelled with
      | true =>
          rw [scanFiles, if_pos active]
          exact .ok _ (by simp [ScanEscapes, active])
      | false =>
          cases opened : Document.open session.files path with
          | error error =>
              have noticed : (session.noticeScan error.message).Rests session :=
                rests_notify session _ _
              have cons := scanEscapes_cons_iff rest active
                (noticed.cancelled.trans active)
                (fun paths => by rw [scanFiles_cons_unopened active opened])
              rw [scanFiles_cons_unopened active opened]
              refine (induction (noticed.undisturbed quiet)).congr (cons.trans ?_).symm
              simp [opened]
          | ok document =>
              have step := analyze_escapesIf quiet active opened false
              have follows := (analyze_effect quiet opened false).1
              cases ended : session.analyze document false with
              | mk result after =>
                  rw [ended] at step follows
                  cases result with
                  | error failure =>
                      -- The scan ends here, so nothing after this file matters.
                      rw [scanFiles, if_neg (by simp [active]), opened]
                      dsimp only
                      rw [ended]
                      exact .error step.of_error.1 (.here active opened step.of_error.2)
                  | ok diagnostics =>
                      have cons := scanEscapes_cons_iff rest active
                        (follows.cancelled.trans active)
                        (fun paths => by rw [scanFiles_cons_analyzed active opened ended])
                      rw [scanFiles_cons_analyzed active opened ended]
                      refine ((induction (follows.undisturbed quiet)).map _).congr
                        (cons.trans ?_).symm
                      simp [opened, step.of_ok]

/-- Starting a session escapes in its scan, or its report is refused after that. -/
def ActivationEscapes (session : Session) : Prop :=
  (∃ paths, session.workspace.files session.files = .ok paths ∧
      session.ScanEscapes paths) ∨
    session.scan.2.RefusesReport

theorem scan_escapesIf (quiet : session.interruptions = []) :
    EscapesIf (∃ paths, session.workspace.files session.files = .ok paths ∧
      session.ScanEscapes paths) session.scan.1 := by
  unfold scan
  split
  · rename_i error failed
    exact .ok _ (by simp [failed])
  · rename_i paths listed
    exact (scanFiles_escapesIf quiet paths).congr (by simp [listed])

theorem saveReport_escapesIf (session : Session) (diagnostics : List Diagnostic) :
    EscapesIf session.RefusesReport (session.saveReport diagnostics).1 := by
  unfold saveReport
  split
  · rename_i none
    exact .ok _ (by simp [RefusesReport, none])
  · rename_i path kept
    exact writeReport_escapesIf savingWords kept diagnostics

theorem activate_escapesIf (quiet : session.interruptions = []) :
    EscapesIf session.ActivationEscapes session.activate.1 := by
  have scanned := scan_escapesIf quiet
  unfold activate ActivationEscapes
  split
  · rename_i failure after ended
    rw [ended] at scanned
    exact .error scanned.of_error.1 (Or.inl scanned.of_error.2)
  · rename_i diagnostics after ended
    rw [ended] at scanned ⊢
    rw [or_iff_right scanned.of_ok]
    have saved := saveReport_escapesIf after diagnostics
    split
    · rename_i failure last done
      rw [done] at saved
      exact .error saved.of_error.1 saved.of_error.2
    · rename_i report last done
      rw [done] at saved
      exact .ok _ saved.of_ok

end Scanning

section Running

/-- The session with other root folders. -/
def withRoots (session : Session) (roots : List Path) : Session :=
  { session with workspace := ⟨roots.map Path.resolve, session.workspace.settings⟩ }

def Escapes (session : Session) : Operation → Prop
  | .activate => session.ActivationEscapes
  | .opened path => session.FileEscapes path
  | .saved path => session.FileEscapes path
  | .foldersChanged none => session.prune.ActivationEscapes
  | .foldersChanged (some roots) =>
      (∃ root ∈ roots, root.holdsNull = true) ∨
        (session.withRoots roots).prune.ActivationEscapes
  | .deactivate => False

theorem changeFolders_escapesIf (quiet : session.interruptions = [])
    (roots : Option (List Path)) :
    EscapesIf (session.Escapes (.foldersChanged roots)) (session.changeFolders roots).1 := by
  have scanned : ∀ session : Session, session.interruptions = [] →
      EscapesIf session.prune.ActivationEscapes session.prune.activate.1 :=
    fun session quiet => activate_escapesIf ((prune_follows session).undisturbed quiet)
  cases roots with
  | none => exact scanned session quiet
  | some roots =>
      rw [changeFolders, Workspace.withRoots]
      rcases Workspace.ofRoots_cases roots session.workspace.settings with
        ⟨null, error, failed, refusal⟩ | ⟨free, resolved⟩
      · rw [failed]
        exact .error (by simp [Failure.isNoticed, ReadError.isRefusal, refusal])
          (Or.inl null)
      · rw [resolved]
        exact (scanned (session.withRoots roots) quiet).congr (or_iff_right free).symm

theorem perform_escapesIf (quiet : session.interruptions = []) (operation : Operation) :
    EscapesIf (session.Escapes operation) (session.perform operation).1 := by
  cases operation with
  | activate => exact activate_escapesIf quiet
  | opened path => exact analyzeFile_escapesIf quiet path
  | saved path => exact analyzeFile_escapesIf quiet path
  | foldersChanged roots => exact changeFolders_escapesIf quiet roots
  | deactivate => exact .ok _ id

theorem performAll_cons (session : Session) (edit : FileTree → FileTree)
    (operation : Operation) (rest : List ((FileTree → FileTree) × Operation)) :
    session.performAll ((edit, operation) :: rest) =
      (((session.editing edit).perform operation).1 ::
        (((session.editing edit).perform operation).2.performAll rest).1,
        (((session.editing edit).perform operation).2.performAll rest).2) :=
  rfl

theorem performAll_fails_iff (quiet : session.interruptions = [])
    (requests : List ((FileTree → FileTree) × Operation)) :
    (∃ failure, .error failure ∈ (session.performAll requests).1) ↔
      ∃ before request, before ++ [request] <+: requests ∧
        ((session.performAll before).2.editing request.1).Escapes request.2 := by
  induction requests generalizing session with
  | nil => simp [performAll]
  | cons request rest induction =>
      obtain ⟨edit, operation⟩ := request
      have quietNow : (session.editing edit).interruptions = [] := quiet
      -- The first request fails by its own step; the others are a run of what it leaves.
      have first := (perform_escapesIf quietNow operation).fails_iff
      have later := induction (perform_undisturbed quietNow operation)
      rw [exists_prefix_cons_iff]
      simp only [performAll_cons, List.mem_cons, exists_or, later]
      refine or_congr (Iff.trans ?_ first) Iff.rfl
      simp only [eq_comm]

/-- In a run of a session every operation returns diagnostics exactly if none of them
meets a refused line of the ignore file or a refused path. -/
theorem performAll_returns_iff (parse : Parser) (config : RuleConfig)
    (workspace : Workspace) (files : FileTree)
    (requests : List ((FileTree → FileTree) × Operation)) :
    (∀ outcome ∈ ((start parse config workspace files).performAll requests).1,
      ∃ diagnostics, outcome = .ok diagnostics) ↔
    ∀ before edit operation, before ++ [(edit, operation)] <+: requests →
      ¬(((start parse config workspace files).performAll before).2.editing edit).Escapes
        operation := by
  have fails := performAll_fails_iff
    (show (start parse config workspace files).interruptions = [] from rfl) requests
  generalize start parse config workspace files = session at fails ⊢
  constructor
  · intro returns before edit operation visited escapes
    obtain ⟨failure, member⟩ := fails.mpr ⟨before, (edit, operation), visited, escapes⟩
    obtain ⟨diagnostics, returned⟩ := returns _ member
    simp at returned
  · intro never outcome member
    cases outcome with
    | ok diagnostics => exact ⟨diagnostics, rfl⟩
    | error failure =>
        obtain ⟨before, ⟨edit, operation⟩, visited, escapes⟩ := fails.mp ⟨failure, member⟩
        exact absurd escapes (never before edit operation visited)

/-- A session over a file and an ignore file with a line that negates nothing. -/
def negatingSession : Session :=
  .start (fun _ _ => ⟨"program", true, false, false, 0, 0, none, []⟩) []
    ⟨[⟨"/", ["tmp", "lintsync"]⟩], {}⟩
    (.folder 0o755 [("tmp", .folder 0o755 [("lintsync", .folder 0o755
      [(".eslintignore", .file (Utf8.encode ['!', '\n']) 0o644),
        ("a.js", .file (Utf8.encode "console.log('x');\n".toList) 0o644)])])])

theorem ignoreRules_negatingSession :
    negatingSession.ignoreRules = .error (.pattern (.invalid "!")) := by
  have read : negatingSession.files.readTextIfFile
      (Path.join ⟨"/", ["tmp", "lintsync"]⟩ (Path.ofString ".eslintignore")) =
        .ok (some ['!', '\n']) :=
    FileTree.readTextIfFile_eq_some_iff.mpr (FileTree.readText_eq_ok_iff.mpr
      ⟨_, 0o644, ['!', '\n'], rfl, Utf8.decode_encode _, rfl⟩)
  have refused : IgnoreRules.ofText ⟨"/", ["tmp", "lintsync"]⟩ (some ['!', '\n']) =
      .error (.invalid "!") := by
    have lines : IgnorePattern.ofLines (IgnoreRules.defaultLines ++ [['!']]) =
        .error (.invalid "!") := by
      rw [IgnoreRules.defaultLines, List.singleton_append, IgnorePattern.ofLines,
        IgnorePattern.ofLine_packages]
      rfl
    change (IgnorePattern.ofLines (IgnoreRules.defaultLines ++ [['!']])).map _ = _
    rw [lines]
    rfl
  have loaded : IgnoreRules.load negatingSession.files ⟨"/", ["tmp", "lintsync"]⟩
      negatingSession.workspace.settings.ignoreName = .error (.pattern (.invalid "!")) := by
    have named : negatingSession.workspace.settings.ignoreName = ".eslintignore" := rfl
    rw [IgnoreRules.load, named, read]
    dsimp only
    rw [refused]
    rfl
  have rooted : negatingSession.workspace.primary? =
      some ⟨"/", ["tmp", "lintsync"]⟩ := rfl
  rw [ignoreRules, rooted]
  dsimp only
  rw [loaded]

/-- Saving the file fails for the ignore file. -/
theorem saving_fails_negatingSession :
    (negatingSession.performAll
      [(id, .saved ⟨"/", ["tmp", "lintsync", "a.js"]⟩)]).1 =
        [.error (.pattern (.invalid "!"))] := by
  have language : Path.language? ⟨"/", ["tmp", "lintsync", "a.js"]⟩ = some .javascript := by
    decide +kernel
  have opened : Document.open negatingSession.files ⟨"/", ["tmp", "lintsync", "a.js"]⟩ =
      .ok ⟨⟨"/", ["tmp", "lintsync", "a.js"]⟩, some .javascript,
        "console.log('x');\n".toList⟩ := by
    refine open_eq_ok_iff.mpr ⟨rfl, rfl, language.symm, FileTree.readText_eq_ok_iff.mpr ?_⟩
    exact ⟨_, 0o644, "console.log('x');\n".toList, rfl, Utf8.decode_encode _, rfl⟩
  have checked : ∀ path text, negatingSession.lintResult path text =
      .error (.pattern (.invalid "!")) := by
    intro path text
    rw [lintResult, ignoreRules_negatingSession]
  have failed : (negatingSession.analyzeFile ⟨"/", ["tmp", "lintsync", "a.js"]⟩).1 =
      .error (.pattern (.invalid "!")) := by
    rw [analyzeFile, if_neg (by decide), opened]
    dsimp only
    rw [analyze_of_active rfl rfl rfl, checked]
    rfl
  change [(negatingSession.analyzeFile ⟨"/", ["tmp", "lintsync", "a.js"]⟩).1] = _
  rw [failed]

end Running

end Session

end ScriptLint
