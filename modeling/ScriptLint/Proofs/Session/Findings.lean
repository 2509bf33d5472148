import ScriptLint.Proofs.Session.Operation
import ScriptLint.Proofs.Store

/-!
# What analyses find

What an analysis finds in a file depends on the text of the file and on the ignore
rules.  A scan returns and stores what it finds in each file in the state in which it
comes to it.
-/

namespace ScriptLint

namespace Session

variable {session : Session} {path : Path}

/-- The result of checking the text of a file, if it can be read and checked. -/
def checked? (session : Session) (path : Path) : Option LintResult :=
  (session.files.readText path).toOption.bind fun text =>
    (session.lintResult path.toString text).toOption

/-- The diagnostics of a file, if it can be analysed. -/
def findings? (session : Session) (path : Path) : Option (List Diagnostic) :=
  if path.language?.isNone then none
  else (session.checked? path).map (Diagnostic.ofResult path.toString)

/-- The diagnostics of a file; none if it cannot be analysed. -/
def findings (session : Session) (path : Path) : List Diagnostic :=
  (session.findings? path).getD []

/-- What a scan finds in each of some files, in the state in which it comes to it. -/
def foundBy (session : Session) : List Path → List (String × Option (List Diagnostic))
  | [] => []
  | path :: rest =>
      (path.toString, session.findings? path) :: (session.scanFiles [path]).2.foundBy rest

theorem findings?_of_language (unknown : path.language?.isNone = true) :
    session.findings? path = none := by
  simp [findings?, unknown]

theorem findings?_of_lintResult {text : List Char} (known : path.language?.isNone = false)
    (read : session.files.readText path = .ok text) :
    session.findings? path = (session.lintResult path.toString text).toOption.map
      (Diagnostic.ofResult path.toString) := by
  simp [findings?, checked?, known, read, Except.toOption]

section Analysing

/-- A conclusion that returns returns the diagnostics and stores them. -/
theorem of_conclude {document : Document} {updatesReport : Bool} {result : LintResult}
    {diagnostics : List Diagnostic} {after : Session} (quiet : session.interruptions = [])
    (read : session.files.readText document.path = .ok document.text)
    (ended : noticeFailure (session.conclude document updatesReport result) =
      (.ok diagnostics, after)) :
    diagnostics = Diagnostic.ofResult document.path.toString result ∧
      after.store = session.store.record (document.path.toString,
        some (Diagnostic.ofResult document.path.toString result)) := by
  have stored : (session.concluded document result).store = session.store.record
      (document.path.toString, some (Diagnostic.ofResult document.path.toString result)) := by
    rw [concluded]
    cases result.output with
    | none => rfl
    | some fixed => rfl
  have quietLater := (concluded_follows session document result).undisturbed quiet
  rw [conclude_of_readText read] at ended
  dsimp only at ended
  split at ended
  · obtain ⟨returned, rfl⟩ := Prod.mk.inj ended
    exact ⟨(Except.ok.inj returned).symm, rfl⟩
  · split at ended
    · obtain ⟨-, kept, -⟩ := updateReport_effect quietLater
      have escapes := updateReport_escapesIf quietLater
      split at ended
      · rename_i failure last updated
        rw [updated] at escapes
        simp [noticeFailure, escapes.of_error.1] at ended
      · rename_i report last updated
        rw [updated] at kept
        obtain ⟨returned, rfl⟩ := Prod.mk.inj ended
        exact ⟨(Except.ok.inj returned).symm, kept.trans stored⟩
    · obtain ⟨returned, rfl⟩ := Prod.mk.inj ended
      exact ⟨(Except.ok.inj returned).symm, stored⟩

/-- An analysis that returns returns the findings and stores them. -/
theorem of_analyze {document : Document} {updatesReport : Bool}
    {diagnostics : List Diagnostic} {after : Session} (quiet : session.interruptions = [])
    (active : session.cancelled = false) (resolved : path.resolve = path)
    (opened : Document.open session.files path = .ok document)
    (ended : session.analyze document updatesReport = (.ok diagnostics, after)) :
    diagnostics = session.findings path ∧
      after.store = session.store.record (path.toString, session.findings? path) := by
  obtain ⟨-, located, language, read⟩ := open_eq_ok_iff.mp opened
  rw [resolved] at located language read
  cases known : document.language.isNone with
  | true =>
      rw [analyze, if_pos (by simp [known])] at ended
      obtain ⟨returned, rfl⟩ := Prod.mk.inj ended
      rw [findings, findings?_of_language (language ▸ known)]
      exact ⟨(Except.ok.inj returned).symm, rfl⟩
  | false =>
      rw [analyze_of_active quiet active known, located] at ended
      have found : session.findings? path = _ :=
        findings?_of_lintResult (language ▸ known) read
      rw [findings, found]
      cases checked : session.lintResult path.toString document.text with
      | error failure =>
          rw [checked] at ended
          have rests := noticeFailure_rests (.error failure, session)
          rw [ended] at rests
          exact ⟨eq_nil_of_noticeFailure ended, rests.store⟩
      | ok result =>
          rw [checked] at ended
          have readCounted : session.counted.files.readText document.path =
              .ok document.text := by
            rw [located]
            exact read
          have stored := of_conclude ((rests_counted session).undisturbed quiet) readCounted ended
          rw [located] at stored
          exact stored

theorem checked?_of_unopened {error : ReadError} (resolved : path.resolve = path)
    (failed : Document.open session.files path = .error error) :
    session.checked? path = none := by
  cases read : session.files.readText path with
  | error own => simp [checked?, read, Except.toOption]
  | ok text =>
      obtain ⟨bytes, mode, raw, reached, -, -⟩ := FileTree.readText_eq_ok_iff.mp read
      have free := (FileTree.reach_eq_ok_iff.mp reached).1
      have opened : Document.open session.files path = .ok ⟨path, path.language?, text⟩ :=
        open_eq_ok_iff.mpr ⟨free, resolved.symm, by rw [resolved], by rw [resolved, read]⟩
      simp [opened] at failed

theorem findings?_of_unopened {error : ReadError} (resolved : path.resolve = path)
    (failed : Document.open session.files path = .error error) :
    session.findings? path = none := by
  simp [findings?, checked?_of_unopened resolved failed]

theorem of_analyzeFile {diagnostics : List Diagnostic} (quiet : session.interruptions = [])
    (active : session.cancelled = false) (resolved : path.resolve = path)
    (returned : (session.analyzeFile path).1 = .ok diagnostics) :
    diagnostics = session.findings path := by
  rw [analyzeFile, if_neg (by simp [active])] at returned
  cases opened : Document.open session.files path with
  | error error =>
      rw [opened] at returned
      rw [findings, findings?_of_unopened resolved opened]
      exact eq_nil_of_noticeFailure (Prod.ext returned rfl)
  | ok document =>
      rw [opened] at returned
      exact (of_analyze quiet active resolved opened (Prod.ext returned rfl)).1

/-- A scan that returns returns what it found in its first file and goes on from what
that left. -/
theorem of_scanFiles_cons {rest : List Path} {diagnostics : List Diagnostic}
    {after : Session} (quiet : session.interruptions = [])
    (active : session.cancelled = false) (resolved : path.resolve = path)
    (ended : session.scanFiles (path :: rest) = (.ok diagnostics, after)) :
    ∃ others, (session.scanFiles [path]).2.scanFiles rest = (.ok others, after) ∧
      diagnostics = session.findings path ++ others ∧
      (session.scanFiles [path]).2.store =
        session.store.record (path.toString, session.findings? path) := by
  cases opened : Document.open session.files path with
  | error error =>
      have nothing := findings?_of_unopened resolved opened
      rw [scanFiles_cons_unopened active opened] at ended ⊢
      rw [findings, nothing]
      exact ⟨diagnostics, ended, rfl, rfl⟩
  | ok document =>
      cases analysed : session.analyze document false with
      | mk result middle =>
          cases result with
          | error failure =>
              rw [scanFiles, if_neg (by simp [active]), opened] at ended
              simp [analysed] at ended
          | ok own =>
              obtain ⟨found, stored⟩ := of_analyze quiet active resolved opened analysed
              rw [scanFiles_cons_analyzed active opened analysed] at ended ⊢
              obtain ⟨returned, last⟩ := Prod.mk.inj ended
              cases scanned : (middle.scanFiles rest).1 with
              | error failure => simp [scanned, Except.map] at returned
              | ok others =>
                  have whole : own ++ others = diagnostics := by
                    simpa [scanned, Except.map] using returned
                  exact ⟨others, Prod.ext scanned last, found ▸ whole.symm, stored⟩

theorem of_scanFiles {paths : List Path} {diagnostics : List Diagnostic} {after : Session}
    (quiet : session.interruptions = []) (active : session.cancelled = false)
    (resolved : ∀ path ∈ paths, path.resolve = path)
    (ended : session.scanFiles paths = (.ok diagnostics, after)) :
    diagnostics = (session.foundBy paths).flatMap (fun entry => entry.2.getD []) ∧
      after.store = session.store.recordAll (session.foundBy paths) := by
  induction paths generalizing session diagnostics with
  | nil =>
      obtain ⟨returned, rfl⟩ := Prod.mk.inj ended
      exact ⟨(Except.ok.inj returned).symm, rfl⟩
  | cons path rest induction =>
      obtain ⟨resolvedHere, resolvedRest⟩ := List.forall_mem_cons.mp resolved
      obtain ⟨others, scanned, whole, stored⟩ :=
        of_scanFiles_cons quiet active resolvedHere ended
      have follows := (scanFiles_effect quiet [path]).1
      obtain ⟨rfl, storedRest⟩ := induction (follows.undisturbed quiet)
        (follows.cancelled.trans active) resolvedRest scanned
      rw [whole, foundBy, List.flatMap_cons, Store.recordAll_cons, storedRest, stored]
      simp only [findings, and_self]

end Analysing

section Unfixed

/-- Checking a file gives no fixed text. -/
def Unfixed (session : Session) (path : Path) : Prop :=
  ∀ result, session.checked? path = some result → result.output = none

theorem checked?_congr {later : Session} (follows : later.Follows session)
    (files : later.files = session.files) : later.checked? = session.checked? := by
  funext path
  unfold checked? lintResult ignoreRules
  rw [follows.workspace, follows.config, follows.parse, files]

theorem files_analyze_of_unfixed {document : Document} (quiet : session.interruptions = [])
    (active : session.cancelled = false) (resolved : path.resolve = path)
    (opened : Document.open session.files path = .ok document)
    (unfixed : session.Unfixed path) :
    (session.analyze document false).2.files = session.files := by
  obtain ⟨-, located, -, read⟩ := open_eq_ok_iff.mp opened
  rw [resolved] at located read
  cases known : document.language.isNone with
  | true => rw [analyze, if_pos (by simp [known])]
  | false =>
      rw [analyze_of_active quiet active known, (noticeFailure_rests _).files, located]
      cases checked : session.lintResult path.toString document.text with
      | error failure => rfl
      | ok result =>
          have readCounted : session.counted.files.readText document.path =
              .ok document.text := by
            rw [located]
            exact read
          have output : result.output = none := by
            apply unfixed result
            simp [checked?, read, checked, Except.toOption]
          dsimp only
          rw [conclude_of_readText readCounted, concluded, output]
          dsimp only
          split
          · rfl
          · rfl

/-- A scan that has nothing to fix leaves the files alone. -/
theorem files_scanFiles_of_unfixed {paths : List Path} (quiet : session.interruptions = [])
    (active : session.cancelled = false) (resolved : ∀ path ∈ paths, path.resolve = path)
    (unfixed : ∀ path ∈ paths, session.Unfixed path) :
    (session.scanFiles paths).2.files = session.files := by
  induction paths generalizing session with
  | nil => rfl
  | cons path rest induction =>
      obtain ⟨resolvedHere, resolvedRest⟩ := List.forall_mem_cons.mp resolved
      obtain ⟨unfixedHere, unfixedRest⟩ := List.forall_mem_cons.mp unfixed
      have onward : ∀ later : Session, later.Follows session →
          later.files = session.files → (later.scanFiles rest).2.files = session.files := by
        intro later follows files
        rw [← files]
        apply induction (follows.undisturbed quiet) (follows.cancelled.trans active) resolvedRest
        intro other member result
        rw [checked?_congr follows files]
        exact unfixedRest other member result
      cases opened : Document.open session.files path with
      | error error =>
          have noticed : (session.noticeScan error.message).Rests session :=
            rests_notify session _ _
          rw [scanFiles_cons_unopened active opened]
          exact onward _ noticed.toFollows noticed.files
      | ok document =>
          have follows := (analyze_effect quiet opened false).1
          have files := files_analyze_of_unfixed quiet active resolvedHere opened unfixedHere
          cases ended : session.analyze document false with
          | mk outcome after =>
              rw [ended] at follows files
              cases outcome with
              | error failure =>
                  rw [scanFiles, if_neg (by simp [active]), opened]
                  dsimp only
                  rw [ended]
                  exact files
              | ok diagnostics =>
                  rw [scanFiles_cons_analyzed active opened ended]
                  exact onward after follows files

/-- A scan that has nothing to fix finds in each file what was there before. -/
theorem foundBy_of_unfixed {paths : List Path} (quiet : session.interruptions = [])
    (active : session.cancelled = false) (resolved : ∀ path ∈ paths, path.resolve = path)
    (unfixed : ∀ path ∈ paths, session.Unfixed path) :
    session.foundBy paths =
      paths.map fun path => (path.toString, session.findings? path) := by
  induction paths generalizing session with
  | nil => rfl
  | cons path rest induction =>
      obtain ⟨resolvedHere, resolvedRest⟩ := List.forall_mem_cons.mp resolved
      obtain ⟨unfixedHere, unfixedRest⟩ := List.forall_mem_cons.mp unfixed
      have follows := (scanFiles_effect quiet [path]).1
      have files : (session.scanFiles [path]).2.files = session.files :=
        files_scanFiles_of_unfixed quiet active (by simpa using resolvedHere)
          (by simpa using unfixedHere)
      have checked := checked?_congr follows files
      have unfixedLater : ∀ other ∈ rest, (session.scanFiles [path]).2.Unfixed other := by
        intro other member result
        rw [checked]
        exact unfixedRest other member result
      rw [foundBy, induction (follows.undisturbed quiet) (follows.cancelled.trans active)
        resolvedRest unfixedLater]
      simp only [findings?, checked, List.map_cons]

end Unfixed

section Rewriting

theorem ignoreRules_congr {later : Session} (follows : later.Follows session)
    (same : ∀ ignore, session.workspace.ignorePath? = some ignore →
      later.files.readTextIfFile ignore = session.files.readTextIfFile ignore) :
    later.ignoreRules = session.ignoreRules := by
  unfold ignoreRules
  rw [follows.workspace]
  cases first : session.workspace.primary? with
  | none => rfl
  | some root =>
      have kept : session.workspace.ignorePath? =
          some (root.join (Path.ofString session.workspace.settings.ignoreName)) := by
        simp [Workspace.ignorePath?, first]
      simp only [IgnoreRules.load, same _ kept]

/-- A later state in which some of the files may have been rewritten. -/
structure RewritesOnly (session : Session) (paths : List Path) (later : Session) : Prop
    extends later.Follows session where
  outline : later.files.outline = session.files.outline
  keeps : FileTree.Keeps (· ∈ paths.map fun path => path.resolve.names) session.files
    later.files

theorem FixesAt.outline {before after : FileTree} (fixes : session.FixesAt path before after) :
    after.outline = before.outline := by
  obtain ⟨bytes, mode, raw, result, fixed, there, -, -, -, rfl⟩ := fixes
  exact FileTree.outline_put_file there _

theorem Scans.outline {paths : List Path} {before after : FileTree}
    (scans : session.Scans paths before after) : after.outline = before.outline := by
  induction scans with
  | stop paths files => rfl
  | pass _ induction => exact induction
  | fix fixes _ induction => exact induction.trans fixes.outline

theorem scanFiles_rewritesOnly (quiet : session.interruptions = []) (paths : List Path) :
    session.RewritesOnly paths (session.scanFiles paths).2 := by
  obtain ⟨follows, scans⟩ := scanFiles_effect quiet paths
  exact ⟨follows, scans.outline, scans.keeps⟩

namespace RewritesOnly

variable {later : Session} {paths : List Path}

theorem readText (rewrites : session.RewritesOnly paths later)
    (elsewhere : path.resolve.names ∉ paths.map fun path => path.resolve.names) :
    later.files.readText path = session.files.readText path :=
  FileTree.readText_congr rewrites.outline fun _ _ there =>
    rewrites.keeps.file elsewhere there

theorem readTextIfFile (rewrites : session.RewritesOnly paths later)
    (elsewhere : path.resolve.names ∉ paths.map fun path => path.resolve.names) :
    later.files.readTextIfFile path = session.files.readTextIfFile path :=
  FileTree.readTextIfFile_congr rewrites.outline fun _ _ there =>
    rewrites.keeps.file elsewhere there

variable (apart : ∀ ignore, session.workspace.ignorePath? = some ignore →
  ignore.resolve.names ∉ paths.map fun path => path.resolve.names)

include apart

theorem ignoreRules (rewrites : session.RewritesOnly paths later) :
    later.ignoreRules = session.ignoreRules :=
  ignoreRules_congr rewrites.toFollows fun ignore kept =>
    rewrites.readTextIfFile (apart ignore kept)

theorem refusesIgnoreFile_iff (rewrites : session.RewritesOnly paths later) :
    later.RefusesIgnoreFile ↔ session.RefusesIgnoreFile := by
  unfold RefusesIgnoreFile
  rw [rewrites.workspace]
  refine exists_congr fun ignore => exists_congr fun text => and_congr_right fun kept => ?_
  rw [rewrites.readText (apart ignore kept)]

theorem findings? (rewrites : session.RewritesOnly paths later)
    (elsewhere : path.resolve.names ∉ paths.map fun path => path.resolve.names) :
    later.findings? path = session.findings? path := by
  unfold Session.findings? checked? lintResult
  rw [rewrites.readText elsewhere, rewrites.ignoreRules apart, rewrites.config,
    rewrites.parse]

end RewritesOnly

/-- No file that a scan comes to has been rewritten yet, so it finds what was there
before. -/
theorem foundBy_eq_map {paths : List Path} (quiet : session.interruptions = [])
    (distinct : (paths.map fun path => path.resolve.names).Nodup)
    (apart : ∀ ignore, session.workspace.ignorePath? = some ignore →
      ignore.resolve.names ∉ paths.map fun path => path.resolve.names) :
    session.foundBy paths =
      paths.map fun path => (path.toString, session.findings? path) := by
  -- The first file may be rewritten; the induction goes on from the state after that, in
  -- which the other files and the ignore file are the same.
  induction paths generalizing session with
  | nil => rfl
  | cons path rest induction =>
      have rewrites := scanFiles_rewritesOnly quiet [path]
      obtain ⟨elsewhere, distinctRest⟩ := List.nodup_cons.mp distinct
      have apartHere : ∀ ignore, session.workspace.ignorePath? = some ignore →
          ignore.resolve.names ∉ [path].map fun path => path.resolve.names := by
        intro ignore kept member
        exact apart ignore kept (List.mem_cons.mpr (Or.inl (by simpa using member)))
      have apartRest : ∀ ignore,
          (session.scanFiles [path]).2.workspace.ignorePath? = some ignore →
            ignore.resolve.names ∉ rest.map fun path => path.resolve.names := by
        rw [rewrites.workspace]
        intro ignore kept member
        exact apart ignore kept (List.mem_cons_of_mem _ member)
      have later : ∀ other ∈ rest,
          (session.scanFiles [path]).2.findings? other = session.findings? other := by
        intro other member
        apply rewrites.findings? apartHere
        intro same
        have here : other.resolve.names = path.resolve.names := by simpa using same
        exact elsewhere (List.mem_map.mpr ⟨other, member, here⟩)
      rw [foundBy, induction (rewrites.undisturbed quiet) distinctRest apartRest,
        List.map_cons]
      refine congrArg (List.cons _) (List.map_congr_left fun other member => ?_)
      rw [later other member]

end Rewriting

end Session

end ScriptLint
