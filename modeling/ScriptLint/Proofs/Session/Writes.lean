import ScriptLint.Proofs.Session.Deactivated
import ScriptLint.Proofs.Session.LineEnds
import ScriptLint.Proofs.Session.Reached

/-!
# What sessions write

An operation analyses some files.  Those whose results have a fixed text hold that text
afterwards, the report may have been written, and every other file is as it was: none is
changed, removed or made.
-/

namespace ScriptLint

namespace Session

def analysed? (session : Session) (path : Path) : Option LintResult :=
  if session.cancelled then none
  else
    (Document.open session.files path).toOption.bind fun document =>
      if document.language.isNone then none
      else (session.lintResult document.path.toString document.text).toOption

/-- The place of a file with the result of its analysis. -/
def resultsAt (session : Session) (path : Path) : List (List String × LintResult) :=
  (session.analysed? path).toList.map fun result => (path.resolve.names, result)

/-- The results of a scan of some files, each in the state in which it comes to it.  A scan
that fails goes no further. -/
def scanResults (session : Session) : List Path → List (List String × LintResult)
  | [] => []
  | path :: rest =>
      session.resultsAt path ++
        match session.scanFiles [path] with
        | (.error _, _) => []
        | (.ok _, after) => after.scanResults rest

def workspaceResults (session : Session) : List (List String × LintResult) :=
  match session.workspace.files session.files with
  | .error _ => []
  | .ok paths => session.scanResults paths

def results (session : Session) : Operation → List (List String × LintResult)
  | .activate => session.workspaceResults
  | .opened path => session.resultsAt path
  | .saved path => session.resultsAt path
  | .foldersChanged none => session.prune.workspaceResults
  | .foldersChanged (some roots) =>
      match session.workspace.withRoots roots with
      | .error _ => []
      | .ok workspace => { session with workspace }.prune.workspaceResults
  | .deactivate => []

end Session

/-- What some results do to the files, apart from exempt places: a file whose result has a
fixed text, which is its own text with the fixes of the messages applied, holds this text
afterwards, and every other file is the same before and after. -/
structure Rewrites (exempt : List String → Prop) (results : List (List String × LintResult))
    (before after : FileTree) : Prop where
  keeps : ∀ place, ¬ exempt place →
    (∀ result, (place, result) ∈ results → result.output = none) → ∀ bytes mode,
      after.find place = .ok (.file bytes mode) ↔ before.find place = .ok (.file bytes mode)
  fixes : ∀ place result fixed, ¬ exempt place → (place, result) ∈ results →
    result.output = some fixed → ∃ bytes mode raw,
      before.find place = .ok (.file bytes mode) ∧ Utf8.decode bytes = .ok raw ∧
      Fix.applyAll (Text.unifyBreaks raw) (result.messages.filterMap (·.fix)) = some fixed ∧
      after.find place = .ok (.file (Utf8.encode fixed) mode)

namespace Rewrites

variable {exempt : List String → Prop} {left right : List (List String × LintResult)}
  {before middle after : FileTree}

theorem of_keeps (same : ∀ place bytes mode, ¬ exempt place →
      (after.find place = .ok (.file bytes mode) ↔
        before.find place = .ok (.file bytes mode))) :
    Rewrites exempt [] before after where
  keeps := fun place outside _ bytes mode => same place bytes mode outside
  fixes := by simp

theorem refl (exempt : List String → Prop) (files : FileTree) :
    Rewrites exempt [] files files :=
  of_keeps fun _ _ _ _ => Iff.rfl

/-- Results about different files act one after the other. -/
theorem append (first : Rewrites exempt left before middle)
    (second : Rewrites exempt right middle after)
    (apart : ∀ entry ∈ left, ∀ other ∈ right, entry.1 ≠ other.1) :
    Rewrites exempt (left ++ right) before after where
  keeps := by
    intro place outside without bytes mode
    rw [second.keeps place outside, first.keeps place outside]
    · intro result member
      exact without result (List.mem_append_left _ member)
    · intro result member
      exact without result (List.mem_append_right _ member)
  fixes := by
    intro place result fixed outside member output
    rcases List.mem_append.mp member with isLeft | isRight
    · obtain ⟨bytes, mode, raw, held, decoded, applied, there⟩ :=
        first.fixes place result fixed outside isLeft output
      refine ⟨bytes, mode, raw, held, decoded, applied, ?_⟩
      apply (second.keeps place outside _ _ _).mpr there
      intro other isRight
      exact absurd rfl (apart (place, result) isLeft (place, other) isRight)
    · obtain ⟨bytes, mode, raw, held, decoded, applied, there⟩ :=
        second.fixes place result fixed outside isRight output
      refine ⟨bytes, mode, raw, ?_, decoded, applied, there⟩
      apply (first.keeps place outside _ _ _).mp held
      intro other isLeft
      exact absurd rfl (apart (place, other) isLeft (place, result) isRight)

theorem append_nil (first : Rewrites exempt left before middle)
    (second : Rewrites exempt [] middle after) : Rewrites exempt left before after := by
  have both := first.append second (by simp)
  rwa [List.append_nil] at both

end Rewrites

namespace Session

variable {session : Session} {path : Path}

section Results

theorem resultsAt_of_cancelled (stopped : session.cancelled = true) (path : Path) :
    session.resultsAt path = [] := by
  simp [resultsAt, analysed?, stopped]

theorem resultsAt_of_unopened {error : ReadError}
    (failed : Document.open session.files path = .error error) :
    session.resultsAt path = [] := by
  simp [resultsAt, analysed?, failed, Except.toOption]

theorem resultsAt_of_opened {document : Document} (active : session.cancelled = false)
    (opened : Document.open session.files path = .ok document) :
    session.resultsAt path =
      (if document.language.isNone then none
        else (session.lintResult document.path.toString document.text).toOption).toList.map
          fun result => (path.resolve.names, result) := by
  rw [resultsAt, analysed?, if_neg (by simp [active]), opened]
  rfl

theorem eq_of_mem_resultsAt {entry : List String × LintResult}
    (member : entry ∈ session.resultsAt path) : entry.1 = path.resolve.names := by
  obtain ⟨result, -, rfl⟩ := List.mem_map.mp member
  rfl

theorem mem_map_of_mem_scanResults {paths : List Path} {entry : List String × LintResult}
    (member : entry ∈ session.scanResults paths) :
    entry.1 ∈ paths.map fun path => path.resolve.names := by
  induction paths generalizing session with
  | nil => simp [scanResults] at member
  | cons path rest induction =>
      rw [scanResults] at member
      rcases List.mem_append.mp member with here | later
      · rw [eq_of_mem_resultsAt here]
        exact List.mem_cons_self
      · split at later
        · simp at later
        · exact List.mem_cons_of_mem _ (induction later)

end Results

section Steps

theorem reportsAt_congr {later : Session} (follows : later.Follows session) :
    later.ReportsAt = session.ReportsAt := by
  funext place
  rw [ReportsAt, ReportsAt, follows.workspace]

theorem Follows.rewrites {later : Session} {results : List (List String × LintResult)}
    {before after : FileTree} (follows : later.Follows session)
    (rewrites : Rewrites session.ReportsAt results before after) :
    Rewrites later.ReportsAt results before after := by
  rw [reportsAt_congr follows]
  exact rewrites

theorem output_of_messages_eq_nil {text : String} {content : List Char} {result : LintResult}
    (checked : session.lintResult text content = .ok result)
    (silent : result.messages = []) : result.output = none := by
  cases output : result.output with
  | none => rfl
  | some fixed =>
      have applied := applyAll_of_lintText (lintText_of_lintResult checked output) output
      simp [silent, Fix.applyAll_nil] at applied

/-- Storing a result and writing its fixed text changes nothing but the file. -/
theorem concluded_rewrites {document : Document} {result : LintResult}
    (exempt : List String → Prop) (located : document.path = path.resolve)
    (read : session.files.readText path.resolve = .ok document.text)
    (checked : session.lintResult document.path.toString document.text = .ok result) :
    Rewrites exempt [(path.resolve.names, result)] session.files
      (session.concluded document result).files := by
  cases output : result.output with
  | none =>
      have same : (session.concluded document result).files = session.files := by
        rw [concluded, output]
        rfl
      rw [same]
      refine ⟨fun _ _ _ _ _ => Iff.rfl, ?_⟩
      intro place own fixed _ member fixes
      obtain ⟨rfl, rfl⟩ := Prod.mk.inj (List.mem_singleton.mp member)
      simp [output] at fixes
  | some fixed =>
      have readStored : (session.storing document.path.toString result).files.readText
          path.resolve = .ok document.text := read
      obtain ⟨bytes, mode, raw, held, decoded, whole, written⟩ :=
        files_withOutput_some readStored fixed
      have after : (session.concluded document result).files =
          session.files.put path.resolve.names (.file (Utf8.encode fixed) mode) := by
        rw [concluded, output, located]
        rw [located] at written
        exact written
      have heldHere : session.files.find path.resolve.names = .ok (.file bytes mode) := held
      rw [after]
      refine ⟨?_, ?_⟩
      · intro place _ without own ownMode
        apply FileTree.find_file_put_iff (by simp [heldHere])
        rintro rfl
        simp [without result List.mem_cons_self] at output
      · intro place own rewritten _ member fixes
        obtain ⟨rfl, rfl⟩ := Prod.mk.inj (List.mem_singleton.mp member)
        obtain rfl := Option.some.inj (output.symm.trans fixes)
        have applied := applyAll_of_lintText (lintText_of_lintResult checked output) output
        rw [whole] at applied
        exact ⟨bytes, mode, raw, heldHere, decoded, applied,
          FileTree.find_put_self _ heldHere⟩

theorem updateReport_rewrites (quiet : session.interruptions = []) :
    Rewrites session.ReportsAt [] session.files session.updateReport.2.files := by
  obtain ⟨-, -, same | ⟨report, written, kept, replaced⟩⟩ := updateReport_effect quiet
  · rw [same]
    exact .refl _ _
  · apply Rewrites.of_keeps
    intro place bytes mode elsewhere
    rw [replaced]
    apply FileTree.find_file_replaceFile_iff
    intro here
    exact elsewhere ⟨report, kept, here⟩

theorem conclude_rewrites {document : Document} {result : LintResult}
    (quiet : session.interruptions = []) (updatesReport : Bool)
    (located : document.path = path.resolve)
    (read : session.files.readText path.resolve = .ok document.text)
    (checked : session.lintResult document.path.toString document.text = .ok result) :
    Rewrites session.ReportsAt [(path.resolve.names, result)] session.files
      (session.conclude document updatesReport result).2.files := by
  have fixed := concluded_rewrites session.ReportsAt located read checked
  have follows := concluded_follows session document result
  have updated := follows.symm.rewrites (updateReport_rewrites (follows.undisturbed quiet))
  rw [conclude_of_readText (located ▸ read)]
  dsimp only
  by_cases silent : (Diagnostic.ofResult document.path.toString result).isEmpty = true
  · -- Without messages there is no fixed text, so nothing had to be written.
    have messages : result.messages = [] := by
      simpa [Diagnostic.ofResult] using silent
    rw [concluded, output_of_messages_eq_nil checked messages] at fixed
    rw [if_pos silent]
    exact fixed
  · rw [if_neg silent]
    cases updatesReport with
    | false => exact fixed
    | true =>
        have both := fixed.append_nil updated
        rw [if_pos rfl]
        split
        · rename_i ended
          rwa [ended] at both
        · rename_i ended
          rwa [ended] at both

theorem analyze_rewrites {document : Document} (quiet : session.interruptions = [])
    (opened : Document.open session.files path = .ok document) (updatesReport : Bool) :
    Rewrites session.ReportsAt (session.resultsAt path) session.files
      (session.analyze document updatesReport).2.files := by
  by_cases skipped : (session.cancelled || document.language.isNone) = true
  · rw [analyze, if_pos skipped]
    have nothing : session.resultsAt path = [] := by
      cases active : session.cancelled with
      | true => exact resultsAt_of_cancelled active path
      | false =>
          rw [active, Bool.false_or] at skipped
          rw [resultsAt_of_opened active opened, if_pos skipped]
          rfl
    rw [nothing]
    exact .refl _ _
  · obtain ⟨active, known⟩ := Bool.or_eq_false_iff.mp (Bool.eq_false_iff.mpr skipped)
    obtain ⟨-, located, -, read⟩ := open_eq_ok_iff.mp opened
    rw [analyze_of_active quiet active known, (noticeFailure_rests _).files,
      resultsAt_of_opened active opened, if_neg (by simp [known])]
    cases checked : session.lintResult document.path.toString document.text with
    | error failure => exact .refl _ _
    | ok result =>
        have quietCounted := (rests_counted session).undisturbed quiet
        have readCounted : session.counted.files.readText path.resolve =
            .ok document.text := read
        have checkedCounted : session.counted.lintResult document.path.toString
            document.text = .ok result := checked
        exact conclude_rewrites quietCounted updatesReport located readCounted checkedCounted

/-- A file that is opened or saved is rewritten if its analysis has a fixed text. -/
theorem analyzeFile_rewrites (quiet : session.interruptions = []) (path : Path) :
    Rewrites session.ReportsAt (session.resultsAt path) session.files
      (session.analyzeFile path).2.files := by
  rw [analyzeFile]
  cases active : session.cancelled with
  | true =>
      rw [if_pos rfl, resultsAt_of_cancelled active]
      exact .refl _ _
  | false =>
      rw [if_neg (by simp)]
      cases opened : Document.open session.files path with
      | error error =>
          rw [resultsAt_of_unopened opened]
          dsimp only
          rw [(noticeFailure_rests _).files]
          exact .refl _ _
      | ok document => exact analyze_rewrites quiet opened true

/-- A scan goes on from what its first file left, unless that failed. -/
theorem scanFiles_cons_cases (session : Session) (path : Path) (rest : List Path) :
    (∃ failure after, session.scanFiles [path] = (.error failure, after) ∧
        session.scanFiles (path :: rest) = (.error failure, after)) ∨
      ∃ diagnostics after, session.scanFiles [path] = (.ok diagnostics, after) ∧
        (session.scanFiles (path :: rest)).2 = (after.scanFiles rest).2 := by
  cases active : session.cancelled with
  | true =>
      right
      refine ⟨[], session, scanFiles_of_cancelled active _, ?_⟩
      rw [scanFiles_of_cancelled active, scanFiles_of_cancelled active]
  | false =>
      cases opened : Document.open session.files path with
      | error error =>
          right
          exact ⟨[], _, scanFiles_cons_unopened active opened [],
            by rw [scanFiles_cons_unopened active opened]⟩
      | ok document =>
          cases ended : session.analyze document false with
          | mk outcome after =>
              cases outcome with
              | error failure =>
                  left
                  have stops : ∀ others, session.scanFiles (path :: others) =
                      (.error failure, after) := by
                    intro others
                    rw [scanFiles, if_neg (by simp [active]), opened]
                    dsimp only
                    rw [ended]
                  exact ⟨failure, after, stops [], stops rest⟩
              | ok diagnostics =>
                  right
                  exact ⟨_, after, scanFiles_cons_analyzed active opened ended [],
                    by rw [scanFiles_cons_analyzed active opened ended]⟩

theorem scanFiles_singleton_rewrites (quiet : session.interruptions = []) (path : Path) :
    Rewrites session.ReportsAt (session.resultsAt path) session.files
      (session.scanFiles [path]).2.files := by
  cases active : session.cancelled with
  | true =>
      rw [scanFiles_of_cancelled active, resultsAt_of_cancelled active]
      exact .refl _ _
  | false =>
      cases opened : Document.open session.files path with
      | error error =>
          rw [scanFiles_cons_unopened active opened, resultsAt_of_unopened opened]
          exact .refl _ _
      | ok document =>
          have analysed := analyze_rewrites quiet opened false
          cases ended : session.analyze document false with
          | mk outcome after =>
              rw [ended] at analysed
              cases outcome with
              | error failure =>
                  rw [scanFiles, if_neg (by simp [active]), opened]
                  dsimp only
                  rw [ended]
                  exact analysed
              | ok diagnostics =>
                  rw [scanFiles_cons_analyzed active opened ended]
                  exact analysed

/-- A scan that comes to each place once rewrites the files whose analyses have a fixed
text. -/
theorem scanFiles_rewrites {paths : List Path} (quiet : session.interruptions = [])
    (distinct : (paths.map fun path => path.resolve.names).Nodup) :
    Rewrites session.ReportsAt (session.scanResults paths) session.files
      (session.scanFiles paths).2.files := by
  -- Each place is come to once, so the rest of the scan neither rewrites the first file again
  -- nor finds another file that has been rewritten already.
  induction paths generalizing session with
  | nil => exact .refl _ _
  | cons path rest induction =>
      obtain ⟨elsewhere, distinctRest⟩ := List.nodup_cons.mp distinct
      have first := scanFiles_singleton_rewrites quiet path
      have follows := (scanFiles_effect quiet [path]).1
      rw [scanResults]
      rcases scanFiles_cons_cases session path rest with
        ⟨failure, after, step, whole⟩ | ⟨diagnostics, after, step, whole⟩
      · rw [step] at first
        rw [whole, step, List.append_nil]
        exact first
      · rw [step] at first follows
        have others := follows.symm.rewrites
          (induction (follows.undisturbed quiet) distinctRest)
        rw [whole, step]
        refine first.append others ?_
        intro entry here other later same
        have listed := mem_map_of_mem_scanResults later
        rw [← same, eq_of_mem_resultsAt here] at listed
        exact elsewhere listed

theorem scan_rewrites (quiet : session.interruptions = [])
    (rooted : ∀ root ∈ session.workspace.roots, root.resolve = root)
    (ordinary : session.files.isOrdinary = true) :
    Rewrites session.ReportsAt session.workspaceResults session.files
      session.scan.2.files := by
  unfold scan workspaceResults
  cases listed : session.workspace.files session.files with
  | error error => exact .refl _ _
  | ok paths =>
      exact scanFiles_rewrites quiet (Workspace.nodup_places_files ordinary rooted listed)

/-- Starting a session scans the workspace and then writes nothing but the report. -/
theorem activate_rewrites (quiet : session.interruptions = [])
    (rooted : ∀ root ∈ session.workspace.roots, root.resolve = root)
    (ordinary : session.files.isOrdinary = true) :
    Rewrites session.ReportsAt session.workspaceResults session.files
      session.activate.2.files := by
  have scanned := scan_rewrites quiet rooted ordinary
  have follows := scan_follows quiet
  unfold activate
  cases ended : session.scan with
  | mk outcome after =>
      rw [ended] at scanned follows
      cases outcome with
      | error failure => exact scanned
      | ok diagnostics =>
          have saved : Rewrites session.ReportsAt [] after.files
              (after.saveReport diagnostics).2.files := by
            apply ((saveReport_follows after diagnostics).trans follows).symm.rewrites
            exact .of_keeps (saveReport_keepsFiles after diagnostics)
          have both := scanned.append_nil saved
          dsimp only
          split
          · rename_i reported
            rwa [reported] at both
          · rename_i reported
            rwa [reported] at both

theorem prune_activate_rewrites (quiet : session.interruptions = [])
    (rooted : ∀ root ∈ session.workspace.roots, root.resolve = root)
    (ordinary : session.files.isOrdinary = true) :
    Rewrites session.prune.activate.2.ReportsAt session.prune.workspaceResults session.files
      session.prune.activate.2.files := by
  have pruned := prune_follows session
  have quietNow := pruned.undisturbed quiet
  have activated := activate_rewrites quietNow (pruned.workspace ▸ rooted)
    (files_prune session ▸ ordinary)
  rw [files_prune session] at activated
  exact (activate_follows quietNow).rewrites activated

end Steps

/-- An operation, at whatever time it is asked for, rewrites those of the files it analyses
whose results have a fixed text, and with nothing but this text.  Apart from its report,
every other file is the same before and after: none is changed, removed or made.  Updating
the report alone writes nothing else. -/
theorem perform_rewrites {session : Session} (reached : session.Reached) :
    (∀ operation : Operation, Rewrites (session.perform operation).2.ReportsAt
      (session.results operation) session.files (session.perform operation).2.files) ∧
      Rewrites session.updateReport.2.ReportsAt [] session.files
        session.updateReport.2.files := by
  obtain ⟨quiet, rooted, -, named⟩ := reached.regular
  have ordinary := named.isOrdinary
  refine ⟨?_, ?_⟩
  · intro operation
    cases operation with
    | activate =>
        exact (activate_follows quiet).rewrites (activate_rewrites quiet rooted ordinary)
    | opened path =>
        exact (analyzeFile_effect quiet path).1.rewrites (analyzeFile_rewrites quiet path)
    | saved path =>
        exact (analyzeFile_effect quiet path).1.rewrites (analyzeFile_rewrites quiet path)
    | foldersChanged roots =>
        cases roots with
        | none => exact prune_activate_rewrites quiet rooted ordinary
        | some given =>
            simp only [perform, changeFolders, results]
            cases moved : session.workspace.withRoots given with
            | error error => exact .refl _ _
            | ok workspace =>
                have quietNow : ({ session with workspace } : Session).interruptions = [] :=
                  quiet
                exact prune_activate_rewrites quietNow (Workspace.rooted_of_ofRoots moved)
                  ordinary
    | deactivate => exact .refl _ _
  · exact (updateReport_effect quiet).1.rewrites (updateReport_rewrites quiet)

theorem reached_quotedSession : quotedSession.Reached := by
  have tmp : FileTree.IsFileName "tmp" := ⟨by decide, by decide, by decide⟩
  have project : FileTree.IsFileName "lintsync" := ⟨by decide, by decide, by decide⟩
  have program : FileTree.IsFileName "a.js" := ⟨by decide, by decide, by decide⟩
  have opened : Workspace.ofRoots [⟨"/", ["tmp", "lintsync"]⟩] {} =
      .ok ⟨[⟨"/", ["tmp", "lintsync"]⟩], {}⟩ := rfl
  refine .start _ _ opened ?_
    (.singleton _ tmp (.singleton _ project (.singleton _ program (.file _ _))))
  intro root member
  obtain rfl : root = ⟨"/", ["tmp", "lintsync"]⟩ := List.mem_singleton.mp member
  intro folder inRoot
  revert folder
  decide

theorem perform_rewrites_quotedSession :
    quotedSession.Reached ∧
      Rewrites (quotedSession.perform (.saved quotedPath)).2.ReportsAt
        (quotedSession.results (.saved quotedPath)) quotedSession.files
        (quotedSession.perform (.saved quotedPath)).2.files ∧
      (∃ result, quotedSession.results (.saved quotedPath) = [(quotedPath.names, result)] ∧
        result.output = some ['\'', '\'', '\n']) ∧
      (quotedSession.perform (.saved quotedPath)).2.files.find quotedPath.names =
        .ok (.file (Utf8.encode ['\'', '\'', '\n']) 0o644) := by
  have rewrites := (perform_rewrites reached_quotedSession).1 (.saved quotedPath)
  obtain ⟨message, checked, -⟩ := lintResult_quotedSession
  have result : quotedSession.results (.saved quotedPath) =
      [(quotedPath.names, ⟨[message], some ['\'', '\'', '\n']⟩)] := by
    have text : quotedPath.toString = "/tmp/lintsync/a.js" := by decide +kernel
    rw [results, resultsAt_of_opened rfl open_quotedPath, if_neg (by decide), text, checked]
    rfl
  have elsewhere : ¬ (quotedSession.perform (.saved quotedPath)).2.ReportsAt
      quotedPath.names := by
    have follows : (quotedSession.perform (.saved quotedPath)).2.Follows quotedSession :=
      (analyzeFile_effect rfl quotedPath).1
    rw [reportsAt_congr follows]
    rintro ⟨report, kept, here⟩
    exact apart_quotedSession report kept here.symm
  refine ⟨reached_quotedSession, rewrites, ⟨_, result, rfl⟩, ?_⟩
  obtain ⟨bytes, mode, raw, held, -, -, there⟩ := rewrites.fixes quotedPath.names _ _ elsewhere
    (result ▸ List.mem_singleton_self _) rfl
  have known : quotedSession.files.find quotedPath.names =
      .ok (.file (Utf8.encode quotedLine) 0o644) := rfl
  obtain ⟨-, rfl⟩ : bytes = Utf8.encode quotedLine ∧ mode = 0o644 := by
    simpa [held] using known
  exact there

end Session

end ScriptLint
