import ScriptLint.Proofs.Session.LineEnds
import ScriptLint.Proofs.Store

/-!
# What an analysis leaves in the store

An analysis is meant to return the diagnostics that it stores, or to return none and to
leave the store alone.  It stores them before it writes the fixed text and updates the
report, so a failure that comes after that finds the store changed.  Nothing here depends
on what interrupts the session.
-/

namespace ScriptLint

theorem Store.getNamed?_set_self (store : Store) (path : String)
    (diagnostics : List Diagnostic) :
    getNamed? (store.set path diagnostics).entries path = some diagnostics := by
  rw [Store.set, getNamed?_putNamed, if_pos rfl]

theorem Store.set_eq_self_iff {store : Store} {path : String} {diagnostics : List Diagnostic} :
    store.set path diagnostics = store ↔ getNamed? store.entries path = some diagnostics := by
  constructor
  · intro same
    rw [← same, Store.getNamed?_set_self]
  · intro held
    rw [Store.set, putNamed_of_getNamed? held]

namespace Session

variable {session : Session}

section Keeping

theorem store_interruptAll (session : Session) (interruptions : List Interruption) :
    (session.interruptAll interruptions).2.store = session.store := by
  induction interruptions generalizing session with
  | nil => rfl
  | cons interruption rest induction =>
      have step : (session.interrupt interruption).2.store = session.store := by
        cases interruption with
        | cancel => rfl
        | write path bytes => rfl
        | delete path => rfl
      rw [interruptAll]
      split
      · rename_i error after interrupted
        rw [interrupted] at step
        exact step
      · rename_i after interrupted
        rw [interrupted] at step
        exact (induction after).trans step

theorem store_check (session : Session) (path : String) (text : List Char) :
    (session.check path text).2.store = session.store := by
  have counting : session.countCheck.2.store = session.store := by
    rw [countCheck]
    exact store_interruptAll _ _
  rw [check]
  split
  · rfl
  · split
    · rename_i error after counted
      rw [counted] at counting
      exact counting
    · rename_i after counted
      rw [counted] at counting
      exact counting

theorem store_checkFile (session : Session) (path : Path) :
    (session.checkFile path).2.store = session.store := by
  rw [checkFile]
  split
  · rfl
  · rename_i document _
    have checking := store_check session document.path.toString document.text
    dsimp only
    split
    · rename_i failure after checked
      rw [checked] at checking
      exact checking
    · rename_i result after checked
      rw [checked] at checking
      exact checking

theorem checkFiles_outcome (session : Session) (paths : List Path) :
    (session.checkFiles paths).2.store = session.store ∧
      ∀ failure, (session.checkFiles paths).1 = .error failure → failure.isNoticed = false := by
  induction paths generalizing session with
  | nil => exact ⟨rfl, by simp [checkFiles]⟩
  | cons path rest induction =>
      have step := store_checkFile session path
      rw [checkFiles]
      split
      · rename_i diagnostics after checked
        rw [checked] at step
        obtain ⟨kept, unnoticed⟩ := induction after
        split
        · rename_i others last checkedRest
          rw [checkedRest] at kept
          exact ⟨kept.trans step, by simp⟩
        · rename_i failure last checkedRest
          rw [checkedRest] at kept unnoticed
          refine ⟨kept.trans step, ?_⟩
          intro other same
          obtain rfl := Except.error.inj same
          exact unnoticed failure rfl
      · rename_i failure after checked
        rw [checked] at step
        split
        · obtain ⟨kept, unnoticed⟩ := induction (after.notify .error
            ("Error updating ESLint report: " ++ failure.message))
          exact ⟨kept.trans step, unnoticed⟩
        · rename_i unnoticed
          refine ⟨step, ?_⟩
          intro other same
          obtain rfl := Except.error.inj same
          exact Bool.eq_false_iff.mpr unnoticed

theorem unnoticed_of_writeReport {words : ReportWords} {path : Path}
    {diagnostics : List Diagnostic} {failure : Failure}
    (failed : (session.writeReport words path diagnostics).1 = .error failure) :
    failure.isNoticed = false := by
  rw [writeReport] at failed
  split at failed
  · split at failed
    · rename_i refusal
      obtain rfl := Except.error.inj failed
      simp [Failure.isNoticed, ReadError.isRefusal, refusal]
    · simp at failed
  · simp at failed

/-- Updating the report does not touch the store, and fails without notice only. -/
theorem updateReport_outcome (session : Session) :
    session.updateReport.2.store = session.store ∧
      ∀ failure, session.updateReport.1 = .error failure → failure.isNoticed = false := by
  rw [updateReport]
  split
  · exact ⟨rfl, by simp⟩
  · rename_i path _
    split
    · exact ⟨rfl, by simp⟩
    · rename_i files _
      obtain ⟨kept, unnoticed⟩ := checkFiles_outcome session files
      split
      · rename_i failure after checked
        rw [checked] at kept unnoticed
        refine ⟨kept, ?_⟩
        intro other same
        obtain rfl := Except.error.inj same
        exact unnoticed failure rfl
      · rename_i diagnostics after checked
        rw [checked] at kept
        obtain ⟨-, stored, -⟩ := writeReport_effect after updatingWords path diagnostics
        exact ⟨stored.trans kept, fun _ => unnoticed_of_writeReport⟩

end Keeping

section Concluding

/-- Whether the fixed text of a result, if there is one, could be written after the
diagnostics were stored, and the session then. -/
def applied (session : Session) (document : Document) (result : LintResult) :
    Except ReadError Unit × Session :=
  (session.storing document.path.toString result).applyResult document.path document.text result

theorem writeFixes_of_readText {path : Path} {current : List Char}
    (read : session.files.readText path = .ok current) (checked fixed : List Char) :
    ∃ written files, session.writeFixes path checked (some fixed) =
      (.ok written, { session with files }) := by
  obtain ⟨bytes, mode, raw, reached, -, -⟩ := FileTree.readText_eq_ok_iff.mp read
  rw [writeFixes, read]
  dsimp only
  split
  · rw [FileTree.writeBytes_of_reach reached]
    exact ⟨true, _, rfl⟩
  · exact ⟨false, session.files, rfl⟩

/-- The fixed text cannot be written if the file can no longer be read, and only then. -/
theorem applied_cases (session : Session) (document : Document) (result : LintResult) :
    (∃ error, result.output.isSome = true ∧
        session.files.readText document.path = .error error ∧
        session.applied document result =
          (.error error, session.storing document.path.toString result)) ∨
      ¬(result.output.isSome = true ∧
          ∃ error, session.files.readText document.path = .error error) ∧
        (session.applied document result).1 = .ok () ∧
        (session.applied document result).2.store =
          (session.storing document.path.toString result).store := by
  have files : (session.storing document.path.toString result).files = session.files := rfl
  unfold applied
  generalize session.storing document.path.toString result = stored at files ⊢
  unfold applyResult
  cases output : result.output with
  | none => exact Or.inr ⟨by simp, rfl, rfl⟩
  | some fixed =>
      cases read : stored.files.readText document.path with
      | error error =>
          refine Or.inl ⟨error, rfl, by rw [← files, read], ?_⟩
          simp [writeFixes, read]
      | ok current =>
          obtain ⟨written, changed, wrote⟩ :=
            writeFixes_of_readText read document.text fixed
          refine Or.inr ⟨by simp [← files, read], ?_⟩
          dsimp only
          rw [wrote]
          cases written with
          | true => exact ⟨rfl, rfl⟩
          | false => exact ⟨rfl, rfl⟩

/-- A conclusion that is not made good: the fixed text cannot be written, and the
diagnostics in the store are new or the failure is not noticed, or the update of the report
fails. -/
inductive Spoils (session : Session) (document : Document) (updatesReport : Bool)
    (result : LintResult) : Prop
  | unwritten {error : ReadError} : result.output.isSome = true →
      session.files.readText document.path = .error error →
      (error.isRefusal = true ∨
        getNamed? session.store.entries document.path.toString ≠
          some (Diagnostic.ofResult document.path.toString result)) →
      Spoils session document updatesReport result
  | unreported {failure : Failure} : (session.applied document result).1 = .ok () →
      updatesReport = true →
      (session.applied document result).2.updateReport.1 = .error failure →
      Spoils session document updatesReport result

/-- A conclusion from messages fails for the fixed text or for the report, or it returns the
diagnostics that it stored. -/
theorem conclude_cases {document : Document} {result : LintResult} (updatesReport : Bool)
    (found : result.messages ≠ []) :
    (∃ error, result.output.isSome = true ∧
        session.files.readText document.path = .error error ∧
        session.conclude document updatesReport result =
          (.error (.read error), session.storing document.path.toString result)) ∨
      (∃ failure, (session.applied document result).1 = .ok () ∧ updatesReport = true ∧
        (session.applied document result).2.updateReport.1 = .error failure ∧
        (session.conclude document updatesReport result).1 = .error failure) ∨
      ¬(result.output.isSome = true ∧
          ∃ error, session.files.readText document.path = .error error) ∧
        ¬(updatesReport = true ∧
          ∃ failure, (session.applied document result).2.updateReport.1 = .error failure) ∧
        (session.conclude document updatesReport result).1 =
          .ok (Diagnostic.ofResult document.path.toString result) ∧
        (session.conclude document updatesReport result).2.store =
          (session.storing document.path.toString result).store := by
  have nonempty : ¬(Diagnostic.ofResult document.path.toString result).isEmpty = true := by
    simpa [Diagnostic.ofResult] using found
  have cases := applied_cases session document result
  have whole : ({ session with
      store := session.store.set document.path.toString
        (Diagnostic.ofResult document.path.toString result) } : Session).applyResult
          document.path document.text result = session.applied document result := rfl
  rw [conclude, if_neg nonempty, whole]
  cases ended : session.applied document result with
  | mk outcome after =>
      rw [ended] at cases
      cases outcome with
      | error error =>
          rcases cases with ⟨own, output, unread, same⟩ | ⟨-, done, -⟩
          · obtain ⟨failed, rfl⟩ := Prod.mk.inj same
            obtain rfl := Except.error.inj failed
            exact Or.inl ⟨error, output, unread, rfl⟩
          · simp at done
      | ok _ =>
          rcases cases with ⟨own, -, -, same⟩ | ⟨readable, -, kept⟩
          · simp at same
          · right
            cases updatesReport with
            | false => exact Or.inr ⟨readable, by simp, rfl, kept⟩
            | true =>
                have stored := (updateReport_outcome after).1
                dsimp only
                cases updated : after.updateReport with
                | mk report last =>
                    rw [updated] at stored
                    cases report with
                    | error failure => exact Or.inl ⟨failure, rfl, rfl, rfl, rfl⟩
                    | ok written =>
                        exact Or.inr ⟨readable, by simp, rfl, stored.trans kept⟩

end Concluding

section Analysing

/-- The diagnostics that were returned are the new entry of a path in the store. -/
def Publishes (session : Session) (path : String)
    (outcome : Except Failure (List Diagnostic) × Session) : Prop :=
  ∃ diagnostics, outcome.1 = .ok diagnostics ∧
    outcome.2.store = session.store.set path diagnostics

/-- Nothing was returned, and the store is as it was. -/
def Withdraws (session : Session) (outcome : Except Failure (List Diagnostic) × Session) :
    Prop :=
  outcome.1 = .ok [] ∧ outcome.2.store = session.store

/-- What an analysis may meet with: the check of the text fails without notice, or the
conclusion from its messages is spoilt. -/
inductive Mishap (session : Session) (document : Document) (updatesReport : Bool) : Prop
  | unchecked {failure : Failure} {after : Session} :
      session.check document.path.toString document.text = (.error failure, after) →
      failure.isNoticed = false → Mishap session document updatesReport
  | spoilt {result : LintResult} {after : Session} :
      session.check document.path.toString document.text = (.ok result, after) →
      after.cancelled = false → result.messages ≠ [] →
      after.Spoils document updatesReport result → Mishap session document updatesReport

theorem mishap_iff {document : Document} {updatesReport : Bool} {outcome} {after : Session}
    (checked : session.check document.path.toString document.text = (outcome, after)) :
    session.Mishap document updatesReport ↔
      (∃ failure, outcome = .error failure ∧ failure.isNoticed = false) ∨
        ∃ result, outcome = .ok result ∧ after.cancelled = false ∧ result.messages ≠ [] ∧
          after.Spoils document updatesReport result := by
  constructor
  · intro mishap
    cases mishap with
    | unchecked failed unnoticed =>
        obtain ⟨rfl, rfl⟩ := Prod.mk.inj (checked.symm.trans failed)
        exact Or.inl ⟨_, rfl, unnoticed⟩
    | spoilt passed active found spoils =>
        obtain ⟨rfl, rfl⟩ := Prod.mk.inj (checked.symm.trans passed)
        exact Or.inr ⟨_, rfl, active, found, spoils⟩
  · rintro (⟨failure, rfl, unnoticed⟩ | ⟨result, rfl, active, found, spoils⟩)
    · exact .unchecked checked unnoticed
    · exact .spoilt checked active found spoils

theorem noticeFailure_of_noticed {failure : Failure} (noticed : failure.isNoticed = true)
    (after : Session) : (noticeFailure (.error failure, after)).1 = .ok [] ∧
      (noticeFailure (.error failure, after)).2.store = after.store := by
  rw [noticeFailure, if_pos noticed]
  exact ⟨rfl, rfl⟩

theorem noticeFailure_of_unnoticed {failure : Failure} (unnoticed : failure.isNoticed = false)
    (after : Session) : noticeFailure (.error failure, after) = (.error failure, after) := by
  rw [noticeFailure, if_neg (by simp [unnoticed])]

theorem not_publishes_or_withdraws {path : String} {failure : Failure} {after : Session} :
    ¬(session.Publishes path (.error failure, after) ∨
      session.Withdraws (.error failure, after)) := by
  simp [Publishes, Withdraws]

theorem not_publishes_of_stored {path : String} {outcome} {diagnostics : List Diagnostic}
    (nothing : outcome.1 = .ok []) (nonempty : diagnostics ≠ [])
    (stored : outcome.2.store = session.store.set path diagnostics) :
    ¬session.Publishes path outcome := by
  rintro ⟨returned, same, published⟩
  obtain rfl : [] = returned := Except.ok.inj (nothing.symm.trans same)
  have held : getNamed? (session.store.set path diagnostics).entries path = some [] := by
    rw [← stored, published, Store.getNamed?_set_self]
  rw [Store.getNamed?_set_self] at held
  exact nonempty (Option.some.inj held)

/-- A conclusion from messages is made good unless it is spoilt. -/
theorem conclude_publishes_or_withdraws_iff (session : Session) (document : Document)
    {result : LintResult} (updatesReport : Bool) (found : result.messages ≠ []) :
    (session.Publishes document.path.toString
        (noticeFailure (session.conclude document updatesReport result)) ∨
      session.Withdraws (noticeFailure (session.conclude document updatesReport result))) ↔
      ¬session.Spoils document updatesReport result := by
  have diagnosed : Diagnostic.ofResult document.path.toString result ≠ [] := by
    simpa [Diagnostic.ofResult] using found
  rcases conclude_cases updatesReport found with ⟨error, output, unread, ended⟩ |
    ⟨failure, written, updates, unreported, failed⟩ | ⟨readable, reported, returned, stored⟩
  · rw [ended]
    cases refusal : error.isRefusal with
    | true =>
        rw [noticeFailure_of_unnoticed (by simp [Failure.isNoticed, refusal])]
        exact iff_of_false not_publishes_or_withdraws
          (not_not_intro (.unwritten output unread (Or.inl refusal)))
    | false =>
        have noticed : (Failure.read error).isNoticed = true := by
          simp [Failure.isNoticed, refusal]
        obtain ⟨nothing, kept⟩ := noticeFailure_of_noticed noticed
          (session.storing document.path.toString result)
        have unpublished := not_publishes_of_stored nothing diagnosed kept
        have unwritten : (session.applied document result).1 ≠ .ok () := by
          rcases applied_cases session document result with ⟨own, -, -, same⟩ | ⟨readable, -⟩
          · simp [same]
          · exact absurd ⟨output, error, unread⟩ readable
        constructor
        · rintro (publishes | ⟨-, same⟩) spoils
          · exact unpublished publishes
          · cases spoils with
            | unwritten _ again harm =>
                obtain rfl := Except.error.inj (unread.symm.trans again)
                rcases harm with refused | changed
                · simp [refusal] at refused
                · exact changed (Store.set_eq_self_iff.mp (kept.symm.trans same))
            | unreported wrote _ _ => exact unwritten wrote
        · intro sound
          refine Or.inr ⟨nothing, kept.trans (Store.set_eq_self_iff.mpr ?_)⟩
          by_contra changed
          exact sound (.unwritten output unread (Or.inr changed))
  · have ended : session.conclude document updatesReport result =
        (.error failure, (session.conclude document updatesReport result).2) :=
      Prod.ext failed rfl
    have unnoticed := (updateReport_outcome _).2 failure unreported
    rw [ended, noticeFailure_of_unnoticed unnoticed]
    exact iff_of_false not_publishes_or_withdraws
      (not_not_intro (.unreported written updates unreported))
  · have ended : session.conclude document updatesReport result =
        (.ok (Diagnostic.ofResult document.path.toString result),
          (session.conclude document updatesReport result).2) :=
      Prod.ext returned rfl
    refine iff_of_true ?_ ?_
    · rw [ended]
      exact Or.inl ⟨_, rfl, stored⟩
    · intro spoils
      cases spoils with
      | unwritten output unread _ => exact readable ⟨output, _, unread⟩
      | unreported _ updates failed => exact reported ⟨updates, _, failed⟩

theorem examine_publishes_or_withdraws_iff (session : Session) (document : Document)
    (updatesReport : Bool) :
    (session.Publishes document.path.toString
        (noticeFailure (session.examine document updatesReport)) ∨
      session.Withdraws (noticeFailure (session.examine document updatesReport))) ↔
      ¬session.Mishap document updatesReport := by
  have kept := store_check session document.path.toString document.text
  cases checked : session.check document.path.toString document.text with
  | mk outcome after =>
      rw [checked] at kept
      rw [examine, checked, mishap_iff checked]
      cases outcome with
      | error failure =>
          dsimp only
          cases noticed : failure.isNoticed with
          | true =>
              obtain ⟨nothing, same⟩ := noticeFailure_of_noticed noticed after
              exact iff_of_true (Or.inr ⟨nothing, same.trans kept⟩) (by simp [noticed])
          | false =>
              rw [noticeFailure_of_unnoticed noticed]
              exact iff_of_false not_publishes_or_withdraws (by simp [noticed])
      | ok result =>
          dsimp only
          cases cancelled : after.cancelled with
          | true => exact iff_of_true (Or.inr ⟨rfl, kept⟩) (by simp)
          | false =>
              by_cases empty : result.messages = []
              · have concluded : after.conclude document updatesReport result =
                    (.ok [], after.storing document.path.toString result) := by
                  simp [conclude, storing, Diagnostic.ofResult, empty]
                have stored : (after.storing document.path.toString result).store =
                    session.store.set document.path.toString [] := by
                  simp [storing, Diagnostic.ofResult, empty, ← kept]
                refine iff_of_true ?_ (by simp [empty])
                rw [if_neg (by simp), concluded]
                exact Or.inl ⟨[], rfl, stored⟩
              · have ends := conclude_publishes_or_withdraws_iff after document updatesReport empty
                rw [Publishes, Withdraws, kept] at ends
                rw [if_neg (by simp), Publishes, Withdraws, ends]
                simp [empty]

/-- An analysis of any document returns the diagnostics that it leaves in the store for the
path, or it returns none and leaves the store as it was, exactly if the session is
cancelled, the language is not known or no mishap is met. -/
theorem analyze_publishes_or_withdraws_iff (session : Session) (document : Document)
    (updatesReport : Bool) :
    (session.Publishes document.path.toString (session.analyze document updatesReport) ∨
      session.Withdraws (session.analyze document updatesReport)) ↔
      session.cancelled = true ∨ document.language.isNone = true ∨
        ¬session.Mishap document updatesReport := by
  rw [analyze]
  split
  · rename_i skipped
    rw [Bool.or_eq_true] at skipped
    rw [← or_assoc]
    exact iff_of_true (Or.inr ⟨rfl, rfl⟩) (Or.inl skipped)
  · rename_i goes
    rw [Bool.or_eq_true, not_or] at goes
    rw [examine_publishes_or_withdraws_iff, or_iff_right goes.1, or_iff_right goes.2]

/-- The session over the quoted line once the file is gone. -/
def emptiedSession : Session :=
  { quotedSession with
    files := .folder 0o755 [("tmp", .folder 0o755 [("lintsync", .folder 0o755 [])])] }

theorem lintResult_emptiedSession : ∃ message,
    emptiedSession.lintResult "/tmp/lintsync/a.js" ['"', '"', '\n'] =
      .ok ⟨[message], some ['\'', '\'', '\n']⟩ := by
  obtain ⟨message, linted, -⟩ := lintText_quotedSession
  have ignoring : emptiedSession.ignoreRules =
      .ok (some ⟨⟨"/", ["tmp", "lintsync"]⟩, [.packages]⟩) :=
    ignoreRules_of_absent rfl rfl
  refine ⟨message, ?_⟩
  rw [lintResult_of_seen ignoring rfl ignores_quotedPath]
  exact congrArg (Except.mapError Failure.lint) linted

/-- An analysis of a document whose file is gone returns nothing although it stored what it
found. -/
theorem analyze_stores_and_returns_nothing :
    emptiedSession.store = .empty ∧
      (emptiedSession.analyze ⟨quotedPath, some .javascript, ['"', '"', '\n']⟩ false).1 =
        .ok [] ∧
      (emptiedSession.analyze ⟨quotedPath, some .javascript, ['"', '"', '\n']⟩
        false).2.store.get "/tmp/lintsync/a.js" ≠ [] := by
  obtain ⟨message, checked⟩ := lintResult_emptiedSession
  have located := toString_quotedPath
  have failing : emptiedSession.counted.conclude
      ⟨quotedPath, some .javascript, ['"', '"', '\n']⟩ false
        ⟨[message], some ['\'', '\'', '\n']⟩ =
      (.error (.read (.file ⟨.missing, quotedPath.toString, none⟩)),
        emptiedSession.counted.storing quotedPath.toString
          ⟨[message], some ['\'', '\'', '\n']⟩) := rfl
  have noticed : (Failure.read (.file ⟨.missing, quotedPath.toString, none⟩)).isNoticed =
      true := rfl
  obtain ⟨nothing, kept⟩ := noticeFailure_of_noticed noticed
    (emptiedSession.counted.storing quotedPath.toString ⟨[message], some ['\'', '\'', '\n']⟩)
  rw [analyze_of_active rfl rfl rfl]
  dsimp only
  rw [located, checked]
  dsimp only
  rw [failing]
  refine ⟨rfl, nothing, ?_⟩
  rw [kept, Store.get, ← located]
  dsimp only [storing]
  rw [Store.getNamed?_set_self]
  simp [Diagnostic.ofResult]

end Analysing

end Session

end ScriptLint
