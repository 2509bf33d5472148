import ScriptLint.Session.Report

/-!
# Analysing documents

Analysing a document checks its text, stores the diagnostics, writes the fixed
text back and, if asked to, updates the report.  A cancelled session, an unknown
language or a failed check yields no diagnostics and leaves the store alone.
-/

namespace ScriptLint.Session

/-- Writes the fixes of an analysis and tells the user if the file has changed
meanwhile. -/
def applyResult (session : Session) (path : Path) (checked : List Char)
    (result : LintResult) : Except ReadError Unit × Session :=
  match result.output with
  | none => (.ok (), session)
  | some _ =>
      match session.writeFixes path checked result.output with
      | (.error error, session) => (.error error, session)
      | (.ok true, session) => (.ok (), session)
      | (.ok false, session) =>
          (.ok (), session.notify .warning
            ("Automatic fixes were not applied to " ++ path.toString ++
              " because it changed during analysis."))

/-- Stores the result of a check and acts on it. -/
def conclude (session : Session) (document : Document) (updatesReport : Bool)
    (result : LintResult) : Except Failure (List Diagnostic) × Session :=
  let path := document.path.toString
  let diagnostics := Diagnostic.ofResult path result
  let session := { session with store := session.store.set path diagnostics }
  if diagnostics.isEmpty then (.ok diagnostics, session)
  else
    match session.applyResult document.path document.text result with
    | (.error error, session) => (.error (.read error), session)
    | (.ok (), session) =>
        if updatesReport then
          match session.updateReport with
          | (.error failure, session) => (.error failure, session)
          | (.ok _, session) => (.ok diagnostics, session)
        else (.ok diagnostics, session)

/-- Checks a document and acts on the result, unless the session was cancelled
meanwhile. -/
def examine (session : Session) (document : Document) (updatesReport : Bool) :
    Except Failure (List Diagnostic) × Session :=
  match session.check document.path.toString document.text with
  | (.error failure, session) => (.error failure, session)
  | (.ok result, session) =>
      if session.cancelled then (.ok [], session)
      else session.conclude document updatesReport result

/-- Tells the user of a failure and goes on without diagnostics; a failure that is
not noticed goes through. -/
def noticeFailure :
    Except Failure (List Diagnostic) × Session → Except Failure (List Diagnostic) × Session
  | (.error failure, session) =>
      if failure.isNoticed then
        (.ok [], session.notify .error ("Error analyzing code: " ++ failure.message))
      else (.error failure, session)
  | outcome => outcome

def analyze (session : Session) (document : Document) (updatesReport : Bool) :
    Except Failure (List Diagnostic) × Session :=
  if session.cancelled || document.language.isNone then (.ok [], session)
  else noticeFailure (session.examine document updatesReport)

/-- Analyses the file at a path and updates the report. -/
def analyzeFile (session : Session) (path : Path) :
    Except Failure (List Diagnostic) × Session :=
  if session.cancelled then (.ok [], session)
  else
    match Document.open session.files path with
    | .error error => noticeFailure (.error (.read error), session)
    | .ok document => session.analyze document true

end ScriptLint.Session
