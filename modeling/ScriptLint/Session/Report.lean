import ScriptLint.Files.Replace
import ScriptLint.Report
import ScriptLint.Session.Basic

/-!
# Keeping the report

The report is written either from diagnostics at hand or by checking every file of
the workspace anew.  The latter neither reads nor changes the store and writes no
fixes; files that cannot be read or checked are left out with a notice.
-/

namespace ScriptLint.Session

/-- The words of the notices about writing the report. -/
structure ReportWords where
  noRoot : String
  failed : String
  written : String

def savingWords : ReportWords :=
  { noRoot := "No workspace folder found to save the ESLint report."
    failed := "Failed to save ESLint report: "
    written := "ESLint report saved to " }

def updatingWords : ReportWords :=
  { noRoot := "No workspace folder found to update ESLint report."
    failed := "Failed to update ESLint report: "
    written := "ESLint report updated and saved to " }

/-- Writes a report to its path.  Gives the path if it was written. -/
def writeReport (session : Session) (words : ReportWords) (path : Path)
    (diagnostics : List Diagnostic) : Except Failure (Option Path) × Session :=
  -- A report is made of characters, so its encoding cannot fail.
  let bytes := Utf8.encode (Report.ofDiagnostics diagnostics).toList
  match session.files.replaceFile path bytes with
  | (some error, files) =>
      if error.isRefusal then (.error (.read (.file error)), { session with files })
      else
        (.ok none, { session with files }.notify .error (words.failed ++ error.message))
  | (none, files) =>
      (.ok (some path),
        { session with files }.notify .info (words.written ++ path.toString))

def saveReport (session : Session) (diagnostics : List Diagnostic) :
    Except Failure (Option Path) × Session :=
  match session.workspace.reportPath? with
  | none => (.ok none, session.notify .error savingWords.noRoot)
  | some path => session.writeReport savingWords path diagnostics

def checkFile (session : Session) (path : Path) :
    Except Failure (List Diagnostic) × Session :=
  match Document.open session.files path with
  | .error error => (.error (.read error), session)
  | .ok document =>
      let path := document.path.toString
      match session.check path document.text with
      | (.error failure, session) => (.error failure, session)
      | (.ok result, session) => (.ok (Diagnostic.ofResult path result), session)

def checkFiles (session : Session) :
    List Path → Except Failure (List Diagnostic) × Session
  | [] => (.ok [], session)
  | path :: rest =>
      match session.checkFile path with
      | (.ok diagnostics, session) =>
          match session.checkFiles rest with
          | (.ok others, session) => (.ok (diagnostics ++ others), session)
          | (.error failure, session) => (.error failure, session)
      | (.error failure, session) =>
          if failure.isNoticed then
            (session.notify .error
              ("Error updating ESLint report: " ++ failure.message)).checkFiles rest
          else (.error failure, session)

/-- Checks all files of the workspace and writes the report on them. -/
def updateReport (session : Session) : Except Failure (Option Path) × Session :=
  match session.workspace.reportPath? with
  | none => (.ok none, session.notify .error updatingWords.noRoot)
  | some path =>
      match session.workspace.files session.files with
      | .error error =>
          (.ok none,
            session.notify .error ("Error updating ESLint report: " ++ error.message))
      | .ok files =>
          match session.checkFiles files with
          | (.error failure, session) => (.error failure, session)
          | (.ok diagnostics, session) =>
              session.writeReport updatingWords path diagnostics

end ScriptLint.Session
