import ScriptLint.Session.Analysis
import ScriptLint.Workspace.Event

/-!
# Scanning the workspace

A scan analyses every file of the workspace in order and stops when the session is
cancelled.  Starting a session, and changing its folders, scan the workspace and
save a report on what was found.
-/

namespace ScriptLint.Session

/-- Tells the user that a file or folder could not be scanned. -/
def noticeScan (session : Session) (reason : String) : Session :=
  session.notify .error ("Error analyzing workspace: " ++ reason)

/-- Analyses files until the session is cancelled. -/
def scanFiles (session : Session) :
    List Path → Except Failure (List Diagnostic) × Session
  | [] => (.ok [], session)
  | path :: rest =>
      if session.cancelled then (.ok [], session)
      else
        match Document.open session.files path with
        | .error error => (session.noticeScan error.message).scanFiles rest
        | .ok document =>
            match session.analyze document false with
            | (.error failure, session) => (.error failure, session)
            | (.ok diagnostics, session) =>
                match session.scanFiles rest with
                | (.error failure, session) => (.error failure, session)
                | (.ok others, session) => (.ok (diagnostics ++ others), session)

/-- Analyses all files of the workspace. -/
def scan (session : Session) : Except Failure (List Diagnostic) × Session :=
  match session.workspace.files session.files with
  | .error error => (.ok [], session.noticeScan error.message)
  | .ok files => session.scanFiles files

/-- Scans the workspace and saves a report on the diagnostics found. -/
def activate (session : Session) : Except Failure (List Diagnostic) × Session :=
  match session.scan with
  | (.error failure, session) => (.error failure, session)
  | (.ok diagnostics, session) =>
      match session.saveReport diagnostics with
      | (.error failure, session) => (.error failure, session)
      | (.ok _, session) => (.ok diagnostics, session)

/-- Drops the stored diagnostics of files that are not in the workspace, if its
files can be enumerated. -/
def prune (session : Session) : Session :=
  match session.workspace.files session.files with
  | .error _ => session
  | .ok files =>
      { session with store := (session.store.retain (files.map (·.toString))).2 }

/-- Takes over new root folders, if given, and scans the workspace anew. -/
def changeFolders (session : Session) (roots : Option (List Path)) :
    Except Failure (List Diagnostic) × Session :=
  match roots with
  | none => session.prune.activate
  | some roots =>
      match session.workspace.withRoots roots with
      | .error error => (.error (.read (.file error)), session)
      | .ok workspace => { session with workspace }.prune.activate

/-- Acts on what a change means.  A failure to do so is of no consequence. -/
def act (session : Session) : Option WorkspaceEvent → Session
  | none => session
  | some (.opened path) => (session.analyzeFile path).2
  | some (.saved path) => (session.analyzeFile path).2
  | some (.filesChanged _) => (session.changeFolders none).2

/-- Acts on a change of files. -/
def handle (session : Session) (event : FileEvent) : Except FileError Session :=
  (session.workspace.classify event).map session.act

end ScriptLint.Session
