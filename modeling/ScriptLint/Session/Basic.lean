import ScriptLint.Console.Notice
import ScriptLint.Engine.Lint
import ScriptLint.Ignore.Load
import ScriptLint.Rules.Book
import ScriptLint.Store
import ScriptLint.Workspace.Enumeration

/-!
# Sessions

A session watches over a workspace: it holds the files, the diagnostics of the
latest analyses, the notices for the user, and whether it was cancelled.  Other
programs may interrupt it; interruptions are planned by the number of the check
after which they happen.
-/

namespace ScriptLint

/-- Something that happens while a session is at work. -/
inductive Interruption where
  | cancel
  | write (path : Path) (bytes : List UInt8)
  | delete (path : Path)

/-- A session.  `checks` counts the texts checked since interruptions were last
planned. -/
structure Session where
  parse : Parser
  config : RuleConfig
  workspace : Workspace
  files : FileTree
  store : Store
  cancelled : Bool
  notices : List Notice
  checks : Nat
  interruptions : List (Nat × Interruption)

/-- Why an analysis fails. -/
inductive Failure where
  | read (error : ReadError)
  | lint (error : LintError)
  | pattern (error : PatternError)

def Failure.message : Failure → String
  | read error => error.message
  | lint error => error.message
  | pattern error => error.message

/-- Whether a failure is told to the user as a notice.  A refused line of the
ignore file is not, nor is a refused path: it ends the request that met it. -/
def Failure.isNoticed : Failure → Bool
  | read error => !error.isRefusal
  | lint _ => true
  | pattern _ => false

namespace Session

def start (parse : Parser) (config : RuleConfig) (workspace : Workspace)
    (files : FileTree) : Session :=
  { parse, config, workspace, files
    store := .empty
    cancelled := false
    notices := []
    checks := 0
    interruptions := [] }

def notify (session : Session) (level : NoticeLevel) (text : String) : Session :=
  { session with notices := session.notices ++ [⟨level, text⟩] }

/-- The session without its notices, which have been shown. -/
def clearNotices (session : Session) : Session :=
  { session with notices := [] }

/-- Ends the session: nothing is analysed any more. -/
def deactivate (session : Session) : Session :=
  { session with cancelled := true }

/-- Plans interruptions and starts counting checks anew. -/
def plan (session : Session) (interruptions : List (Nat × Interruption)) : Session :=
  { session with checks := 0, interruptions }

/-- Lets an interruption happen.  Gives the failure, if there is one. -/
def interrupt (session : Session) : Interruption → Option FileError × Session
  | .cancel => (none, session.deactivate)
  | .write path bytes =>
      let (error, files) := session.files.place path bytes
      (error, { session with files })
  | .delete path =>
      let (error, files) := session.files.afterwards (session.files.removeFile path)
      (error, { session with files })

/-- Lets interruptions happen in order, up to the first that fails. -/
def interruptAll (session : Session) :
    List Interruption → Option FileError × Session
  | [] => (none, session)
  | interruption :: rest =>
      match session.interrupt interruption with
      | (some error, session) => (some error, session)
      | (none, session) => session.interruptAll rest

/-- Counts a check and lets the interruptions planned for it happen. -/
def countCheck (session : Session) : Option FileError × Session :=
  let number := session.checks + 1
  let due := session.interruptions.filter (·.1 = number)
  let counted := { session with checks := number }
  counted.interruptAll (due.map (·.2))

/-- The ignore rules of the workspace; none if it has no root. -/
def ignoreRules (session : Session) : Except Failure (Option IgnoreRules) :=
  match session.workspace.primary? with
  | none => .ok none
  | some root =>
      match IgnoreRules.load session.files root session.workspace.settings.ignoreName with
      | .ok rules => .ok (some rules)
      | .error (.read error) => .error (.read error)
      | .error (.pattern error) => .error (.pattern error)

/-- What checking the text of a file yields.  An ignored file has no messages. -/
def lintResult (session : Session) (path : String) (text : List Char) :
    Except Failure LintResult :=
  match session.ignoreRules with
  | .error failure => .error failure
  | .ok rules =>
      match RuleConfig.validate RuleBook.standard session.config with
      | .error error => .error (.lint (.configuration error))
      | .ok () =>
          if rules.any (·.ignores (Path.ofString path)) then .ok ⟨[], none⟩
          else
            (lintText session.parse RuleBook.standard session.config path text).mapError
              .lint

/-- Checks the text of a file.  An interruption that fails spoils the check. -/
def check (session : Session) (path : String) (text : List Char) :
    Except Failure LintResult × Session :=
  match session.lintResult path text with
  | .error failure => (.error failure, session)
  | .ok result =>
      match session.countCheck with
      | (some error, session) => (.error (.read (.file error)), session)
      | (none, session) => (.ok result, session)

/-- Writes the fixed text of a file, unless the file no longer holds the text that
was checked.  Gives whether it was written. -/
def writeFixes (session : Session) (path : Path) (checked : List Char)
    (output : Option (List Char)) : Except ReadError Bool × Session :=
  match output with
  | none => (.ok false, session)
  | some output =>
      match session.files.readText path with
      | .error error => (.error error, session)
      | .ok current =>
          if current = checked then
            match session.files.writeBytes path (Utf8.encode output) with
            | .error error => (.error (.file error), session)
            | .ok files => (.ok true, { session with files })
          else (.ok false, session)

end Session

end ScriptLint
