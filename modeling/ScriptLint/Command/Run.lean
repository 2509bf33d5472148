import ScriptLint.Command.Arguments
import ScriptLint.Console.Table
import ScriptLint.Output.Json
import ScriptLint.Session.Scan

/-!
# Running commands

A command runs in a session of its own on the folders it names.  Diagnostics are
printed as tables or as JSON; notices and complaints go to the error output.  The
exit code is two for a command that could not be run and zero otherwise, whatever
was found.
-/

namespace ScriptLint

/-- What a command leaves behind. -/
structure CommandResult where
  exitCode : Nat
  output : String
  errors : String
  files : FileTree

/-- Why a command fails. -/
inductive CommandError where
  | session (failure : Failure)
  | print (error : Console.PrintError)

def CommandError.message : CommandError → String
  | session failure => failure.message
  | print error => error.message

namespace Command

def refuse (files : FileTree) (errors : String) : CommandResult :=
  ⟨2, "", errors, files⟩

def roots : Command → List Path
  | scan paths _ => paths.map Path.ofString
  | check path _ _ => [Path.ofString path]
  | watch paths => paths.map Path.ofString

def pathFrom (folder : Path) (text : String) : String :=
  (folder.join (Path.ofString text)).toString

/-- Output options whose file is read from a folder. -/
def outputFrom (folder : Path) (output : OutputOptions) : OutputOptions :=
  { output with file := (output.file.filter (· ≠ "")).map (pathFrom folder) }

def readFrom (folder : Path) : Command → Command
  | scan paths output => scan (paths.map (pathFrom folder)) (outputFrom folder output)
  | check path file output =>
      check (pathFrom folder path) (pathFrom folder file) (outputFrom folder output)
  | watch paths => watch (paths.map (pathFrom folder))

/-- A failed request for a file as the failure of a command. -/
def ofFiles {α : Type} (result : Except FileError α) : Except CommandError α :=
  result.mapError fun error => .session (.read (.file error))

/-- The complaint about a folder that is not there. -/
def missingRoot (root : Path) : String :=
  "Path does not exist: " ++ root.toString ++ "\n"

def printedNotices (session : Session) : Except CommandError String :=
  match Notice.renderAll session.notices with
  | .error error => .error (.print error)
  | .ok text => .ok text

def emit (session : Session) (options : OutputOptions)
    (diagnostics : List Diagnostic) : Except CommandError CommandResult := do
  let errors ← printedNotices session
  let text := (Json.ofDiagnostics diagnostics).render
  match options.format, options.file.filter (· ≠ "") with
  | .table, _ =>
      match Console.tables diagnostics with
      | .error error => .error (.print error)
      | .ok tables => .ok ⟨0, tables, errors, session.files⟩
  | .json, none => .ok ⟨0, text ++ "\n", errors, session.files⟩
  | .json, some file =>
      match session.files.place (Path.ofString file) (Utf8.encode text.toList) with
      | (none, files) => .ok ⟨0, "", errors, files⟩
      | (some error, files) =>
          if error.isRefusal then ofFiles (.error error)
          else
            .ok (refuse files
              (errors ++ "Failed to write JSON output file: " ++ file ++ "\n"))

/-- Prints what a request found.  A failure that is not noticed goes through. -/
def conclude (options : OutputOptions) :
    Except Failure (List Diagnostic) × Session → Except CommandError CommandResult
  | (.error failure, _) => .error (.session failure)
  | (.ok diagnostics, session) => emit session options diagnostics

/-- Runs a command in a session on its folders.  Following changes ends at once, as
there are none in a file tree that nobody else changes. -/
def runIn (session : Session) : Command → Except CommandError CommandResult
  | scan _ options => conclude options session.activate
  | check _ file options =>
      let file := Path.ofString file
      match session.files.hasFile file with
      | .error error => ofFiles (.error error)
      | .ok true => conclude options (session.analyzeFile file)
      | .ok false =>
          .ok (refuse session.files ("File does not exist: " ++ file.toString ++ "\n"))
  | watch _ =>
      match session.activate with
      | (.error failure, _) => .error (.session failure)
      | (.ok _, session) => do
          let errors ← printedNotices session
          return ⟨0, "", errors, session.files⟩

def run (parse : Parser) (config : RuleConfig) (files : FileTree) (command : Command) :
    Except CommandError CommandResult := do
  let found ← ofFiles (command.roots.mapM fun root =>
    (files.hasFolder root).map (root, ·))
  let missing := found.filter (!·.2)
  if missing.isEmpty then
    let workspace ← ofFiles (Workspace.ofRoots command.roots {})
    command.runIn (.start parse config workspace files)
  else return refuse files (String.join (missing.map fun (root, _) => missingRoot root))

/-- Runs a command line on a file tree, with the configuration that the environment
asks for. -/
def runArguments (parse : Parser) (environment : List (String × String))
    (files : FileTree) (arguments : List String) :
    Except CommandError CommandResult :=
  match ofArguments? arguments with
  | none => .ok (refuse files "")
  | some command => command.run parse (RuleConfig.ofEnvironment environment) files

end Command

end ScriptLint
