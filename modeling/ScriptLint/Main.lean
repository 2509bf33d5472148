import ScriptLint.Command.Run
import ScriptLint.Source.Parsed

/-!
# The program

Runs a command line on the folders it names.  Syntax trees are read from the
standard input.  The folders are loaded, the command is run on what was loaded, and
the files that it changed are written back.
-/

namespace ScriptLint.Program

/-- Loads a folder of the file system. -/
partial def loadFolder (path : String) : IO FileTree := do
  let place ← IO.FS.realPath path
  let mut entries := #[]
  for entry in ← place.readDir do
    let found ← entry.path.metadata
    if found.type matches .dir then
      entries := entries.push (entry.fileName, ← loadFolder entry.path.toString)
    else if found.type matches .file then
      let bytes ← IO.FS.readBinFile entry.path
      entries := entries.push (entry.fileName, .file bytes.toList FileTree.fileMode)
  return .folder FileTree.folderMode entries.toList

/-- Loads what is at a path into a file tree; what cannot be loaded is not there. -/
def load (files : FileTree) (path : Path) : IO FileTree := do
  let names := path.resolve.names
  try
    return files.put names (← loadFolder path.toString)
  catch _ =>
    try
      let bytes ← IO.FS.readBinFile path.toString
      return files.put names (.file bytes.toList FileTree.fileMode)
    catch _ => return files

def inputs : Command → List Path
  | .check path file _ => [Path.ofString path, Path.ofString file]
  | command => command.roots

/-- Writes the files that differ from what was loaded. -/
def save (before after : FileTree) : IO Unit := do
  for (path, entry) in after.list (Path.ofString "/") do
    match entry with
    | .folder _ _ => IO.FS.createDirAll path
    | .file bytes _ =>
        match before.readBytes (Path.ofString path) with
        | .ok held =>
            unless held = bytes do
              IO.FS.writeBinFile path ⟨bytes.toArray⟩
        | .error _ => IO.FS.writeBinFile path ⟨bytes.toArray⟩

/-- The variables of the environment that the configuration depends on. -/
def environment : IO (List (String × String)) := do
  match ← IO.getEnv "NODE_ENV" with
  | some value => return [("NODE_ENV", value)]
  | none => return []

/-- Runs a command and gives the exit code. -/
def run (command : Command) : IO Nat := do
  let texts := (ParsedText.ofText? (← (← IO.getStdin).readToEnd).toList).getD []
  let before ← (inputs command).foldlM load FileTree.emptyFolder
  let config := RuleConfig.ofEnvironment (← environment)
  match command.run (.ofTexts texts) config before with
  | .error failure =>
      IO.eprintln failure.message
      return 1
  | .ok result =>
      save before result.files
      IO.print result.output
      IO.eprint result.errors
      return result.exitCode

end ScriptLint.Program

/-- Runs the command that the arguments ask for. -/
def main (arguments : List String) : IO UInt32 := do
  match ScriptLint.Command.ofArguments? arguments with
  | none => return 2
  | some command =>
      let folder := ScriptLint.Path.ofString (← IO.currentDir).toString
      return (← ScriptLint.Program.run (command.readFrom folder)).toUInt32
