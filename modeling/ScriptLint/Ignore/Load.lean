import ScriptLint.Files.Access
import ScriptLint.Ignore.Rules

/-!
# Loading ignore files

The rules of a folder are the default patterns and, if there is an ignore file in
the folder, its lines.
-/

namespace ScriptLint

/-- Why ignore rules cannot be loaded. -/
inductive IgnoreError where
  | read (error : ReadError)
  | pattern (error : PatternError)

def FileTree.readTextIfFile (files : FileTree) (path : Path) :
    Except ReadError (Option (List Char)) :=
  match files.hasFile path with
  | .error error => .error (.file error)
  | .ok true => (files.readText path).map some
  | .ok false => .ok none

def IgnoreRules.load (files : FileTree) (root : Path) (name : String) :
    Except IgnoreError IgnoreRules :=
  match files.readTextIfFile (root.join (Path.ofString name)) with
  | .error error => .error (.read error)
  | .ok text => (IgnoreRules.ofText root text).mapError .pattern

end ScriptLint
