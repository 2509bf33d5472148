import ScriptLint.Files.Access
import ScriptLint.Language
import ScriptLint.Workspace.Basic

/-!
# The files of a workspace

Enumerating a workspace descends into every root, past excluded folders, and lists
the files whose names match.  Files come root by root, sorted by path within a
root, and each file once.  Only the roots are asked for by their paths, so a listed
path may be too long for the file to be opened.
-/

namespace ScriptLint

/-- A file to analyse: its path, its language, if that is known, and its text. -/
structure Document where
  path : Path
  language : Option Language
  text : List Char
deriving DecidableEq, Repr

namespace Settings

/-- The names that lead from a folder to the files in it that are analysed. -/
def filesIn (settings : Settings) (tree : FileTree) : List (List String) :=
  ((tree.places (!settings.excludes ·)).filter fun (names, tree) =>
    !tree.isFolder && settings.acceptsName (names.getLast?.getD "")).map (·.1)

/-- The files in a root that are analysed, in order. -/
def filesOfRoot (settings : Settings) (files : FileTree) (root : Path) :
    Except FileError (List Path) :=
  match files.get root with
  | .error error => .error error
  | .ok (.file _ _) => .error ⟨.notFolder, root.toString, none⟩
  | .ok tree =>
      .ok (((settings.filesIn tree).mergeSort Path.namesNotAfter).map fun names =>
        ⟨root.anchor, root.names ++ names⟩)

end Settings

def addPaths (found : List Path) : List Path → List Path
  | [] => found
  | path :: rest =>
      if found.contains path then addPaths found rest
      else addPaths (found ++ [path]) rest

/-- The files in some roots after those found so far. -/
def Settings.filesOfRoots (settings : Settings) (files : FileTree)
    (found : List Path) : List Path → Except FileError (List Path)
  | [] => .ok found
  | root :: rest =>
      match settings.filesOfRoot files root with
      | .error error => .error error
      | .ok paths => settings.filesOfRoots files (addPaths found paths) rest

def Workspace.files (workspace : Workspace) (files : FileTree) :
    Except FileError (List Path) :=
  workspace.settings.filesOfRoots files [] workspace.roots

def Document.open (files : FileTree) (path : Path) : Except ReadError Document :=
  match path.resolved with
  | .error error => .error (.file error)
  | .ok path => (files.readText path).map (⟨path, path.language?, ·⟩)

end ScriptLint
