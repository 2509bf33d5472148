import ScriptLint.Files.Error
import ScriptLint.Pattern.Glob

/-!
# Workspaces

A workspace is a list of root folders and the settings that say which files in
them are analysed and where the report is kept.  The first root holds the report
and the ignore file.
-/

namespace ScriptLint

/-- Which files are analysed, and the names of the report and the ignore file. -/
structure Settings where
  reportFolder : String := "lint-report"
  reportName : String := "eslint-report.txt"
  filePatterns : List String := ["*.js", "*.ts", "*.vue"]
  excludedFolders : List String := ["node_modules"]
  ignoreName : String := ".eslintignore"
deriving DecidableEq, Repr

/-- Root folders and settings. -/
structure Workspace where
  roots : List Path
  settings : Settings
deriving DecidableEq, Repr

/-- Whether a file name matches one of the patterns. -/
def Settings.acceptsName (settings : Settings) (name : String) : Bool :=
  settings.filePatterns.any fun pattern => (Glob.ofString pattern).accepts name

/-- Whether files in a folder of this name are left out. -/
def Settings.excludes (settings : Settings) (name : String) : Bool :=
  settings.excludedFolders.contains name

namespace Workspace

def ofRoots (roots : List Path) (settings : Settings) : Except FileError Workspace :=
  (roots.mapM Path.resolved).map (⟨·, settings⟩)

/-- A workspace with other root folders. -/
def withRoots (workspace : Workspace) (roots : List Path) :
    Except FileError Workspace :=
  ofRoots roots workspace.settings

/-- The root that holds the report and the ignore file. -/
def primary? (workspace : Workspace) : Option Path :=
  workspace.roots.head?

/-- The names that lead to a path from the first root it lies in. -/
def below? (workspace : Workspace) (path : Path) : Option (List String) :=
  workspace.roots.findSome? path.below?

/-- Whether a resolved path is that of a file to analyse.  The first root that it
lies in decides whether it lies in an excluded folder. -/
def holds (workspace : Workspace) (path : Path) : Bool :=
  workspace.settings.acceptsName path.name &&
    match workspace.below? path with
    | none => false
    | some names => !names.dropLast.any workspace.settings.excludes

def accepts (workspace : Workspace) (path : Path) : Except FileError Bool :=
  path.resolved.map workspace.holds

def reportFolder? (workspace : Workspace) : Option Path :=
  workspace.primary?.map
    (·.join (Path.ofString workspace.settings.reportFolder))

def reportPath? (workspace : Workspace) : Option Path :=
  workspace.reportFolder?.map
    (·.join (Path.ofString workspace.settings.reportName))

def ignorePath? (workspace : Workspace) : Option Path :=
  workspace.primary?.map
    (·.join (Path.ofString workspace.settings.ignoreName))

end Workspace

end ScriptLint
