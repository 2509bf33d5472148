import ScriptLint.Workspace.Basic

/-!
# File events

Changes of files that the file system tells of are sorted by what they mean for a
workspace.  Changes of folders, of the report and of files that are not analysed
mean nothing.
-/

namespace ScriptLint

/-- What happened to a file. -/
inductive Change where
  | created
  | modified
  | deleted
  | moved
  | other
deriving DecidableEq, Repr

/-- A change of a file or folder, and where it was moved, if it was. -/
structure FileEvent where
  change : Change
  onFolder : Bool
  path : Path
  target : Option Path
deriving DecidableEq, Repr

/-- What a change means for a workspace. -/
inductive WorkspaceEvent where
  | opened (path : Path)
  | saved (path : Path)
  | filesChanged (path : Path)
deriving DecidableEq, Repr

namespace Workspace

def inReportFolder (workspace : Workspace) (path : Path) : Bool :=
  workspace.reportFolder?.any fun folder => (path.below? folder).isSome

/-- Whether changes of the file at a resolved path matter. -/
def watches (workspace : Workspace) (path : Path) : Bool :=
  !workspace.inReportFolder path && workspace.holds path

/-- What a change means, if it matters. -/
def classify (workspace : Workspace) (event : FileEvent) :
    Except FileError (Option WorkspaceEvent) := do
  if event.onFolder then return none
  else
    let path ← event.path.resolved
    match event.change with
    | .created => return if workspace.watches path then some (.opened path) else none
    | .modified => return if workspace.watches path then some (.saved path) else none
    | .deleted | .moved =>
        let targets ← event.target.toList.mapM Path.resolved
        if (path :: targets).any workspace.watches then return some (.filesChanged path)
        else return none
    | .other => return none

end Workspace

end ScriptLint
