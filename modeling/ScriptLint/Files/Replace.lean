import ScriptLint.Files.Access

/-!
# Replacing a file as a whole

A file is replaced by writing a temporary file beside it and moving that to its
place, so that no reader sees half of it.  If moving fails, the temporary file is
removed.  The text is encoded once the temporary file is there, which stays, empty as
it is, if the text has no encoding.
-/

namespace ScriptLint.FileTree

/-- The endings of temporary names in the order in which they are tried.  All of them
have eight characters. -/
def temporaryEnding (count : Nat) : List Char :=
  if count = 0 then ['T', 'E', 'M', 'P', 'N', 'A', 'M', 'E']
  else
    [10000000, 1000000, 100000, 10000, 1000, 100, 10, 1].map fun unit =>
      Nat.digitChar (count / unit % 10)

def endingCount : Nat := 100000000

/-- The first name of a stem and an ending that is not taken.  Where all are taken, it
is the first of them. -/
def freshName (stem : String) (taken : List String) : String :=
  let names := (List.range (Nat.min (taken.length + 1) endingCount)).map fun count =>
    stem ++ String.ofList (temporaryEnding count)
  (names.find? (!taken.contains ·)).getD (stem ++ String.ofList (temporaryEnding 0))

def entryNames : FileTree → List String
  | file _ _ => []
  | folder _ entries => entries.map (·.1)

def temporaryPath (tree : FileTree) (path : Path) : Path :=
  let folder := path.parent.resolve
  let taken :=
    match tree.reach folder with
    | .ok found => found.entryNames
    | .error _ => []
  folder.child (freshName ("." ++ path.name ++ ".") taken)

def modeAt (tree : FileTree) (path : Path) : Except FileError Nat :=
  match tree.reach path with
  | .ok found => .ok found.mode
  | .error .missing => .ok fileMode
  | .error fault => .error ⟨fault, path.toString, none⟩

/-- Makes a file at a path where there is none. -/
def makeFile (tree : FileTree) (path : Path) (bytes : List UInt8) (mode : Nat) :
    Except FileError FileTree :=
  match tree.reach path with
  | .error .tooLong => .error ⟨.tooLong, path.toString, none⟩
  | .error _ => .ok (tree.put path.resolve.names (file bytes mode))
  | .ok _ => .error ⟨.present, path.toString, none⟩

/-- Whether a path ends in a name that can be given to a file. -/
def endsInName (path : Path) : Bool :=
  path.names.getLast?.any (· ≠ "..")

/-- Moves a file to a path, over the file that may be there. -/
def moveFile (tree : FileTree) (start target : Path) : Except FileError FileTree :=
  match tree.reach start with
  | .error fault => .error ⟨fault, start.toString, some target.toString⟩
  | .ok moved =>
      if !endsInName target then .error ⟨.busy, start.toString, some target.toString⟩
      else
        match tree.reach target with
        | .ok (folder _ _) => .error ⟨.isFolder, start.toString, some target.toString⟩
        | _ => .ok ((tree.erase start.resolve.names).put target.resolve.names moved)

/-- Replaces the file at a path by bytes, making the folders it lies in.  Gives the
failure, if there is one, and the tree afterwards. -/
def replaceFile (tree : FileTree) (path : Path) (bytes : List UInt8) :
    Option FileError × FileTree :=
  match tree.makeFolders path.parent with
  | (some error, made) => (some error, made)
  | (none, tree) =>
      let temporary := tree.temporaryPath path
      match tree.modeAt path >>= tree.makeFile temporary bytes with
      | .error error => (some error, tree)
      | .ok written =>
          match written.moveFile temporary path with
          | .error error => (some error, written.erase temporary.resolve.names)
          | .ok moved => (none, moved)

/-- The permissions of a temporary file that was not written yet. -/
def temporaryMode : Nat := 0o600

/-- What is left of replacing the file at a path by a text without an encoding. -/
def leaveTemporary (tree : FileTree) (path : Path) (error : Utf8.EncodeError) :
    Option WriteError × FileTree :=
  match tree.makeFolders path.parent with
  | (some problem, made) => (some (.file problem), made)
  | (none, tree) =>
      let temporary := tree.temporaryPath path
      match tree.modeAt path >>= fun _ => tree.makeFile temporary [] temporaryMode with
      | .error problem => (some (.file problem), tree)
      | .ok left => (some (.encoding error), left)

/-- Replaces the file at a path by a text, making the folders it lies in. -/
def replaceText (tree : FileTree) (path : Path) (text : List Utf8.CodePoint) :
    Option WriteError × FileTree :=
  match Utf8.encodeStrict text with
  | .ok bytes =>
      let (problem, after) := tree.replaceFile path bytes
      (problem.map .file, after)
  | .error error => tree.leaveTemporary path error

end ScriptLint.FileTree
