import ScriptLint.Files.Tree
import ScriptLint.Path.Resolve
import ScriptLint.Text.Lines

/-!
# Reading and writing files

Requests to a file tree by path.  A path takes at most 4095 bytes.  Text is read
from UTF-8 with every line break made a line feed, and written as UTF-8 as it is.
-/

namespace ScriptLint.FileTree

/-- The tree that names lead to from the top.  A double dot leads back from what
has to be a folder; `above` holds the names passed so far, the last one first. -/
def reachFrom (tree : FileTree) (above : List String) :
    List String → Except FileFault FileTree
  | [] => tree.find above.reverse
  | name :: rest =>
      if name = ".." then
        match tree.find above.reverse with
        | .error fault => .error fault
        | .ok (file _ _) => .error .notFolder
        | .ok (folder _ _) => tree.reachFrom above.tail rest
      else tree.reachFrom (name :: above) rest

/-- The most bytes that a path may take. -/
def pathLimit : Nat := 4095

def reach (tree : FileTree) (path : Path) : Except FileFault FileTree :=
  if path.holdsNull then .error .nullCharacter
  else if pathLimit < path.toString.utf8ByteSize then .error .tooLong
  else tree.reachFrom [] path.names

/-- The tree at a path, or the failure to find it. -/
def get (tree : FileTree) (path : Path) : Except FileError FileTree :=
  (tree.reach path).mapError (⟨·, path.toString, none⟩)

/-- The tree at a path, if there is one.  Only a path that is too long is a
failure. -/
def get? (tree : FileTree) (path : Path) : Except FileError (Option FileTree) :=
  match tree.reach path with
  | .ok found => .ok (some found)
  | .error .tooLong => .error ⟨.tooLong, path.toString, none⟩
  | .error _ => .ok none

def hasFile (tree : FileTree) (path : Path) : Except FileError Bool :=
  (tree.get? path).map fun found => found.any (!·.isFolder)

def hasFolder (tree : FileTree) (path : Path) : Except FileError Bool :=
  (tree.get? path).map fun found => found.any (·.isFolder)

def readBytes (tree : FileTree) (path : Path) : Except FileError (List UInt8) :=
  match tree.get path with
  | .error error => .error error
  | .ok (file bytes _) => .ok bytes
  | .ok (folder _ _) => .error ⟨.isFolder, path.toString, none⟩

def readText (tree : FileTree) (path : Path) : Except ReadError (List Char) :=
  match tree.readBytes path with
  | .error error => .error (.file error)
  | .ok bytes =>
      match Utf8.decode bytes with
      | .error error => .error (.encoding error)
      | .ok text => .ok (Text.unifyBreaks text)

/-- Writes a file.  Its folder has to exist; a file that is overwritten keeps its
permissions. -/
def writeBytes (tree : FileTree) (path : Path) (bytes : List UInt8) :
    Except FileError FileTree :=
  let names := path.resolve.names
  match tree.reach path with
  | .ok (file _ mode) => .ok (tree.put names (file bytes mode))
  | .ok (folder _ _) => .error ⟨.isFolder, path.toString, none⟩
  | .error .missing =>
      match tree.reach path.parent with
      | .ok _ => .ok (tree.put names (file bytes fileMode))
      | .error fault => .error ⟨fault, path.toString, none⟩
  | .error fault => .error ⟨fault, path.toString, none⟩

/-- Makes a folder in an existing one, unless it exists. -/
def makeFolder (tree : FileTree) (path : Path) : Except FileError FileTree :=
  match tree.reach path with
  | .ok (folder _ _) => .ok tree
  | .ok (file _ _) => .error ⟨.present, path.toString, none⟩
  | .error .missing => .ok (tree.put path.resolve.names emptyFolder)
  | .error fault => .error ⟨fault, path.toString, none⟩

/-- What a request leaves of a tree: the failure, if there is one, and the tree
afterwards, which a failed request does not change. -/
def afterwards (tree : FileTree) : Except FileError FileTree → Option FileError × FileTree
  | .error error => (some error, tree)
  | .ok changed => (none, changed)

/-- Makes a folder and the folders it lies in, unless they exist; the names are
given from the last one up.  Folders made before a failure stay. -/
def makeFoldersUp (tree : FileTree) (anchor : String) :
    List String → Option FileError × FileTree
  | [] => (none, tree)
  | name :: above =>
      let path : Path := ⟨anchor, (name :: above).reverse⟩
      match tree.reach path with
      | .error .missing =>
          match tree.makeFoldersUp anchor above with
          | (some error, made) => (some error, made)
          | (none, made) => made.afterwards (made.makeFolder path)
      | _ => tree.afterwards (tree.makeFolder path)

/-- Makes a folder and the folders it lies in, unless they exist. -/
def makeFolders (tree : FileTree) (path : Path) : Option FileError × FileTree :=
  tree.makeFoldersUp path.anchor path.names.reverse

/-- Writes a file and makes the folders it lies in, which stay if the file cannot
be written. -/
def place (tree : FileTree) (path : Path) (bytes : List UInt8) :
    Option FileError × FileTree :=
  match tree.makeFolders path.parent with
  | (some error, made) => (some error, made)
  | (none, made) => made.afterwards (made.writeBytes path bytes)

/-- Removes a file, or a folder with all it holds. -/
def remove (tree : FileTree) (path : Path) : Except FileError FileTree := do
  let _ ← tree.get path
  .ok (tree.erase path.resolve.names)

/-- Removes a file, but no folder. -/
def removeFile (tree : FileTree) (path : Path) : Except FileError FileTree :=
  match tree.get path with
  | .error error => .error error
  | .ok (file _ _) => .ok (tree.erase path.resolve.names)
  | .ok (folder _ _) => .error ⟨.isFolder, path.toString, none⟩

/-- Changes the permissions of a file or folder. -/
def setMode (tree : FileTree) (path : Path) (mode : Nat) :
    Except FileError FileTree := do
  let found ← tree.get path
  .ok (tree.put path.resolve.names (found.withMode mode))

/-- Everything below a folder with its path, in the order of the path texts. -/
def list (tree : FileTree) (folder : Path) : List (String × FileTree) :=
  match tree.reach folder with
  | .error _ => []
  | .ok found =>
      let entries := (found.places fun _ => true).map fun (names, tree) =>
        (Path.toString ⟨folder.anchor, folder.names ++ names⟩, tree)
      entries.mergeSort (·.1 ≤ ·.1)

end ScriptLint.FileTree
