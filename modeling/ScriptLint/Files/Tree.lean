import ScriptLint.Files.Error
import ScriptLint.Named

/-!
# File trees

A file tree is a file or a folder of named trees.  Places in it are lists of names
from the top down.  A name takes at most 255 bytes.

A tree stands for what one user may do with the files below one top, so that some
failures of a file system do not arise in it:

* Permissions are kept and handed on, but never asked for.  What is there can be read,
  listed and rewritten, and there is always room for more.
* There are no links.  Each place has one way to it apart from double dots.
* Names are texts.  A name of bytes that are no UTF-8 cannot be written down.
* Folders may lie as deep as they like, and listing goes from folder to folder.  Only a
  request by a path is limited in length.
-/

namespace ScriptLint

/-- A file with its bytes, or a folder with its entries, each with its
permissions. -/
inductive FileTree where
  | file (bytes : List UInt8) (mode : Nat)
  | folder (mode : Nat) (entries : List (String × FileTree))

namespace FileTree

/-- The permissions of new files. -/
def fileMode : Nat := 0o644

/-- The permissions of new folders. -/
def folderMode : Nat := 0o755

def emptyFolder : FileTree :=
  folder folderMode []

def isFolder : FileTree → Bool
  | file _ _ => false
  | folder _ _ => true

def mode : FileTree → Nat
  | file _ mode => mode
  | folder mode _ => mode

/-- A tree with other permissions at its top. -/
def withMode (mode : Nat) : FileTree → FileTree
  | file bytes _ => file bytes mode
  | folder _ entries => folder mode entries

/-- The most bytes that a name may take. -/
def nameLimit : Nat := 255

def find : List String → FileTree → Except FileFault FileTree
  | [], tree => .ok tree
  | _ :: _, file _ _ => .error .notFolder
  | name :: rest, folder _ entries =>
      if nameLimit < name.utf8ByteSize then .error .tooLong
      else
        match getNamed? entries name with
        | none => .error .missing
        | some tree => find rest tree

/-- A place in a folder is there if the first name is that of an entry in which the
others lead on. -/
theorem find_cons_folder_eq_ok_iff {name : String} {rest : List String} {mode : Nat}
    {entries : List (String × FileTree)} {found : FileTree} :
    find (name :: rest) (folder mode entries) = .ok found ↔
      ¬ nameLimit < name.utf8ByteSize ∧
        ∃ below, getNamed? entries name = some below ∧ find rest below = .ok found := by
  simp only [find]
  split
  · rename_i tooLong
    constructor
    · intro there
      cases there
    · rintro ⟨fits, -⟩
      exact absurd tooLong fits
  · rename_i fits
    cases held : getNamed? entries name with
    | none =>
        constructor
        · intro there
          cases there
        · rintro ⟨-, _, same, -⟩
          cases same
    | some below =>
        constructor
        · intro onward
          exact ⟨fits, below, rfl, onward⟩
        · rintro ⟨-, _, same, onward⟩
          cases same
          exact onward

theorem find_cons_eq_ok_iff {name : String} {rest : List String}
    {tree found : FileTree} :
    find (name :: rest) tree = .ok found ↔
      ∃ mode entries below, tree = folder mode entries ∧
        ¬ nameLimit < name.utf8ByteSize ∧ getNamed? entries name = some below ∧
          find rest below = .ok found := by
  cases tree with
  | file bytes mode =>
      constructor
      · intro there
        simp [find] at there
      · rintro ⟨_, _, _, same, -⟩
        cases same
  | folder mode entries =>
      rw [find_cons_folder_eq_ok_iff]
      constructor
      · rintro ⟨fits, below, held, onward⟩
        exact ⟨mode, entries, below, rfl, fits, held, onward⟩
      · rintro ⟨_, _, below, same, fits, held, onward⟩
        obtain ⟨rfl, rfl⟩ := FileTree.folder.inj same
        exact ⟨fits, below, held, onward⟩

/-- Puts a tree at a place.  Missing folders on the way are made; a file on the way
is left alone. -/
def put : FileTree → List String → FileTree → FileTree
  | _, [], new => new
  | file bytes mode, _ :: _, _ => file bytes mode
  | folder mode entries, name :: rest, new =>
      let tree := (getNamed? entries name).getD emptyFolder
      folder mode (putNamed name (put tree rest new) entries)

def erase : List String → FileTree → FileTree
  | [], tree => tree
  | _ :: _, file bytes mode => file bytes mode
  | [name], folder mode entries => folder mode (eraseNamed name entries)
  | name :: next :: rest, folder mode entries =>
      match getNamed? entries name with
      | none => folder mode entries
      | some tree => folder mode (putNamed name (erase (next :: rest) tree) entries)

mutual

/-- The places in a tree and the trees there, without folders that are not to be
entered. -/
def places (enters : String → Bool) : FileTree → List (List String × FileTree)
  | file _ _ => []
  | folder _ entries => placesIn enters entries

/-- The places in the entries of a folder. -/
def placesIn (enters : String → Bool) :
    List (String × FileTree) → List (List String × FileTree)
  | [] => []
  | entry :: rest => placesAt enters entry ++ placesIn enters rest

def placesAt (enters : String → Bool) :
    String × FileTree → List (List String × FileTree)
  | (name, tree) =>
      if tree.isFolder && !enters name then []
      else
        ([name], tree) ::
          (tree.places enters).map fun (names, tree) => (name :: names, tree)

end

end FileTree

end ScriptLint
