import ScriptLint.Path.Basic

/-!
# Resolving paths

Resolving a path removes double dots together with the name before them; at the
top they mean nothing.  A relative path is resolved from the top.  Resolved paths
are compared name by name.
-/

namespace ScriptLint.Path

/-- Takes one more name onto the reversed names of a resolved path. -/
def pushName (above : List String) (name : String) : List String :=
  if name = ".." then above.tail else name :: above

/-- The names of a path without double dots. -/
def resolveNames (names : List String) : List String :=
  (names.foldl pushName []).reverse

/-- The absolute path without double dots that a path stands for. -/
def resolve (path : Path) : Path :=
  ⟨"/", resolveNames path.names⟩

/-- A path read from a folder; an absolute path is itself. -/
def join (folder path : Path) : Path :=
  if path.anchor = "" then ⟨folder.anchor, folder.names ++ path.names⟩ else path

def child (folder : Path) (name : String) : Path :=
  ⟨folder.anchor, folder.names ++ [name]⟩

def parent (path : Path) : Path :=
  ⟨path.anchor, path.names.dropLast⟩

/-- What follows one list of names in another. -/
def namesAfter? : List String → List String → Option (List String)
  | [], names => some names
  | _ :: _, [] => none
  | name :: rest, other :: names =>
      if name = other then namesAfter? rest names else none

/-- The names that lead from a folder to a path in it; none for the folder
itself. -/
def below? (path folder : Path) : Option (List String) :=
  if path.anchor = folder.anchor then namesAfter? folder.names path.names else none

/-- Whether names come no later than others: the first difference decides, and
names come before those that continue them. -/
def namesNotAfter : List String → List String → Bool
  | [], _ => true
  | _ :: _, [] => false
  | name :: rest, other :: names =>
      if name = other then namesNotAfter rest names else name < other

theorem namesAfter?_append (names rest : List String) :
    namesAfter? names (names ++ rest) = some rest := by
  induction names with
  | nil => rfl
  | cons name names induction => simp [namesAfter?, induction]

theorem eq_append_of_namesAfter? {names whole rest : List String}
    (follows : namesAfter? names whole = some rest) : whole = names ++ rest := by
  fun_induction namesAfter? names whole with
  | case1 names => simpa using follows
  | case2 name rest => simp at follows
  | case3 name rest names induction => simp [induction follows]
  | case4 name rest other names differs => simp at follows

end ScriptLint.Path
