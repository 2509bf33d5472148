/-!
# File paths

A path is an anchor (empty for a relative path) and the names below it.  Empty
names and single dots mean nothing and are dropped on reading; double dots stay
until a path is resolved.
-/

namespace ScriptLint

/-- A file path. -/
structure Path where
  anchor : String
  names : List String
deriving DecidableEq, Repr

namespace Path

/-- The names of a path text between its slashes. -/
def splitSlashes : List Char → List (List Char)
  | [] => [[]]
  | char :: rest =>
      if char = '/' then [] :: splitSlashes rest
      else
        match splitSlashes rest with
        | [] => [[char]]
        | name :: names => (char :: name) :: names

/-- The anchor of a path text: two leading slashes stay two, any other number
of them is one. -/
def anchorOf : List Char → String
  | '/' :: '/' :: '/' :: _ => "/"
  | '/' :: '/' :: _ => "//"
  | '/' :: _ => "/"
  | _ => ""

def ofString (text : String) : Path :=
  let names := (splitSlashes text.toList).map String.ofList
  ⟨anchorOf text.toList, names.filter fun name => name ≠ "" && name ≠ "."⟩

/-- Writes a path; the path without anchor and names is a single dot. -/
protected def toString (path : Path) : String :=
  if path.anchor = "" && path.names.isEmpty then "."
  else path.anchor ++ "/".intercalate path.names

/-- Whether a path holds a null character, which no file system takes. -/
def holdsNull (path : Path) : Bool :=
  path.names.any (·.toList.contains '\x00')

def name (path : Path) : String :=
  path.names.getLast?.getD ""

/-- The part of a name from its last dot on.  A dot at either end of the name
starts no suffix. -/
def suffixOfName (name : List Char) : List Char :=
  let tail := (name.reverse.takeWhile (· ≠ '.')).reverse
  if tail.length = name.length || tail.isEmpty then []
  else if tail.length + 1 = name.length then []
  else '.' :: tail

def suffix (path : Path) : String :=
  String.ofList ((suffixOfName path.name.toList).map Char.toLower)

end Path

end ScriptLint
