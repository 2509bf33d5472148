import ScriptLint.Ignore.Match
import ScriptLint.Path.Resolve
import ScriptLint.Text.Lines

/-!
# Ignored paths

A path is ignored if its own verdict or that of one of the folders it lies in says
so, where folders are below the root the patterns belong to.  How the patterns
reach a verdict does not matter for that, so the two questions are first asked of
an arbitrary verdict.
-/

namespace ScriptLint

/-- The patterns of an ignore file and the folder they belong to. -/
structure IgnoreRules where
  root : Path
  patterns : List IgnorePattern
deriving DecidableEq, Repr

namespace IgnoreRules

/-- A text without the slashes at both of its ends. -/
def trimSlashes (text : List Char) : List Char :=
  ((text.dropWhile (· = '/')).reverse.dropWhile (· = '/')).reverse

/-- Whether a verdict holds for a path below the root, for a folder also when it is
written with a slash at its end. -/
def holdsFor (verdict : List Char → Bool) (path : List Char) (folder : Bool) : Bool :=
  let path := trimSlashes path
  if path.isEmpty then false
  else verdict path || (folder && verdict (path ++ ['/']))

/-- Names with slashes between them; a dot for none. -/
def namesText (names : List String) : List Char :=
  if names.isEmpty then ['.'] else ("/".intercalate names).toList

/-- The beginnings of a list that are neither empty nor the whole list, the
shortest first. -/
def properInits (names : List String) : List (List String) :=
  (List.range' 1 (names.length - 1)).map names.take

/-- Whether a verdict has names below the root ignored: it holds for one of the
folders on the way or for the path itself. -/
def covers (verdict : List Char → Bool) (names : List String) : Bool :=
  (properInits names).any (fun folder => holdsFor verdict (namesText folder) true) ||
    holdsFor verdict (namesText names) false

/-- The verdict of the patterns. -/
def verdict (rules : IgnoreRules) (path : List Char) : Bool :=
  IgnorePattern.verdict rules.patterns path

/-- Whether a path below the root matches the patterns. -/
def accepts (rules : IgnoreRules) (path : List Char) (folder : Bool) : Bool :=
  holdsFor rules.verdict path folder

/-- Whether a path is ignored; paths outside the root and paths with a null character
never are. -/
def ignores (rules : IgnoreRules) (path : Path) : Bool :=
  match path.resolve.below? rules.root.resolve with
  | none => false
  | some names => !path.holdsNull && covers rules.verdict names

/-- The patterns that every ignore file starts with. -/
def defaultLines : List (List Char) :=
  ["node_modules/".toList]

/-- The rules of an ignore file with this text; none if there is no file. -/
def ofText (root : Path) (text : Option (List Char)) :
    Except PatternError IgnoreRules :=
  let lines := defaultLines ++ (text.map Text.boundaryLines).getD []
  (IgnorePattern.ofLines lines).map (⟨root, ·⟩)

end IgnoreRules

end ScriptLint
