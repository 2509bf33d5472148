import ScriptLint.Text.CellWidth

/-!
# Texts in cells

The console measures texts in cells.  A joiner merges the character after it into
the one before, and a selector after a narrow character asks for the form of an
emoji, which takes one cell more.  A text is only cut between clusters, where a
cluster is a character with all that is merged into it.

A joiner at the very start of a text is a cluster of its own, yet hides the character
after it when the text is measured.  So the clusters may take fewer cells than the
text, and then a cut can fail.
-/

namespace ScriptLint.Console

/-- The character that joins its neighbours. -/
def joiner : Char := '\u200d'

/-- The character that asks for the form of an emoji. -/
def emojiSelector : Char := '\ufe0f'

/-- The cells that a selector adds after a character. -/
def selectorWidth (last : Option Char) : Nat :=
  if last.any Text.hasEmojiForm then 1 else 0

/-- The cells of a text after the last character that took a cell, unless a
selector was already applied to that one. -/
def cellsAfter (last : Option Char) : List Char → Nat
  | [] => 0
  | [char] =>
      if char = joiner then 0
      else if char = emojiSelector then selectorWidth last
      else Text.cellWidth char
  | char :: next :: rest =>
      if char = joiner then cellsAfter last rest
      else if char = emojiSelector then
        selectorWidth last + cellsAfter none (next :: rest)
      else if Text.cellWidth char = 0 then cellsAfter last (next :: rest)
      else Text.cellWidth char + cellsAfter (some char) (next :: rest)

def cells (text : List Char) : Nat :=
  cellsAfter none text

/-- Characters that stay together, and the cells they take. -/
structure Cluster where
  chars : List Char
  width : Nat
deriving DecidableEq, Repr

/-- The last cluster with more characters and cells; a cluster of its own without
cells if there is none. -/
def extendLast (chars : List Char) (width : Nat) : List Cluster → List Cluster
  | [] => [⟨chars, 0⟩]
  | cluster :: earlier => ⟨cluster.chars ++ chars, cluster.width + width⟩ :: earlier

/-- The clusters of a text, the last one first, after earlier ones and the last
character that took a cell. -/
def clustersAfter (earlier : List Cluster) (last : Option Char) :
    List Char → List Cluster
  | [] => earlier
  | char :: rest =>
      if char = joiner then
        match earlier, rest with
        | _ :: _, next :: rest =>
            clustersAfter (extendLast [char, next] 0 earlier) last rest
        | _, rest => clustersAfter (extendLast [char] 0 earlier) last rest
      else if char = emojiSelector then
        let width := selectorWidth last
        clustersAfter (extendLast [char] width earlier)
          (if width = 0 then last else none) rest
      else if Text.cellWidth char = 0 then
        clustersAfter (extendLast [char] 0 earlier) last rest
      else
        clustersAfter (⟨[char], Text.cellWidth char⟩ :: earlier) (some char) rest

def clusters (text : List Char) : List Cluster :=
  (clustersAfter [] none text).reverse

/-- The start of some clusters up to a number of cells, with a blank for half of a
cluster. -/
def takeCells (limit : Nat) : List Cluster → List Char
  | [] => []
  | cluster :: rest =>
      if limit = 0 then []
      else if cluster.width ≤ limit then
        cluster.chars ++ takeCells (limit - cluster.width) rest
      else [' ']

/-- Why a text cannot be cut to a number of cells. -/
inductive CutError where
  /-- Its clusters take no cells at all. -/
  | noCells
  /-- Its clusters take fewer cells than the cut asks for. -/
  | tooFewCells
deriving DecidableEq, Repr

def CutError.message : CutError → String
  | noCells => "division by zero"
  | tooFewCells => "list index out of range"

/-- The cells that clusters take together. -/
def clusterCells (clusters : List Cluster) : Nat :=
  clusters.foldr (fun cluster total => cluster.width + total) 0

/-- A text cut to fewer cells than it takes. -/
def cut (total : Nat) (text : List Char) : Except CutError (List Char) :=
  let parts := clusters text
  if total = 0 then .ok []
  else if clusterCells parts = 0 then .error .noCells
  else if clusterCells parts < total then .error .tooFewCells
  else .ok (takeCells total parts)

/-- A text cut or filled up with blanks to a number of cells. -/
def fitted (total : Nat) (text : List Char) : Except CutError (List Char) :=
  if total < cells text then cut total text
  else .ok (text ++ List.replicate (total - cells text) ' ')

/-- Cuts clusters into pieces of at most a number of cells, where `piece` and
`size` are what the current piece holds. -/
def chopFrom (width : Nat) (piece : List Char) (size : Nat) :
    List Cluster → List (List Char)
  | [] => if size = 0 then [] else [piece]
  | cluster :: rest =>
      if width < size + cluster.width then
        piece :: chopFrom width cluster.chars cluster.width rest
      else chopFrom width (piece ++ cluster.chars) (size + cluster.width) rest

/-- A text in pieces of at most a number of cells. -/
def chop (width : Nat) (text : List Char) : List (List Char) :=
  chopFrom width [] 0 (clusters text)

end ScriptLint.Console
