import ScriptLint.Console.StyledText
import ScriptLint.Text.Blank

/-!
# Wrapping

Text for the console is broken into lines of a given width, measured in cells.  A
word owns the blanks after it, and the first one those before it.
A word that is wider than a line is folded into pieces, or left as it is where
lines are cut off instead.
-/

namespace ScriptLint.Console

/-- Characters that a console does not print. -/
def isControl (char : Char) : Bool :=
  char = '\x07' || char = '\x08' || char = '\x0b' || char = '\x0c' || char = '\r'

def printed (text : List Char) : List Char :=
  text.filter (!isControl ·)

/-- A word of a line with the blanks around it, and the offset at which it
starts. -/
structure Word where
  start : Nat
  chars : List Char
deriving DecidableEq, Repr

/-- The first word of a line with the blanks around it, and what follows; there
is none in a line of blanks. -/
def takeWord? (line : List Char) : Option (List Char × List Char) :=
  let before := line.takeWhile Text.isBlank
  let afterBlanks := line.dropWhile Text.isBlank
  let word := afterBlanks.takeWhile (!Text.isBlank ·)
  let afterWord := afterBlanks.dropWhile (!Text.isBlank ·)
  if word.isEmpty then none
  else
    some (before ++ word ++ afterWord.takeWhile Text.isBlank,
      afterWord.dropWhile Text.isBlank)

/-- The words of a line that starts at an offset, at most as many as the bound. -/
def wordsWithin (offset : Nat) : Nat → List Char → List Word
  | 0, _ => []
  | bound + 1, line =>
      match takeWord? line with
      | none => []
      | some (word, rest) =>
          ⟨offset, word⟩ :: wordsWithin (offset + word.length) bound rest

def words (line : List Char) : List Word :=
  wordsWithin 0 line.length line

/-- Where a line is broken: the offsets so far, the last one first, and the column
that was reached. -/
structure Breaks where
  offsets : List Nat
  column : Nat
deriving DecidableEq, Repr

namespace Breaks

/-- A break at an offset, unless that is the start of the line. -/
def before (offset : Nat) (offsets : List Nat) : List Nat :=
  if offset = 0 then offsets else offset :: offsets

/-- Places the pieces of a folded word, each after a break. -/
def placePieces (start : Nat) (breaks : Breaks) : List (List Char) → Breaks
  | [] => breaks
  | [piece] => ⟨before start breaks.offsets, cells piece⟩
  | piece :: rest =>
      placePieces (start + piece.length) ⟨before start breaks.offsets, breaks.column⟩
        rest

def place (width : Nat) (fold : Bool) (breaks : Breaks) (word : Word) : Breaks :=
  let needed := cells (Text.trimEnd word.chars)
  if breaks.column + needed ≤ width then
    ⟨breaks.offsets, breaks.column + cells word.chars⟩
  else if width < needed then
    if fold then placePieces word.start breaks (chop width word.chars)
    else ⟨before word.start breaks.offsets, cells word.chars⟩
  else if breaks.column = 0 || word.start = 0 then breaks
  else ⟨word.start :: breaks.offsets, cells word.chars⟩

end Breaks

def breakOffsets (width : Nat) (fold : Bool) (line : List Char) : List Nat :=
  ((words line).foldl (Breaks.place width fold) ⟨[], 0⟩).offsets.reverse

namespace StyledText

def wrapLine (width : Nat) (fold : Bool) (line : StyledText) : List StyledText :=
  let line := line.expandTabs
  (line.divide (breakOffsets width fold line.chars)).map (cropBlanks width)

/-- Wraps a text: each of its own lines is wrapped by itself, and the lines that come
of it are aligned and cut. -/
def linesWithin (width : Nat) (fold : Bool)
    (align : StyledText → Except CutError StyledText) (text : StyledText) :
    Except CutError (List StyledText) := do
  let groups ← text.lines.mapM fun line => do
    let aligned ← (wrapLine width fold line).mapM align
    aligned.mapM (truncated width fold)
  return groups.flatten

end StyledText

end ScriptLint.Console
