/-!
# Lines of a text

A text is cut into lines at line feeds, so it always has one line more than it
has line feeds.  Columns are counted on lines without their trailing carriage
returns, offsets on the raw lines.
-/

namespace ScriptLint.Text

/-- The raw lines of a text: the pieces between its line feeds. -/
def rawLines : List Char → List (List Char)
  | [] => [[]]
  | char :: rest =>
      if char = '\n' then [] :: rawLines rest
      else
        match rawLines rest with
        | [] => [[char]]
        | line :: lines => (char :: line) :: lines

/-- A line without the carriage returns at its end. -/
def dropReturns (line : List Char) : List Char :=
  (line.reverse.dropWhile (· = '\r')).reverse

/-- The lines of a text without the carriage returns before their breaks. -/
def lines (text : List Char) : List (List Char) :=
  (rawLines text).map dropReturns

/-- Offsets at which consecutive raw lines start, the first one at `offset`. -/
def lineStartsFrom (offset : Nat) : List (List Char) → List Nat
  | [] => []
  | line :: rest => offset :: lineStartsFrom (offset + line.length + 1) rest

/-- The character offset at which each line of a text starts. -/
def lineStarts (text : List Char) : List Nat :=
  lineStartsFrom 0 (rawLines text)

/-- Reads every kind of line end as one line feed. -/
def unifyBreaks : List Char → List Char
  | [] => []
  | '\r' :: '\n' :: rest => '\n' :: unifyBreaks rest
  | char :: rest => (if char = '\r' then '\n' else char) :: unifyBreaks rest

/-- Characters that end a line of a list of patterns. -/
def isLineBoundary (char : Char) : Bool :=
  char = '\n' || char = '\r' || char = '\x0b' || char = '\x0c' ||
    char = '\x1c' || char = '\x1d' || char = '\x1e' || char = '\u0085' ||
    char = '\u2028' || char = '\u2029'

/-- Pieces of a text between line boundaries, with what follows the last one. -/
def boundaryPieces : List Char → List (List Char) × List Char
  | [] => ([], [])
  | '\r' :: '\n' :: rest =>
      let (pieces, last) := boundaryPieces rest
      ([] :: pieces, last)
  | char :: rest =>
      let (pieces, last) := boundaryPieces rest
      if isLineBoundary char then ([] :: pieces, last)
      else
        match pieces with
        | [] => ([], char :: last)
        | piece :: pieces => ((char :: piece) :: pieces, last)

/-- The lines of a text at every line boundary.  What follows the last
boundary is a line only if it is not empty. -/
def boundaryLines (text : List Char) : List (List Char) :=
  let (pieces, last) := boundaryPieces text
  if last.isEmpty then pieces else pieces ++ [last]

theorem rawLines_ne_nil (text : List Char) : rawLines text ≠ [] := by
  cases text with
  | nil => simp [rawLines]
  | cons char rest =>
      unfold rawLines
      split
      · simp
      · split <;> simp

theorem length_lineStartsFrom (offset : Nat) (raw : List (List Char)) :
    (lineStartsFrom offset raw).length = raw.length := by
  induction raw generalizing offset with
  | nil => rfl
  | cons line rest induction => simp [lineStartsFrom, induction]

theorem length_lines (text : List Char) :
    (lines text).length = (rawLines text).length := by
  simp [lines]

end ScriptLint.Text
