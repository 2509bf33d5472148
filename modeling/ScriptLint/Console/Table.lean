import ScriptLint.Console.Notice
import ScriptLint.Report

/-!
# Tables of diagnostics

One table for each file, under a rule line with its path.  The table fills the
console; narrow columns cut their contents off, wide ones wrap them.
-/

namespace ScriptLint.Console

/-- A text that is cut, as a text that is printed. -/
def ofCut {α : Type} : Except CutError α → Except PrintError α
  | .ok value => .ok value
  | .error error => .error (.cut error)

/-- The title of a rule line: a path on one line, with highlights. -/
def ruleTitle (path : List Char) : Except CutError StyledText :=
  let text := (showText path).highlighted
  let line := text.withChars (text.chars.map fun char => if char = '\n' then ' ' else char)
  line.expandTabs.truncated (width - 4) false

/-- A title between dashes, at least one cell too wide, cut to the width of the
console. -/
def ruleText (title : StyledText) : Except CutError StyledText :=
  let side := (width - cells title.chars) / 2
  let text := StyledText.join
    [.whole (List.replicate (side - 1) '-' ++ [' ']), title,
      .whole (' ' :: List.replicate (side + 1) '-')]
  (fitted width text.chars).map text.withChars

def ruleLines (path : List Char) : Except CutError (List (List Char)) :=
  if path.isEmpty then .ok [List.replicate width '-']
  else do
    let title ← ruleTitle path
    let text ← ruleText title
    let lines ← text.linesWithin width true .ok
    lines.mapM fun line => (cropLine width line.pieces).map List.flatten

/-- How a column is filled. -/
structure Column where
  title : String
  width : Nat
  alignRight : Bool
  fold : Bool
deriving DecidableEq, Repr

def columns : List Column :=
  [⟨"line", 4, true, false⟩, ⟨"column", 4, true, false⟩,
    ⟨"severity", 4, false, false⟩, ⟨"rule_id", 14, false, true⟩,
    ⟨"message", 38, false, true⟩]

namespace Column

/-- The width of a column with a blank on either side. -/
def outerWidth (column : Column) : Nat :=
  column.width + 2

def aligned (column : Column) (line : StyledText) : Except CutError StyledText :=
  if column.alignRight then do
    let line ← (line.withChars (Text.trimEnd line.chars)).truncated column.width column.fold
    let margin := List.replicate (column.width - cells line.chars) ' '
    return StyledText.append ⟨margin, []⟩ line
  else if cells line.chars < column.width then .ok (line.filled column.width)
  else line.truncated column.width column.fold

/-- The pieces of a line of a cell, with a blank on either side.  The line is fitted
by itself and once more, twice, together with the blanks. -/
def linePieces (column : Column) (line : StyledText) :
    Except CutError (List (List Char)) := do
  let inner ← fitLine column.width line.pieces
  let outer ← fitLine column.outerWidth ([' '] :: inner ++ [[' ']])
  fitLine column.outerWidth outer

def cell (column : Column) (text : StyledText) :
    Except PrintError (List (List (List Char))) := do
  let lines ← ofCut (text.linesWithin column.width column.fold column.aligned)
  match lines.findSome? StyledText.fault? with
  | some error => .error (.style error)
  | none => ofCut (lines.mapM column.linePieces)

def blank (column : Column) : List (List Char) :=
  [List.replicate column.outerWidth ' ']

end Column

/-- Joins pieces with a text between them. -/
def joined {α : Type} (between : List α) : List (List α) → List α
  | [] => []
  | [piece] => piece
  | piece :: rest => piece ++ between ++ joined between rest

/-- A line of a row between bars. -/
def barred (bar : Char) (cells : List (List (List Char))) : List (List Char) :=
  [bar] :: joined [[bar]] cells ++ [[bar]]

/-- A border made of a line between corners and crossings. -/
def border (left line crossing right : Char) : List Char :=
  left ::
    (joined [crossing]
        (columns.map fun column => List.replicate column.outerWidth line) ++
      [right])

/-- The lines of a row, which is as high as its highest cell, written in pieces. -/
def rowLines (bar : Char) (texts : List StyledText) :
    Except PrintError (List (List (List Char))) := do
  let cells ← (columns.zip texts).mapM fun (column, text) => do
    return (column, ← column.cell text)
  let height := (cells.map fun (_, lines) => lines.length).foldl max 0
  return (List.range height).map fun index =>
    barred bar (cells.map fun (column, lines) => lines.getD index column.blank)

def plainText (text : String) : StyledText :=
  ⟨text.toList, []⟩

/-- The texts of a diagnostic.  The name of a rule is not protected. -/
def cellTexts (diagnostic : Diagnostic) : Except PrintError (List StyledText) := do
  let rule ← showMarkup (diagnostic.rule.getD "None").toList
  return [plainText (toString diagnostic.startLine),
    plainText (toString diagnostic.startColumn), plainText diagnostic.severity.word, rule,
    showText diagnostic.message.toList]

/-- The lines of a table in pieces, each cut to the width of the console. -/
def cropRows (rows : List (List (List (List Char)))) :
    Except CutError (List (List Char)) :=
  rows.flatten.mapM fun line => (cropLine width line).map (withoutColors ·.flatten)

/-- The table of a file.  All texts are read before any of them is cut. -/
def fileTable (path : String) (diagnostics : List Diagnostic) :
    Except PrintError (List (List Char)) := do
  let rule ← ofCut (ruleLines path.toList)
  let texts ← diagnostics.mapM cellTexts
  let heading ← rowLines '┃' (columns.map fun column => plainText column.title)
  let rows ← texts.mapM (rowLines '│')
  let heading ← ofCut (cropRows [heading])
  let body ← ofCut (cropRows rows)
  return rule ++ [border '┏' '━' '┳' '┓'] ++ heading ++ [border '┡' '━' '╇' '┩'] ++
    body ++ [border '└' '─' '┴' '┘']

def tables (diagnostics : List Diagnostic) : Except PrintError String := do
  if diagnostics.isEmpty then return "No problems found.\n"
  else
    let lines ← (Report.group diagnostics).mapM fun (path, held) => fileTable path held
    return unlines lines.flatten

end ScriptLint.Console
