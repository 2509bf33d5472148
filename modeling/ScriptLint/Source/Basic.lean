import ScriptLint.Language
import ScriptLint.Text.Lines
import ScriptLint.Text.Slice
import ScriptLint.Text.Utf16
import ScriptLint.Text.Utf8
import ScriptLint.Tree.Walk

/-!
# Parsed sources

A source is the text of a file, the text that was parsed (which may be blanked
in part but has the same lines) and its tree.  Byte offsets of the tree become
rows and byte columns of the parsed text, then character columns, then either
character offsets of the file's text or UTF-16 columns of messages.
-/

namespace ScriptLint

/-- A line and a column, both counted from one. -/
structure Position where
  line : Int
  column : Int
deriving DecidableEq, Repr

/-- A text with the tree of its parsed form. -/
structure Source where
  text : List Char
  parsed : List Char
  grammar : Grammar
  root : Node
  /-- The rows that are checked; all of them if there is no list. -/
  linted : Option (List Int)

/-- The row and byte column at which some bytes after a given row and column
end. -/
def pointFrom (row column : Nat) : Nat → List Char → Nat × Nat
  | remaining, [] => (row, column + remaining)
  | remaining, char :: rest =>
      if char.utf8Size ≤ remaining then
        if char = '\n' then
          pointFrom (row + 1) 0 (remaining - char.utf8Size) rest
        else
          pointFrom row (column + char.utf8Size) (remaining - char.utf8Size) rest
      else (row, column + remaining)

/-- The row and byte column of a byte offset. -/
def pointAt (text : List Char) (offset : Nat) : Nat × Nat :=
  pointFrom 0 0 offset text

/-- The number of leading characters whose bytes all lie within a limit. -/
def charsWithin : Nat → List Char → Nat
  | _, [] => 0
  | limit, char :: rest =>
      if char.utf8Size ≤ limit then
        1 + charsWithin (limit - char.utf8Size) rest
      else 0

/-- What is left of a text after as many whole characters as a number of bytes holds,
and how many of these bytes belong to its next character. -/
def dropWithin : Nat → List Char → Nat × List Char
  | limit, [] => (limit, [])
  | limit, char :: rest =>
      if char.utf8Size ≤ limit then dropWithin (limit - char.utf8Size) rest
      else (limit, char :: rest)

/-- The bytes of a text between two byte offsets. -/
def bytesBetween (text : List Char) (start stop : Nat) : List UInt8 :=
  let (skipped, rest) := dropWithin start text
  let count := skipped + (stop - start)
  ((Utf8.encode (rest.take count)).take count).drop skipped

namespace Source

def lines (source : Source) : List (List Char) :=
  Text.lines source.text

def isLinted (source : Source) (row : Int) : Bool :=
  match source.linted with
  | none => true
  | some rows => rows.contains row

/-- The character column of a byte column.  A row past the end keeps its byte
column. -/
def charColumn (source : Source) (row byteColumn : Nat) : Nat :=
  match (Text.rawLines source.parsed)[row]? with
  | some line => charsWithin byteColumn line
  | none => byteColumn

/-- The character column of a signed row and byte column, which count from the
end if they are negative; there is none before the first row. -/
def signedColumn (source : Source) (row byteColumn : Int) :
    Except Text.IndexError Int :=
  let rows := Text.rawLines source.parsed
  if (rows.length : Int) ≤ row then .ok byteColumn
  else
    (Text.get rows row).map fun line =>
      charsWithin (Text.clamp (Utf8.encode line).length byteColumn) line

def positionAt (source : Source) (offset : Nat) : Position :=
  let (row, column) := pointAt source.parsed offset
  ⟨row + 1, source.charColumn row column + 1⟩

def start (source : Source) (node : Node) : Position :=
  source.positionAt node.startByte

/-- Where a node ends; the end does not belong to it. -/
def stop (source : Source) (node : Node) : Position :=
  source.positionAt node.endByte

/-- The UTF-16 column of a character column.  Columns past the end of a line go
on counting by one, and columns on lines that do not exist stay. -/
def utf16Column (source : Source) (position : Position) : Int :=
  if position.line ≤ 0 then position.column
  else
    match source.lines[(position.line - 1).toNat]? with
    | none => position.column
    | some line =>
        let before := Text.sliceTo line (position.column - 1)
        Text.units before + (position.column - 1 - before.length) + 1

/-- The character offset of a position; lines may be counted from the end. -/
def offset (source : Source) (position : Position) : Except Text.IndexError Int :=
  (Text.get (Text.lineStarts source.text) (position.line - 1)).map
    fun start => start + position.column - 1

/-- The character offsets between which a node lies. -/
def span? (source : Source) (node : Node) : Option (Int × Int) :=
  match source.offset (source.start node), source.offset (source.stop node) with
  | .ok start, .ok stop => some (start, stop)
  | _, _ => none

/-- The part of the file's text that a node covers. -/
def fileText? (source : Source) (node : Node) : Option (List Char) :=
  (source.span? node).map fun (start, stop) => Text.slice source.text start stop

/-- The part of the parsed text that a node covers, read leniently. -/
def nodeText (source : Source) (node : Node) : String :=
  String.ofList
    (Utf8.decodeLossy (bytesBetween source.parsed node.startByte node.endByte))

/-- The parsed text of a node that may be absent. -/
def textOf (source : Source) : Option Node → String
  | some node => source.nodeText node
  | none => ""

def rootPlace (source : Source) : Place :=
  Place.ofRoot source.root

/-- All places of the tree in document order. -/
def walk (source : Source) : List Place :=
  source.rootPlace.walk

/-- The comments of the tree in document order. -/
def comments (source : Source) : List Place :=
  source.walk.filter (·.kind = "comment")

end Source

end ScriptLint
