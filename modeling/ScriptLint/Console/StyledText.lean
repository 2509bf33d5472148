import ScriptLint.Console.Cells
import ScriptLint.Console.Style

/-!
# Styled texts

Parts of a text may have a style of their own.  How a style looks does not matter
here, but a text is written in pieces that end where a styled part starts or ends,
and the console measures each piece by itself.  A joiner at the end of a piece has
nothing to join.  The words of a style are only read when a text is written.
-/

namespace ScriptLint.Console

/-- The offsets between which a text has a style of its own, and why its words
cannot be read. -/
structure Span where
  start : Nat
  stop : Nat
  fault : Option StyleError
deriving DecidableEq, Repr

namespace Span

def between (start stop : Nat) : Span :=
  ⟨start, stop, none⟩

def shifted (count : Nat) (span : Span) : Span :=
  { span with start := span.start + count, stop := span.stop + count }

/-- What a span has of the text between two offsets, counted from the first of
them. -/
def within? (start stop : Nat) (span : Span) : Option Span :=
  let first := span.start - start
  let last := min span.stop stop - start
  if first < last then some ⟨first, last, span.fault⟩ else none

/-- What a span has of the text before an offset; nothing if it starts there. -/
def before? (limit : Nat) (span : Span) : Option Span :=
  if span.start < limit then some { span with stop := min span.stop limit } else none

end Span

/-- A text and its styled parts. -/
structure StyledText where
  chars : List Char
  spans : List Span
deriving DecidableEq, Repr

namespace StyledText

def whole (chars : List Char) : StyledText :=
  ⟨chars, [.between 0 chars.length]⟩

def append (first second : StyledText) : StyledText :=
  ⟨first.chars ++ second.chars,
    first.spans ++ second.spans.map (·.shifted first.chars.length)⟩

def join (texts : List StyledText) : StyledText :=
  texts.foldl append ⟨[], []⟩

/-- The spans of a text over other characters.  If there are fewer of them, spans
end with the text. -/
def withChars (text : StyledText) (chars : List Char) : StyledText :=
  if chars.length < text.chars.length then
    ⟨chars, text.spans.filterMap (·.before? chars.length)⟩
  else ⟨chars, text.spans⟩

/-- The part of a text between two offsets. -/
def slice (text : StyledText) (start stop : Nat) : StyledText :=
  ⟨(text.chars.take stop).drop start, text.spans.filterMap (·.within? start stop)⟩

/-- The parts of a text from an offset on, divided at offsets. -/
def divideFrom (text : StyledText) (start : Nat) : List Nat → List StyledText
  | [] => [text.slice start text.chars.length]
  | offset :: rest => text.slice start offset :: divideFrom text offset rest

/-- A text divided at offsets.  A text that is not divided keeps spans that are
empty. -/
def divide (text : StyledText) (offsets : List Nat) : List StyledText :=
  if offsets.isEmpty then [text] else text.divideFrom 0 offsets

/-- The offsets after each occurrence of a character. -/
def offsetsAfter (char : Char) (offset : Nat) : List Char → List Nat
  | [] => []
  | head :: rest =>
      if head = char then (offset + 1) :: offsetsAfter char (offset + 1) rest
      else offsetsAfter char (offset + 1) rest

/-- A part that ends in a line feed without it. -/
def dropFeed (text : StyledText) : StyledText :=
  text.slice 0 (text.chars.length - 1)

def lines (text : StyledText) : List StyledText :=
  match text.divide (offsetsAfter '\n' 0 text.chars) with
  | [] => []
  | [line] => [line]
  | parts => parts.dropLast.map dropFeed ++ parts.getLast?.toList

/-- A text with blanks at its end, which belong to the styled parts that end there. -/
def extended (text : StyledText) (count : Nat) : StyledText :=
  let size := text.chars.length
  ⟨text.chars ++ List.replicate count ' ',
    text.spans.map fun span =>
      if size ≤ span.stop then { span with stop := span.stop + count } else span⟩

/-- Expands the tabs that end parts of a line to multiples of eight cells, where
`column` is the cell at which the first part starts. -/
def expandParts (column : Nat) : List StyledText → List StyledText
  | [] => []
  | part :: rest =>
      if part.chars.getLast? = some '\t' then
        let blank : StyledText := ⟨part.chars.dropLast ++ [' '], part.spans⟩
        let reached := column + cells blank.chars
        let fill := (8 - reached % 8) % 8
        blank.extended fill :: expandParts (reached + fill) rest
      else part :: expandParts (column + cells part.chars) rest

def expandTabs (line : StyledText) : StyledText :=
  if line.chars.contains '\t' then
    join (expandParts 0 (line.divide (offsetsAfter '\t' 0 line.chars)))
  else line

/-- A text without the blanks at its end that come after this many characters. -/
def cropBlanks (size : Nat) (text : StyledText) : StyledText :=
  let kept := (Text.trimEnd text.chars).length
  let count := max kept (min size text.chars.length)
  if count < text.chars.length then text.withChars (text.chars.take count) else text

/-- A text cut to a number of cells, with an ellipsis in place of what is missing
unless texts are folded. -/
def truncated (width : Nat) (fold : Bool) (text : StyledText) :
    Except CutError StyledText :=
  if cells text.chars ≤ width then .ok text
  else if fold then (fitted width text.chars).map text.withChars
  else (fitted (width - 1) text.chars).map fun chars => text.withChars (chars ++ ['…'])

/-- A text filled up with blanks to a number of cells. -/
def filled (width : Nat) (text : StyledText) : StyledText :=
  ⟨text.chars ++ List.replicate (width - cells text.chars) ' ', text.spans⟩

/-- Cuts a text at ascending offsets, where `position` is the offset at which it
starts. -/
def cutAt (position : Nat) : List Nat → List Char → List (List Char)
  | [], chars => [chars]
  | offset :: rest, chars =>
      if offset ≤ position then cutAt position rest chars
      else
        chars.take (offset - position) ::
          cutAt offset rest (chars.drop (offset - position))

def pieces (text : StyledText) : List (List Char) :=
  let offsets := text.spans.flatMap fun span => [span.start, span.stop]
  (cutAt 0 (offsets.mergeSort (· ≤ ·)) text.chars).filter (!·.isEmpty)

/-- Why the styles of a text cannot be read. -/
def fault? (text : StyledText) : Option StyleError :=
  text.spans.findSome? (·.fault)

end StyledText

def lineCells (pieces : List (List Char)) : Nat :=
  pieces.foldr (fun piece total => cells piece + total) 0

/-- The pieces of a line that is too long, cut to a number of cells. -/
def cropPieces (width : Nat) : List (List Char) → Except CutError (List (List Char))
  | [] => .ok []
  | piece :: rest =>
      if cells piece < width then
        (cropPieces (width - cells piece) rest).map (piece :: ·)
      else (fitted width piece).map ([·])

/-- The pieces of a line, cut to a number of cells. -/
def cropLine (width : Nat) (pieces : List (List Char)) :
    Except CutError (List (List Char)) :=
  if width < lineCells pieces then cropPieces width pieces else .ok pieces

/-- The pieces of a line, cut or filled up with blanks to a number of cells. -/
def fitLine (width : Nat) (pieces : List (List Char)) :
    Except CutError (List (List Char)) :=
  if lineCells pieces < width then
    .ok (pieces ++ [List.replicate (width - lineCells pieces) ' '])
  else cropLine width pieces

end ScriptLint.Console
