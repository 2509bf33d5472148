import ScriptLint.Console.Handler
import ScriptLint.Console.Wrap

/-!
# Markup on the console

The console reads a text in brackets as a tag if its first character may start one.
A tag opens or closes a style and is not shown, unless a backslash before it
protects it.  Most texts are protected before they are printed and appear as they
are.  What protection leaves behind is a backslash that goes missing before any
other opening bracket, and a lone backslash at the end of a text that appears
twice.
-/

namespace ScriptLint.Console

/-- Whether a character may start a tag. -/
def startsTag (char : Char) : Bool :=
  char.isLower || char = '#' || char = '/' || char = '@'

/-- The body of the tag that an opening bracket before a text opens: it starts as
one and closes before the next opening bracket. -/
def tagBody? : List Char → Option (List Char)
  | [] => none
  | char :: rest =>
      if startsTag char && (rest.takeWhile (· ≠ '[')).contains ']' then
        some (char :: rest.takeWhile (· ≠ ']'))
      else none

/-- A text without the backslashes that stand right before a bracket that opens no
tag. -/
def dropEscapes : List Char → List Char
  | '\\' :: '[' :: rest =>
      if (tagBody? rest).isSome then '\\' :: '[' :: dropEscapes rest
      else '[' :: dropEscapes rest
  | char :: rest => char :: dropEscapes rest
  | [] => []

/-- A protected text as the console shows it, before it is wrapped. -/
def shown (text : List Char) : List Char :=
  let ending :=
    match text.reverse with
    | '\\' :: '\\' :: _ => []
    | '\\' :: _ => ['\\']
    | _ => []
  dropEscapes text ++ ending

/-- A tag: its name, and its parameters after an equals sign. -/
structure Tag where
  name : List Char
  parameters : Option (List Char)
deriving DecidableEq, Repr

namespace Tag

def ofBody (body : List Char) : Tag :=
  let name := body.takeWhile (· ≠ '=')
  ⟨name, if name.length < body.length then some (body.drop (name.length + 1)) else none⟩

def written (tag : Tag) : String :=
  let parameters :=
    match tag.parameters with
    | some parameters => "=" ++ String.ofList parameters
    | none => ""
  "[" ++ String.ofList tag.name ++ parameters ++ "]"

end Tag

/-- A piece of a text that is not protected. -/
inductive MarkupPiece where
  | text (chars : List Char)
  /-- A tag and the position of its opening bracket. -/
  | tag (position : Nat) (tag : Tag)
deriving DecidableEq, Repr

namespace MarkupPiece

def backslashes (count : Nat) : List Char :=
  List.replicate count '\\'

/-- Cuts a text into pieces, where `position` is where it starts and `slashes` the
number of backslashes right before it.  Of the backslashes before a tag every two
stand for one, and one that is left over protects the tag. -/
def readFrom (position slashes : Nat) : List Char → List MarkupPiece
  | [] => [.text (backslashes slashes)]
  | char :: rest =>
      if char = '\\' then readFrom (position + 1) (slashes + 1) rest
      else if char = '[' then
        match tagBody? rest with
        | some body =>
            let after := readFrom (position + body.length + 2) 0
              (rest.drop (body.length + 1))
            if slashes % 2 = 1 then
              .text (backslashes (slashes / 2) ++ '[' :: body ++ [']']) :: after
            else
              .text (backslashes (slashes / 2)) :: .tag position (.ofBody body) :: after
        | none =>
            .text (backslashes (slashes - 1) ++ ['[']) :: readFrom (position + 1) 0 rest
      else .text (backslashes slashes ++ [char]) :: readFrom (position + 1) 0 rest
termination_by text => text.length
decreasing_by
  all_goals simp only [List.length_drop, List.length_cons]
  all_goals omega

end MarkupPiece

/-- Why the tags of a text do not fit together. -/
inductive MarkupError where
  /-- A tag closes a style that is not open. -/
  | notOpen (tag : Tag) (position : Nat)
  /-- A tag closes the latest style, but none is open. -/
  | nothingOpen (position : Nat)
  /-- A tag closes a handler whose parameters are no value. -/
  | handler (error : HandlerError)
deriving DecidableEq, Repr

def MarkupError.message : MarkupError → String
  | notOpen tag position =>
      "closing tag '" ++ tag.written ++ "' at position " ++
        toString position ++ " doesn't match any open tag"
  | nothingOpen position =>
      "closing tag '[/]' at position " ++ toString position ++ " has nothing to close"
  | handler error => error.message

/-- Why a text cannot be printed. -/
inductive PrintError where
  | markup (error : MarkupError)
  | style (error : StyleError)
  | cut (error : CutError)
deriving DecidableEq, Repr

def PrintError.message : PrintError → String
  | markup error => error.message
  | style error => error.message
  | cut error => error.message

/-- A style that was opened: the offset of its tag, its normal name, and the
parameters of the tag. -/
structure OpenStyle where
  start : Nat
  name : String
  parameters : Option (List Char)
deriving DecidableEq, Repr

namespace OpenStyle

def words (style : OpenStyle) : List Char :=
  match style.parameters with
  | some parameters => style.name.toList ++ ' ' :: parameters
  | none => style.name.toList

/-- The part of a text that a style covers if it ends at an offset. -/
def span (style : OpenStyle) (stop : Nat) : Span :=
  ⟨style.start, stop, styleFault? style.words⟩

/-- The part of a text that a style covers if it is closed at an offset.  The
parameters of a handler are read when it is closed. -/
def closed (style : OpenStyle) (stop : Nat) : Except PrintError Span :=
  if style.name.startsWith "@" then
    match checkHandler (style.parameters.getD []) with
    | some error => .error (.markup (.handler error))
    | none => .ok (.between style.start stop)
  else .ok (style.span stop)

end OpenStyle

/-- The style that a closing tag closes, and those that stay open.  The latest style
with its name is closed, or just the latest one if the tag has no name. -/
def closedBy (tag : Tag) (position : Nat) (styles : List OpenStyle) :
    Except PrintError (OpenStyle × List OpenStyle) :=
  let name := Text.trim (tag.name.drop 1)
  if name.isEmpty then
    match styles with
    | [] => .error (.markup (.nothingOpen position))
    | style :: earlier => .ok (style, earlier)
  else
    match styleName name with
    | .error error => .error (.style error)
    | .ok name =>
        match styles.find? (·.name = name) with
        | none => .error (.markup (.notOpen tag position))
        | some style => .ok (style, styles.erase style)

/-- The text that pieces make from an offset on, and its styled parts, given the
styles that are open, the latest first. -/
def showPieces (offset : Nat) (styles : List OpenStyle) :
    List MarkupPiece → Except PrintError StyledText
  | [] => .ok ⟨[], styles.map (·.span offset)⟩
  | .text chars :: rest => do
      let shown := printed chars
      let after ← showPieces (offset + shown.length) styles rest
      return ⟨shown ++ after.chars, after.spans⟩
  | .tag position tag :: rest =>
      if tag.name.head? = some '/' then do
        let (style, styles) ← closedBy tag position styles
        let span ← style.closed offset
        let after ← showPieces offset styles rest
        return ⟨after.chars, span :: after.spans⟩
      else
        match styleName tag.name with
        | .error error => .error (.style error)
        | .ok name => showPieces offset (⟨offset, name, tag.parameters⟩ :: styles) rest

/-- What the console shows of a text that is not protected. -/
def showMarkup (text : List Char) : Except PrintError StyledText :=
  showPieces 0 [] (MarkupPiece.readFrom 0 0 text)

/-- What the console shows of a protected text. -/
def showText (text : List Char) : StyledText :=
  ⟨printed (shown text), []⟩

end ScriptLint.Console
