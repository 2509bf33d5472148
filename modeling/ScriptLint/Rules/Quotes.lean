import ScriptLint.Rule.Basic

/-!
# Quotes

String literals use one kind of quote.  The fix writes a literal with the other
quote: it takes the escape from the old quote, escapes the new one, and writes
line breaks of templates as escapes.  Templates that need to be templates stay.
-/

namespace ScriptLint.Quotes

/-- The mark around templates. -/
def backtick : Char := '\x60'

/-- The start of a substitution in a template. -/
def substitution : List Char := ['$', '\x7b']

/-- A piece of the body of a literal. -/
inductive Piece where
  /-- A backslash with the characters that it escapes. -/
  | escape (chars : List Char)
  /-- A line break. -/
  | lineBreak (chars : List Char)
  /-- A quote or the start of a substitution. -/
  | mark (chars : List Char)
  | plain (char : Char)
deriving DecidableEq, Repr

namespace Piece

def chars : Piece → List Char
  | escape chars => '\\' :: chars
  | lineBreak chars => chars
  | mark chars => chars
  | plain char => [char]

end Piece

/-- The characters that a backslash escapes: the start of a substitution, a
whole line break or a single character. -/
def escaped : List Char → List Char
  | '$' :: '\x7b' :: _ => ['$', '\x7b']
  | '\r' :: '\n' :: _ => ['\r', '\n']
  | char :: _ => [char]
  | [] => []

def firstPiece (char : Char) (rest : List Char) : Piece :=
  if char = '\\' then
    match escaped rest with
    | [] => .plain char
    | chars => .escape chars
  else if char = Text.doubleQuote || char = Text.singleQuote ||
      char = backtick then
    .mark [char]
  else if char = '\r' then
    match rest with
    | '\n' :: _ => .lineBreak ['\r', '\n']
    | _ => .lineBreak ['\r']
  else if char = '\n' then .lineBreak ['\n']
  else if (char :: rest).take 2 = substitution then .mark substitution
  else .plain char

/-- Cuts the body of a literal into pieces. -/
def pieces : List Char → List Piece
  | [] => []
  | char :: rest =>
      firstPiece char rest ::
        pieces (rest.drop ((firstPiece char rest).chars.length - 1))
termination_by body => body.length
decreasing_by
  simp only [List.length_drop, List.length_cons]
  omega

/-- A piece of a literal with the old quote, written for the new one. -/
def swapped (old : Char) (quote : List Char) (piece : Piece) : List Char :=
  match piece with
  | .plain char => [char]
  | piece =>
      if piece = .escape [old] || (old = backtick && piece = .escape substitution) then
        piece.chars.tail
      else if piece.chars = quote then '\\' :: quote
      else
        match piece with
        | .lineBreak chars => if old = backtick then ['\\', 'n'] else chars
        | piece => piece.chars

/-- A literal written with another quote. -/
def convert (raw : List Char) (quote : List Char) : List Char :=
  match raw with
  | [] => quote ++ quote
  | old :: rest =>
      quote ++ ((pieces rest.dropLast).flatMap (swapped old quote) ++ quote)

/-- A text written with another quote, if it is long enough to have a quote. -/
def convert? (raw : List Char) (quote : List Char) : Option (List Char) :=
  if raw.isEmpty then none else some (convert raw quote)

def quoteOf? (style : String) : Option Char :=
  if style = "single" then some Text.singleQuote
  else if style = "double" then some Text.doubleQuote
  else none

/-- Whether a template has a tag, a substitution or several lines. -/
def usesTemplateFeatures (place : Place) (raw : List Char) : Bool :=
  place.parentIn ["call_expression"] ||
    place.node.namedChildren.any (·.kind = "template_substitution") ||
    raw.contains '\n'

/-- Enforces one kind of quote for string literals. -/
def quotes : Rule :=
  Rule.onEntering ["string", "template_string"] true
    [("style", .choice ["double", "single"])] fun context place =>
      let style := context.options.word "style" "double"
      match quoteOf? style with
      | none => .error (.unknownStyle style)
      | some quote =>
          if place.parentIn ["jsx_attribute"] then .ok []
          else
            match context.source.span? place.node with
            | none => .error .missingLine
            | some (start, stop) =>
                let raw := Text.slice context.source.text start stop
                if place.kind = "template_string" &&
                    usesTemplateFeatures place raw then
                  .ok []
                else if raw.length < 2 || raw.head? = some quote then .ok []
                else
                  .ok
                    [context.fixing place.node
                      ("Strings must use " ++ style ++ "quote.")
                      ⟨start, stop, convert raw [quote]⟩]

end ScriptLint.Quotes
