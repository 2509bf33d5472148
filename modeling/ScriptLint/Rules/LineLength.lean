import ScriptLint.Rule.Basic
import ScriptLint.Text.Blank

/-!
# Line length

Lines are measured with tabs expanded.  Options leave out lines that hold an
address, that a template, a string or a regular expression touches, or that are
comments throughout; of a line that ends in a comment only the code counts.
-/

namespace ScriptLint.LineLength

/-- What tabs add to the number of characters of a line, from a character index
on and with the surplus so far. -/
def surplusFrom (width : Int) (index : Nat) (surplus : Int) : List Char → Int
  | [] => surplus
  | char :: rest =>
      let next :=
        if char = '\t' then
          surplus + (width - (index + surplus).fmod width - 1)
        else surplus
      surplusFrom width (index + 1) next rest

/-- The length of a line with tabs expanded to multiples of a width. -/
def expandedLength (line : List Char) (width : Int) : Int :=
  line.length + surplusFrom width 0 0 line

/-- The length of a line under a setting.  A width of nothing measures no tab. -/
def measure (line : List Char) (width : Int) : Except Fault Int :=
  if width = 0 && line.contains '\t' then .error .zeroTabWidth
  else .ok (expandedLength line width)

/-- The least number that has more digits than are written out. -/
@[irreducible]
def digitBound : Nat := Nat.pow 10 4300

/-- A number in decimal digits, of which at most 4300 are written. -/
def written (value : Int) : Except Fault String :=
  if digitBound ≤ value.natAbs then .error .tooManyDigits else .ok (toString value)

/-- Whether an address starts here: a character before a colon and two slashes,
and one after them. -/
def startsAddress : List Char → Bool
  | first :: ':' :: '/' :: '/' :: last :: _ =>
      !(first = ':' || first = '/' || first = '?' || first = '#') &&
        !(last = '?' || last = '#')
  | _ => false

def hasAddress : List Char → Bool
  | [] => false
  | char :: rest => startsAddress (char :: rest) || hasAddress rest

/-- Kinds of nodes whose lines are left out. -/
def exemptKinds (options : Options) : List String :=
  (if options.flag "ignore_template_literals" then ["template_string"] else []) ++
    (if options.flag "ignore_regexp_literals" then ["regex"] else []) ++
    (if options.flag "ignore_strings" then ["string"] else [])

/-- The positions between which a node lies. -/
structure Extent where
  start : Position
  stop : Position
deriving DecidableEq, Repr

/-- The extents of the places that pass a test, in document order. -/
def extents (source : Source) (keep : Place → Bool) (places : List Place) :
    List Extent :=
  (places.filter keep).map fun place =>
    ⟨source.start place.node, source.stop place.node⟩

def Extent.touches (extent : Extent) (line : Int) : Bool :=
  extent.start.line ≤ line && line ≤ extent.stop.line

/-- What is set apart in a file: nodes whose lines are left out, and
comments. -/
structure Exceptions where
  exempt : List Extent
  comments : List Extent

/-- What is set apart in a file under the options in force. -/
def Exceptions.ofSource (source : Source) (options : Options) : Exceptions :=
  let places := source.walk
  let kinds := exemptKinds options
  ⟨extents source (fun place => kinds.contains place.kind) places,
    extents source (·.kind = "comment") places⟩

/-- The last comment that touches a line. -/
def Exceptions.commentOn? (exceptions : Exceptions) (line : Int) :
    Option Extent :=
  (exceptions.comments.filter (·.touches line)).getLast?

/-- The part of a line that counts beside a comment; nothing if the comment
takes the whole line. -/
def besideComment? (number : Int) (line : List Char) (comment : Extent) :
    Option (List Char) :=
  let start := comment.start
  let stop := comment.stop
  let before := Text.sliceTo line (start.column - 1)
  let startsBefore := start.line < number || Text.allBlank before
  let endsAfter :=
    number < stop.line || Text.allBlank (Text.sliceFrom line (stop.column - 1))
  if startsBefore && endsAfter then none
  else if start.line = number && endsAfter then some (Text.trimEnd before)
  else some line

/-- The part of a line that is measured; nothing if the line is left out. -/
def measured? (context : RuleContext) (exceptions : Exceptions) (row : Nat)
    (line : List Char) : Option (List Char) :=
  let options := context.options
  let number : Int := row + 1
  if !context.source.isLinted row ||
      exceptions.exempt.any (·.touches number) then
    none
  else if options.flag "ignore_urls" && hasAddress line then none
  else if options.flag "ignore_comments" then
    match exceptions.commentOn? number with
    | some comment => besideComment? number line comment
    | none => some line
  else some line

/-- The finding about one line, if it is too long. -/
def checkLine (context : RuleContext) (exceptions : Exceptions) (row : Nat)
    (line : List Char) : Except Fault (List Finding) :=
  match measured? context exceptions row line with
  | none => .ok []
  | some measured =>
      let maximum := context.options.integer "code" 80
      let width := context.options.integer "tab_width" 4
      match measure measured width with
      | .error fault => .error fault
      | .ok length =>
          if maximum < length then
            match written length with
            | .error fault => .error fault
            | .ok length =>
                match written maximum with
                | .error fault => .error fault
                | .ok maximum =>
                    .ok
                      [RuleContext.between ⟨row + 1, 1⟩ ⟨row + 1, measured.length + 1⟩
                        ("This line has a length of " ++ length ++
                          ". Maximum allowed is " ++ maximum ++ ".")]
          else .ok []

def checkLines (context : RuleContext) (exceptions : Exceptions) :
    Nat → List (List Char) → Except Fault (List Finding)
  | _, [] => .ok []
  | row, line :: rest =>
      match checkLine context exceptions row line with
      | .error fault => .error fault
      | .ok findings =>
          match checkLines context exceptions (row + 1) rest with
          | .error fault => .error fault
          | .ok others => .ok (findings ++ others)

def maxLen : Rule :=
  Rule.atEnd
    [("code", .count), ("tab_width", .count), ("ignore_urls", .flag),
      ("ignore_template_literals", .flag), ("ignore_strings", .flag),
      ("ignore_comments", .flag), ("ignore_regexp_literals", .flag)]
    fun context =>
      checkLines context (.ofSource context.source context.options) 0
        context.source.lines

end ScriptLint.LineLength
