import ScriptLint.Diagnostic
import ScriptLint.Text.Quoted

/-!
# Structured output

Diagnostics as an object notation: two spaces of indentation for each level,
fields in alphabetical order, and every character beyond printable ASCII
escaped.
-/

namespace ScriptLint

/-- A value of the notation. -/
inductive Json where
  | null
  | int (value : Int)
  | text (value : String)
  | array (items : List Json)
  | object (fields : List (String × Json))

namespace Json

def unitEscape (unit : Nat) : List Char :=
  '\\' :: 'u' :: Text.hexDigits unit 4

/-- A character inside a quoted text.  Characters beyond the basic plane are
written as two code units. -/
def escapedChar (char : Char) : List Char :=
  let code := char.toNat
  if char = '\x22' then ['\\', '\x22']
  else if char = '\\' then ['\\', '\\']
  else if char = '\n' then ['\\', 'n']
  else if char = '\r' then ['\\', 'r']
  else if char = '\t' then ['\\', 't']
  else if code = 0x08 then ['\\', 'b']
  else if code = 0x0c then ['\\', 'f']
  else if 0x20 ≤ code && code < 0x7f then [char]
  else if code < 0x10000 then unitEscape code
  else
    let offset := code - 0x10000
    unitEscape (0xd800 + offset / 0x400) ++ unitEscape (0xdc00 + offset % 0x400)

def quotedText (text : String) : String :=
  "\"" ++ String.ofList (text.toList.flatMap escapedChar) ++ "\""

def lineStart (level : Nat) : String :=
  String.ofList ('\n' :: List.replicate (2 * level) ' ')

mutual

def renderAt (level : Nat) : Json → String
  | null => "null"
  | int value => toString value
  | text value => quotedText value
  | array items =>
      match items with
      | [] => "[]"
      | items => "[" ++ renderItems (level + 1) items ++ lineStart level ++ "]"
  | object fields =>
      match fields with
      | [] => "\x7b\x7d"
      | fields =>
          "\x7b" ++ renderFields (level + 1) fields ++ lineStart level ++ "\x7d"

def renderItems (level : Nat) : List Json → String
  | [] => ""
  | [item] => lineStart level ++ renderAt level item
  | item :: rest =>
      lineStart level ++ renderAt level item ++ "," ++ renderItems level rest

def renderFields (level : Nat) : List (String × Json) → String
  | [] => ""
  | [(name, value)] =>
      lineStart level ++ quotedText name ++ ": " ++ renderAt level value
  | (name, value) :: rest =>
      lineStart level ++ quotedText name ++ ": " ++ renderAt level value ++
        "," ++ renderFields level rest

end

def render (value : Json) : String :=
  renderAt 0 value

def ofOption : Option String → Json
  | some value => text value
  | none => null

def ofDiagnostic (diagnostic : Diagnostic) : Json :=
  object
    [("end_column", int diagnostic.endColumn), ("end_line", int diagnostic.endLine),
      ("message", text diagnostic.message), ("path", text diagnostic.path),
      ("rule_id", ofOption diagnostic.rule),
      ("severity", text diagnostic.severity.word),
      ("start_column", int diagnostic.startColumn),
      ("start_line", int diagnostic.startLine)]

/-- Diagnostics with the numbers of errors and warnings. -/
def ofDiagnostics (diagnostics : List Diagnostic) : Json :=
  object
    [("diagnostics", array (diagnostics.map ofDiagnostic)),
      ("error_count", int (diagnostics.countP (·.severity = .error))),
      ("warning_count", int (diagnostics.countP (·.severity = .warning)))]

end Json

end ScriptLint
