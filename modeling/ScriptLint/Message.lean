import ScriptLint.Fix

/-!
# Messages

What checking a text has to say: a text at a position, from a rule or from the
parser, perhaps with a fix.
-/

namespace ScriptLint

/-- A message about a text.  Columns count UTF-16 code units from one. -/
structure Message where
  /-- The reporting rule; messages about syntax have none. -/
  rule : Option String
  /-- Two for an error, one for a warning. -/
  severity : Int
  text : String
  line : Int
  column : Int
  endLine : Option Int
  endColumn : Option Int
  fix : Option Fix
  fatal : Bool
deriving DecidableEq, Repr

namespace Message

/-- The order of messages: by line, then by column. -/
def before (left right : Message) : Bool :=
  left.line < right.line ||
    (left.line = right.line && left.column ≤ right.column)

/-- Messages by position; those at one position keep their order. -/
def inOrder (messages : List Message) : List Message :=
  messages.mergeSort before

end Message

/-- The outcome of checking a text. -/
structure LintResult where
  messages : List Message
  /-- The text with all fixes applied, if they change it. -/
  output : Option (List Char)
deriving DecidableEq, Repr

namespace LintResult

def countOf (result : LintResult) (severity : Int) : Nat :=
  result.messages.countP (·.severity = severity)

def errorCount (result : LintResult) : Nat :=
  result.countOf 2

def warningCount (result : LintResult) : Nat :=
  result.countOf 1

end LintResult

end ScriptLint
