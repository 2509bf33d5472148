import ScriptLint.Message

/-!
# Diagnostics

A diagnostic is a message placed in a file with a full range.  A message without
an end covers one column of its line.
-/

namespace ScriptLint

/-- How serious a diagnostic is. -/
inductive Severity where
  | error
  | warning
deriving DecidableEq, Repr

def Severity.word : Severity → String
  | error => "error"
  | warning => "warning"

/-- An issue in a file. -/
structure Diagnostic where
  path : String
  startLine : Int
  startColumn : Int
  endLine : Int
  endColumn : Int
  message : String
  severity : Severity
  rule : Option String
deriving DecidableEq, Repr

namespace Diagnostic

def ofMessage (path : String) (message : Message) : Diagnostic where
  path := path
  startLine := message.line
  startColumn := message.column
  endLine := message.endLine.getD message.line
  endColumn := message.endColumn.getD (message.column + 1)
  message := message.text
  severity := if message.severity = 2 then .error else .warning
  rule := message.rule

def ofResult (path : String) (result : LintResult) : List Diagnostic :=
  result.messages.map (ofMessage path)

end Diagnostic

end ScriptLint
