import ScriptLint.Diagnostic
import ScriptLint.Named

/-!
# The report

The report lists diagnostics by file.  Files without any are left out, and a
diagnostic without a rule is shown with the word `null`.
-/

namespace ScriptLint.Report

def addTo (groups : List (String × List Diagnostic)) (diagnostic : Diagnostic) :
    List (String × List Diagnostic) :=
  let held := (getNamed? groups diagnostic.path).getD []
  putNamed diagnostic.path (held ++ [diagnostic]) groups

/-- Diagnostics by file, the files in the order of their first diagnostic. -/
def group (diagnostics : List Diagnostic) : List (String × List Diagnostic) :=
  diagnostics.foldl addTo []

def line (diagnostic : Diagnostic) : String :=
  "  [" ++ toString diagnostic.startLine ++ ", " ++
    toString diagnostic.startColumn ++ "] " ++ diagnostic.message ++ " (" ++
    diagnostic.rule.getD "null" ++ ")\n"

/-- The section of a file; empty if it has no diagnostics. -/
def fileSection (path : String) (diagnostics : List Diagnostic) : String :=
  if diagnostics.isEmpty then ""
  else
    "File: " ++ path ++ "\n" ++ String.join (diagnostics.map line) ++ "\n"

def header : String := "ESLint Report\n\n"

def render (groups : List (String × List Diagnostic)) : String :=
  header ++ String.join (groups.map fun (path, held) => fileSection path held)

def ofDiagnostics (diagnostics : List Diagnostic) : String :=
  render (group diagnostics)

end ScriptLint.Report
