import ScriptLint.Rule.Basic
import ScriptLint.Text.Blank
import ScriptLint.Tree.Scope

/-!
# Blank lines between statements

Between consecutive statements of configured kinds a blank line is required or
forbidden.  The fix inserts a line break at the start of the line after the
first statement, or two of them if both statements share a line.
-/

namespace ScriptLint.Padding

/-- Kinds of nodes whose statements are checked. -/
def containerKinds : List String :=
  ["program", "statement_block", "switch_case", "switch_default",
    "class_static_block"]

/-- The two kinds of an entry of the option; texts are read by character and
tables by key. -/
def kindsOf (entry : Value) : Except Fault (Value × Value) :=
  let unpack : List Value → Except Fault (Value × Value)
    | [first, second] => .ok (first, second)
    | [] => .error (.tooFewKinds 0)
    | [_] => .error (.tooFewKinds 1)
    | _ => .error .tooManyKinds
  match entry with
  | .tuple items => unpack items
  | .list items => unpack items
  | .text value =>
      unpack (value.toList.map fun char => .text (String.ofList [char]))
  | .table entries => unpack (entries.map (·.1))
  | other => .error (.notAPair other.typeName)

def isOfKind (source : Source) (statement : Node) (kind : String) : Bool :=
  if kind = "*" then true
  else if kind = "function" then
    statement.kind = "function_declaration" ||
      statement.kind = "generator_function_declaration"
  else if kind = "class" then statement.kind = "class_declaration"
  else if kind = "var" then statement.kind = "variable_declaration"
  else if kind = "let" || kind = "const" then
    statement.kind = "lexical_declaration" &&
      source.textOf (statement.field? "kind") = kind
  else if kind = "return" then statement.kind = "return_statement"
  else if kind = "expression" then statement.kind = "expression_statement"
  else if kind = "block" then statement.kind = "statement_block"
  else false

/-- Whether a statement is of a kind that may be no word at all. -/
def isOf (source : Source) (statement : Node) (kind : Value) :
    Except Fault Bool :=
  match kind with
  | .text word => .ok (isOfKind source statement word)
  | other =>
      match other.unhashable? with
      | some type => .error (.unhashable type)
      | none => .ok false

/-- Whether two statements match an entry of the option.  The entries are tried
in order up to the first that matches. -/
def matchesSome (source : Source) (previous current : Node) :
    List Value → Except Fault Bool
  | [] => .ok false
  | entry :: rest => do
      let (first, second) ← kindsOf entry
      if ← isOf source previous first then
        if ← isOf source current second then return true
      matchesSome source previous current rest

def anyBlank (lines : List (List Char)) (row : Nat) : Nat → Except Fault Bool
  | 0 => .ok false
  | count + 1 =>
      match lines[row]? with
      | none => .error .missingLine
      | some line =>
          if Text.allBlank line then .ok true
          else anyBlank lines (row + 1) count

/-- Whether a blank line lies strictly between two statements. -/
def hasBlankLine (source : Source) (previous current : Node) :
    Except Fault Bool :=
  let last := (source.stop previous).line
  let next := (source.start current).line
  anyBlank source.lines last.toNat (next - last - 1).toNat

/-- Whether a text has carriage returns before its line feeds. -/
def hasReturnBreaks : List Char → Bool
  | '\r' :: '\n' :: _ => true
  | _ :: rest => hasReturnBreaks rest
  | [] => false

def lineBreak (text : List Char) : List Char :=
  if hasReturnBreaks text then ['\r', '\n'] else ['\n']

/-- The fix that puts a blank line between two statements. -/
def blankLineFix (source : Source) (previous current : Node) :
    Except Fault Fix :=
  let last := (source.stop previous).line
  let next := (source.start current).line
  let newline := lineBreak source.text
  if last = next then
    match source.span? previous with
    | none => .error .missingLine
    | some (_, stop) => .ok ⟨stop, stop, newline ++ newline⟩
  else
    match source.offset ⟨last + 1, 1⟩ with
    | .error _ => .error .missingLine
    | .ok offset => .ok ⟨offset, offset, newline⟩

/-- The findings about two consecutive statements. -/
def checkPair (context : RuleContext) (previous current : Node) :
    Except Fault (List Finding) := do
  let source := context.source
  let mode := context.options.word "blank_line" "always"
  if !(← matchesSome source previous current (context.options.items "pairs")) then
    return []
  let blank ← hasBlankLine source previous current
  if mode = "always" && !blank then
    let fix ← blankLineFix source previous current
    return [context.fixing current "Expected blank line before this statement." fix]
  if mode = "never" && blank then
    return [context.about current "Unexpected blank line before this statement."]
  return []

/-- The findings about consecutive statements. -/
def checkPairs (context : RuleContext) : List Node → Except Fault (List Finding)
  | previous :: current :: rest =>
      match checkPair context previous current with
      | .error fault => .error fault
      | .ok findings =>
          match checkPairs context (current :: rest) with
          | .error fault => .error fault
          | .ok others => .ok (findings ++ others)
  | _ => .ok []

/-- Requires or forbids blank lines between statements. -/
def paddingLines : Rule :=
  Rule.onEntering containerKinds true
    [("blank_line", .choice ["always", "never"]), ("pairs", .items)]
    fun context place => checkPairs context place.node.statements

end ScriptLint.Padding
