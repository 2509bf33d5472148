import ScriptLint.Config.Setting
import ScriptLint.Message
import ScriptLint.Source.Basic

/-!
# Rules

A rule watches one traversal of a tree.  It is told about the entering and the
leaving of nodes of its kinds and about the end of the traversal, carries a
state of its own, and answers with findings.  A finding becomes a message in
the context of the rule's setting.
-/

namespace ScriptLint

/-- Why a rule could not finish. -/
inductive Fault where
  | unplaced
  | undeclaredFix (rule : String)
  | missingLine
  | emptyStack
  | zeroTabWidth
  | unknownStyle (style : String)
  | tooFewKinds (count : Nat)
  | tooManyKinds
  | notAPair (type : String)
  | unhashable (type : String)
  | tooManyDigits
  | tooDeep
  | failure (reason : String)
deriving DecidableEq, Repr

def Fault.message : Fault → String
  | unplaced => "report() needs a node or a start position"
  | undeclaredFix rule =>
      "Rule '" ++ rule ++ "' reported a fix but is not fixable."
  | missingLine => "list index out of range"
  | emptyStack => "pop from empty list"
  | zeroTabWidth => "integer modulo by zero"
  | unknownStyle style => Text.quoted style
  | tooFewKinds count =>
      "not enough values to unpack (expected 2, got " ++ toString count ++ ")"
  | tooManyKinds => "too many values to unpack (expected 2)"
  | notAPair type => "cannot unpack non-iterable " ++ type ++ " object"
  | unhashable type => "unhashable type: '" ++ type ++ "'"
  | tooManyDigits =>
      "Exceeds the limit (4300 digits) for integer string conversion; " ++
        "use sys.set_int_max_str_digits() to increase the limit"
  | tooDeep => "maximum recursion depth exceeded"
  | failure reason => reason

/-- Something a rule has to say, in character columns. -/
structure Finding where
  text : String
  start : Option Position
  stop : Option Position
  fix : Option Fix
deriving DecidableEq, Repr

/-- The setting under which a rule checks a source. -/
structure RuleContext where
  rule : String
  severity : Int
  options : Options
  source : Source
  fixable : Bool

namespace RuleContext

def about (context : RuleContext) (node : Node) (text : String) : Finding :=
  ⟨text, some (context.source.start node), some (context.source.stop node), none⟩

def fixing (context : RuleContext) (node : Node) (text : String) (fix : Fix) :
    Finding :=
  ⟨text, some (context.source.start node), some (context.source.stop node),
    some fix⟩

/-- A finding about a range of the text. -/
def between (start stop : Position) (text : String) : Finding :=
  ⟨text, some start, some stop, none⟩

/-- The message of a finding.  It needs a start, and only rules that declare
fixes may offer one. -/
def message (context : RuleContext) (finding : Finding) :
    Except Fault Message :=
  match finding.start with
  | none => .error .unplaced
  | some start =>
      if finding.fix.isSome && !context.fixable then
        .error (.undeclaredFix context.rule)
      else
        .ok
          { rule := some context.rule
            severity := context.severity
            text := finding.text
            line := start.line
            column := context.source.utf16Column start
            endLine := finding.stop.map (·.line)
            endColumn := finding.stop.map context.source.utf16Column
            fix := finding.fix
            fatal := false }

def messages (context : RuleContext) : List Finding → Except Fault (List Message)
  | [] => .ok []
  | finding :: rest =>
      match context.message finding with
      | .error fault => .error fault
      | .ok first =>
          match context.messages rest with
          | .error fault => .error fault
          | .ok others => .ok (first :: others)

end RuleContext

/-- The kinds of values that an option takes. -/
inductive OptionType where
  /-- A positive integer. -/
  | count
  /-- A truth value. -/
  | flag
  /-- One of the given words. -/
  | choice (words : List String)
  /-- A tuple of anything. -/
  | items
deriving DecidableEq, Repr

/-- What a rule answers: its next state and its findings. -/
abbrev Answer (State : Type) := Except Fault (State × List Finding)

/-- A rule with a state of its own. -/
structure Rule where
  /-- The kinds of nodes that the rule is told about. -/
  kinds : List String
  /-- Whether the rule may offer fixes. -/
  fixable : Bool
  /-- The options that the rule takes. -/
  options : List (String × OptionType)
  State : Type
  initial : State
  enter : RuleContext → Place → State → Answer State
  leave : RuleContext → Place → State → Answer State
  finish : RuleContext → State → Except Fault (List Finding)

namespace Rule

/-- A rule without state that looks at nodes when they are entered. -/
def onEntering (kinds : List String) (fixable : Bool)
    (options : List (String × OptionType))
    (check : RuleContext → Place → Except Fault (List Finding)) : Rule where
  kinds := kinds
  fixable := fixable
  options := options
  State := Unit
  initial := ()
  enter := fun context place _ =>
    match check context place with
    | .ok findings => .ok ((), findings)
    | .error fault => .error fault
  leave := fun _ _ _ => .ok ((), [])
  finish := fun _ _ => .ok []

/-- A rule without state that looks at the whole source in the end. -/
def atEnd (options : List (String × OptionType))
    (check : RuleContext → Except Fault (List Finding)) : Rule where
  kinds := []
  fixable := false
  options := options
  State := Unit
  initial := ()
  enter := fun _ _ _ => .ok ((), [])
  leave := fun _ _ _ => .ok ((), [])
  finish := fun context _ => check context

end Rule

abbrev RuleBook := List (String × Rule)

def RuleBook.rule? (book : RuleBook) (name : String) : Option Rule :=
  (book.find? (·.1 = name)).map (·.2)

end ScriptLint
