import ScriptLint.Config.Validation
import ScriptLint.Engine.Pass
import ScriptLint.Source.Parse
import ScriptLint.Source.Problem

/-!
# Checking a text

A text with a syntax problem yields one fatal message.  Otherwise the rules that
are not off make one pass over it; their messages are sorted by position and all
fixes are applied in one go.
-/

namespace ScriptLint

/-- Why checking a text fails: the configuration is refused, or a rule fails. -/
inductive LintError where
  | configuration (error : ConfigError)
  | engine (fault : Fault) (path : String)

/-- The wording of a failure to check a text. -/
def LintError.message : LintError → String
  | configuration error => error.message
  | engine fault path =>
      fault.message ++ "\nOccurred while linting " ++ path

/-- The message about a syntax problem. -/
def Problem.message (source : Source) (problem : Problem) : Message :=
  { rule := none
    severity := 2
    text := "Parsing error: " ++ problem.detail
    line := problem.position.line
    column := source.utf16Column problem.position
    endLine := none
    endColumn := none
    fix := none
    fatal := true }

/-- The rule of a setting at work, unless it is off or unknown. -/
def RuleSetting.activate? (book : RuleBook) (source : Source) (name : String)
    (setting : RuleSetting) : Option ActiveRule :=
  match book.rule? name, setting.severity.level? with
  | some _, some .off => none
  | some rule, some level =>
      some (.ofRule
        ⟨name, level.number, setting.options, source, rule.fixable⟩ rule)
  | _, _ => none

/-- The rules of a configuration at work, in its order. -/
def RuleConfig.activate (book : RuleBook) (source : Source) :
    RuleConfig → List ActiveRule
  | [] => []
  | (name, setting) :: rest =>
      match setting.activate? book source name with
      | some active => active :: RuleConfig.activate book source rest
      | none => RuleConfig.activate book source rest

/-- The result of a pass: its messages by position and the fixed text. -/
def LintResult.ofMessages (text : List Char) (messages : List Message) :
    LintResult :=
  let sorted := Message.inOrder messages
  ⟨sorted, Fix.applyAll text (sorted.filterMap (·.fix))⟩

/-- Checks a source under a configuration that was accepted. -/
def Source.lint (source : Source) (book : RuleBook) (config : RuleConfig) :
    Except Fault LintResult :=
  match source.problem? with
  | some problem => .ok ⟨[problem.message source], none⟩
  | none =>
      match Pass.run (RuleConfig.activate book source config) source.root with
      | .error fault => .error fault
      | .ok messages => .ok (.ofMessages source.text messages)

/-- Checks the text of a file, whose path decides how it is parsed. -/
def lintText (parse : Parser) (book : RuleBook) (config : RuleConfig)
    (path : String) (text : List Char) : Except LintError LintResult :=
  match RuleConfig.validate book config with
  | .error error => .error (.configuration error)
  | .ok () =>
      match (Source.ofText parse (Path.ofString path) text).lint book config with
      | .error fault => .error (.engine fault path)
      | .ok result => .ok result

end ScriptLint
