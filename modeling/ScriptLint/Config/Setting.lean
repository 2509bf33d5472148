import ScriptLint.Config.Error
import ScriptLint.Named

/-!
# Rule settings

A configuration gives each rule a severity and options.  Its entries are kept in
the order in which their rules were first named.
-/

namespace ScriptLint

/-- How seriously the findings of a rule are taken. -/
inductive Level where
  | off
  | warning
  | error
deriving DecidableEq, Repr

def Level.number : Level → Int
  | off => 0
  | warning => 1
  | error => 2

/-- The level that a severity asks for: by word, or by a value that counts as
one of the numbers zero, one and two. -/
def Value.level? : Value → Option Level
  | .text word =>
      if word = "off" then some .off
      else if word = "warn" then some .warning
      else if word = "error" then some .error
      else none
  | value =>
      match value.toInt? with
      | some 0 => some .off
      | some 1 => some .warning
      | some 2 => some .error
      | _ => none

abbrev Options := List (String × Value)

namespace Options

def integer (options : Options) (name : String) (default : Int) : Int :=
  match getNamed? options name with
  | some (.int value) => value
  | _ => default

def word (options : Options) (name default : String) : String :=
  match getNamed? options name with
  | some (.text value) => value
  | _ => default

def flag (options : Options) (name : String) : Bool :=
  match getNamed? options name with
  | some (.bool value) => value
  | _ => false

/-- The items of an option; none if it is absent. -/
def items (options : Options) (name : String) : List Value :=
  match getNamed? options name with
  | some (.tuple values) => values
  | _ => []

end Options

/-- The severity and the options given to a rule. -/
structure RuleSetting where
  severity : Value
  options : Options

def RuleSetting.level (setting : RuleSetting) : Except ConfigError Level :=
  match setting.severity.level? with
  | some level => .ok level
  | none => .error (.unsupportedSeverity setting.severity)

abbrev RuleConfig := List (String × RuleSetting)

end ScriptLint
