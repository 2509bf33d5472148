import ScriptLint.Rule.Basic

/-!
# Validation of configurations

A configuration is accepted if every rule it names exists, every severity is a
level, and the options of every rule that is not off have values of the types
that the rule declares.  The first violation in order is reported.
-/

namespace ScriptLint

namespace OptionType

def validate (type : OptionType) (rule option : String) (value : Value) :
    Except ConfigError Unit :=
  match type, value with
  | .count, .bool _ => .error (.notAnInteger rule option)
  | .count, .int number =>
      if number ≤ 0 then .error (.notPositive rule option) else .ok ()
  | .flag, .bool _ => .ok ()
  | .choice words, .text word =>
      if words.contains word then .ok ()
      else .error (.notAChoice rule option words)
  | .items, .tuple _ => .ok ()
  | _, value => .error (.invalidValue rule option value)

end OptionType

/-- Checks options against the declarations of a rule. -/
def Options.validate (declared : List (String × OptionType)) (rule : String) :
    Options → Except ConfigError Unit
  | [] => .ok ()
  | (option, value) :: rest =>
      match getNamed? declared option with
      | none => .error (.unknownOption rule option)
      | some type => do
          type.validate rule option value
          Options.validate declared rule rest

/-- Checks one setting.  The options of a rule that is off do not matter. -/
def RuleSetting.validate (book : RuleBook) (name : String)
    (setting : RuleSetting) : Except ConfigError Unit :=
  match book.rule? name with
  | none => .error (.unknownRule name)
  | some rule =>
      match setting.level with
      | .error error => .error error
      | .ok .off => .ok ()
      | .ok _ => Options.validate rule.options name setting.options

def RuleConfig.validate (book : RuleBook) : RuleConfig → Except ConfigError Unit
  | [] => .ok ()
  | (name, setting) :: rest =>
      match setting.validate book name with
      | .error error => .error error
      | .ok () => RuleConfig.validate book rest

end ScriptLint
