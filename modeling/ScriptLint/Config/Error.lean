import ScriptLint.Value.Literal

/-!
# Configuration errors

Why a configuration is refused, and the words for it.
-/

namespace ScriptLint

/-- A reason to refuse a configuration. -/
inductive ConfigError where
  | unknownRule (rule : String)
  | unsupportedSeverity (severity : Value)
  | unknownOption (rule option : String)
  | notAnInteger (rule option : String)
  | invalidValue (rule option : String) (value : Value)
  | notPositive (rule option : String)
  | notAChoice (rule option : String) (choices : List String)

namespace ConfigError

/-- How an option of a rule is named in error texts. -/
def optionLabel (rule option : String) : String :=
  "Rule '" ++ rule ++ "' option '" ++ option ++ "'"

/-- The wording of a configuration error. -/
def message : ConfigError → String
  | unknownRule rule => "Definition for rule '" ++ rule ++ "' was not found."
  | unsupportedSeverity severity =>
      "Unsupported rule severity: " ++ severity.literal
  | unknownOption rule option =>
      "Rule '" ++ rule ++ "' has no option '" ++ option ++ "'."
  | notAnInteger rule option =>
      optionLabel rule option ++ " must be an integer."
  | invalidValue rule option value =>
      optionLabel rule option ++ " has invalid value " ++ value.literal ++ "."
  | notPositive rule option =>
      optionLabel rule option ++ " must be greater than zero."
  | notAChoice rule option choices =>
      optionLabel rule option ++ " must be one of " ++
        (Value.list (choices.map .text)).literal ++ "."

end ConfigError

end ScriptLint
