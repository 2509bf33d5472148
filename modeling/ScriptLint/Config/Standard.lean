import ScriptLint.Config.Setting

/-!
# The standard configuration

The settings in use when no others are given.  Breakpoints are refused in
production only.
-/

namespace ScriptLint

/-- The name of the rule about repeated blocks. -/
def duplicateRuleName : String :=
  "custom-rules/no-duplicate-code"

namespace RuleConfig

/-- An entry at the error level. -/
def strict (rule : String) (options : Options) : String × RuleSetting :=
  (rule, ⟨.text "error", options⟩)

/-- An entry at the warning level. -/
def lenient (rule : String) (options : Options) : String × RuleSetting :=
  (rule, ⟨.text "warn", options⟩)

/-- The standard settings for production or for development. -/
def standard (production : Bool) : RuleConfig :=
  [
    strict duplicateRuleName [],
    strict "camelcase" [("properties", .text "always")],
    strict "complexity" [("max", .int 5)],
    strict "max-depth" [("max", .int 2)],
    strict "max-params" [("max", .int 4)],
    strict "max-statements" [("max", .int 15)],
    strict "no-var" [],
    strict "no-console" [],
    strict "eqeqeq" [],
    strict "no-unused-vars" [],
    lenient "padding-line-between-statements"
      [("blank_line", .text "always"),
        ("pairs", .tuple
          [.tuple [.text "*", .text "function"],
            .tuple [.text "function", .text "*"]])],
    strict "init-declarations" [("mode", .text "always")],
    strict "default-case" [],
    strict "default-case-last" [],
    strict "max-len"
      [("code", .int 120), ("tab_width", .int 4), ("ignore_urls", .bool true),
        ("ignore_template_literals", .bool true),
        ("ignore_strings", .bool false), ("ignore_comments", .bool true),
        ("ignore_regexp_literals", .bool true)],
    ("no-debugger", ⟨.text (if production then "error" else "off"), []⟩),
    lenient "quotes" [("style", .text "single")]
  ]

/-- The standard settings under an environment of variables, of which the last
value of a name counts. -/
def ofEnvironment (environment : List (String × String)) : RuleConfig :=
  standard (getNamed? (ofNamed environment) "NODE_ENV" = some "production")

end RuleConfig

end ScriptLint
