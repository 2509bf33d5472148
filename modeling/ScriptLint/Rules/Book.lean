import ScriptLint.Config.Standard
import ScriptLint.Rules.CamelCase
import ScriptLint.Rules.DuplicateBlocks
import ScriptLint.Rules.Limits
import ScriptLint.Rules.LineLength
import ScriptLint.Rules.Padding
import ScriptLint.Rules.Quotes
import ScriptLint.Rules.Statements
import ScriptLint.Rules.Switches
import ScriptLint.Rules.UnusedNames

/-!
# The rule book

All rules by the names that configurations use.
-/

namespace ScriptLint.RuleBook

/-- The rules that are always available. -/
def core : RuleBook :=
  [
    ("camelcase", CamelCase.camelCase),
    ("complexity", Limits.complexity),
    ("default-case", Switches.defaultCase),
    ("default-case-last", Switches.defaultCaseLast),
    ("eqeqeq", Statements.strictEquality),
    ("init-declarations", Statements.initDeclarations),
    ("max-depth", Limits.maxDepth),
    ("max-len", LineLength.maxLen),
    ("max-params", Limits.maxParams),
    ("max-statements", Limits.maxStatements),
    ("no-console", Statements.noConsole),
    ("no-debugger", Statements.noDebugger),
    ("no-unused-vars", UnusedNames.noUnusedVars),
    ("no-var", Statements.noVar),
    ("padding-line-between-statements", Padding.paddingLines),
    ("quotes", Quotes.quotes)
  ]

/-- The rules that sessions use: the core rules and the one about repeated
blocks. -/
def standard : RuleBook :=
  core ++ [(duplicateRuleName, DuplicateBlocks.noDuplicateCode)]

end ScriptLint.RuleBook
