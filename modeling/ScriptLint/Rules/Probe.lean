import ScriptLint.Rule.Basic

/-!
# Probe rules

Rules that exercise the engine itself: one that always fails, and one that
offers a fix, with and without having declared it.
-/

namespace ScriptLint.Probe

def explode : Rule :=
  Rule.onEntering ["program"] false [] fun _ _ => .error (.failure "boom")

/-- Offers to insert a marker at the start of the text. -/
def insertMarker (fixable : Bool) : Rule :=
  Rule.onEntering ["program"] fixable [] fun context place =>
    .ok
      [context.fixing place.node "Insert marker."
        ⟨0, 0, "/* marker */".toList⟩]

def book : RuleBook :=
  [("test/explode", explode), ("test/undeclared-fix", insertMarker false),
    ("test/declared-fix", insertMarker true)]

end ScriptLint.Probe
