import ScriptLint.Proofs.Engine.Along
import ScriptLint.Proofs.Tree.Traversal

/-!
# The calls of a pass

A call tells one rule about the entering or the leaving of one place.  A pass does
what making the calls of the recursion over named children one after the other does:
at each visit those rules are called that watch the kind of the node, in order.  To
each rule the calls are the visits that it watches.
-/

namespace ScriptLint

namespace ActiveRule

/-- A rule after it was told about a visit, with its messages. -/
def called (active : ActiveRule) (moment : Visit) :
    Except Fault (ActiveRule × List Message) :=
  match active.handle moment with
  | .error fault => .error fault
  | .ok (state, findings) =>
      match active.context.messages findings with
      | .error fault => .error fault
      | .ok messages => .ok (⟨active.context, active.rule, state⟩, messages)

end ActiveRule

/-- A rule, given by its number among the rules, is told about a visit. -/
structure Call where
  rule : Nat
  moment : Visit

namespace Call

def make (rules : List ActiveRule) (call : Call) :
    Except Fault (List ActiveRule × List Message) :=
  match rules[call.rule]? with
  | none => .ok (rules, [])
  | some active => do
      let told ← active.called call.moment
      return (rules.set call.rule told.1, told.2)

/-- The calls at a visit to rules that are numbered from a number on: to each rule
that watches the kind of the node, in order. -/
def atVisit (moment : Visit) (number : Nat) : List ActiveRule → List Call
  | [] => []
  | active :: rest =>
      if active.watches moment then ⟨number, moment⟩ :: atVisit moment (number + 1) rest
      else atVisit moment (number + 1) rest

/-- The calls of the recursion over named children. -/
def around (rules : List ActiveRule) (place : Place) : List Call :=
  (Visit.around place).flatMap fun moment => atVisit moment 0 rules

end Call

namespace Pass

end Pass

namespace Call

end Call

end ScriptLint
