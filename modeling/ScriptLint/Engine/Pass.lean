import ScriptLint.Rule.Basic

/-!
# One pass of rules over a tree

All rules follow the same traversal.  At each visit the rules that watch the
kind of node are told in order, and in the end all rules are, so messages come
in the order of visits and at one visit in the order of rules.
-/

namespace ScriptLint

/-- A rule at work: its context and its current state. -/
structure ActiveRule where
  context : RuleContext
  rule : Rule
  state : rule.State

namespace ActiveRule

/-- A rule before its first visit. -/
def ofRule (context : RuleContext) (rule : Rule) : ActiveRule :=
  ⟨context, rule, rule.initial⟩

/-- Whether a rule is to be told about a visit. -/
def watches (active : ActiveRule) (moment : Visit) : Bool :=
  active.rule.kinds.contains moment.place.kind

/-- What a rule answers when it is told about a visit. -/
def handle (active : ActiveRule) : Visit → Answer active.rule.State
  | .enter place => active.rule.enter active.context place active.state
  | .leave place => active.rule.leave active.context place active.state

def answer (active : ActiveRule) (moment : Visit) : Answer active.rule.State :=
  if active.watches moment then active.handle moment else .ok (active.state, [])

/-- A rule after a visit, with its messages. -/
def visit (active : ActiveRule) (moment : Visit) :
    Except Fault (ActiveRule × List Message) :=
  match active.answer moment with
  | .error fault => .error fault
  | .ok (state, findings) =>
      match active.context.messages findings with
      | .error fault => .error fault
      | .ok messages => .ok (⟨active.context, active.rule, state⟩, messages)

def finish (active : ActiveRule) : Except Fault (List Message) :=
  match active.rule.finish active.context active.state with
  | .error fault => .error fault
  | .ok findings => active.context.messages findings

end ActiveRule

namespace Pass

/-- Tells all rules about a visit, in order. -/
def visitAll (moment : Visit) :
    List ActiveRule → Except Fault (List ActiveRule × List Message)
  | [] => .ok ([], [])
  | active :: rest =>
      match active.visit moment with
      | .error fault => .error fault
      | .ok (next, messages) =>
          match visitAll moment rest with
          | .error fault => .error fault
          | .ok (others, more) => .ok (next :: others, messages ++ more)

/-- Tells all rules about all visits, in order. -/
def follow (rules : List ActiveRule) :
    List Visit → Except Fault (List ActiveRule × List Message)
  | [] => .ok (rules, [])
  | moment :: rest =>
      match visitAll moment rules with
      | .error fault => .error fault
      | .ok (next, messages) =>
          match follow next rest with
          | .error fault => .error fault
          | .ok (final, more) => .ok (final, messages ++ more)

/-- Lets all rules finish, in order. -/
def finishAll : List ActiveRule → Except Fault (List Message)
  | [] => .ok []
  | active :: rest =>
      match active.finish with
      | .error fault => .error fault
      | .ok messages =>
          match finishAll rest with
          | .error fault => .error fault
          | .ok more => .ok (messages ++ more)

/-- The messages of a pass over a tree in the order in which they arise. -/
def run (rules : List ActiveRule) (root : Node) : Except Fault (List Message) :=
  match follow rules (Visit.ofRoot root) with
  | .error fault => .error fault
  | .ok (final, messages) =>
      match finishAll final with
      | .error fault => .error fault
      | .ok more => .ok (messages ++ more)

end Pass

end ScriptLint
