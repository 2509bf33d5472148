import ScriptLint.Rule.Basic
import ScriptLint.Source.Naming

/-!
# Limits on functions

Rules that measure a function against a maximum: the number of its decision
points, of its parameters and of its statements, and how deeply its blocks
nest.  The measures that grow while a function is open are kept on a stack with
one entry for each open function.
-/

namespace ScriptLint.Limits

def maximumOption : List (String × OptionType) :=
  [("max", .count)]

def maximum (context : RuleContext) (default : Int) : Int :=
  context.options.integer "max" default

/-- A finding about a function, placed from its start to that of its body. -/
def aboutHead (context : RuleContext) (function : Place) (text : String) :
    Finding :=
  let source := context.source
  let stop :=
    match function.node.field? "body" with
    | some body => source.start body
    | none => source.stop function.node
  RuleContext.between (source.start function.node) stop text

/-- The end of every message about a maximum. -/
def limitText (limit : Int) : String :=
  " Maximum allowed is " ++ toString limit ++ "."

/-- Adds to the entry of the innermost open function. -/
def addToTop (amount : Nat) : List Nat → List Nat
  | [] => []
  | top :: rest => (top + amount) :: rest

/-- A rule that keeps a count for each open function.  What a node gains is added to the
count of the innermost one, and a function is reported when it is left with a count over
the maximum. -/
def tally (others : List String) (base : Nat) (gain : Source → Node → Nat)
    (default : Int) (words : Nat → String) : Rule where
  kinds := functionKinds ++ others
  fixable := false
  options := maximumOption
  State := List Nat
  initial := []
  enter := fun context place stack =>
    if place.node.isFunction then .ok (base :: stack, [])
    else .ok (addToTop (gain context.source place.node) stack, [])
  leave := fun context place stack =>
    if place.node.isFunction then
      match stack with
      | [] => .error .emptyStack
      | count :: rest =>
          let limit := maximum context default
          if limit < count then
            .ok (rest,
              [aboutHead context place
                (context.source.functionName place ++ words count ++ limitText limit)])
          else .ok (rest, [])
    else .ok (stack, [])
  finish := fun _ _ => .ok []

/-- Kinds of nodes at which control flow branches. -/
def branchKinds : List String :=
  ["if_statement", "ternary_expression", "for_statement", "for_in_statement",
    "while_statement", "do_statement", "catch_clause", "switch_case"]

def isDecision (source : Source) (node : Node) : Bool :=
  branchKinds.contains node.kind ||
    (node.kind = "binary_expression" &&
      ["&&", "||", "??"].contains (source.textOf (node.field? "operator"))) ||
    (node.kind = "augmented_assignment_expression" &&
      ["&&=", "||=", "??="].contains (source.textOf (node.field? "operator")))

/-- Limits the number of decision points of each function. -/
def complexity : Rule :=
  tally (branchKinds ++ ["binary_expression", "augmented_assignment_expression"]) 1
    (fun source node => if isDecision source node then 1 else 0) 20
    fun count => " has a complexity of " ++ toString count ++ "."

def nestingKinds : List String :=
  ["if_statement", "switch_statement", "try_statement", "do_statement",
    "while_statement", "with_statement", "for_statement", "for_in_statement"]

/-- Whether a node starts a count of nesting of its own. -/
def isBoundary (node : Node) : Bool :=
  node.kind = "program" || node.isFunction

/-- Whether a nesting statement counts; the statement of an `else if` belongs to
the level of the first condition. -/
def nests (place : Place) : Bool :=
  place.kind ≠ "if_statement" || !place.parentIn ["else_clause"]

/-- Limits how deeply statements nest. -/
def maxDepth : Rule where
  kinds := functionKinds ++ nestingKinds ++ ["program"]
  fixable := false
  options := maximumOption
  State := List Nat
  initial := []
  enter := fun context place stack =>
    if isBoundary place.node then .ok (0 :: stack, [])
    else
      match stack with
      | [] => .ok ([], [])
      | depth :: rest =>
          if nests place then
            let limit := maximum context 4
            let deeper := depth + 1
            if limit < deeper then
              .ok (deeper :: rest,
                [context.about place.node
                  ("Blocks are nested too deeply (" ++ toString deeper ++ ")." ++
                    limitText limit)])
            else .ok (deeper :: rest, [])
          else .ok (depth :: rest, [])
  leave := fun _ place stack =>
    if isBoundary place.node then
      match stack with
      | [] => .error .emptyStack
      | _ :: rest => .ok (rest, [])
    else
      match stack with
      | [] => .ok ([], [])
      | depth :: rest =>
          if nests place then .ok ((depth - 1) :: rest, [])
          else .ok (depth :: rest, [])
  finish := fun _ _ => .ok []

/-- Limits the number of parameters of each function. -/
def maxParams : Rule :=
  Rule.onEntering functionKinds false maximumOption fun context place =>
    let count := place.node.parameterCount
    let limit := maximum context 3
    if limit < count then
      .ok
        [aboutHead context place
          (context.source.functionName place ++ " has too many parameters (" ++
            toString count ++ ")." ++ limitText limit)]
    else .ok []

/-- Limits the number of statements of each function. -/
def maxStatements : Rule :=
  tally ["statement_block"] 0 (fun _ node => node.statements.length) 10
    fun count => " has too many statements (" ++ toString count ++ ")."

end ScriptLint.Limits
