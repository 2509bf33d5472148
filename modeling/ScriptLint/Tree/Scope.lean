import ScriptLint.Tree.Place

/-!
# Functions, patterns and blocks

What the rules ask about constructs: which names a pattern binds, which
parameters a function has, and which statements a block holds.  A pattern is followed
to its names by calls inside one another, and there is room for a limited number of
these.
-/

namespace ScriptLint

def functionKinds : List String :=
  ["function_declaration", "function_expression", "function",
    "generator_function_declaration", "generator_function", "arrow_function",
    "method_definition"]

namespace Node

def isFunction (node : Node) : Bool :=
  functionKinds.contains node.kind

/-- Whether a node is marked as asynchronous. -/
def isAsync (node : Node) : Bool :=
  node.children.any (·.kind = "async")

/-- Children that are constructs other than comments. -/
def codeChildren (node : Node) : List Node :=
  node.namedChildren.filter (·.kind ≠ "comment")

/-- The statements of a block, a program or a clause of a switch. -/
def statements (block : Node) : List Node :=
  if block.kind = "switch_case" || block.kind = "switch_default" then
    (block.inField "body").filter (·.kind ≠ "comment")
  else block.codeChildren

/-- The number of parameters that a function declares. -/
def parameterCount (function : Node) : Nat :=
  match function.field? "parameter", function.field? "parameters" with
  | some _, _ => 1
  | none, some parameters => parameters.codeChildren.length
  | none, none => 0

end Node

namespace Place

/-- How a pattern passes binding on to the nodes below it. -/
inductive Binding where
  | itself
  | field (name : String)
  | namedChildren
  | nothing
deriving DecidableEq, Repr

/-- How nodes of a kind bind names. -/
def bindingOf (kind : String) : Binding :=
  if kind = "identifier" || kind = "shorthand_property_identifier_pattern" then
    .itself
  else if kind = "assignment_pattern" || kind = "object_assignment_pattern" then
    .field "left"
  else if kind = "pair_pattern" then .field "value"
  else if kind = "required_parameter" || kind = "optional_parameter" then
    .field "pattern"
  else if kind = "object_pattern" || kind = "array_pattern" ||
      kind = "rest_pattern" then
    .namedChildren
  else .nothing

/-- The identifiers that a pattern binds, in document order. -/
def boundNames (place : Place) : List Place :=
  match bindingOf place.kind with
  | .itself => [place]
  | .field name =>
      match found : place.field? name with
      | some child =>
          have := field?_size_lt found
          boundNames child
      | none => []
  | .namedChildren =>
      place.namedChildren.attach.flatMap fun child => boundNames child.val
  | .nothing => []
termination_by place.node.size
decreasing_by
  · assumption
  · exact mem_namedChildren_size_lt child.property

/-- How many calls inside one another there is room for when a rule finishes in the
thread that checks a text. -/
def callLimit : Nat := 992

/-- Whether there is room for the calls by which a pattern is followed: one for each
pattern on the way, and one to see that a field is missing. -/
def isFollowable : Nat → Place → Bool
  | 0, _ => false
  | room + 1, pattern =>
      match bindingOf pattern.kind with
      | .field name =>
          match pattern.field? name with
          | some child => isFollowable room child
          | none => room ≠ 0
      | .namedChildren => pattern.namedChildren.all (isFollowable room)
      | .itself => true
      | .nothing => true

/-- The identifiers bound by the pattern in a field, if there is one. -/
def boundInField (place : Place) (name : String) : List Place :=
  match place.field? name with
  | some pattern => pattern.boundNames
  | none => []

/-- Children that are constructs other than comments. -/
def codeChildren (place : Place) : List Place :=
  place.namedChildren.filter (·.kind ≠ "comment")

def parameters (function : Place) : List Place :=
  match function.field? "parameter", function.field? "parameters" with
  | some single, _ => [single]
  | none, some list => list.codeChildren
  | none, none => []

/-- The bound identifiers of each parameter of a function, in order. -/
def parameterGroups (function : Place) : List (List Place) :=
  function.parameters.map boundNames

end Place

end ScriptLint
