import ScriptLint.Rule.Basic
import ScriptLint.Tree.Scope

/-!
# Unused names

Names are compared by their text within one file.  A declaration is unused if no
identifier of its name is read anywhere in the file.  Parameters are judged
within their own function, and only those after the last one that is read there.
Reading means that an identifier is neither a binding nor a mere target of an
assignment.
-/

namespace ScriptLint.UnusedNames

/-- Kinds of declarations that hold declarators. -/
def declarationKinds : List String :=
  ["variable_declaration", "lexical_declaration"]

/-- Whether the first frame that is no declaration of declarators exports or
merely announces what lies below it. -/
def exportedFrom : List Frame → Bool
  | [] => false
  | frame :: above =>
      if declarationKinds.contains frame.parent.kind then exportedFrom above
      else
        ["export_statement", "ambient_declaration"].contains frame.parent.kind

/-- Whether a declaration is meant for other files. -/
def isExported (place : Place) : Bool :=
  exportedFrom place.above

/-- A declared identifier and whether it was given a value. -/
structure Declaration where
  name : Place
  hasValue : Bool

/-- The identifiers that a node binds, parameters apart, and which of them it
declares for the file. -/
structure Bindings where
  bound : List Place
  declared : List Declaration

/-- Bindings that are all declared in the same way. -/
def Bindings.declaring (names : List Place) (hasValue exported : Bool) :
    Bindings :=
  ⟨names, if exported then [] else names.map (⟨·, hasValue⟩)⟩

def Bindings.only (names : List Place) : Bindings :=
  ⟨names, []⟩

def bindingsOf (place : Place) : Bindings :=
  let kind := place.kind
  let name := (place.field? "name").toList
  if kind = "variable_declarator" then
    if place.parentIn declarationKinds then
      .declaring (place.boundInField "name") (place.field? "value").isSome
        (isExported place)
    else .only []
  else if kind = "for_in_statement" then
    if (place.field? "kind").isSome then
      .declaring (place.boundInField "left") true false
    else .only []
  else if kind = "function_declaration" ||
      kind = "generator_function_declaration" || kind = "class_declaration" then
    .declaring name false (isExported place)
  else if kind = "import_specifier" then
    let locals := ((place.field? "alias").or (place.field? "name")).toList
    ⟨locals ++ name, locals.map (⟨·, false⟩)⟩
  else if kind = "import_clause" || kind = "namespace_import" then
    .declaring (place.namedChildren.filter (·.kind = "identifier")) false false
  else if kind = "function_expression" || kind = "function" ||
      kind = "generator_function" then
    .only name
  else if kind = "catch_clause" then .only (place.boundInField "parameter")
  else .only []

/-- The patterns that a node binds names by, parameters apart. -/
def bindingPatterns (place : Place) : List Place :=
  let kind := place.kind
  if kind = "variable_declarator" then
    if place.parentIn declarationKinds then (place.field? "name").toList else []
  else if kind = "for_in_statement" then
    if (place.field? "kind").isSome then (place.field? "left").toList else []
  else if kind = "catch_clause" then (place.field? "parameter").toList
  else []

/-- Whether the patterns and parameters of a node can be followed.  The parameters are
gathered within two calls more. -/
def isFollowed (place : Place) : Bool :=
  (bindingPatterns place).all (Place.isFollowable Place.callLimit) &&
    (!place.node.isFunction ||
      place.parameters.all (Place.isFollowable (Place.callLimit - 2)))

/-- The identifiers that the parameters of a node bind, if it is a function. -/
def parametersOf (place : Place) : List Place :=
  if place.node.isFunction then place.parameterGroups.flatten else []

/-- The ranges of all bindings of a file. -/
def bindingRanges (places : List Place) : List (Nat × Nat) :=
  places.flatMap fun place =>
    ((bindingsOf place).bound ++ parametersOf place).map (·.node.range)

/-- The declarations of a file in document order. -/
def declarations (places : List Place) : List Declaration :=
  places.flatMap fun place => (bindingsOf place).declared

/-- The names that stand alone on the left of an assignment. -/
def assignedNames (source : Source) (places : List Place) : List String :=
  places.filterMap fun place =>
    if place.kind = "assignment_expression" then
      match place.node.field? "left" with
      | some left =>
          if left.kind = "identifier" then some (source.nodeText left) else none
      | none => none
    else none

/-- Whether a place is the first child in a field of a parent. -/
def isTarget (place parent : Place) (field : String) : Bool :=
  match parent.field? field with
  | some target => target.same place
  | none => false

/-- Whether an identifier is only written to: the left side of an assignment, or
the operand of an update whose value is dropped. -/
def isWriteOnly (place : Place) : Bool :=
  match place.parent? with
  | none => false
  | some parent =>
      if parent.kind = "assignment_expression" then isTarget place parent "left"
      else if parent.kind = "augmented_assignment_expression" then
        isTarget place parent "left" && parent.parentIn ["expression_statement"]
      else if parent.kind = "update_expression" then
        isTarget place parent "argument" &&
          parent.parentIn ["expression_statement"]
      else false

/-- Kinds of nodes that may read a name. -/
def readingKinds : List String :=
  ["identifier", "shorthand_property_identifier", "type_identifier"]

def isRead (bound : List (Nat × Nat)) (place : Place) : Bool :=
  readingKinds.contains place.kind && !bound.contains place.node.range &&
    !isWriteOnly place

def readNames (source : Source) (bound : List (Nat × Nat))
    (places : List Place) : List String :=
  (places.filter (isRead bound)).map fun place => source.nodeText place.node

/-- The findings about the declarations of a file. -/
def unusedDeclarations (context : RuleContext) (places : List Place)
    (bound : List (Nat × Nat)) : List Finding :=
  let source := context.source
  let reads := readNames source bound places
  let assigned := assignedNames source places
  (declarations places).filterMap fun declaration =>
    let name := source.nodeText declaration.name.node
    if reads.contains name then none
    else if declaration.hasValue || assigned.contains name then
      some (context.about declaration.name.node
        ("'" ++ name ++ "' is assigned a value but never used."))
    else
      some (context.about declaration.name.node
        ("'" ++ name ++ "' is defined but never used."))

/-- Whether a bound identifier stands beside an accessibility modifier, so that
it is a member of its class. -/
def isMember (name : Place) : Bool :=
  match name.parent? with
  | some parent => parent.node.children.any (·.kind = "accessibility_modifier")
  | none => false

/-- The groups after the last one with a name that is read. -/
def afterLastUsed (used : List Place → Bool) (groups : List (List Place)) :
    List (List Place) :=
  (groups.reverse.takeWhile (!used ·)).reverse

/-- The findings about the parameters of a function. -/
def unusedParameters (context : RuleContext) (bound : List (Nat × Nat))
    (function : Place) : List Finding :=
  let source := context.source
  let groups := function.parameterGroups.filter (!·.any isMember)
  let reads :=
    match function.field? "body" with
    | some body => readNames source bound body.walk
    | none => []
  let isUsed (name : Place) : Bool := reads.contains (source.nodeText name.node)
  ((afterLastUsed (·.any isUsed) groups).flatten.filter fun name =>
      source.nodeText name.node ≠ "this" && !isUsed name).map
    fun name =>
      context.about name.node
        ("'" ++ source.nodeText name.node ++ "' is defined but never used.")

/-- The findings about a file. -/
def unusedNames (context : RuleContext) : List Finding :=
  let places := context.source.walk
  let bound := bindingRanges places
  unusedDeclarations context places bound ++
    (places.filter (·.node.isFunction)).flatMap (unusedParameters context bound)

/-- Reports declared names that are never read. -/
def noUnusedVars : Rule :=
  Rule.atEnd [] fun context =>
    if context.source.walk.all isFollowed then .ok (unusedNames context)
    else .error .tooDeep

end ScriptLint.UnusedNames
