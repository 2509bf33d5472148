import ScriptLint.Rule.Basic
import ScriptLint.Text.LetterCase
import ScriptLint.Tree.Scope

/-!
# Camel case

Declared names, and properties if they are checked, hold no low line inside
unless they are written in upper case throughout.  Each range is reported once.
-/

namespace ScriptLint.CamelCase

/-- A name without the low lines at its ends. -/
def withoutOuterLines (name : List Char) : List Char :=
  ((name.dropWhile (· = '_')).reverse.dropWhile (· = '_')).reverse

/-- Whether a name is joined by low lines and not all in upper case. -/
def isUnderscored (name : List Char) : Bool :=
  let inner := withoutOuterLines name
  inner.contains '_' && inner.any Text.changesInUpper

def checksProperties (context : RuleContext) : Bool :=
  context.options.word "properties" "always" = "always"

/-- Kinds of nodes whose property names are checked. -/
def propertyKinds : List String :=
  ["pair", "method_definition", "field_definition", "public_field_definition"]

/-- Kinds of nodes whose own names are checked. -/
def namedKinds : List String :=
  ["function_declaration", "function_expression", "function",
    "generator_function_declaration", "generator_function", "class_declaration",
    "class"]

/-- Kinds of nodes with patterns whose names are checked. -/
def patternKinds : List String :=
  ["variable_declarator", "formal_parameters", "arrow_function", "catch_clause"]

/-- The patterns of a node of such a kind. -/
def patterns (place : Place) : List Place :=
  if place.kind = "variable_declarator" then (place.field? "name").toList
  else if place.kind = "formal_parameters" then place.namedChildren
  else (place.field? "parameter").toList

/-- Whether the patterns of a node can be followed.  A node is entered within one call
more than a rule needs to finish. -/
def isFollowed (place : Place) : Bool :=
  !patternKinds.contains place.kind ||
    (patterns place).all (Place.isFollowable (Place.callLimit - 1))

def checkedNodes (properties : Bool) (place : Place) : List Node :=
  let kind := place.kind
  let node := place.node
  if patternKinds.contains kind then
    ((patterns place).flatMap Place.boundNames).map (·.node)
  else if kind = "import_specifier" then
    ((node.field? "alias").or (node.field? "name")).toList
  else if kind = "import_clause" || kind = "namespace_import" then
    node.namedChildren.filter (·.kind = "identifier")
  else if propertyKinds.contains kind then
    if properties then
      let key :=
        (node.field? "key").or
          ((node.field? "name").or (node.field? "property"))
      key.toList.filter fun key =>
        key.kind = "property_identifier" || key.kind = "identifier"
    else []
  else if kind = "assignment_expression" then
    match node.field? "left" with
    | some left =>
        if properties && left.kind = "member_expression" then
          (left.field? "property").toList
        else []
    | none => []
  else
    (node.field? "name").toList.filter fun name =>
      name.kind = "identifier" || name.kind = "type_identifier"

/-- Checks nodes one after another, remembering the ranges that were
reported. -/
def check (context : RuleContext) :
    List Node → List (Nat × Nat) → List (Nat × Nat) × List Finding
  | [], reported => (reported, [])
  | node :: rest, reported =>
      let name := context.source.nodeText node
      if reported.contains node.range || !isUnderscored name.toList then
        check context rest reported
      else
        let (final, findings) := check context rest (node.range :: reported)
        (final,
          context.about node
              ("Identifier '" ++ name ++ "' is not in camel case.") ::
            findings)

/-- Requires camel case for declared names and written properties. -/
def camelCase : Rule where
  kinds :=
    patternKinds ++ ["import_specifier", "import_clause", "namespace_import",
      "assignment_expression"] ++ propertyKinds ++ namedKinds
  fixable := false
  options := [("properties", .choice ["always", "never"])]
  State := List (Nat × Nat)
  initial := []
  enter := fun context place reported =>
    if isFollowed place then
      .ok (check context (checkedNodes (checksProperties context) place) reported)
    else .error .tooDeep
  leave := fun _ _ reported => .ok (reported, [])
  finish := fun _ _ => .ok []

end ScriptLint.CamelCase
