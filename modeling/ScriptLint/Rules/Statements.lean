import ScriptLint.Rule.Basic

/-!
# Single statements and expressions

Rules that judge a node by itself: console access, loose equality, breakpoints,
old declarations, and declarations with or without a value.
-/

namespace ScriptLint.Statements

def noConsole : Rule :=
  Rule.onEntering ["member_expression"] false [] fun context place =>
    match place.node.field? "object" with
    | some object =>
        if object.kind = "identifier" &&
            context.source.nodeText object = "console" then
          .ok [context.about place.node "Unexpected console statement."]
        else .ok []
    | none => .ok []

/-- Requires equality without conversion. -/
def strictEquality : Rule :=
  Rule.onEntering ["binary_expression"] false [] fun context place =>
    match place.node.field? "operator" with
    | some operator =>
        let text := context.source.nodeText operator
        if text = "==" || text = "!=" then
          .ok
            [context.about operator
              ("Expected '" ++ text ++ "=' and instead saw '" ++ text ++ "'.")]
        else .ok []
    | none => .ok []

def noDebugger : Rule :=
  Rule.onEntering ["debugger_statement"] false [] fun context place =>
    .ok [context.about place.node "Unexpected 'debugger' statement."]

/-- Disallows declarations that are not scoped to a block. -/
def noVar : Rule :=
  Rule.onEntering ["variable_declaration"] false [] fun context place =>
    .ok [context.about place.node "Unexpected var, use let or const instead."]

/-- Kinds of declarations that hold declarators. -/
def declarationKinds : List String :=
  ["variable_declaration", "lexical_declaration"]

/-- The declaration of a declarator that is checked: ambient declarations have
no values. -/
def checkedDeclaration? (declarator : Place) : Option Place :=
  match declarator.parent? with
  | none => none
  | some declaration =>
      if declarationKinds.contains declaration.kind &&
          !declaration.parentIn ["ambient_declaration"] then
        some declaration
      else none

/-- Requires or forbids values in declarations. -/
def initDeclarations : Rule :=
  Rule.onEntering ["variable_declarator"] false
    [("mode", .choice ["always", "never"])] fun context place =>
      match checkedDeclaration? place with
      | none => .ok []
      | some declaration =>
          let source := context.source
          let mode := context.options.word "mode" "always"
          let name := source.textOf (place.node.field? "name")
          let initialized := (place.node.field? "value").isSome
          let constant :=
            source.textOf (declaration.node.field? "kind") = "const"
          if mode = "always" && !initialized then
            .ok
              [context.about place.node
                ("Variable '" ++ name ++
                  "' should be initialized on declaration.")]
          else if mode = "never" && initialized && !constant then
            .ok
              [context.about place.node
                ("Variable '" ++ name ++
                  "' should not be initialized on declaration.")]
          else .ok []

end ScriptLint.Statements
