import ScriptLint.Rule.Basic
import ScriptLint.Text.Blank

/-!
# Clauses of switches

A switch has a default clause, unless a last comment says that it has none, and
its default clause stands last.
-/

namespace ScriptLint.Switches

def isClause (node : Node) : Bool :=
  node.kind = "switch_case" || node.kind = "switch_default"

def bodyNodes (node : Node) : List Node :=
  match node.field? "body" with
  | some body => body.namedChildren
  | none => []

def clauses (node : Node) : List Node :=
  (bodyNodes node).filter isClause

/-- The text of a comment without its marks and outer blanks. -/
def commentValue (text : List Char) : List Char :=
  if text.take 2 = ['/', '/'] then Text.trim (text.drop 2)
  else if text.take 2 = ['/', '*'] && text.drop (text.length - 2) = ['*', '/'] then
    Text.trim ((text.take (text.length - 2)).drop 2)
  else Text.trim text

/-- Whether a comment says that no default clause is meant. -/
def saysNoDefault (source : Source) (comment : Node) : Bool :=
  (commentValue (source.nodeText comment).toList).map Char.toLower =
    "no default".toList

def trailingComments (nodes : List Node) : List Node :=
  (nodes.reverse.takeWhile (·.kind = "comment")).reverse

def afterLastClause (nodes : List Node) : List Node :=
  (nodes.reverse.takeWhile (!isClause ·)).reverse

/-- The comments that follow the last statement of the last clause, inside the
clause and after it. -/
def closingComments (node lastClause : Node) : List Node :=
  trailingComments lastClause.namedChildren ++
    (afterLastClause (bodyNodes node)).filter (·.kind = "comment")

def defaultCase : Rule :=
  Rule.onEntering ["switch_statement"] false [] fun context place =>
    match (clauses place.node).getLast? with
    | none => .ok []
    | some last =>
        if (clauses place.node).any (·.kind = "switch_default") then .ok []
        else
          let excused :=
            match (closingComments place.node last).getLast? with
            | some comment => saysNoDefault context.source comment
            | none => false
          if excused then .ok []
          else .ok [context.about place.node "Expected a default case."]

/-- Requires the default clause to be the last one. -/
def defaultCaseLast : Rule :=
  Rule.onEntering ["switch_statement"] false [] fun context place =>
    .ok
      (((clauses place.node).dropLast.filter (·.kind = "switch_default")).map
        fun clause =>
          context.about clause "Default clause should be the last clause.")

end ScriptLint.Switches
