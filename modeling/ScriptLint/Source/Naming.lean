import ScriptLint.Source.Basic
import ScriptLint.Tree.Scope

/-!
# Names of functions

How messages speak about a function: its kind, whether it is asynchronous, and
its own name or that of the property it is the value of.
-/

namespace ScriptLint

/-- A word with its first letter in upper case. -/
def capitalized (word : String) : String :=
  match word.toList with
  | [] => ""
  | first :: rest => String.ofList (first.toUpper :: rest)

def labelled (kind : String) : Option String → String
  | some name => capitalized kind ++ " '" ++ name ++ "'"
  | none => capitalized kind

def functionWord (kind : String) : String :=
  if kind = "arrow_function" then "arrow function"
  else if kind.startsWith "generator_function" then "generator function"
  else "function"

namespace Source

/-- The property that a function is the value of, and whether it belongs to an
object literal. -/
def ownerName? (function : Place) : Option (Option Node × Bool) :=
  match function.parent? with
  | none => none
  | some parent =>
      if ["pair", "field_definition", "public_field_definition"].contains
          parent.kind then
        some ((parent.node.field? "key").or (parent.node.field? "property"),
          parent.kind = "pair")
      else none

/-- The description of a function in messages. -/
def functionName (source : Source) (function : Place) : String :=
  let node := function.node
  let async := if node.isAsync then "async " else ""
  let own := node.field? "name"
  if node.kind = "method_definition" then
    let name := source.textOf own
    if name = "constructor" then "Constructor"
    else labelled (async ++ "method") (some name)
  else
    let word := functionWord node.kind
    match own, ownerName? function with
    | none, some (owner, inObject) =>
        labelled (async ++ if inObject then "method" else word)
          (owner.map source.nodeText)
    | own, _ => labelled (async ++ word) (own.map source.nodeText)

end Source

end ScriptLint
