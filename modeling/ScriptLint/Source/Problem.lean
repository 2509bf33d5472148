import ScriptLint.Source.Basic
import ScriptLint.Text.Blank

/-!
# Syntax problems

A tree with errors is not checked; its first problem is reported instead.  The
search goes through all children in document order and leaves out every subtree
that is not marked as having an error.
-/

namespace ScriptLint

/-- The first syntax problem of a text. -/
structure Problem where
  position : Position
  detail : String
deriving DecidableEq, Repr

namespace Node

def isProblem (node : Node) : Bool :=
  node.missing || node.kind = "ERROR"

/-- Works off a list of nodes and finds the first problem, looking below those
nodes only that are marked. -/
def firstProblem? : List Node → Option Node
  | [] => none
  | node :: rest =>
      if node.isProblem then some node
      else if node.hasError then firstProblem? (node.children ++ rest)
      else firstProblem? rest
termination_by pending => sizes pending
decreasing_by
  · have whole := size_eq node
    simp only [sizes_append, sizes]
    omega
  · have positive := size_pos node
    simp only [sizes]
    omega

end Node

namespace Source

/-- The first twenty characters of the first word of a text. -/
def snippet (text : List Char) : String :=
  match Text.firstWord text with
  | [] => "end of input"
  | word => String.ofList (word.take 20)

/-- What is said about a node that is a problem. -/
def problemDetail (source : Source) (node : Node) : String :=
  if node.missing then "'" ++ node.kind ++ "' expected."
  else "Unexpected token " ++ snippet ((source.fileText? node).getD [])

/-- The problem of a source, if its tree is marked as having an error. -/
def problem? (source : Source) : Option Problem :=
  if source.root.hasError then
    match Node.firstProblem? [source.root] with
    | some node => some ⟨source.start node, source.problemDetail node⟩
    | none => some ⟨source.start source.root, "Unexpected token"⟩
  else none

end Source

end ScriptLint
