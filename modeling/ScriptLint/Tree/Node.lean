/-!
# Syntax trees

A node covers a range of bytes of the parsed text and may stand in a named
field of its parent.  Named nodes are the grammar's constructs, the others its
tokens.
-/

namespace ScriptLint

/-- A node of a syntax tree with everything below it. -/
structure Node where
  kind : String
  named : Bool
  missing : Bool
  hasError : Bool
  startByte : Nat
  endByte : Nat
  field : Option String
  children : List Node

namespace Node

/-- The bytes a node covers; two bindings are the same if their ranges are. -/
def range (node : Node) : Nat × Nat :=
  (node.startByte, node.endByte)

/-- The children that are constructs of the grammar. -/
def namedChildren (node : Node) : List Node :=
  node.children.filter (·.named)

def field? (node : Node) (name : String) : Option Node :=
  node.children.find? (·.field = some name)

def inField (node : Node) (name : String) : List Node :=
  node.children.filter (·.field = some name)

mutual

/-- The number of nodes of a tree. -/
def size : Node → Nat
  | ⟨_, _, _, _, _, _, _, children⟩ => 1 + sizes children

/-- The number of nodes of several trees. -/
def sizes : List Node → Nat
  | [] => 0
  | node :: rest => size node + sizes rest

end

theorem size_eq (node : Node) : node.size = 1 + sizes node.children := by
  cases node
  rfl

theorem size_pos (node : Node) : 0 < node.size := by
  rw [size_eq]
  omega

theorem sizes_append (left right : List Node) :
    sizes (left ++ right) = sizes left + sizes right := by
  induction left with
  | nil => simp [sizes]
  | cons node rest induction => simp [sizes, induction, Nat.add_assoc]

theorem size_le_sizes {node : Node} {nodes : List Node}
    (member : node ∈ nodes) : node.size ≤ sizes nodes := by
  induction nodes with
  | nil => simp at member
  | cons head rest induction =>
      simp only [sizes]
      rcases List.mem_cons.mp member with rfl | inRest
      · omega
      · have := induction inRest
        omega

theorem size_lt_of_mem_children {node child : Node}
    (member : child ∈ node.children) : child.size < node.size := by
  have below := size_le_sizes member
  rw [size_eq node]
  omega

end Node

end ScriptLint
