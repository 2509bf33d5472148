import ScriptLint.Tree.Node

/-!
# Places in a tree

A place is a node together with the way down to it, so that its parent and its
position among its siblings are known.  Two places of one tree are the same
exactly if their addresses are.
-/

namespace ScriptLint

/-- One step down a tree: the node left and the index of the child taken. -/
structure Frame where
  parent : Node
  index : Nat

/-- A node in its tree; the frames lead from it up to the root. -/
structure Place where
  node : Node
  above : List Frame

namespace Place

def ofRoot (root : Node) : Place :=
  ⟨root, []⟩

def kind (place : Place) : String :=
  place.node.kind

/-- Places of some children of a node, the first of them with a given index. -/
def childrenFrom (place : Place) (index : Nat) : List Node → List Place
  | [] => []
  | child :: rest =>
      ⟨child, ⟨place.node, index⟩ :: place.above⟩ ::
        childrenFrom place (index + 1) rest

def children (place : Place) : List Place :=
  childrenFrom place 0 place.node.children

/-- The places of the children that are constructs of the grammar. -/
def namedChildren (place : Place) : List Place :=
  place.children.filter (·.node.named)

def field? (place : Place) (name : String) : Option Place :=
  place.children.find? (·.node.field = some name)

def inField (place : Place) (name : String) : List Place :=
  place.children.filter (·.node.field = some name)

/-- The place of the parent; the root has none. -/
def parent? (place : Place) : Option Place :=
  match place.above with
  | [] => none
  | frame :: above => some ⟨frame.parent, above⟩

def parentIn (place : Place) (kinds : List String) : Bool :=
  match place.parent? with
  | some parent => kinds.contains parent.kind
  | none => false

/-- The child indexes on the way from a place up to the root. -/
def address (place : Place) : List Nat :=
  place.above.map (·.index)

/-- Whether two places of one tree hold the same node. -/
def same (left right : Place) : Bool :=
  left.address = right.address

/-- The number of nodes below and at some places. -/
def weight : List Place → Nat
  | [] => 0
  | place :: rest => place.node.size + weight rest

theorem nodes_childrenFrom (place : Place) (index : Nat) (nodes : List Node) :
    (childrenFrom place index nodes).map (·.node) = nodes := by
  induction nodes generalizing index with
  | nil => rfl
  | cons node rest induction => simp [childrenFrom, induction]

theorem nodes_children (place : Place) :
    place.children.map (·.node) = place.node.children :=
  nodes_childrenFrom place 0 place.node.children

theorem weight_eq (places : List Place) :
    weight places = Node.sizes (places.map (·.node)) := by
  induction places with
  | nil => rfl
  | cons place rest induction => simp [weight, Node.sizes, induction]

theorem weight_append (left right : List Place) :
    weight (left ++ right) = weight left + weight right := by
  simp [weight_eq, Node.sizes_append]

theorem weight_filter_le (keep : Place → Bool) (places : List Place) :
    weight (places.filter keep) ≤ weight places := by
  induction places with
  | nil => simp
  | cons place rest induction =>
      simp only [List.filter_cons]
      split
      · simp only [weight]
        omega
      · simp only [weight]
        omega

theorem weight_namedChildren_lt (place : Place) :
    weight place.namedChildren < place.node.size := by
  have kept := weight_filter_le (·.node.named) place.children
  have whole : weight place.children = Node.sizes place.node.children := by
    rw [weight_eq, nodes_children]
  rw [Node.size_eq]
  unfold namedChildren
  omega

theorem mem_children_size_lt {place child : Place}
    (member : child ∈ place.children) : child.node.size < place.node.size := by
  apply Node.size_lt_of_mem_children
  rw [← nodes_children place]
  exact List.mem_map_of_mem member

theorem mem_namedChildren_size_lt {place child : Place}
    (member : child ∈ place.namedChildren) :
    child.node.size < place.node.size :=
  mem_children_size_lt (List.mem_filter.mp member).1

theorem field?_size_lt {place child : Place} {name : String}
    (found : place.field? name = some child) :
    child.node.size < place.node.size :=
  mem_children_size_lt (List.mem_of_find?_eq_some found)

end Place

end ScriptLint
