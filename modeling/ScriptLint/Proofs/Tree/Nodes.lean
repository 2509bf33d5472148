import Mathlib.Data.List.Chain
import ScriptLint.Tree.Scope

/-!
# The nodes of a tree

A tree holds its root and everything below.  Ranges of an ordered tree end where
they start or later, and siblings follow each other; in a nested tree every node
lies in the range of its parent besides.  What rules take from a node is always
some of its children, so it keeps their order.
-/

namespace ScriptLint

namespace Node

mutual

/-- A node and everything below it, in document order. -/
def nodes : Node → List Node
  | node@⟨_, _, _, _, _, _, _, children⟩ => node :: nodesOf children

def nodesOf : List Node → List Node
  | [] => []
  | node :: rest => nodes node ++ nodesOf rest

end

theorem nodes_eq (node : Node) : node.nodes = node :: nodesOf node.children := by
  cases node
  rfl

theorem mem_nodesOf {node : Node} {trees : List Node} :
    node ∈ nodesOf trees ↔ ∃ tree ∈ trees, node ∈ tree.nodes := by
  induction trees with
  | nil => simp [nodesOf]
  | cons tree rest induction => simp [nodesOf, induction]

theorem mem_nodes {node tree : Node} :
    node ∈ tree.nodes ↔ node = tree ∨ ∃ child ∈ tree.children, node ∈ child.nodes := by
  rw [nodes_eq, List.mem_cons, mem_nodesOf]

theorem self_mem_nodes (node : Node) : node ∈ node.nodes :=
  mem_nodes.mpr (.inl rfl)

theorem mem_nodes_trans {inner outer tree : Node} (innerMember : inner ∈ outer.nodes)
    (outerMember : outer ∈ tree.nodes) : inner ∈ tree.nodes := by
  rcases mem_nodes.mp outerMember with rfl | ⟨child, childMember, below⟩
  · exact innerMember
  · apply mem_nodes.mpr
    exact .inr ⟨child, childMember, mem_nodes_trans innerMember below⟩
termination_by tree.size
decreasing_by exact size_lt_of_mem_children childMember

theorem mem_nodes_of_mem_children {child node tree : Node}
    (member : child ∈ node.children) (held : node ∈ tree.nodes) :
    child ∈ tree.nodes :=
  mem_nodes_trans (mem_nodes.mpr (.inr ⟨child, member, self_mem_nodes child⟩)) held

theorem mem_children_of_field? {node child : Node} {name : String}
    (found : node.field? name = some child) : child ∈ node.children :=
  List.mem_of_find?_eq_some found

theorem codeChildren_sublist (node : Node) :
    node.codeChildren.Sublist node.children :=
  List.filter_sublist.trans List.filter_sublist

theorem statements_sublist (block : Node) :
    block.statements.Sublist block.children := by
  unfold statements
  split
  · exact List.filter_sublist.trans List.filter_sublist
  · exact block.codeChildren_sublist

/-- Nodes end where they start or later, and each child ends before the next one
starts or there. -/
def IsOrdered (tree : Node) : Prop :=
  ∀ node ∈ tree.nodes, node.startByte ≤ node.endByte ∧
    node.children.IsChain (·.endByte ≤ ·.startByte)

/-- A node lies in the range of another. -/
def IsInside (inner outer : Node) : Prop :=
  outer.startByte ≤ inner.startByte ∧ inner.endByte ≤ outer.endByte

/-- The tree is ordered, and every node lies in the range of its parent. -/
def IsNested (tree : Node) : Prop :=
  tree.IsOrdered ∧
    ∀ node ∈ tree.nodes, ∀ child ∈ node.children, child.IsInside node

/-- Where each node ends before the next one starts, it ends before all later
ones start. -/
theorem pairwise_of_isChain {nodes : List Node}
    (proper : ∀ node ∈ nodes, node.startByte ≤ node.endByte)
    (chained : nodes.IsChain (·.endByte ≤ ·.startByte)) :
    nodes.Pairwise (·.endByte ≤ ·.startByte) := by
  induction nodes with
  | nil => exact .nil
  | cons first rest induction =>
      have later := induction
        (fun node member => proper node (List.mem_cons_of_mem first member)) chained.tail
      refine .cons ?_ later
      intro node member
      cases rest with
      | nil => simp at member
      | cons second others =>
          have secondProper := proper second (by simp)
          have next : first.endByte ≤ second.startByte := by
            simpa using (List.isChain_cons_cons.mp chained).1
          rcases List.mem_cons.mp member with rfl | afterSecond
          · exact next
          · have behind := List.rel_of_pairwise_cons later afterSecond
            omega

theorem IsOrdered.pairwise_children {tree node : Node} (ordered : tree.IsOrdered)
    (held : node ∈ tree.nodes) :
    node.children.Pairwise (·.endByte ≤ ·.startByte) := by
  apply pairwise_of_isChain
  · intro child member
    exact (ordered child (mem_nodes_of_mem_children member held)).1
  · exact (ordered node held).2

theorem IsOrdered.pairwise_statements {tree node : Node} (ordered : tree.IsOrdered)
    (held : node ∈ tree.nodes) :
    node.statements.Pairwise (·.endByte ≤ ·.startByte) :=
  (ordered.pairwise_children held).sublist node.statements_sublist

end Node

end ScriptLint
