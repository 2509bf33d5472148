import ScriptLint.Proofs.Tree.Nodes
import ScriptLint.Tree.Walk

/-!
# What walks come across

Walks only come across nodes of their tree.  The plain walk of a place is the
place followed by the walks of its named children, and it lists the places that
the traversal enters.
-/

namespace ScriptLint

namespace Place

theorem node_mem_of_mem_children {child place : Place}
    (member : child ∈ place.children) : child.node ∈ place.node.children := by
  rw [← nodes_children place]
  exact List.mem_map_of_mem member

theorem node_mem_of_mem_namedChildren {child place : Place}
    (member : child ∈ place.namedChildren) :
    child.node ∈ place.node.children ∧ child.node.named = true := by
  obtain ⟨isChild, named⟩ := List.mem_filter.mp member
  exact ⟨node_mem_of_mem_children isChild, named⟩

theorem node_mem_of_field? {child place : Place} {name : String}
    (found : place.field? name = some child) :
    child.node ∈ place.node.children :=
  node_mem_of_mem_children (List.mem_of_find?_eq_some found)

theorem mem_nodes_of_field? {child place : Place} {tree : Node} {name : String}
    (found : place.field? name = some child) (held : place.node ∈ tree.nodes) :
    child.node ∈ tree.nodes :=
  Node.mem_nodes_of_mem_children (node_mem_of_field? found) held

theorem node_mem_of_mem_boundNames {tree : Node} {place : Place}
    (held : place.node ∈ tree.nodes) :
    ∀ bound ∈ place.boundNames, bound.node ∈ tree.nodes := by
  intro bound member
  rw [boundNames] at member
  split at member
  · rw [List.mem_singleton.mp member]
    exact held
  · split at member
    · rename_i child found
      have smaller := field?_size_lt found
      have below := mem_nodes_of_field? found held
      exact node_mem_of_mem_boundNames below bound member
    · simp at member
  · obtain ⟨⟨child, isChild⟩, -, boundBelow⟩ := List.mem_flatMap.mp member
    have below := Node.mem_nodes_of_mem_children
      (node_mem_of_mem_namedChildren isChild).1 held
    exact node_mem_of_mem_boundNames below bound boundBelow
  · simp at member
termination_by place.node.size
decreasing_by
  · exact smaller
  · exact mem_namedChildren_size_lt isChild

theorem node_mem_of_mem_boundInField {tree : Node} {place : Place} {name : String}
    (held : place.node ∈ tree.nodes) :
    ∀ bound ∈ place.boundInField name, bound.node ∈ tree.nodes := by
  intro bound member
  unfold boundInField at member
  split at member
  · rename_i pattern found
    have below := mem_nodes_of_field? found held
    exact node_mem_of_mem_boundNames below bound member
  · simp at member

theorem node_mem_of_mem_parameters {tree : Node} {function : Place}
    (held : function.node ∈ tree.nodes) :
    ∀ parameter ∈ function.parameters, parameter.node ∈ tree.nodes := by
  intro parameter isParameter
  unfold parameters at isParameter
  split at isParameter
  · rename_i single found
    rw [List.mem_singleton.mp isParameter]
    exact mem_nodes_of_field? found held
  · rename_i list _ found
    have isChild := (node_mem_of_mem_namedChildren (List.mem_filter.mp isParameter).1).1
    have listHeld := mem_nodes_of_field? found held
    exact Node.mem_nodes_of_mem_children isChild listHeld
  · simp at isParameter

theorem node_mem_of_mem_parameterGroups {tree : Node} {place : Place}
    (held : place.node ∈ tree.nodes) :
    ∀ group ∈ place.parameterGroups, ∀ bound ∈ group, bound.node ∈ tree.nodes := by
  intro group groupMember bound member
  obtain ⟨parameter, isParameter, rfl⟩ := List.mem_map.mp groupMember
  exact node_mem_of_mem_boundNames (node_mem_of_mem_parameters held parameter isParameter)
    bound member

theorem pairwise_namedChildren {tree : Node} {place : Place} (ordered : tree.IsOrdered)
    (held : place.node ∈ tree.nodes) :
    place.namedChildren.Pairwise (·.node.endByte ≤ ·.node.startByte) := by
  have nodes := ordered.pairwise_children held
  rw [← nodes_children, List.pairwise_map] at nodes
  exact nodes.sublist List.filter_sublist

theorem walkAll_append (first second : List Place) :
    walkAll (first ++ second) = walkAll first ++ walkAll second := by
  induction first using walkAll.induct with
  | case1 => simp [walkAll]
  | case2 place rest induction =>
      rw [List.cons_append, walkAll, ← List.append_assoc, induction, walkAll,
        List.cons_append]

theorem walkAll_eq_flatMap (places : List Place) :
    walkAll places = places.flatMap walk := by
  induction places with
  | nil => simp [walkAll]
  | cons place rest induction =>
      rw [← List.singleton_append, walkAll_append, induction]
      simp [walk]

theorem walk_eq (place : Place) :
    place.walk = place :: place.namedChildren.flatMap walk := by
  rw [walk, walkAll, List.append_nil, walkAll_eq_flatMap]

theorem node_mem_of_mem_walk {place found : Place} (member : found ∈ place.walk) :
    found.node ∈ place.node.nodes := by
  rw [walk_eq] at member
  rcases List.mem_cons.mp member with rfl | below
  · exact Node.self_mem_nodes found.node
  · obtain ⟨child, isChild, foundBelow⟩ := List.mem_flatMap.mp below
    apply Node.mem_nodes.mpr
    exact .inr ⟨child.node, (node_mem_of_mem_namedChildren isChild).1,
      node_mem_of_mem_walk foundBelow⟩
termination_by place.node.size
decreasing_by exact mem_namedChildren_size_lt isChild

end Place

namespace Visit

def entered (visits : List Visit) : List Place :=
  visits.filterMap fun visit =>
    match visit with
    | enter place => some place
    | leave _ => none

@[simp]
theorem entered_nil : entered [] = [] :=
  rfl

@[simp]
theorem entered_enter_cons (place : Place) (rest : List Visit) :
    entered (enter place :: rest) = place :: entered rest :=
  rfl

@[simp]
theorem entered_leave_cons (place : Place) (rest : List Visit) :
    entered (leave place :: rest) = entered rest :=
  rfl

theorem entered_map_enter_append (places : List Place) (rest : List Visit) :
    entered (places.map enter ++ rest) = places ++ entered rest := by
  induction places with
  | nil => rfl
  | cons place places induction => simp [induction]

theorem entered_run (pending : List Visit) :
    entered (run pending) = Place.walkAll (entered pending) := by
  induction pending using run.induct with
  | case1 => simp [run, Place.walkAll]
  | case2 place rest induction => rw [run, entered_leave_cons, induction, entered_leave_cons]
  | case3 place rest induction =>
      rw [run, entered_enter_cons, induction, entered_map_enter_append,
        entered_leave_cons, entered_enter_cons, Place.walkAll]

theorem entered_ofRoot (root : Node) :
    entered (ofRoot root) = (Place.ofRoot root).walk := by
  rw [ofRoot, entered_run]
  rfl

/-- A property of nodes that goes over to named children holds at all visits if it
holds at the pending ones. -/
theorem of_mem_run {holds : Node → Prop}
    (passedOn : ∀ node, holds node → ∀ child ∈ node.children, holds child)
    {pending : List Visit} (initially : ∀ visit ∈ pending, holds visit.place.node) :
    ∀ visit ∈ run pending, holds visit.place.node := by
  induction pending using run.induct with
  | case1 => simp [run]
  | case2 place rest induction =>
      rw [run, List.forall_mem_cons]
      obtain ⟨now, later⟩ := List.forall_mem_cons.mp initially
      exact ⟨now, induction later⟩
  | case3 place rest induction =>
      rw [run, List.forall_mem_cons]
      obtain ⟨now, later⟩ := List.forall_mem_cons.mp initially
      refine ⟨now, induction ?_⟩
      intro visit member
      rcases List.mem_append.mp member with isBelow | scheduled
      · obtain ⟨child, isChild, rfl⟩ := List.mem_map.mp isBelow
        exact passedOn place.node now child.node
          (Place.node_mem_of_mem_namedChildren isChild).1
      · rcases List.mem_cons.mp scheduled with rfl | afterwards
        · exact now
        · exact later visit afterwards

theorem node_mem_of_mem_ofRoot {root : Node} :
    ∀ visit ∈ ofRoot root, visit.place.node ∈ root.nodes := by
  apply of_mem_run
  · intro node held child isChild
    exact Node.mem_nodes_of_mem_children isChild held
  · intro visit member
    rw [List.mem_singleton.mp member]
    exact Node.self_mem_nodes root

end Visit

end ScriptLint
