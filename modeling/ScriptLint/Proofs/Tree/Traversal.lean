import Mathlib.Data.List.Perm.Basic
import ScriptLint.Proofs.Tree.Walk

/-!
# The traversal as a recursion

The traversal keeps a list of the visits that are still to be made.  It makes the
visits of the recursion that enters a place, visits its named children in order
and leaves the place.  So every place that is reached through named children is
entered once and left once, and what lies below it is visited in between.
-/

namespace ScriptLint

namespace Place

/-- Going down to named children leads from one place to another. -/
inductive Reaches : Place → Place → Prop where
  | here (place : Place) : Reaches place place
  | down {place child found : Place} (isChild : child ∈ place.namedChildren)
      (later : Reaches child found) : Reaches place found

theorem induction_namedChildren {holds : Place → Prop}
    (step : ∀ place, (∀ child ∈ place.namedChildren, holds child) → holds place)
    (place : Place) : holds place := by
  apply step
  intro child isChild
  exact induction_namedChildren step child
termination_by place.node.size
decreasing_by exact mem_namedChildren_size_lt isChild

theorem mem_walk_iff {place found : Place} : found ∈ place.walk ↔ place.Reaches found := by
  constructor
  · induction place using induction_namedChildren with
    | step place induction =>
        intro member
        rw [walk_eq] at member
        rcases List.mem_cons.mp member with rfl | below
        · exact .here found
        · obtain ⟨child, isChild, foundBelow⟩ := List.mem_flatMap.mp below
          exact .down isChild (induction child isChild foundBelow)
  · intro reached
    induction reached with
    | here place =>
        rw [walk_eq]
        exact List.mem_cons_self
    | down isChild _ induction =>
        rw [walk_eq]
        apply List.mem_cons_of_mem
        exact List.mem_flatMap.mpr ⟨_, isChild, induction⟩

/-- What a walk of a nested tree comes across lies in the range of the place that it
starts from. -/
theorem isInside_of_mem_walk {tree : Node} {place found : Place} (nested : tree.IsNested)
    (held : place.node ∈ tree.nodes) (member : found ∈ place.walk) :
    found.node.IsInside place.node := by
  induction mem_walk_iff.mp member with
  | here place => exact ⟨Nat.le_refl _, Nat.le_refl _⟩
  | @down place child found isChild later induction =>
      have isNode := (node_mem_of_mem_namedChildren isChild).1
      have below := nested.2 _ held _ isNode
      have inside := induction (Node.mem_nodes_of_mem_children isNode held)
        (mem_walk_iff.mpr later)
      exact ⟨below.1.trans inside.1, inside.2.trans below.2⟩

theorem pairwise_walk {tree : Node} {place : Place} (nested : tree.IsNested)
    (held : place.node ∈ tree.nodes) :
    place.walk.Pairwise (·.node.startByte ≤ ·.node.startByte) := by
  induction place using induction_namedChildren with
  | step place induction =>
      have inTree : ∀ child ∈ place.namedChildren, child.node ∈ tree.nodes :=
        fun child isChild => Node.mem_nodes_of_mem_children
          (node_mem_of_mem_namedChildren isChild).1 held
      rw [walk_eq, List.pairwise_cons]
      constructor
      · intro found below
        apply (isInside_of_mem_walk nested held _).1
        rw [walk_eq]
        exact List.mem_cons_of_mem place below
      · rw [List.pairwise_flatMap]
        refine ⟨fun child isChild => induction child isChild (inTree child isChild), ?_⟩
        apply (pairwise_namedChildren nested.1 held).imp_of_mem
        intro first second isFirst isSecond ordered left isLeft right isRight
        have before := isInside_of_mem_walk nested (inTree first isFirst) isLeft
        have after := isInside_of_mem_walk nested (inTree second isSecond) isRight
        have proper := (nested.1 left.node (Node.mem_nodes_trans (node_mem_of_mem_walk isLeft)
          (inTree first isFirst))).1
        calc left.node.startByte ≤ left.node.endByte := proper
          _ ≤ first.node.endByte := before.2
          _ ≤ second.node.startByte := ordered
          _ ≤ right.node.startByte := after.1

theorem above_of_mem_childrenFrom {place child : Place} {index : Nat} {nodes : List Node}
    (member : child ∈ childrenFrom place index nodes) :
    ∃ position, index ≤ position ∧ child.above = ⟨place.node, position⟩ :: place.above := by
  induction nodes generalizing index with
  | nil => simp [childrenFrom] at member
  | cons node rest induction =>
      rcases List.mem_cons.mp member with rfl | later
      · exact ⟨index, Nat.le_refl index, rfl⟩
      · obtain ⟨position, after, isAbove⟩ := induction later
        exact ⟨position, Nat.le_of_succ_le after, isAbove⟩

theorem above_of_mem_namedChildren {place child : Place}
    (isChild : child ∈ place.namedChildren) :
    ∃ position, child.above = ⟨place.node, position⟩ :: place.above := by
  obtain ⟨position, -, isAbove⟩ := above_of_mem_childrenFrom (List.mem_of_mem_filter isChild)
  exact ⟨position, isAbove⟩

theorem address_of_mem_namedChildren {place child : Place}
    (isChild : child ∈ place.namedChildren) :
    ∃ position, child.address = position :: place.address := by
  obtain ⟨position, isAbove⟩ := above_of_mem_namedChildren isChild
  exact ⟨position, by rw [address, isAbove]; rfl⟩

theorem pairwise_childrenFrom (place : Place) (index : Nat) (nodes : List Node) :
    (childrenFrom place index nodes).Pairwise (·.address ≠ ·.address) := by
  induction nodes generalizing index with
  | nil => exact .nil
  | cons node rest induction =>
      refine .cons ?_ (induction (index + 1))
      intro sibling later
      obtain ⟨position, after, isAbove⟩ := above_of_mem_childrenFrom later
      simp only [address, isAbove, List.map_cons, ne_eq, List.cons.injEq, and_true]
      omega

/-- Two named children of a place are told apart by their addresses. -/
theorem pairwise_address_namedChildren (place : Place) :
    place.namedChildren.Pairwise (·.address ≠ ·.address) :=
  (pairwise_childrenFrom place 0 place.node.children).filter _

theorem address_suffix_of_reaches {place found : Place} (reached : place.Reaches found) :
    place.address <:+ found.address := by
  induction reached with
  | here place => exact List.suffix_rfl
  | down isChild _ induction =>
      obtain ⟨position, longer⟩ := address_of_mem_namedChildren isChild
      rw [longer] at induction
      exact (List.suffix_cons position _).trans induction

theorem length_address_lt_of_below {place child found : Place}
    (isChild : child ∈ place.namedChildren) (reached : child.Reaches found) :
    place.address.length < found.address.length := by
  obtain ⟨position, longer⟩ := address_of_mem_namedChildren isChild
  have within := (address_suffix_of_reaches reached).length_le
  rw [longer, List.length_cons] at within
  exact within

/-- What is reached through one child is not at or below what is reached through
another. -/
theorem not_suffix_of_siblings {place child sibling found other : Place}
    (isChild : child ∈ place.namedChildren) (isSibling : sibling ∈ place.namedChildren)
    (differ : child.address ≠ sibling.address) (reached : child.Reaches found)
    (otherReached : sibling.Reaches other) : ¬found.address <:+ other.address := by
  intro within
  obtain ⟨position, childAddress⟩ := address_of_mem_namedChildren isChild
  obtain ⟨otherPosition, siblingAddress⟩ := address_of_mem_namedChildren isSibling
  have sameLength : child.address.length = sibling.address.length := by
    rw [childAddress, siblingAddress, List.length_cons, List.length_cons]
  have above : child.address <:+ other.address :=
    (address_suffix_of_reaches reached).trans within
  have nested : child.address <:+ sibling.address :=
    List.suffix_of_suffix_length_le above (address_suffix_of_reaches otherReached)
      (Nat.le_of_eq sameLength)
  exact differ (nested.eq_of_length sameLength)

end Place

namespace Visit

/-- The visits of a place and of what lies below it: the place is entered, its
named children are visited in order, and the place is left. -/
def around (place : Place) : List Visit :=
  enter place ::
    (place.namedChildren.attach.flatMap fun child => around child.val) ++ [leave place]
termination_by place.node.size
decreasing_by exact Place.mem_namedChildren_size_lt child.property

theorem around_eq (place : Place) :
    around place = enter place :: (place.namedChildren.flatMap around ++ [leave place]) := by
  rw [around, List.cons_append, List.flatMap_subtype (g := around) (fun _ _ => rfl),
    List.unattach_attach]

theorem run_enter_cons (place : Place) (rest : List Visit) :
    run (enter place :: rest) = around place ++ run rest := by
  induction place using Place.induction_namedChildren generalizing rest with
  | step place induction =>
      have below : ∀ children : List Place, (∀ child ∈ children, child ∈ place.namedChildren) →
          ∀ later, run (children.map enter ++ later) = children.flatMap around ++ run later := by
        intro children within later
        induction children with
        | nil => rfl
        | cons child others inductionOthers =>
            obtain ⟨isChild, areChildren⟩ := List.forall_mem_cons.mp within
            rw [List.map_cons, List.cons_append, induction child isChild,
              inductionOthers areChildren, List.flatMap_cons, List.append_assoc]
      rw [run, below _ (fun _ isChild => isChild), run, around_eq, List.cons_append,
        List.append_assoc, List.singleton_append]

/-- The traversal of a tree is the recursion from its root. -/
theorem ofRoot_eq_around (root : Node) : ofRoot root = around (Place.ofRoot root) := by
  rw [ofRoot, run_enter_cons, run, List.append_nil]

theorem entered_around (place : Place) : entered (around place) = place.walk := by
  rw [← List.append_nil (around place), ← run, ← run_enter_cons, entered_run]
  rfl

theorem reaches_of_mem_around {place : Place} {visit : Visit} (member : visit ∈ around place) :
    place.Reaches visit.place := by
  induction place using Place.induction_namedChildren with
  | step place induction =>
      rw [around_eq] at member
      rcases List.mem_cons.mp member with rfl | later
      · exact .here place
      · rcases List.mem_append.mp later with below | last
        · obtain ⟨child, isChild, visitBelow⟩ := List.mem_flatMap.mp below
          exact .down isChild (induction child isChild visitBelow)
        · rw [List.mem_singleton.mp last]
          exact .here place

/-- A test that only visits at or below a place pass finds them among the visits
around that place. -/
theorem filter_around_of_reaches {root place : Place} (reached : root.Reaches place)
    {keep : Visit → Bool}
    (within : ∀ visit, keep visit = true → place.address <:+ visit.place.address) :
    (around root).filter keep = (around place).filter keep := by
  induction reached with
  | here place => rfl
  | @down root child place isChild reached induction =>
      -- The visits of the root itself are too high, those of other children aside.
      have longer := Place.length_address_lt_of_below isChild reached
      have above : ∀ visit, visit.place = root → keep visit = false := by
        rintro visit rfl
        by_contra kept
        have shorter := (within visit (by simpa using kept)).length_le
        omega
      have aside : ∀ siblings : List Place,
          (∀ sibling ∈ siblings, sibling ∈ root.namedChildren ∧
            child.address ≠ sibling.address) →
          (siblings.flatMap around).filter keep = [] := by
        intro siblings apart
        rw [List.filter_eq_nil_iff]
        intro visit member kept
        obtain ⟨sibling, isSibling, visitBelow⟩ := List.mem_flatMap.mp member
        obtain ⟨siblingIsChild, differ⟩ := apart sibling isSibling
        exact Place.not_suffix_of_siblings isChild siblingIsChild differ reached
          (reaches_of_mem_around visitBelow) (within visit kept)
      obtain ⟨before, after, split⟩ := List.append_of_mem isChild
      have distinct := root.pairwise_address_namedChildren
      rw [split, List.pairwise_append, List.pairwise_cons] at distinct
      obtain ⟨-, ⟨differAfter, -⟩, differBefore⟩ := distinct
      have noneBefore := aside before fun sibling isBefore =>
        ⟨by simp [split, isBefore],
          (differBefore sibling isBefore child List.mem_cons_self).symm⟩
      have noneAfter := aside after fun sibling isAfter =>
        ⟨by simp [split, isAfter], differAfter sibling isAfter⟩
      rw [around_eq, split, List.filter_cons_of_neg (by simp [above (enter root) rfl]),
        List.filter_append, List.flatMap_append, List.filter_append, noneBefore,
        List.flatMap_cons, List.filter_append, noneAfter,
        List.filter_cons_of_neg (by simp [above (leave root) rfl]), List.filter_nil,
        List.nil_append, List.append_nil, List.append_nil, induction within]

/-- Visits of which each entering has its leaving after it, with all that is entered
in between also left in between. -/
inductive Balanced : List Visit → Prop where
  | nil : Balanced []
  | cons {place : Place} {inner rest : List Visit} (within : Balanced inner)
      (later : Balanced rest) : Balanced (enter place :: inner ++ leave place :: rest)

theorem Balanced.append {first second : List Visit} (before : Balanced first)
    (after : Balanced second) : Balanced (first ++ second) := by
  induction before with
  | nil => exact after
  | cons within _ _ induction =>
      rw [List.append_assoc, List.cons_append]
      exact .cons within induction

def left : List Visit → List Place
  | [] => []
  | enter _ :: rest => left rest
  | leave place :: rest => place :: left rest

theorem left_append (first second : List Visit) :
    left (first ++ second) = left first ++ left second := by
  induction first with
  | nil => rfl
  | cons visit rest induction =>
      cases visit with
      | enter place => exact induction
      | leave place => exact congrArg (place :: ·) induction

theorem left_flatMap {α : Type} (items : List α) (visits : α → List Visit) :
    left (items.flatMap visits) = items.flatMap fun item => left (visits item) := by
  induction items with
  | nil => rfl
  | cons item rest induction =>
      rw [List.flatMap_cons, left_append, induction, List.flatMap_cons]

theorem left_around (place : Place) :
    left (around place) =
      place.namedChildren.flatMap (fun child => left (around child)) ++ [place] := by
  rw [around_eq, left, left_append, left_flatMap]
  rfl

/-- The places that are left are those of the walk, each after what lies below it. -/
theorem left_around_perm (place : Place) : (left (around place)).Perm place.walk := by
  induction place using Place.induction_namedChildren with
  | step place induction =>
      rw [left_around, Place.walk_eq]
      have below : (place.namedChildren.flatMap fun child => left (around child)).Perm
          (place.namedChildren.flatMap Place.walk) :=
        List.Perm.flatMap_left _ induction
      exact (below.append_right [place]).trans (List.perm_append_singleton place _)

end Visit

namespace Place

/-- A test that only places at or below a place pass finds them in its walk. -/
theorem filter_walk_of_reaches {root place : Place} (reached : root.Reaches place)
    {keep : Place → Bool}
    (within : ∀ found, keep found = true → place.address <:+ found.address) :
    root.walk.filter keep = place.walk.filter keep := by
  have commute : ∀ visits : List Visit,
      (Visit.entered visits).filter keep = Visit.entered (visits.filter (keep ·.place)) := by
    intro visits
    induction visits with
    | nil => rfl
    | cons visit rest induction =>
        cases visit with
        | enter found =>
            rw [Visit.entered_enter_cons, List.filter_cons, List.filter_cons, induction]
            cases kept : keep found <;> simp [Visit.place, kept]
        | leave found =>
            rw [Visit.entered_leave_cons, List.filter_cons, induction]
            cases kept : keep found <;> simp [Visit.place, kept]
  rw [← Visit.entered_around, ← Visit.entered_around, commute, commute,
    Visit.filter_around_of_reaches reached fun visit => within visit.place]

end Place

end ScriptLint
