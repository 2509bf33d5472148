import ScriptLint.Proofs.Tree.Traversal

/-!
# The function that a place lies in

The places above a place are its ancestors, the nearest first.  A place belongs to
the nearest function among them.  What belongs to a function is found by going down
from its named children without entering inner functions.
-/

namespace ScriptLint

namespace Place

/-- The places through which frames lead up, the nearest first. -/
def ancestorsOf : List Frame → List Place
  | [] => []
  | frame :: above => ⟨frame.parent, above⟩ :: ancestorsOf above

/-- The places above a place, the nearest first. -/
def ancestors (place : Place) : List Place :=
  ancestorsOf place.above

/-- The nearest function that a place lies in. -/
def enclosingFunction? (place : Place) : Option Place :=
  place.ancestors.find? (·.node.isFunction)

/-- Whether a function is the nearest one that a place lies in. -/
def isOwnedBy (place function : Place) : Bool :=
  place.enclosingFunction?.any (·.same function)

/-- A place and all below it, without what lies in functions from there on. -/
def exposed (place : Place) : List Place :=
  place ::
    if place.node.isFunction then []
    else place.namedChildren.attach.flatMap fun child => exposed child.val
termination_by place.node.size
decreasing_by exact mem_namedChildren_size_lt child.property

/-- What lies in a function and not in an inner one. -/
def interior (function : Place) : List Place :=
  function.namedChildren.flatMap exposed

theorem exposed_eq (place : Place) :
    place.exposed = place :: if place.node.isFunction then [] else place.interior := by
  rw [exposed, interior, List.flatMap_subtype (g := exposed) (fun _ _ => rfl),
    List.unattach_attach]

theorem ancestors_of_mem_namedChildren {place child : Place}
    (isChild : child ∈ place.namedChildren) : child.ancestors = place :: place.ancestors := by
  obtain ⟨position, isAbove⟩ := above_of_mem_namedChildren isChild
  rw [ancestors, isAbove]
  rfl

theorem above_of_mem_ancestorsOf {above : List Frame} {ancestor : Place}
    (member : ancestor ∈ ancestorsOf above) : ∃ frame, frame :: ancestor.above <:+ above := by
  induction above with
  | nil => simp [ancestorsOf] at member
  | cons frame above induction =>
      rcases List.mem_cons.mp member with rfl | higher
      · exact ⟨frame, List.suffix_rfl⟩
      · obtain ⟨upper, within⟩ := induction higher
        exact ⟨upper, within.trans (List.suffix_cons frame above)⟩

theorem address_of_mem_ancestors {place ancestor : Place}
    (isAncestor : ancestor ∈ place.ancestors) :
    ancestor.address <:+ place.address ∧ ancestor.address.length < place.address.length := by
  obtain ⟨frame, within⟩ := above_of_mem_ancestorsOf isAncestor
  have addresses : frame.index :: ancestor.address <:+ place.address := within.map Frame.index
  exact ⟨(List.suffix_cons frame.index _).trans addresses, addresses.length_le⟩

theorem enclosingFunction?_of_mem_namedChildren {place child : Place}
    (isChild : child ∈ place.namedChildren) :
    child.enclosingFunction? =
      if place.node.isFunction then some place else place.enclosingFunction? := by
  rw [enclosingFunction?, ancestors_of_mem_namedChildren isChild, List.find?_cons]
  cases place.node.isFunction with
  | true => rfl
  | false => rfl

theorem address_of_enclosingFunction? {place function : Place}
    (encloses : place.enclosingFunction? = some function) :
    function.address <:+ place.address ∧ function.address.length < place.address.length :=
  address_of_mem_ancestors (List.mem_of_find?_eq_some encloses)

/-- Below a place that lies in a function, everything lies in this function or in
one below it. -/
theorem exists_enclosingFunction?_of_reaches {place function found : Place}
    (encloses : place.enclosingFunction? = some function) (reached : place.Reaches found) :
    ∃ inner, found.enclosingFunction? = some inner ∧ function.address <:+ inner.address := by
  induction reached generalizing function with
  | here place => exact ⟨function, encloses, List.suffix_rfl⟩
  | @down place child found isChild reached induction =>
      have above := enclosingFunction?_of_mem_namedChildren isChild
      split at above
      · obtain ⟨inner, enclosed, below⟩ := induction above
        exact ⟨inner, enclosed, (address_of_enclosingFunction? encloses).1.trans below⟩
      · exact induction (above.trans encloses)

theorem isOwnedBy_eq_true_iff {place function : Place} :
    place.isOwnedBy function = true ↔
      ∃ owner, place.enclosingFunction? = some owner ∧ owner.address = function.address := by
  simp [isOwnedBy, Option.any_eq_true, same]

theorem address_of_isOwnedBy {place function : Place} (owned : place.isOwnedBy function = true) :
    function.address <:+ place.address ∧ function.address.length < place.address.length := by
  obtain ⟨owner, encloses, sameAddress⟩ := isOwnedBy_eq_true_iff.mp owned
  rw [← sameAddress]
  exact address_of_enclosingFunction? encloses

theorem filter_isOwnedBy_of_enclosed {place function : Place}
    (encloses : place.enclosingFunction? = some function) :
    place.walk.filter (·.isOwnedBy function) = place.exposed := by
  induction place using induction_namedChildren with
  | step place induction =>
      have owned : place.isOwnedBy function = true :=
        isOwnedBy_eq_true_iff.mpr ⟨function, encloses, rfl⟩
      rw [walk_eq, List.filter_cons, if_pos owned, exposed_eq, List.filter_flatMap]
      congr 1
      split
      · rename_i isFunction
        -- What lies in this function has an owner at or below it, so not the outer one.
        rw [List.flatMap_eq_nil_iff]
        intro child isChild
        rw [List.filter_eq_nil_iff]
        intro found member isOwned
        have above := enclosingFunction?_of_mem_namedChildren isChild
        rw [if_pos isFunction] at above
        obtain ⟨inner, enclosed, below⟩ :=
          exists_enclosingFunction?_of_reaches above (mem_walk_iff.mp member)
        obtain ⟨owner, enclosedAgain, sameAddress⟩ := isOwnedBy_eq_true_iff.mp isOwned
        obtain rfl : inner = owner := Option.some.inj (enclosed.symm.trans enclosedAgain)
        have shorter := (address_of_enclosingFunction? encloses).2
        have longer := below.length_le
        rw [sameAddress] at longer
        omega
      · rename_i noFunction
        apply List.flatMap_congr
        intro child isChild
        have above := enclosingFunction?_of_mem_namedChildren isChild
        rw [if_neg noFunction] at above
        exact induction child isChild (above.trans encloses)

/-- A function that is reached owns its interior and nothing else. -/
theorem filter_isOwnedBy_of_reaches {root function : Place} (reached : root.Reaches function)
    (isFunction : function.node.isFunction = true) :
    root.walk.filter (·.isOwnedBy function) = function.interior := by
  have notItself : ¬function.isOwnedBy function = true := by
    intro owned
    exact Nat.lt_irrefl _ (address_of_isOwnedBy owned).2
  rw [filter_walk_of_reaches reached fun found owned => (address_of_isOwnedBy owned).1, walk_eq,
    List.filter_cons, if_neg notItself, List.filter_flatMap, interior]
  apply List.flatMap_congr
  intro child isChild
  apply filter_isOwnedBy_of_enclosed
  rw [enclosingFunction?_of_mem_namedChildren isChild, if_pos isFunction]

theorem reaches_of_mem_ancestors {start found ancestor : Place}
    (reached : start.Reaches found) (isAncestor : ancestor ∈ found.ancestors) :
    ancestor ∈ start.ancestors ∨ start.Reaches ancestor := by
  induction reached with
  | here place => exact .inl isAncestor
  | @down place child found isChild _ induction =>
      rcases induction isAncestor with above | below
      · rw [ancestors_of_mem_namedChildren isChild] at above
        rcases List.mem_cons.mp above with rfl | higher
        · exact .inr (.here ancestor)
        · exact .inl higher
      · exact .inr (.down isChild below)

theorem filter_same_walk {root place : Place} (reached : root.Reaches place) :
    root.walk.filter (·.same place) = [place] := by
  have below : (place.namedChildren.flatMap walk).filter (·.same place) = [] := by
    rw [List.filter_eq_nil_iff]
    intro found member isSame
    obtain ⟨child, isChild, foundBelow⟩ := List.mem_flatMap.mp member
    have longer := length_address_lt_of_below isChild (mem_walk_iff.mp foundBelow)
    rw [same, decide_eq_true_eq] at isSame
    rw [isSame] at longer
    exact Nat.lt_irrefl _ longer
  rw [filter_walk_of_reaches reached, walk_eq, List.filter_cons, if_pos (by simp [same]), below]
  intro found isSame
  rw [same, decide_eq_true_eq] at isSame
  rewrite [isSame]
  exact List.suffix_rfl

end Place

theorem flatMap_ite {α β : Type} (items : List α) (keep : α → Bool) (give : α → List β) :
    (items.flatMap fun item => if keep item then give item else []) =
      (items.filter keep).flatMap give := by
  induction items with
  | nil => rfl
  | cons item rest induction =>
      rw [List.flatMap_cons, induction, List.filter_cons]
      split
      · rfl
      · rfl

theorem perm_flatMap_owned {α β : Type} (owns : β → α → Bool) (owners : List β)
    {items : List α} (single : ∀ item ∈ items, (owners.filter (owns · item)).length ≤ 1) :
    (owners.flatMap fun owner => items.filter (owns owner)).Perm
      (items.filter fun item => owners.any (owns · item)) := by
  induction items with
  | nil => simp
  | cons item rest induction =>
      obtain ⟨here, later⟩ := List.forall_mem_cons.mp single
      have own : (owners.flatMap fun owner => if owns owner item then [item] else []) =
          if owners.any (owns · item) then [item] else [] := by
        rw [flatMap_ite]
        cases kept : owners.filter (owns · item) with
        | nil =>
            rw [if_neg, List.flatMap_nil]
            simpa using List.filter_eq_nil_iff.mp kept
        | cons owner others =>
            rw [kept, List.length_cons] at here
            obtain rfl : others = [] := List.length_eq_zero_iff.mp (by omega)
            have isOwner : owner ∈ owners.filter (owns · item) := by simp [kept]
            rw [if_pos (List.any_eq_true.mpr ⟨owner, List.mem_filter.mp isOwner⟩)]
            rfl
      have split : (owners.flatMap fun owner => (item :: rest).filter (owns owner)).Perm
          ((owners.flatMap fun owner => if owns owner item then [item] else []) ++
            owners.flatMap fun owner => rest.filter (owns owner)) := by
        refine List.Perm.trans (.of_eq ?_) (List.flatMap_append_perm owners _ _).symm
        apply List.flatMap_congr
        intro owner _
        rw [List.filter_cons]
        split
        · rfl
        · rfl
      refine split.trans ?_
      rw [own, List.filter_cons]
      split
      · exact (induction later).cons item
      · exact induction later

namespace Place

theorem filter_isFunction_isOwnedBy {root : Node} {place : Place}
    (reached : (ofRoot root).Reaches place) :
    ((ofRoot root).walk.filter (·.node.isFunction)).filter (place.isOwnedBy ·) =
      place.enclosingFunction?.toList := by
  cases encloses : place.enclosingFunction? with
  | none => simp [isOwnedBy, encloses]
  | some function =>
      have isAncestor := List.mem_of_find?_eq_some encloses
      have isFunction : function.node.isFunction = true := by
        simpa using List.find?_some encloses
      have alsoReached : (ofRoot root).Reaches function := by
        rcases reaches_of_mem_ancestors reached isAncestor with above | below
        · simp [ancestors, ofRoot, ancestorsOf] at above
        · exact below
      have owns : ∀ other : Place, place.isOwnedBy other = other.same function := by
        intro other
        rw [isOwnedBy, encloses, Option.any_some]
        exact decide_eq_decide.mpr eq_comm
      simp only [owns]
      rw [List.filter_comm, filter_same_walk alsoReached, List.filter_cons, if_pos isFunction]
      rfl

/-- What the functions of a tree own together are the places that lie in a
function. -/
theorem perm_flatMap_filter_isOwnedBy (root : Node) (keep : Place → Bool) :
    (((ofRoot root).walk.filter (·.node.isFunction)).flatMap fun function =>
        (ofRoot root).walk.filter fun place => place.isOwnedBy function && keep place).Perm
      ((ofRoot root).walk.filter fun place =>
        place.enclosingFunction?.isSome && keep place) := by
  generalize functionsOfWalk : (ofRoot root).walk.filter (·.node.isFunction) = functions
  have owners : ∀ place ∈ (ofRoot root).walk.filter keep,
      functions.filter (place.isOwnedBy ·) = place.enclosingFunction?.toList := by
    intro place member
    rw [← functionsOfWalk]
    exact filter_isFunction_isOwnedBy (mem_walk_iff.mp (List.mem_of_mem_filter member))
  have owned : (functions.flatMap fun function =>
        ((ofRoot root).walk.filter keep).filter (·.isOwnedBy function)).Perm
      (((ofRoot root).walk.filter keep).filter fun place =>
        functions.any (place.isOwnedBy ·)) := by
    apply perm_flatMap_owned fun function place : Place => place.isOwnedBy function
    intro place member
    rw [owners place member]
    cases place.enclosingFunction? with
    | none => exact Nat.zero_le 1
    | some function => exact Nat.le_refl 1
  have someOwner : ∀ place ∈ (ofRoot root).walk.filter keep,
      functions.any (place.isOwnedBy ·) = place.enclosingFunction?.isSome := by
    intro place member
    rw [Bool.eq_iff_iff, List.any_eq_true, Option.isSome_iff_exists]
    simp only [← Option.mem_toList, ← owners place member, List.mem_filter]
  rw [List.filter_congr someOwner, List.filter_filter] at owned
  simpa only [List.filter_filter] using owned

end Place

end ScriptLint
