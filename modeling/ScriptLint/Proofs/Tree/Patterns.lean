import Mathlib.Data.List.Nodup
import ScriptLint.Proofs.Tree.Owners

/-!
# What patterns bind

A pattern either is an identifier or hands binding on to some of the places right below
it.  Since it does so along a way of patterns, the place that an identifier is bound at is
the nearest one above it that is no such pattern, and no identifier is bound twice.
-/

namespace ScriptLint

namespace Place

theorem parent?_of_mem_children {place child : Place} (isChild : child ∈ place.children) :
    child.parent? = some place := by
  obtain ⟨position, -, isAbove⟩ := above_of_mem_childrenFrom isChild
  rw [parent?, isAbove]

/-- Being a child of the place above, if there is one.  Frames that belong to no tree could
say otherwise. -/
def Placed (place : Place) : Prop :=
  ∀ parent, place.parent? = some parent → place ∈ parent.children

theorem placed_of_mem_children {place child : Place} (isChild : child ∈ place.children) :
    child.Placed := by
  intro parent below
  rw [parent?_of_mem_children isChild, Option.some.injEq] at below
  rw [← below]
  exact isChild

theorem placed_of_reaches {place found : Place} (placed : place.Placed)
    (reached : place.Reaches found) : found.Placed := by
  induction reached with
  | here place => exact placed
  | down isChild _ induction =>
      exact induction (placed_of_mem_children (List.mem_of_mem_filter isChild))

theorem address_of_mem_children {place child : Place} (isChild : child ∈ place.children) :
    ∃ position, child.address = position :: place.address := by
  obtain ⟨position, -, isAbove⟩ := above_of_mem_childrenFrom isChild
  exact ⟨position, by rw [address, isAbove]; rfl⟩

/-- Two children of a place are told apart by their addresses. -/
theorem eq_of_address_eq {place left right : Place} (isLeft : left ∈ place.children)
    (isRight : right ∈ place.children) (same : left.address = right.address) : left = right := by
  have distinct : (place.children.map address).Nodup :=
    List.pairwise_map.mpr (pairwise_childrenFrom place 0 place.node.children)
  exact List.inj_on_of_nodup_map distinct isLeft isRight same

theorem nodup_children (place : Place) : place.children.Nodup :=
  (pairwise_childrenFrom place 0 place.node.children).imp fun differ same => differ (by rw [same])

theorem mem_children_of_field? {place child : Place} {name : String}
    (found : place.field? name = some child) : child ∈ place.children :=
  List.mem_of_find?_eq_some found

theorem mem_children_of_mem_namedChildren {place child : Place}
    (isChild : child ∈ place.namedChildren) : child ∈ place.children :=
  List.mem_of_mem_filter isChild

theorem induction_children {holds : Place → Prop}
    (step : ∀ place, (∀ child ∈ place.children, holds child) → holds place)
    (place : Place) : holds place := by
  apply step
  intro child isChild
  exact induction_children step child
termination_by place.node.size
decreasing_by exact mem_children_size_lt isChild

/-- The places right below a pattern to which it hands binding on. -/
def handedOn (pattern : Place) : List Place :=
  match bindingOf pattern.kind with
  | .field name => (pattern.field? name).toList
  | .namedChildren => pattern.namedChildren
  | .itself => []
  | .nothing => []

/-- A pattern binds an identifier: itself, or one below. -/
inductive Binds : Place → Place → Prop where
  | itself {name : Place} (isName : bindingOf name.kind = .itself) : Binds name name
  | within {pattern inner name : Place} (handed : inner ∈ pattern.handedOn)
      (binds : Binds inner name) : Binds pattern name

theorem mem_children_of_mem_handedOn {pattern inner : Place}
    (handed : inner ∈ pattern.handedOn) : inner ∈ pattern.children := by
  unfold handedOn at handed
  split at handed
  · exact mem_children_of_field? (Option.mem_toList.mp handed)
  · exact mem_children_of_mem_namedChildren handed
  · simp at handed
  · simp at handed

theorem boundNames_eq (pattern : Place) :
    pattern.boundNames =
      if bindingOf pattern.kind = .itself then [pattern]
      else pattern.handedOn.flatMap boundNames := by
  rw [boundNames, handedOn]
  cases bindingOf pattern.kind with
  | itself => rfl
  | nothing => rfl
  | namedChildren =>
      simp
  | field name =>
      dsimp only
      rw [if_neg (by simp)]
      split
      · rename_i child found
        simp [found]
      · rename_i missing
        simp [missing]

theorem mem_boundNames_iff {pattern name : Place} :
    name ∈ pattern.boundNames ↔ pattern.Binds name := by
  constructor
  · induction pattern using induction_children with
    | step pattern induction =>
        intro member
        rw [boundNames_eq] at member
        split at member
        · rename_i isName
          rw [List.mem_singleton.mp member]
          exact .itself isName
        · obtain ⟨inner, handed, below⟩ := List.mem_flatMap.mp member
          exact .within handed (induction inner (mem_children_of_mem_handedOn handed) below)
  · intro binds
    induction binds with
    | itself isName =>
        rw [boundNames_eq, if_pos isName]
        exact List.mem_singleton_self _
    | @within pattern inner name handed _ induction =>
        have noName : ¬bindingOf pattern.kind = .itself := by
          intro isName
          simp [handedOn, isName] at handed
        rw [boundNames_eq, if_neg noName]
        exact List.mem_flatMap.mpr ⟨inner, handed, induction⟩

theorem eq_of_binds_itself {pattern name : Place} (isName : bindingOf pattern.kind = .itself)
    (binds : pattern.Binds name) : name = pattern := by
  cases binds with
  | itself _ => rfl
  | within handed _ => simp [handedOn, isName] at handed

theorem address_suffix_of_binds {pattern name : Place} (binds : pattern.Binds name) :
    pattern.address <:+ name.address := by
  induction binds with
  | itself _ => exact List.suffix_rfl
  | within handed _ induction =>
      obtain ⟨position, longer⟩ := address_of_mem_children (mem_children_of_mem_handedOn handed)
      rw [longer] at induction
      exact (List.suffix_cons position _).trans induction

/-- Of the places right below another, one at most binds a name. -/
theorem eq_of_binds {place left right name : Place} (isLeft : left ∈ place.children)
    (isRight : right ∈ place.children) (leftBinds : left.Binds name)
    (rightBinds : right.Binds name) : left = right := by
  obtain ⟨leftPosition, leftAddress⟩ := address_of_mem_children isLeft
  obtain ⟨rightPosition, rightAddress⟩ := address_of_mem_children isRight
  have sameLength : left.address.length = right.address.length := by
    rw [leftAddress, rightAddress, List.length_cons, List.length_cons]
  have nested : left.address <:+ right.address :=
    List.suffix_of_suffix_length_le (address_suffix_of_binds leftBinds)
      (address_suffix_of_binds rightBinds) (Nat.le_of_eq sameLength)
  exact eq_of_address_eq isLeft isRight (nested.eq_of_length sameLength)

theorem mem_boundInField_iff {place name : Place} {field : String} :
    name ∈ place.boundInField field ↔
      ∃ pattern, place.field? field = some pattern ∧ pattern.Binds name := by
  unfold boundInField
  cases place.field? field with
  | none => simp
  | some pattern => simp [mem_boundNames_iff]

theorem exists_parameters_sublist (function : Place) :
    ∃ place : Place, function.parameters.Sublist place.children := by
  unfold parameters
  split
  · rename_i single found
    exact ⟨function, List.singleton_sublist.mpr (mem_children_of_field? found)⟩
  · rename_i list _ _
    exact ⟨list, List.filter_sublist.trans List.filter_sublist⟩
  · exact ⟨function, List.nil_sublist _⟩

end Place

end ScriptLint
