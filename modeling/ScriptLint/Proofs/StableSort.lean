import Mathlib.Data.List.Basic

/-!
# Stable sorting

Sorting keeps tied items in their order.  A sorted list is therefore determined
by its classes of tied items, and leaving items out before or after sorting
makes no difference.
-/

namespace ScriptLint

/-- An order in which any two items can be compared, though different items may
be tied. -/
structure Sortable {α : Type} (notAfter : α → α → Bool) : Prop where
  transitive : ∀ first second third : α,
    notAfter first second = true → notAfter second third = true →
      notAfter first third = true
  total : ∀ left right : α, (notAfter left right || notAfter right left) = true

namespace Sortable

variable {α : Type} {notAfter : α → α → Bool}

/-- Whether two items may stand in either order. -/
def tied (notAfter : α → α → Bool) (left right : α) : Bool :=
  notAfter left right && notAfter right left

theorem tied_refl (sortable : Sortable notAfter) (item : α) :
    tied notAfter item item = true := by
  have comparable := sortable.total item item
  simp only [Bool.or_self] at comparable
  simp [tied, comparable]

private theorem pairwise_filter_tied (sortable : Sortable notAfter) (item : α)
    (items : List α) :
    (items.filter (tied notAfter item)).Pairwise (notAfter · · = true) := by
  apply List.pairwise_of_forall_mem_list
  intro left leftMember right rightMember
  have leftTied := (List.mem_filter.mp leftMember).2
  have rightTied := (List.mem_filter.mp rightMember).2
  simp only [tied, Bool.and_eq_true] at leftTied rightTied
  exact sortable.transitive left item right leftTied.2 rightTied.1

/-- Sorting keeps the order of tied items. -/
theorem filter_tied_mergeSort (sortable : Sortable notAfter) (item : α)
    (items : List α) :
    (items.mergeSort notAfter).filter (tied notAfter item) =
      items.filter (tied notAfter item) := by
  have kept : (items.filter (tied notAfter item)).Sublist
      (items.mergeSort notAfter) :=
    List.sublist_mergeSort sortable.transitive sortable.total
      (pairwise_filter_tied sortable item items) List.filter_sublist
  have among := kept.filter (tied notAfter item)
  rw [List.filter_filter] at among
  simp only [Bool.and_self] at among
  have sameLength :
      (items.filter (tied notAfter item)).length =
        ((items.mergeSort notAfter).filter (tied notAfter item)).length :=
    (((List.mergeSort_perm items notAfter).filter _).length_eq).symm
  exact (among.eq_of_length sameLength).symm

theorem eq_of_filter_tied (sortable : Sortable notAfter) {left right : List α}
    (leftSorted : left.Pairwise (notAfter · · = true))
    (rightSorted : right.Pairwise (notAfter · · = true))
    (sameTies : ∀ item,
      left.filter (tied notAfter item) = right.filter (tied notAfter item)) :
    left = right := by
  induction left generalizing right with
  | nil =>
      cases right with
      | nil => rfl
      | cons item rest =>
          have ties := sameTies item
          simp [sortable.tied_refl item] at ties
  | cons first leftRest induction =>
      cases right with
      | nil =>
          have ties := sameTies first
          simp [sortable.tied_refl first] at ties
      | cons second rightRest =>
          obtain ⟨firstLeast, leftRestSorted⟩ := List.pairwise_cons.mp leftSorted
          obtain ⟨secondLeast, rightRestSorted⟩ :=
            List.pairwise_cons.mp rightSorted
          -- Each head occurs in the other list, so neither comes after the other.
          have firstMember : first ∈ second :: rightRest := by
            have own : first ∈ (first :: leftRest).filter (tied notAfter first) := by
              simp [sortable.tied_refl first]
            rw [sameTies first] at own
            exact (List.mem_filter.mp own).1
          have secondMember : second ∈ first :: leftRest := by
            have own :
                second ∈ (second :: rightRest).filter (tied notAfter second) := by
              simp [sortable.tied_refl second]
            rw [← sameTies second] at own
            exact (List.mem_filter.mp own).1
          have reflexive : ∀ item, notAfter item item = true := fun item => by
            simpa using sortable.total item item
          have secondFirst : notAfter second first = true := by
            rcases List.mem_cons.mp firstMember with same | later
            · rw [same]
              exact reflexive second
            · exact secondLeast first later
          have firstSecond : notAfter first second = true := by
            rcases List.mem_cons.mp secondMember with same | later
            · rw [same]
              exact reflexive first
            · exact firstLeast second later
          have headsTied : tied notAfter first second = true := by
            simp [tied, firstSecond, secondFirst]
          have ties := sameTies first
          simp only [List.filter_cons, sortable.tied_refl first, headsTied,
            if_true, List.cons.injEq] at ties
          obtain ⟨sameHead, -⟩ := ties
          subst sameHead
          rw [induction leftRestSorted rightRestSorted]
          intro item
          have itemTies := sameTies item
          by_cases tiedItem : tied notAfter item first = true
          · simpa [List.filter_cons, tiedItem] using itemTies
          · simpa [List.filter_cons, tiedItem] using itemTies

/-- Leaving items out before or after sorting makes no difference. -/
theorem filter_mergeSort (sortable : Sortable notAfter) (keep : α → Bool)
    (items : List α) :
    (items.mergeSort notAfter).filter keep =
      (items.filter keep).mergeSort notAfter := by
  have sorted := List.pairwise_mergeSort sortable.transitive sortable.total
  apply sortable.eq_of_filter_tied ((sorted items).filter keep)
    (sorted (items.filter keep))
  intro item
  calc
    ((items.mergeSort notAfter).filter keep).filter (tied notAfter item) =
        ((items.mergeSort notAfter).filter (tied notAfter item)).filter keep :=
      List.filter_comm _ _ _
    _ = (items.filter (tied notAfter item)).filter keep := by
      rw [filter_tied_mergeSort sortable]
    _ = (items.filter keep).filter (tied notAfter item) := List.filter_comm _ _ _
    _ = ((items.filter keep).mergeSort notAfter).filter (tied notAfter item) :=
      (filter_tied_mergeSort sortable item _).symm

end Sortable

end ScriptLint
