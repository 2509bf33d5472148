import ScriptLint.Proofs.Fix

/-!
# Fixes that lie apart

Of fixes that lie apart from each other none is left out: in the order of
application each one ends before the next one starts, or where it starts.
-/

namespace ScriptLint.Fix

/-- One of two fixes ends before the other starts, or where it starts. -/
def Apart (left right : Fix) : Prop :=
  left.stop ≤ right.start ∨ right.stop ≤ left.start

theorem Apart.symm {left right : Fix} (apart : left.Apart right) : right.Apart left :=
  Or.symm apart

theorem before_eq_true_iff {left right : Fix} :
    left.before right = true ↔
      left.start < right.start ∨ left.start = right.start ∧ left.stop ≤ right.stop := by
  simp [before]

theorem pairwise_inOrder (fixes : List Fix) :
    (inOrder fixes).Pairwise (·.before · = true) := by
  apply List.pairwise_mergeSort
  · intro first second third
    simp only [before_eq_true_iff]
    omega
  · intro left right
    simp only [Bool.or_eq_true, before_eq_true_iff]
    omega

theorem perm_inOrder (fixes : List Fix) : (inOrder fixes).Perm fixes :=
  List.mergeSort_perm fixes before

/-- Ranges that lie apart follow each other once they are sorted. -/
theorem pairwise_stop_le_start {fixes : List Fix}
    (proper : ∀ fix ∈ fixes, fix.start ≤ fix.stop) (apart : fixes.Pairwise Apart) :
    (inOrder fixes).Pairwise (·.stop ≤ ·.start) := by
  have sortedApart : (inOrder fixes).Pairwise Apart :=
    ((perm_inOrder fixes).pairwise_iff Apart.symm).mpr apart
  have both := (pairwise_inOrder fixes).and sortedApart
  apply both.imp_of_mem
  intro left right isLeft isRight ⟨inOrder, areApart⟩
  have rightProper := proper right ((perm_inOrder fixes).mem_iff.mp isRight)
  rw [before_eq_true_iff] at inOrder
  unfold Apart at areApart
  omega

theorem keptFrom_eq_self {cursor : Int} {fixes : List Fix}
    (behind : ∀ fix ∈ fixes, cursor ≤ fix.start)
    (follow : fixes.Pairwise (·.stop ≤ ·.start)) : keptFrom cursor fixes = fixes := by
  induction fixes generalizing cursor with
  | nil => rfl
  | cons fix rest induction =>
      have first := behind fix List.mem_cons_self
      rw [keptFrom, if_neg (by omega),
        induction (fun _ => List.rel_of_pairwise_cons follow) follow.of_cons]

theorem applied_eq_inOrder {fixes : List Fix}
    (proper : ∀ fix ∈ fixes, 0 ≤ fix.start ∧ fix.start ≤ fix.stop)
    (apart : fixes.Pairwise Apart) : applied fixes = inOrder fixes := by
  apply keptFrom_eq_self
  · intro fix member
    exact (proper fix ((perm_inOrder fixes).mem_iff.mp member)).1
  · exact pairwise_stop_le_start (fun fix member => (proper fix member).2) apart

theorem getD_applyAll (text : List Char) (fixes : List Fix) :
    (applyAll text fixes).getD text = replaceFrom text 0 (applied fixes) := by
  have spliced := spliceFrom_eq_replaceFrom text 0 (inOrder fixes)
  simp only [applyAll]
  split
  · rename_i unchanged
    rw [Option.getD_none]
    exact unchanged.symm.trans spliced
  · rw [Option.getD_some, spliced]
    rfl

end ScriptLint.Fix
