import Mathlib.Data.List.Pairwise
import Mathlib.Tactic.Lift
import ScriptLint.Proofs.FixOrder

/-!
# Splicing fixes into a text

Fixes are kept greedily: one is left out only if it starts before the end of a kept one
that comes before it.  The kept ranges are replaced as if one after the other from the
end of the text to its start, so all that lies between them stays as it is, and the order
in which fixes are given matters only among those of the same range.
-/

namespace ScriptLint

namespace Text

variable {α : Type} {items : List α} {first last : Int}

theorem sliceTo_append_slice (positive : 0 ≤ first) (ordered : first ≤ last)
    (within : last ≤ items.length) :
    sliceTo items first ++ slice items first last = sliceTo items last := by
  lift first to Nat using positive
  lift last to Nat using by omega
  have inside : first ≤ items.length := by omega
  rw [slice, sliceTo, sliceTo, clamp_of_nat inside, clamp_of_nat (by omega)]
  have cut : items.take first = (items.take last).take first := by
    rw [List.take_take, Nat.min_eq_left (by omega)]
  rw [cut, List.take_append_drop]

theorem slice_append_sliceFrom (positive : 0 ≤ first) (ordered : first ≤ last)
    (within : last ≤ items.length) :
    slice items first last ++ sliceFrom items last = sliceFrom items first := by
  have whole : sliceTo items last ++ sliceFrom items last = items :=
    List.take_append_drop _ items
  have again : sliceTo items first ++ sliceFrom items first = items :=
    List.take_append_drop _ items
  have joined := sliceTo_append_slice positive ordered within
  have same : sliceTo items first ++ (slice items first last ++ sliceFrom items last) =
      sliceTo items first ++ sliceFrom items first := by
    rw [← List.append_assoc, joined, whole, again]
  exact List.append_cancel_left same

theorem slice_append_slice {middle : Int} (positive : 0 ≤ first) (ordered : first ≤ middle)
    (behind : middle ≤ last) (within : last ≤ items.length) :
    slice items first middle ++ slice items middle last = slice items first last := by
  have joined := sliceTo_append_slice positive ordered (show middle ≤ items.length by omega)
  have again := sliceTo_append_slice (show 0 ≤ middle by omega) behind within
  have whole := sliceTo_append_slice positive (show first ≤ last by omega) within
  have same : sliceTo items first ++ (slice items first middle ++ slice items middle last) =
      sliceTo items first ++ slice items first last := by
    rw [← List.append_assoc, joined, again, whole]
  exact List.append_cancel_left same

theorem length_sliceTo (items : List α) (positive : 0 ≤ last)
    (within : last ≤ items.length) : ((sliceTo items last).length : Int) = last := by
  lift last to Nat using positive
  rw [sliceTo, clamp_of_nat (by omega), List.length_take]
  omega

theorem sliceTo_append_left (positive : 0 ≤ first) (within : first ≤ items.length)
    (rest : List α) : sliceTo (items ++ rest) first = sliceTo items first := by
  lift first to Nat using positive
  have inside : first ≤ items.length := by omega
  rw [sliceTo, sliceTo, clamp_of_nat inside,
    clamp_of_nat (by rw [List.length_append]; omega), List.take_append_of_le_length inside]

theorem sliceFrom_append_right {start : List α} (reached : (start.length : Int) = first)
    (rest : List α) : sliceFrom (start ++ rest) first = rest := by
  rw [sliceFrom, ← reached, clamp_of_nat (by rw [List.length_append]; omega),
    List.drop_left]

theorem sliceTo_sliceTo (positive : 0 ≤ first) (ordered : first ≤ last)
    (within : last ≤ items.length) :
    sliceTo (sliceTo items last) first = sliceTo items first := by
  lift first to Nat using positive
  lift last to Nat using by omega
  have inside : last ≤ items.length := by omega
  have start : first ≤ (items.take last).length := by
    rw [List.length_take]
    omega
  rw [sliceTo, sliceTo, sliceTo, clamp_of_nat inside, clamp_of_nat start,
    clamp_of_nat (by omega), List.take_take, Nat.min_eq_left (by omega)]

theorem sliceFrom_sliceTo (positive : 0 ≤ first) (ordered : first ≤ last)
    (within : last ≤ items.length) :
    sliceFrom (sliceTo items last) first = slice items first last := by
  lift first to Nat using positive
  lift last to Nat using by omega
  have inside : last ≤ items.length := by omega
  have start : first ≤ (items.take last).length := by
    rw [List.length_take]
    omega
  rw [slice, sliceFrom, sliceTo, clamp_of_nat inside, clamp_of_nat start,
    clamp_of_nat (by omega)]

theorem slice_sliceTo {bound : Int} (positive : 0 ≤ first) (ordered : first ≤ last)
    (before : last ≤ bound) (within : bound ≤ items.length) :
    slice (sliceTo items bound) first last = slice items first last := by
  have length := length_sliceTo items (by omega) within
  have cut := sliceFrom_sliceTo positive ordered
    (show last ≤ (sliceTo items bound).length by omega)
  rw [sliceTo_sliceTo (by omega) before within] at cut
  rw [← cut]
  exact sliceFrom_sliceTo positive ordered (by omega)

theorem slice_middle (start middle rest : List α) :
    slice (start ++ (middle ++ rest)) start.length (start.length + middle.length : Nat) =
      middle := by
  rw [slice_of_nat (by omega) (by simp only [List.length_append]; omega), ← List.append_assoc,
    ← List.length_append, List.take_left, List.drop_left]

end Text

namespace Fix

/-- The range of a fix lies in a text. -/
def Within (text : List Char) (fix : Fix) : Prop :=
  0 ≤ fix.start ∧ fix.start ≤ fix.stop ∧ fix.stop ≤ text.length

/-- Two fixes share both ends of their ranges. -/
def SameRange (left right : Fix) : Prop :=
  left.start = right.start ∧ left.stop = right.stop

/-- Of fixes in order, those that start before the end of the last kept one. -/
def leftOutFrom (cursor : Int) : List Fix → List Fix
  | [] => []
  | fix :: rest =>
      if fix.start < cursor then fix :: leftOutFrom cursor rest
      else leftOutFrom fix.stop rest

/-- The fixes that are not applied, in order. -/
def leftOut (fixes : List Fix) : List Fix :=
  leftOutFrom 0 (inOrder fixes)

/-- A text with the range of a fix replaced. -/
def replaceIn (fix : Fix) (text : List Char) : List Char :=
  Text.sliceTo text fix.start ++ fix.text ++ Text.sliceFrom text fix.stop

/-- What lies before, between and behind the ranges of fixes from a position on. -/
def gapsFrom (text : List Char) (cursor : Int) : List Fix → List (List Char)
  | [] => [Text.sliceFrom text cursor]
  | fix :: rest => Text.slice text cursor fix.start :: gapsFrom text fix.stop rest

/-- Gaps and the pieces between them in turn. -/
def weave : List (List Char) → List (List Char) → List Char
  | gap :: gaps, piece :: pieces => gap ++ piece ++ weave gaps pieces
  | gaps, _ => gaps.flatten

section Choice

variable {cursor : Int} {fixes : List Fix}

theorem of_mem_keptFrom {fix : Fix} (proper : ∀ fix ∈ fixes, fix.start ≤ fix.stop)
    (kept : fix ∈ keptFrom cursor fixes) : fix ∈ fixes ∧ cursor ≤ fix.start := by
  induction fixes generalizing cursor with
  | nil => simp [keptFrom] at kept
  | cons first rest induction =>
      obtain ⟨properFirst, properRest⟩ := List.forall_mem_cons.mp proper
      rw [keptFrom] at kept
      split at kept
      · obtain ⟨member, behind⟩ := induction properRest kept
        exact ⟨List.mem_cons_of_mem _ member, behind⟩
      · rename_i notEarly
        rcases List.mem_cons.mp kept with rfl | later
        · exact ⟨List.mem_cons_self, by omega⟩
        · obtain ⟨member, behind⟩ := induction properRest later
          exact ⟨List.mem_cons_of_mem _ member, by omega⟩

theorem pairwise_keptFrom (proper : ∀ fix ∈ fixes, fix.start ≤ fix.stop) :
    (keptFrom cursor fixes).Pairwise (·.stop ≤ ·.start) := by
  induction fixes generalizing cursor with
  | nil => exact List.Pairwise.nil
  | cons first rest induction =>
      have properRest := (List.forall_mem_cons.mp proper).2
      rw [keptFrom]
      split
      · exact induction properRest
      · apply List.Pairwise.cons
        · intro later member
          exact (of_mem_keptFrom properRest member).2
        · exact induction properRest

theorem perm_keptFrom_append_leftOutFrom (cursor : Int) (fixes : List Fix) :
    (keptFrom cursor fixes ++ leftOutFrom cursor fixes).Perm fixes := by
  induction fixes generalizing cursor with
  | nil => exact List.Perm.refl _
  | cons fix rest induction =>
      by_cases early : fix.start < cursor
      · rw [keptFrom, leftOutFrom, if_pos early, if_pos early]
        exact List.perm_middle.trans ((induction cursor).cons fix)
      · rw [keptFrom, leftOutFrom, if_neg early, if_neg early]
        exact (induction fix.stop).cons fix

/-- A fix that is left out starts before the position from which fixes are kept or
before the end of a kept one that stands before it. -/
theorem of_mem_leftOutFrom {fix : Fix} (out : fix ∈ leftOutFrom cursor fixes) :
    fix.start < cursor ∨ ∃ kept ∈ keptFrom cursor fixes,
      [kept, fix].Sublist fixes ∧ fix.start < kept.stop := by
  induction fixes generalizing cursor with
  | nil => simp [leftOutFrom] at out
  | cons first rest induction =>
      by_cases early : first.start < cursor
      · rw [leftOutFrom, if_pos early] at out
        rcases List.mem_cons.mp out with rfl | later
        · exact Or.inl early
        · rcases induction later with before | ⟨kept, member, precedes, covered⟩
          · exact Or.inl before
          · refine Or.inr ⟨kept, ?_, precedes.cons first, covered⟩
            rw [keptFrom, if_pos early]
            exact member
      · rw [leftOutFrom, if_neg early] at out
        rw [keptFrom, if_neg early]
        have inRest : fix ∈ rest :=
          (perm_keptFrom_append_leftOutFrom first.stop rest).subset
            (List.mem_append_right _ out)
        rcases induction out with before | ⟨kept, member, precedes, covered⟩
        · refine Or.inr ⟨first, List.mem_cons_self, ?_, before⟩
          exact (List.singleton_sublist.mpr inRest).cons_cons first
        · exact Or.inr ⟨kept, List.mem_cons_of_mem _ member, precedes.cons first, covered⟩

/-- Fixes of different ranges are sorted in one way. -/
theorem inOrder_eq_of_perm {other : List Fix}
    (distinct : fixes.Pairwise fun left right => ¬left.SameRange right)
    (permuted : other.Perm fixes) : inOrder other = inOrder fixes := by
  apply List.Perm.eq_of_pairwise _ (pairwise_inOrder other) (pairwise_inOrder fixes)
  · exact (perm_inOrder other).trans (permuted.trans (perm_inOrder fixes).symm)
  · intro left right isLeft isRight forward backward
    rw [before_eq_true_iff] at forward backward
    have leftGiven := permuted.subset ((perm_inOrder other).subset isLeft)
    have rightGiven := (perm_inOrder fixes).subset isRight
    by_contra differ
    have symmetric : Std.Symm fun left right : Fix => ¬left.SameRange right :=
      ⟨fun _ _ apart same => apart ⟨same.1.symm, same.2.symm⟩⟩
    apply distinct.forall leftGiven rightGiven differ
    unfold SameRange
    omega

end Choice

section Replacement

variable {text : List Char} {cursor : Int} {fixes : List Fix}

/-- Replacing the ranges from the last to the first leaves the text before a position
and replaces them from this position on. -/
theorem foldr_replaceIn (positive : 0 ≤ cursor) (inside : cursor ≤ text.length)
    (behind : ∀ fix ∈ fixes, cursor ≤ fix.start)
    (within : ∀ fix ∈ fixes, fix.Within text)
    (follow : fixes.Pairwise (·.stop ≤ ·.start)) :
    fixes.foldr replaceIn text =
      Text.sliceTo text cursor ++ replaceFrom text cursor fixes := by
  induction fixes generalizing cursor with
  | nil => exact (List.take_append_drop _ text).symm
  | cons fix rest induction =>
      obtain ⟨starts, ordered, ends⟩ := within fix List.mem_cons_self
      have later := induction (by omega) ends (fun _ => List.rel_of_pairwise_cons follow)
        (fun other member => within other (List.mem_cons_of_mem _ member)) follow.of_cons
      have length := Text.length_sliceTo text (by omega) ends
      have upTo := Text.sliceTo_sliceTo starts ordered ends
      have cut := Text.sliceTo_append_slice positive (behind fix List.mem_cons_self)
        (show fix.start ≤ text.length by omega)
      calc
        (fix :: rest).foldr replaceIn text =
            replaceIn fix (Text.sliceTo text fix.stop ++ replaceFrom text fix.stop rest) := by
          rw [List.foldr_cons, later]
        _ = Text.sliceTo text fix.start ++ fix.text ++ replaceFrom text fix.stop rest := by
          rw [replaceIn, Text.sliceTo_append_left starts (by omega), upTo]
          rw [Text.sliceFrom_append_right length]
        _ = Text.sliceTo text cursor ++ replaceFrom text cursor (fix :: rest) := by
          rw [replaceFrom, ← cut]
          simp only [List.append_assoc]

theorem weave_texts (text : List Char) (cursor : Int) (fixes : List Fix) :
    weave (gapsFrom text cursor fixes) (fixes.map (·.text)) =
      replaceFrom text cursor fixes := by
  induction fixes generalizing cursor with
  | nil => simp [gapsFrom, weave, replaceFrom]
  | cons fix rest induction => rw [gapsFrom, List.map_cons, weave, induction, replaceFrom]

theorem weave_ranges (positive : 0 ≤ cursor)
    (behind : ∀ fix ∈ fixes, cursor ≤ fix.start)
    (within : ∀ fix ∈ fixes, fix.Within text)
    (follow : fixes.Pairwise (·.stop ≤ ·.start)) :
    weave (gapsFrom text cursor fixes)
        (fixes.map fun fix => Text.slice text fix.start fix.stop) =
      Text.sliceFrom text cursor := by
  induction fixes generalizing cursor with
  | nil => simp [gapsFrom, weave]
  | cons fix rest induction =>
      obtain ⟨starts, ordered, ends⟩ := within fix List.mem_cons_self
      rw [gapsFrom, List.map_cons, weave, induction (by omega)
        (fun _ => List.rel_of_pairwise_cons follow)
        (fun other member => within other (List.mem_cons_of_mem _ member)) follow.of_cons,
        List.append_assoc, Text.slice_append_sliceFrom starts ordered ends,
        Text.slice_append_sliceFrom positive (behind fix List.mem_cons_self) (by omega)]

theorem replaceFrom_append {place : Int} {right : List Fix} (positive : 0 ≤ cursor)
    (upTo : cursor ≤ place) (inside : place ≤ text.length)
    (behind : ∀ fix ∈ fixes, cursor ≤ fix.start)
    (before : ∀ fix ∈ fixes, fix.start ≤ fix.stop ∧ fix.stop ≤ place)
    (follow : fixes.Pairwise (·.stop ≤ ·.start))
    (onward : ∀ fix ∈ right, place ≤ fix.start ∧ fix.start ≤ text.length) :
    replaceFrom text cursor (fixes ++ right) =
      replaceFrom (Text.sliceTo text place) cursor fixes ++ replaceFrom text place right := by
  -- The place lies in the gap behind the last of the first fixes, which is cut there.
  induction fixes generalizing cursor with
  | nil =>
      rw [List.nil_append, replaceFrom, Text.sliceFrom_sliceTo positive upTo inside]
      cases right with
      | nil => exact (Text.slice_append_sliceFrom positive upTo inside).symm
      | cons fix rest =>
          obtain ⟨later, within⟩ := onward fix List.mem_cons_self
          rw [replaceFrom, replaceFrom, ← Text.slice_append_slice positive upTo later within]
          simp only [List.append_assoc]
  | cons fix rest induction =>
      obtain ⟨ordered, ends⟩ := before fix List.mem_cons_self
      have starts := behind fix List.mem_cons_self
      rw [List.cons_append, replaceFrom, replaceFrom,
        induction (by omega) ends (fun _ => List.rel_of_pairwise_cons follow)
          (fun other member => before other (List.mem_cons_of_mem _ member)) follow.of_cons,
        Text.slice_sliceTo positive starts (by omega) inside]
      simp only [List.append_assoc]

theorem length_replaceFrom (positive : 0 ≤ cursor) (inside : cursor ≤ text.length)
    (behind : ∀ fix ∈ fixes, cursor ≤ fix.start)
    (inserts : ∀ fix ∈ fixes, fix.start = fix.stop ∧ fix.stop ≤ text.length)
    (follow : fixes.Pairwise (·.stop ≤ ·.start)) :
    cursor + (replaceFrom text cursor fixes).length =
      text.length + ((fixes.flatMap (·.text)).length : Int) := by
  induction fixes generalizing cursor with
  | nil =>
      have whole : (Text.sliceTo text cursor ++ Text.sliceFrom text cursor).length =
          text.length :=
        congrArg List.length (List.take_append_drop _ text)
      have start := Text.length_sliceTo text positive inside
      rw [List.length_append] at whole
      rw [replaceFrom, List.flatMap_nil, List.length_nil]
      omega
  | cons fix rest induction =>
      obtain ⟨empty, ends⟩ := inserts fix List.mem_cons_self
      have starts := behind fix List.mem_cons_self
      have gap := congrArg List.length
        (Text.sliceTo_append_slice positive starts (show fix.start ≤ text.length by omega))
      have upTo := Text.length_sliceTo text positive inside
      have next := Text.length_sliceTo text (show 0 ≤ fix.start by omega) (by omega)
      have later := induction (show 0 ≤ fix.stop by omega) ends
        (fun _ => List.rel_of_pairwise_cons follow)
        (fun other member => inserts other (List.mem_cons_of_mem _ member)) follow.of_cons
      rw [List.length_append] at gap
      rw [replaceFrom, List.flatMap_cons]
      simp only [List.length_append]
      omega

/-- Around a part of the text, insertions before it move it and those behind it do not. -/
theorem exists_replaceFrom_around {first last : Nat} {here right : List Fix}
    (ordered : first ≤ last) (inside : last ≤ text.length)
    (inserts : ∀ fix ∈ fixes ++ (here ++ right), 0 ≤ fix.start ∧ fix.start = fix.stop)
    (follow : (fixes ++ (here ++ right)).Pairwise (·.stop ≤ ·.start))
    (before : ∀ fix ∈ fixes, fix.start ≤ first)
    (between : ∀ fix ∈ here, first ≤ fix.start ∧ fix.start ≤ last)
    (onward : ∀ fix ∈ right, last ≤ fix.start ∧ fix.start ≤ text.length) :
    ∃ start rest, replaceFrom text 0 (fixes ++ (here ++ right)) =
        start ++ (replaceFrom (Text.sliceTo text last) first here ++ rest) ∧
      start.length = first + (fixes.flatMap (·.text)).length ∧
      first + (replaceFrom (Text.sliceTo text last) first here).length =
        last + (here.flatMap (·.text)).length := by
  obtain ⟨followLeft, followOthers, -⟩ := List.pairwise_append.mp follow
  obtain ⟨followHere, -, -⟩ := List.pairwise_append.mp followOthers
  have leftLength := Text.length_sliceTo text (show (0 : Int) ≤ first by omega) (by omega)
  have hereLength := Text.length_sliceTo text (show (0 : Int) ≤ last by omega) (by omega)
  have behind : ∀ fix ∈ fixes, 0 ≤ fix.start := by
    intro fix member
    exact (inserts fix (List.mem_append_left _ member)).1
  have upToFirst : ∀ fix ∈ fixes, fix.start = fix.stop ∧ fix.stop ≤ first := by
    intro fix member
    have placed := before fix member
    have empty := (inserts fix (List.mem_append_left _ member)).2
    omega
  have upToLast : ∀ fix ∈ here, fix.start = fix.stop ∧ fix.stop ≤ last := by
    intro fix member
    have placed := between fix member
    have empty := (inserts fix (List.mem_append_right _ (List.mem_append_left _ member))).2
    omega
  have fromFirst : ∀ fix ∈ here ++ right, first ≤ fix.start ∧ fix.start ≤ text.length := by
    intro fix member
    rcases List.mem_append.mp member with isHere | isRight
    · have placed := between fix isHere
      omega
    · have placed := onward fix isRight
      omega
  refine ⟨replaceFrom (Text.sliceTo text first) 0 fixes, replaceFrom text last right, ?_, ?_, ?_⟩
  · rw [replaceFrom_append (Int.le_refl 0) (by omega) (by omega) behind
        (fun fix member => ⟨Int.le_of_eq (upToFirst fix member).1, (upToFirst fix member).2⟩)
        followLeft fromFirst,
      replaceFrom_append (by omega) (by omega) (by omega)
        (fun fix member => (between fix member).1)
        (fun fix member => ⟨Int.le_of_eq (upToLast fix member).1, (upToLast fix member).2⟩)
        followHere onward]
  · rw [← leftLength] at upToFirst
    have grown := length_replaceFrom (Int.le_refl 0) (by omega) behind upToFirst followLeft
    omega
  · rw [← hereLength] at upToLast
    have grown := length_replaceFrom (show (0 : Int) ≤ first by omega) (by omega)
      (fun fix member => (between fix member).1) upToLast followHere
    omega

/-- Insertions that are given in order are applied as they are. -/
theorem getD_applyAll_of_follow (text : List Char)
    (inserts : ∀ fix ∈ fixes, 0 ≤ fix.start ∧ fix.start = fix.stop)
    (follow : fixes.Pairwise (·.stop ≤ ·.start)) :
    (applyAll text fixes).getD text = replaceFrom text 0 fixes := by
  have sorted : inOrder fixes = fixes := by
    apply List.mergeSort_of_pairwise
    apply follow.imp_of_mem
    intro left right isLeft isRight behind
    have emptyLeft := inserts left isLeft
    have emptyRight := inserts right isRight
    rw [before_eq_true_iff]
    omega
  rw [getD_applyAll, applied, sorted,
    keptFrom_eq_self (fun fix member => (inserts fix member).1) follow]

end Replacement

/-- Fixes in a text are applied greedily and nothing outside of their ranges is lost: the
kept ones follow each other, and one that is left out starts before the end of a kept one
before it.  The result is the text with the kept ranges replaced from the last to the
first, that is, the same gaps with the new texts between them; it is given exactly if it
differs, and does not depend on the order of fixes of different ranges. -/
theorem applyAll_splices {text : List Char} {fixes : List Fix}
    (within : ∀ fix ∈ fixes, fix.Within text) :
    (applied fixes).Pairwise (·.stop ≤ ·.start) ∧
      (applied fixes ++ leftOut fixes).Perm fixes ∧
      (∀ fix ∈ leftOut fixes, ∃ kept ∈ applied fixes,
        [kept, fix].Sublist (inOrder fixes) ∧ fix.start < kept.stop) ∧
      (applyAll text fixes =
        if (applied fixes).foldr replaceIn text = text then none
        else some ((applied fixes).foldr replaceIn text)) ∧
      weave (gapsFrom text 0 (applied fixes))
          ((applied fixes).map fun fix => Text.slice text fix.start fix.stop) = text ∧
      weave (gapsFrom text 0 (applied fixes)) ((applied fixes).map (·.text)) =
        (applied fixes).foldr replaceIn text ∧
      applyAll text [] = none ∧
      ∀ other : List Fix, other.Perm fixes →
        (fixes.Pairwise fun left right => ¬left.SameRange right) →
        applyAll text other = applyAll text fixes := by
  have sortedWithin : ∀ fix ∈ inOrder fixes, fix.Within text := by
    intro fix member
    exact within fix ((perm_inOrder fixes).subset member)
  have proper : ∀ fix ∈ inOrder fixes, fix.start ≤ fix.stop := by
    intro fix member
    exact (sortedWithin fix member).2.1
  have follow : (applied fixes).Pairwise (·.stop ≤ ·.start) := pairwise_keptFrom proper
  have behind : ∀ fix ∈ applied fixes, 0 ≤ fix.start := by
    intro fix member
    exact (of_mem_keptFrom proper member).2
  have keptWithin : ∀ fix ∈ applied fixes, fix.Within text := by
    intro fix member
    exact sortedWithin fix (of_mem_keptFrom proper member).1
  have spliced : (applied fixes).foldr replaceIn text =
      replaceFrom text 0 (applied fixes) := by
    rw [foldr_replaceIn (Int.le_refl 0) (by omega) behind keptWithin follow]
    simp [Text.sliceTo, Text.clamp]
  refine ⟨follow, ?_, ?_, ?_, ?_, ?_, ?_, ?_⟩
  · exact (perm_keptFrom_append_leftOutFrom 0 _).trans (perm_inOrder fixes)
  · intro fix out
    have member : fix ∈ inOrder fixes :=
      (perm_keptFrom_append_leftOutFrom 0 (inOrder fixes)).subset (List.mem_append_right _ out)
    rcases of_mem_leftOutFrom out with negative | covered
    · have starts := (sortedWithin fix member).1
      omega
    · exact covered
  · rw [spliced, applyAll, spliceFrom_eq_replaceFrom]
    rfl
  · rw [weave_ranges (Int.le_refl 0) behind keptWithin follow]
    simp [Text.sliceFrom, Text.clamp]
  · rw [weave_texts, spliced]
  · exact applyAll_nil text
  · intro other permuted distinct
    rw [applyAll, applyAll, inOrder_eq_of_perm distinct permuted]

/-- Three fixes out of order, the first of which overlaps the last. -/
def overlappingFixes : List Fix :=
  [⟨1, 3, ['Y']⟩, ⟨4, 5, ['Z']⟩, ⟨0, 2, ['X']⟩]

theorem applyAll_splices_overlappingFixes :
    (∀ fix ∈ overlappingFixes, fix.Within ['a', 'b', 'c', 'd', 'e', 'f']) ∧
      applied overlappingFixes = [⟨0, 2, ['X']⟩, ⟨4, 5, ['Z']⟩] ∧
      leftOut overlappingFixes = [⟨1, 3, ['Y']⟩] ∧
      applyAll ['a', 'b', 'c', 'd', 'e', 'f'] overlappingFixes =
        some ['X', 'c', 'd', 'Z', 'f'] := by
  have within : ∀ fix ∈ overlappingFixes, fix.Within ['a', 'b', 'c', 'd', 'e', 'f'] := by
    simp [overlappingFixes, Within]
  have sorted : inOrder overlappingFixes =
      [⟨0, 2, ['X']⟩, ⟨1, 3, ['Y']⟩, ⟨4, 5, ['Z']⟩] := by
    rw [inOrder_eq_of_perm _ (show overlappingFixes.Perm
      [⟨0, 2, ['X']⟩, ⟨1, 3, ['Y']⟩, ⟨4, 5, ['Z']⟩] by decide)]
    · apply List.mergeSort_of_pairwise
      decide
    · simp [SameRange]
  have kept : applied overlappingFixes = [⟨0, 2, ['X']⟩, ⟨4, 5, ['Z']⟩] := by
    rw [applied, sorted]
    decide
  have out : leftOut overlappingFixes = [⟨1, 3, ['Y']⟩] := by
    rw [leftOut, sorted]
    decide
  obtain ⟨-, -, -, spliced, -⟩ := applyAll_splices within
  rw [kept] at spliced
  refine ⟨within, kept, out, ?_⟩
  rw [spliced]
  decide

end Fix

end ScriptLint
