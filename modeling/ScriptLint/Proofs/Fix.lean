import ScriptLint.Fix
import ScriptLint.Proofs.Text.Breaks

/-!
# What fixes leave alone

Fixes are found on a text as it was read, with all line ends made line feeds.  The
fixed text is the text before reading with the same ranges replaced exactly if no
carriage return lies outside of these ranges.
-/

namespace ScriptLint.Fix

/-- The fixes that are applied, in order. -/
def applied (fixes : List Fix) : List Fix :=
  keptFrom 0 (inOrder fixes)

/-- A text from a position on with the ranges of fixes replaced, one after the
other. -/
def replaceFrom (text : List Char) (cursor : Int) : List Fix → List Char
  | [] => Text.sliceFrom text cursor
  | fix :: rest =>
      Text.slice text cursor fix.start ++ fix.text ++ replaceFrom text fix.stop rest

/-- The characters of a text from a position on that no range of a fix holds. -/
def outsideFrom (text : List Char) (cursor : Int) : List Fix → List Char
  | [] => Text.sliceFrom text cursor
  | fix :: rest => Text.slice text cursor fix.start ++ outsideFrom text fix.stop rest

/-- A fix of a text that was read, at the place in the text before reading. -/
def beforeReading (raw : List Char) (fix : Fix) : Fix :=
  ⟨Text.positionBefore raw fix.start, Text.positionBefore raw fix.stop, fix.text⟩

theorem spliceFrom_eq_replaceFrom (text : List Char) (cursor : Int)
    (fixes : List Fix) :
    spliceFrom text cursor fixes = replaceFrom text cursor (keptFrom cursor fixes) := by
  induction fixes generalizing cursor with
  | nil => rfl
  | cons fix rest induction =>
      by_cases early : fix.start < cursor
      · simp [keptFrom, spliceFrom, early, induction]
      · simp [keptFrom, spliceFrom, replaceFrom, early, induction]

theorem applyAll_nil (text : List Char) : applyAll text [] = none := by
  simp [applyAll, inOrder, spliceFrom, Text.sliceFrom, Text.clamp]

theorem of_applyAll_eq_some {text output : List Char} {fixes : List Fix}
    (fixed : applyAll text fixes = some output) :
    output = replaceFrom text 0 (applied fixes) := by
  simp only [applyAll] at fixed
  split at fixed
  · simp at fixed
  · rw [← Option.some.inj fixed, spliceFrom_eq_replaceFrom]
    rfl

theorem outsideFrom_subset (text : List Char) (cursor : Int) (fixes : List Fix) :
    outsideFrom text cursor fixes ⊆ text := by
  induction fixes generalizing cursor with
  | nil => exact Text.sliceFrom_subset text cursor
  | cons fix rest induction =>
      exact List.append_subset.mpr
        ⟨Text.slice_subset text cursor fix.start, induction fix.stop⟩

theorem count_replaceFrom (char : Char) (text : List Char) (cursor : Int)
    (fixes : List Fix) :
    (replaceFrom text cursor fixes).count char =
      (outsideFrom text cursor fixes).count char +
        (fixes.flatMap (·.text)).count char := by
  induction fixes generalizing cursor with
  | nil => simp [replaceFrom, outsideFrom]
  | cons fix rest induction =>
      simp only [replaceFrom, outsideFrom, List.count_append, induction,
        List.flatMap_cons]
      omega

/-- Where no carriage return lies outside of the ranges, it makes no difference
whether a text is read before or after it is fixed. -/
private theorem replaceFrom_unifyBreaks {raw : List Char} {cursor : Int}
    {fixes : List Fix}
    (none : '\r' ∉ outsideFrom raw (Text.positionBefore raw cursor)
      (fixes.map (beforeReading raw))) :
    replaceFrom (Text.unifyBreaks raw) cursor fixes =
      replaceFrom raw (Text.positionBefore raw cursor)
        (fixes.map (beforeReading raw)) := by
  induction fixes generalizing cursor with
  | nil =>
      simp only [List.map_nil, outsideFrom, Text.sliceFrom_positionBefore] at none
      simp only [List.map_nil, replaceFrom, Text.sliceFrom_positionBefore,
        Text.unifyBreaks_eq_map_breakUnits, Text.sliceFrom_map]
      exact Text.map_readUnit_of_notMem (Text.sliceFrom_subset _ _) none
  | cons fix rest induction =>
      simp only [List.map_cons, outsideFrom, beforeReading,
        Text.slice_positionBefore, List.mem_append, not_or] at none
      obtain ⟨here, later⟩ := none
      simp only [List.map_cons, replaceFrom, beforeReading]
      rw [induction later, Text.unifyBreaks_eq_map_breakUnits, Text.slice_map,
        Text.slice_positionBefore,
        Text.map_readUnit_of_notMem (Text.slice_subset _ _ _) here]

/-- Fixes of a text that was read change nothing else of the text before reading
exactly if no carriage return of it lies outside of their ranges. -/
theorem replaceFrom_unifyBreaks_eq_iff (raw : List Char) (fixes : List Fix) :
    replaceFrom (Text.unifyBreaks raw) 0 fixes =
        replaceFrom raw 0 (fixes.map (beforeReading raw)) ↔
      '\r' ∉ outsideFrom raw 0 (fixes.map (beforeReading raw)) := by
  have start : Text.positionBefore raw 0 = 0 := by
    simp [Text.positionBefore, Text.sliceTo, Text.clamp]
  constructor
  · intro same
    have counts := congrArg (List.count '\r') same
    rw [count_replaceFrom, count_replaceFrom] at counts
    have nothing : (outsideFrom (Text.unifyBreaks raw) 0 fixes).count '\r' = 0 :=
      List.count_eq_zero.mpr fun member =>
        Text.return_notMem_unifyBreaks raw (outsideFrom_subset _ _ _ member)
    have texts : (fixes.map (beforeReading raw)).flatMap (·.text) =
        fixes.flatMap (·.text) := by
      rw [List.flatMap_map]
      rfl
    rw [texts, nothing] at counts
    exact List.count_eq_zero.mp (by omega)
  · intro none
    have same : replaceFrom (Text.unifyBreaks raw) 0 fixes =
        replaceFrom raw (Text.positionBefore raw 0)
          (fixes.map (beforeReading raw)) :=
      replaceFrom_unifyBreaks (by rw [start]; exact none)
    rw [same, start]
    rfl

end ScriptLint.Fix
