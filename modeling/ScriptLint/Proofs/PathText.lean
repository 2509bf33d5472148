import Mathlib.Data.List.Basic
import ScriptLint.Path.Basic

/-!
# Written paths

A path that is read has proper names, and an absolute path with proper names is read
back from its text.  Paths of files are therefore told apart by their texts.
-/

namespace ScriptLint.Path

/-- Whether a text can be a name of a path: it is neither empty nor a single dot, and
it holds no slash. -/
def isName (name : String) : Bool :=
  name ≠ "" && name ≠ "." && !name.toList.contains '/'

theorem isName_eq_true_iff {name : String} :
    isName name = true ↔ name ≠ "" ∧ name ≠ "." ∧ '/' ∉ name.toList := by
  simp [isName, and_assoc]

/-- A path whose names are proper, as they are in every path that is read. -/
def IsProper (path : Path) : Prop :=
  ∀ name ∈ path.names, isName name = true

theorem splitSlashes_eq_splitOn (text : List Char) :
    splitSlashes text = text.splitOn '/' := by
  induction text with
  | nil => rfl
  | cons char rest induction =>
      by_cases slash : char = '/'
      · simp [splitSlashes, slash, induction, List.splitOn, List.splitOnP_cons_eq_if_modifyHead]
      · obtain ⟨name, names, whole⟩ := List.exists_cons_of_ne_nil
          (List.splitOnP_ne_nil (· == '/') rest)
        simp [splitSlashes, slash, induction, List.splitOn,
          List.splitOnP_cons_eq_if_modifyHead, whole]

private theorem slash_notMem_of_mem_splitSlashes {text piece : List Char}
    (member : piece ∈ splitSlashes text) : '/' ∉ piece := by
  induction text generalizing piece with
  | nil =>
      obtain rfl : piece = [] := by simpa [splitSlashes] using member
      simp
  | cons char rest induction =>
      rw [splitSlashes] at member
      split at member
      · rcases List.mem_cons.mp member with rfl | later
        · simp
        · exact induction later
      · rename_i other
        split at member
        · obtain rfl : piece = [char] := by simpa using member
          simpa using Ne.symm other
        · rename_i name names whole
          rcases List.mem_cons.mp member with rfl | later
          · have inner := induction (whole ▸ List.mem_cons_self)
            simp [Ne.symm other, inner]
          · exact induction (whole ▸ List.mem_cons_of_mem _ later)

theorem isProper_ofString (text : String) : (ofString text).IsProper := by
  intro name member
  obtain ⟨listed, kept⟩ := List.mem_filter.mp member
  obtain ⟨piece, split, rfl⟩ := List.mem_map.mp listed
  rw [isName_eq_true_iff]
  refine ⟨by simpa using (Bool.and_eq_true_iff.mp kept).1,
    by simpa using (Bool.and_eq_true_iff.mp kept).2, ?_⟩
  rw [String.toList_ofList]
  exact slash_notMem_of_mem_splitSlashes split

theorem toList_toString_absolute (names : List String) :
    (Path.toString ⟨"/", names⟩).toList =
      '/' :: ['/'].intercalate (names.map String.toList) := by
  simp [Path.toString, String.toList_intercalate]

private theorem anchorOf_of_name {char : Char} (rest : List Char) (other : char ≠ '/') :
    anchorOf ('/' :: char :: rest) = "/" := by
  unfold anchorOf
  split
  · rfl
  · rename_i slashes
    simp_all
  · rfl
  · rename_i none
    exact absurd rfl (none (char :: rest))

theorem ofString_toString_absolute {names : List String} (proper : IsProper ⟨"/", names⟩) :
    ofString (Path.toString ⟨"/", names⟩) = ⟨"/", names⟩ := by
  rw [ofString, toList_toString_absolute, splitSlashes, if_pos rfl]
  cases names with
  | nil => rfl
  | cons name rest =>
      have slashFree : ∀ piece ∈ (name :: rest).map String.toList, '/' ∉ piece := by
        intro piece member
        obtain ⟨other, listed, rfl⟩ := List.mem_map.mp member
        exact (isName_eq_true_iff.mp (proper other listed)).2.2
      have anchored : anchorOf
          ('/' :: ['/'].intercalate ((name :: rest).map String.toList)) = "/" := by
        obtain ⟨nonempty, -, free⟩ := isName_eq_true_iff.mp (proper name List.mem_cons_self)
        obtain ⟨first, others, spelled⟩ := List.exists_cons_of_ne_nil
          (fun empty => nonempty (String.toList_eq_nil_iff.mp empty))
        have other : first ≠ '/' := by
          rintro rfl
          simp [spelled] at free
        cases rest with
        | nil => simpa [spelled] using anchorOf_of_name others other
        | cons next rest => simpa [spelled] using anchorOf_of_name _ other
      have kept : ∀ other ∈ name :: rest, (other ≠ "" && other ≠ ".") = true := by
        intro other listed
        obtain ⟨nonempty, noDot, -⟩ := isName_eq_true_iff.mp (proper other listed)
        simp [nonempty, noDot]
      rw [anchored, splitSlashes_eq_splitOn,
        List.splitOn_intercalate '/' slashFree (by simp), List.map_cons, List.map_map,
        List.filter_cons_of_neg (by simp)]
      simp only [Function.comp_def, String.ofList_toList, List.map_id']
      rw [List.filter_eq_self.mpr kept]

/-- Absolute paths with proper names are told apart by their texts. -/
theorem eq_of_toString_eq {left right : Path} (leftAnchor : left.anchor = "/")
    (rightAnchor : right.anchor = "/") (leftProper : left.IsProper)
    (rightProper : right.IsProper) (same : left.toString = right.toString) : left = right := by
  obtain ⟨anchor, names⟩ := left
  obtain ⟨other, others⟩ := right
  subst leftAnchor rightAnchor
  rw [← ofString_toString_absolute leftProper, same, ofString_toString_absolute rightProper]

end ScriptLint.Path
