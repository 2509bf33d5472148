import Mathlib.Data.List.Basic
import ScriptLint.Text.Lines
import ScriptLint.Text.Slice

/-!
# Line ends before and after reading

Reading a text makes every line end one line feed.  A character of the text as it
was read then stands for a unit of the text before: a line end of one or two
characters, or a single other character.  Positions are carried back along these
units.
-/

namespace ScriptLint.Text

/-- The units of a text that reading makes one character each. -/
def breakUnits : List Char → List (List Char)
  | [] => []
  | '\r' :: '\n' :: rest => ['\r', '\n'] :: breakUnits rest
  | char :: rest => [char] :: breakUnits rest

def readUnit : List Char → Char
  | [char] => if char = '\r' then '\n' else char
  | _ => '\n'

/-- The position before reading that a position after reading stands for. -/
def positionBefore (text : List Char) (position : Int) : Nat :=
  (sliceTo (breakUnits text) position).flatten.length

@[simp]
theorem flatten_breakUnits (text : List Char) : (breakUnits text).flatten = text := by
  fun_induction breakUnits text with
  | case1 => rfl
  | case2 rest induction => simp [induction]
  | case3 char rest _ induction => simp [induction]

theorem unifyBreaks_eq_map_breakUnits (text : List Char) :
    unifyBreaks text = (breakUnits text).map readUnit := by
  fun_induction breakUnits text with
  | case1 => rfl
  | case2 rest induction => simp [unifyBreaks, induction, readUnit]
  | case3 char rest single induction =>
      rw [unifyBreaks.eq_3 _ _ single, induction]
      rfl

theorem return_notMem_unifyBreaks (text : List Char) : '\r' ∉ unifyBreaks text := by
  rw [unifyBreaks_eq_map_breakUnits, List.mem_map]
  rintro ⟨part, -, read⟩
  unfold readUnit at read
  split at read
  · split at read
    · simp at read
    · contradiction
  · simp at read

theorem map_readUnit_of_notMem {text : List Char} {parts : List (List Char)}
    (within : parts ⊆ breakUnits text) (none : '\r' ∉ parts.flatten) :
    parts.map readUnit = parts.flatten := by
  have single : ∀ part ∈ breakUnits text, '\r' ∉ part → part = [readUnit part] := by
    clear within none
    fun_induction breakUnits text with
    | case1 => simp
    | case2 rest induction =>
        intro part member free
        rcases List.mem_cons.mp member with rfl | later
        · simp at free
        · exact induction part later free
    | case3 char rest _ induction =>
        intro part member free
        rcases List.mem_cons.mp member with rfl | later
        · have ordinary : char ≠ '\r' := by simpa [eq_comm] using free
          simp [readUnit, ordinary]
        · exact induction part later free
  induction parts with
  | nil => rfl
  | cons part parts induction =>
      simp only [List.flatten_cons, List.mem_append, not_or] at none
      obtain ⟨here, later⟩ := none
      have alone := single part (within List.mem_cons_self) here
      have rest := induction (fun _ member => within (List.mem_cons_of_mem _ member)) later
      rw [List.map_cons, rest, List.flatten_cons]
      conv_rhs => rw [alone]
      rfl

section Positions

private theorem split_text (text : List Char) (count : Nat) :
    text = ((breakUnits text).take count).flatten ++
      ((breakUnits text).drop count).flatten := by
  rw [← List.flatten_append, List.take_append_drop, flatten_breakUnits]

theorem positionBefore_le (text : List Char) (position : Int) :
    positionBefore text position ≤ text.length := by
  conv_rhs => rw [split_text text (clamp (breakUnits text).length position),
    List.length_append]
  exact Nat.le_add_right _ _

private theorem take_positionBefore (text : List Char) (position : Int) :
    text.take (positionBefore text position) =
      (sliceTo (breakUnits text) position).flatten := by
  have whole := split_text text (clamp (breakUnits text).length position)
  calc text.take (positionBefore text position)
      = (((breakUnits text).take (clamp (breakUnits text).length position)).flatten ++
          ((breakUnits text).drop (clamp (breakUnits text).length position)).flatten).take
            (positionBefore text position) := by rw [← whole]
    _ = (sliceTo (breakUnits text) position).flatten := by
        rw [positionBefore, sliceTo, List.take_left]

/-- What follows a position after reading is read from what follows the position
that it stands for. -/
theorem sliceFrom_positionBefore (text : List Char) (start : Int) :
    sliceFrom text (positionBefore text start) =
      (sliceFrom (breakUnits text) start).flatten := by
  have whole := split_text text (clamp (breakUnits text).length start)
  rw [sliceFrom, clamp_of_nat (positionBefore_le text start)]
  calc text.drop (positionBefore text start)
      = (((breakUnits text).take (clamp (breakUnits text).length start)).flatten ++
          ((breakUnits text).drop (clamp (breakUnits text).length start)).flatten).drop
            (positionBefore text start) := by rw [← whole]
    _ = (sliceFrom (breakUnits text) start).flatten := by
        rw [positionBefore, sliceTo, sliceFrom, List.drop_left]

/-- What lies between two positions after reading is read from what lies between
the positions that they stand for. -/
theorem slice_positionBefore (text : List Char) (start stop : Int) :
    slice text (positionBefore text start) (positionBefore text stop) =
      (slice (breakUnits text) start stop).flatten := by
  rw [slice, sliceTo, clamp_of_nat (positionBefore_le text stop),
    clamp_of_nat (positionBefore_le text start), take_positionBefore,
    positionBefore, slice, sliceTo, sliceTo]
  generalize clamp (breakUnits text).length start = first
  generalize clamp (breakUnits text).length stop = last
  rcases Nat.le_total first last with ordered | crossed
  · have inside : (breakUnits text).take last = (breakUnits text).take first ++
        ((breakUnits text).take last).drop first := by
      conv_lhs => rw [← List.take_append_drop first ((breakUnits text).take last),
        List.take_take, Nat.min_eq_left ordered]
    conv_lhs => rw [inside, List.flatten_append]
    rw [List.drop_left]
  · have shorter : (breakUnits text).take first = (breakUnits text).take last ++
        ((breakUnits text).take first).drop last := by
      conv_lhs => rw [← List.take_append_drop last ((breakUnits text).take first),
        List.take_take, Nat.min_eq_left crossed]
    have nothing : ((breakUnits text).take last).drop first = [] :=
      List.drop_eq_nil_of_le (by rw [List.length_take]; omega)
    rw [nothing, List.flatten_nil]
    apply List.drop_eq_nil_of_le
    rw [shorter, List.flatten_append, List.length_append]
    exact Nat.le_add_right _ _

theorem slice_map {α β : Type} (function : α → β) (items : List α) (start stop : Int) :
    slice (items.map function) start stop = (slice items start stop).map function := by
  simp [slice, sliceTo]

theorem sliceFrom_map {α β : Type} (function : α → β) (items : List α) (start : Int) :
    sliceFrom (items.map function) start = (sliceFrom items start).map function := by
  simp [sliceFrom]

theorem slice_subset {α : Type} (items : List α) (start stop : Int) :
    slice items start stop ⊆ items :=
  fun _ member => List.take_subset _ _ (List.drop_subset _ _ member)

theorem sliceFrom_subset {α : Type} (items : List α) (start : Int) :
    sliceFrom items start ⊆ items :=
  List.drop_subset _ _

end Positions

end ScriptLint.Text
