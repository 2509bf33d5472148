/-!
# Signed slices

Positions in a list may be negative; they then count from its end.  A slice
clamps both of its bounds, so it is defined for every pair of integers, while
reading one element is defined only inside the list.  Outside of it, a position
that does not fit into a machine word fails in a way of its own.
-/

namespace ScriptLint.Text

/-- The place in a list of the given length that a signed position means. -/
def clamp (length : Nat) (position : Int) : Nat :=
  if position < 0 then (position + length).toNat else min position.toNat length

/-- The elements before a signed position. -/
def sliceTo {α : Type} (items : List α) (stop : Int) : List α :=
  items.take (clamp items.length stop)

/-- The elements from a signed position on. -/
def sliceFrom {α : Type} (items : List α) (start : Int) : List α :=
  items.drop (clamp items.length start)

/-- The elements between two signed positions; empty when they are crossed. -/
def slice {α : Type} (items : List α) (start stop : Int) : List α :=
  (sliceTo items stop).drop (clamp items.length start)

/-- The element at a signed position, if the list reaches there. -/
def at? {α : Type} (items : List α) (position : Int) : Option α :=
  if position < 0 then
    if position + items.length < 0 then none
    else items[(position + items.length).toNat]?
  else items[position.toNat]?

/-- Why a list has no element at a position. -/
inductive IndexError where
  /-- The list does not reach there. -/
  | outOfRange
  /-- The list does not reach there, and the position does not fit into a signed
  word of 64 bits either. -/
  | tooLarge
deriving DecidableEq, Repr

/-- The wording of a position that cannot be read. -/
def IndexError.message : IndexError → String
  | outOfRange => "list index out of range"
  | tooLarge => "cannot fit 'int' into an index-sized integer"

def get {α : Type} (items : List α) (position : Int) : Except IndexError α :=
  match at? items position with
  | some item => .ok item
  | none =>
      let bound := Nat.pow 2 63
      if position < -bound || bound ≤ position then .error .tooLarge
      else .error .outOfRange

theorem clamp_natCast (length position : Nat) :
    clamp length position = min position length := by
  unfold clamp
  split <;> omega

theorem clamp_of_nat {length position : Nat} (within : position ≤ length) :
    clamp length position = position := by
  rw [clamp_natCast, Nat.min_eq_left within]

theorem slice_of_nat {α : Type} {items : List α} {start stop : Nat}
    (ordered : start ≤ stop) (within : stop ≤ items.length) :
    slice items start stop = (items.take stop).drop start := by
  simp [slice, sliceTo, clamp_of_nat within,
    clamp_of_nat (Nat.le_trans ordered within)]

theorem at?_of_nat {α : Type} (items : List α) (position : Nat) :
    at? items position = items[position]? := by
  unfold at?
  split
  · omega
  · simp

end ScriptLint.Text
