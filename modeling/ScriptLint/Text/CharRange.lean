/-!
# Sets of characters given by ranges

A small character class of Unicode is a list of disjoint ranges of code points in
ascending order.  A large one is given by the lengths of its stretches: so many code
points outside of it, so many inside of it, and so on in turn.
-/

namespace ScriptLint.Text

/-- Whether a code point lies in one of the ranges, which ascend. -/
def inRanges (code : Nat) : List (Nat × Nat) → Bool
  | [] => false
  | (first, last) :: rest =>
      if code < first then false else code ≤ last || inRanges code rest

/-- Whether a code point belongs to the class whose stretches have these lengths,
outside and inside in turn from code point zero on. -/
def inStretches (code : Nat) : List Nat → Bool
  | outside :: inside :: rest =>
      if code < outside then false
      else code < outside + inside || inStretches (code - (outside + inside)) rest
  | _ => false

/-- Whether a code point is one of `first`, `first + stride`, … up to `last` in
one of the runs `(first, last, stride)`. -/
def inRuns (code : Nat) : List (Nat × Nat × Nat) → Bool
  | [] => false
  | (first, last, stride) :: rest =>
      (first ≤ code && code ≤ last && (code - first) % stride = 0) ||
        inRuns code rest

end ScriptLint.Text
