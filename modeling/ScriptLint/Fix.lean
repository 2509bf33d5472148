import ScriptLint.Text.Slice

/-!
# Fixes

A fix replaces a range of characters by a text.  Fixes are applied from the
start of the text to its end; one that starts before the end of the last
applied one is left out.
-/

namespace ScriptLint

/-- A replacement for the characters from `start` up to `stop`. -/
structure Fix where
  start : Int
  stop : Int
  text : List Char
deriving DecidableEq, Repr

namespace Fix

/-- The order in which fixes are applied: by start, then by end. -/
def before (left right : Fix) : Bool :=
  left.start < right.start ||
    (left.start = right.start && left.stop ≤ right.stop)

/-- Fixes in the order of application; those with the same range keep their
order. -/
def inOrder (fixes : List Fix) : List Fix :=
  fixes.mergeSort before

/-- Of fixes in order, those that start at or after the end of the last kept
one. -/
def keptFrom (cursor : Int) : List Fix → List Fix
  | [] => []
  | fix :: rest =>
      if fix.start < cursor then keptFrom cursor rest
      else fix :: keptFrom fix.stop rest

/-- The text from a position on with fixes in order applied to it. -/
def spliceFrom (text : List Char) (cursor : Int) : List Fix → List Char
  | [] => Text.sliceFrom text cursor
  | fix :: rest =>
      if fix.start < cursor then spliceFrom text cursor rest
      else
        Text.slice text cursor fix.start ++ fix.text ++
          spliceFrom text fix.stop rest

/-- The text after all fixes; nothing if it stays the same. -/
def applyAll (text : List Char) (fixes : List Fix) : Option (List Char) :=
  let output := spliceFrom text 0 (inOrder fixes)
  if output = text then none else some output

end Fix

end ScriptLint
