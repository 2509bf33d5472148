/-!
# UTF-16 code units

Message columns count UTF-16 code units: characters beyond the basic plane
take two of them, every other character one.
-/

namespace ScriptLint.Text

/-- The number of UTF-16 code units of a character. -/
def charUnits (char : Char) : Nat :=
  if 0x10000 ≤ char.toNat then 2 else 1

/-- The number of UTF-16 code units of a text. -/
def units : List Char → Nat
  | [] => 0
  | char :: rest => charUnits char + units rest

theorem charUnits_pos (char : Char) : 0 < charUnits char := by
  unfold charUnits
  split <;> omega

theorem units_append (left right : List Char) :
    units (left ++ right) = units left + units right := by
  induction left with
  | nil => simp [units]
  | cons char rest induction => simp [units, induction, Nat.add_assoc]

end ScriptLint.Text
