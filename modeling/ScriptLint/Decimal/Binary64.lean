/-!
# Binary floating point numbers

A double is a sign with a magnitude, and a finite magnitude is a natural number
times a power of two.  Everything that is said about doubles in this library
goes through this view.
-/

namespace ScriptLint.Decimal

/-- The magnitude of a double: `mantissa * 2 ^ exponent`, infinite, or not a
number. -/
inductive Magnitude where
  | finite (mantissa : Nat) (exponent : Int)
  | infinite
  | notANumber
deriving DecidableEq, Repr

/-- A double by its sign and magnitude. -/
structure Binary64 where
  negative : Bool
  magnitude : Magnitude
deriving DecidableEq, Repr

namespace Binary64

def ofBits (bits : Nat) : Binary64 :=
  let fraction := bits % Nat.pow 2 52
  let biased : Nat := bits / Nat.pow 2 52 % 2048
  let negative := bits / Nat.pow 2 63 % 2 = 1
  if biased = 2047 then
    ⟨negative, if fraction = 0 then .infinite else .notANumber⟩
  else if biased = 0 then ⟨negative, .finite fraction (-1074)⟩
  else ⟨negative, .finite (Nat.pow 2 52 + fraction) ((biased : Int) - 1075)⟩

def ofFloat (number : Float) : Binary64 :=
  ofBits number.toBits.toNat

/-- The integer that a number equals, if it is one. -/
def toInt? (number : Binary64) : Option Int :=
  match number.magnitude with
  | .finite mantissa exponent =>
      let signed (value : Nat) : Int :=
        if number.negative then -(value : Int) else value
      if 0 ≤ exponent then some (signed (mantissa * Nat.pow 2 exponent.toNat))
      else
        let scale := Nat.pow 2 (-exponent).toNat
        if mantissa % scale = 0 then some (signed (mantissa / scale)) else none
  | _ => none

end Binary64

end ScriptLint.Decimal
