import ScriptLint.Decimal.Binary64

/-!
# Shortest decimals

A positive double `mantissa * 2 ^ exponent` is printed with the fewest decimal
digits that read back as the same double.  The numbers that read back form an
interval around it, whose ends belong to it exactly if the mantissa is even.
All comparisons are made between natural numbers.
-/

namespace ScriptLint.Decimal

/-- The decimal `digits * 10 ^ exponent`. -/
structure Scientific where
  digits : Nat
  exponent : Int
deriving DecidableEq, Repr

namespace Shortest

/-- A natural number times powers of two and ten with natural exponents, after
both sides of a comparison were scaled by the same power. -/
def scaled (value : Nat) (twos tens : Int) : Nat :=
  value * Nat.pow 2 twos.toNat * Nat.pow 10 tens.toNat

/-- Compares `digits * 10 ^ tens` with `value * 2 ^ twos`. -/
def compareWith (digits : Nat) (tens : Int) (value : Nat) (twos : Int) : Ordering :=
  compare (scaled digits (-twos) tens) (scaled value twos (-tens))

/-- Whether a decimal reads back as the double `mantissa * 2 ^ exponent`.  Below
a power of two the neighbouring doubles lie twice as close. -/
def readsBack (mantissa : Nat) (exponent : Int) (digits : Nat) (tens : Int) : Bool :=
  let narrow := mantissa = Nat.pow 2 52 && decide (-1074 < exponent)
  let low := 4 * mantissa - (if narrow then 1 else 2)
  let high := 4 * mantissa + 2
  let closed := mantissa % 2 = 0
  (match compareWith digits tens low (exponent - 2) with
    | .lt => false
    | .eq => closed
    | .gt => true) &&
  (match compareWith digits tens high (exponent - 2) with
    | .lt => true
    | .eq => closed
    | .gt => false)

/-- The largest number of units `10 ^ tens` that does not exceed the double. -/
def unitsBelow (mantissa : Nat) (exponent tens : Int) : Nat :=
  scaled mantissa exponent (-tens) / scaled 1 (-exponent) tens

/-- The power of ten of the leading decimal digit, searched downwards. -/
def leading (mantissa : Nat) (exponent : Int) : Nat → Int → Int
  | 0, tens => tens
  | fuel + 1, tens =>
      if 0 < unitsBelow mantissa exponent tens then tens
      else leading mantissa exponent fuel (tens - 1)

/-- Of the two decimals next to the double on one grid, the one that reads back
and lies nearer; on a tie the one with the even last digit. -/
def onGrid? (mantissa : Nat) (exponent tens : Int) : Option Scientific :=
  let below := unitsBelow mantissa exponent tens
  let above := below + 1
  match readsBack mantissa exponent below tens,
    readsBack mantissa exponent above tens with
  | true, false => some ⟨below, tens⟩
  | false, true => some ⟨above, tens⟩
  | true, true =>
      match compareWith (below + above) tens (2 * mantissa) exponent with
      | .gt => some ⟨below, tens⟩
      | .lt => some ⟨above, tens⟩
      | .eq => some ⟨if below % 2 = 0 then below else above, tens⟩
  | false, false => none

/-- Tries grids with one digit more each time. -/
def search (mantissa : Nat) (exponent : Int) : Nat → Int → Scientific
  | 0, tens => ⟨unitsBelow mantissa exponent tens, tens⟩
  | fuel + 1, tens =>
      match onGrid? mantissa exponent tens with
      | some found => found
      | none => search mantissa exponent fuel (tens - 1)

end Shortest

/-- The shortest decimal that reads back as a positive double. -/
def shortest (mantissa : Nat) (exponent : Int) : Scientific :=
  Shortest.search mantissa exponent 17
    (Shortest.leading mantissa exponent 640 310)

end ScriptLint.Decimal
