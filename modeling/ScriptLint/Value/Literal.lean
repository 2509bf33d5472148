import ScriptLint.Decimal.Shortest
import ScriptLint.Text.Quoted
import ScriptLint.Value.Basic

/-!
# Literals of values

How error texts write the values of a configuration.
-/

namespace ScriptLint.Value

/-- The decimal digits of a positive number, most significant first, with the
power of ten of the first one.  Trailing zeros are dropped. -/
def leadingDigits (number : Decimal.Scientific) : List Char × Int :=
  let digits := (Nat.repr number.digits).toList
  let kept := (digits.reverse.dropWhile (· = '0')).reverse
  (kept, number.exponent + (digits.length : Int) - 1)

/-- A positive number by its digits and the power of ten of the first.  Powers
from minus four to fifteen are written positionally, the others with an
exponent of at least two digits. -/
def decimalText (digits : List Char) (power : Int) : List Char :=
  if -4 ≤ power && power < 16 then
    if power < 0 then
      "0.".toList ++ List.replicate (-power - 1).toNat '0' ++ digits
    else
      let whole := power.toNat + 1
      let padded := digits ++ List.replicate (whole - digits.length) '0'
      let rest := padded.drop whole
      padded.take whole ++ '.' :: (if rest.isEmpty then ['0'] else rest)
  else
    let exponent := (Nat.repr power.natAbs).toList
    let shown := if exponent.length < 2 then '0' :: exponent else exponent
    let mantissa :=
      match digits with
      | [] => []
      | [digit] => [digit]
      | digit :: rest => digit :: '.' :: rest
    mantissa ++ 'e' :: (if power < 0 then '-' else '+') :: shown

def floatText (number : Float) : String :=
  let view := Decimal.Binary64.ofFloat number
  let sign := if view.negative then "-" else ""
  match view.magnitude with
  | .notANumber => "nan"
  | .infinite => sign ++ "inf"
  | .finite 0 _ => sign ++ "0.0"
  | .finite mantissa exponent =>
      let (digits, power) := leadingDigits (Decimal.shortest mantissa exponent)
      sign ++ String.ofList (decimalText digits power)

mutual

def literal : Value → String
  | null => "None"
  | bool value => if value then "True" else "False"
  | int value => toString value
  | float value => floatText value
  | text value => Text.quoted value
  | tuple items =>
      match items with
      | [item] => "(" ++ literal item ++ ",)"
      | items => "(" ++ literals items ++ ")"
  | list items => "[" ++ literals items ++ "]"
  | table entries => "\x7b" ++ entryLiterals entries ++ "\x7d"

/-- Literals of several values, separated by commas. -/
def literals : List Value → String
  | [] => ""
  | [item] => literal item
  | item :: rest => literal item ++ ", " ++ literals rest

/-- Literals of the entries of a table, separated by commas. -/
def entryLiterals : List (Value × Value) → String
  | [] => ""
  | [(key, value)] => literal key ++ ": " ++ literal value
  | (key, value) :: rest =>
      literal key ++ ": " ++ literal value ++ ", " ++ entryLiterals rest

end

end ScriptLint.Value
