import ScriptLint.Text.Blank
import ScriptLint.Text.Digit

/-!
# Decimal numerals

A numeral is a decimal number with an optional fraction and an optional power of
ten, or a word for infinity or for what is not a number, with an optional sign and
blanks around it.  It denotes the nearest double.
-/

namespace ScriptLint.Decimal

def infinity : Float := Float.ofBits 0x7FF0000000000000

def notANumber : Float := Float.ofBits 0x7FF8000000000000

/-- A natural number times a power of ten. -/
structure Scaled where
  mantissa : Nat
  exponent : Int
deriving DecidableEq, Repr

/-- The nearest double.  Exponents that are out of reach are not multiplied out. -/
def Scaled.toFloat (number : Scaled) : Float :=
  let top := ((Nat.toDigits 10 number.mantissa).length : Int) + number.exponent
  if number.mantissa = 0 || top < -400 then Float.ofScientific 0 false 0
  else if 400 < top then infinity
  else
    Float.ofScientific number.mantissa (number.exponent < 0) number.exponent.natAbs

/-- Takes the sign off a text and gives whether it was a minus. -/
def takeSign : List Char → Bool × List Char
  | '-' :: rest => (true, rest)
  | '+' :: rest => (false, rest)
  | text => (false, text)

/-- Reads the power of ten that ends a numeral. -/
def readExponent? : List Char → Option Int
  | [] => some 0
  | mark :: rest =>
      let (negative, digits) := takeSign rest
      if (mark = 'e' || mark = 'E') && !digits.isEmpty && digits.all Text.isDigit then
        let value : Int := Text.digitsValue digits
        some (if negative then -value else value)
      else none

/-- Reads a numeral without a sign. -/
def readScaled? (text : List Char) : Option Scaled := do
  let whole := text.takeWhile Text.isDigit
  let afterWhole := text.dropWhile Text.isDigit
  let (fraction, rest) :=
    match afterWhole with
    | '.' :: rest => (rest.takeWhile Text.isDigit, rest.dropWhile Text.isDigit)
    | rest => ([], rest)
  if whole.isEmpty && fraction.isEmpty then none
  else
    let exponent ← readExponent? rest
    return ⟨Text.digitsValue (whole ++ fraction), exponent - fraction.length⟩

def readMagnitude? (text : List Char) : Option Float :=
  let word := String.ofList (text.map Char.toLower)
  if word = "inf" || word = "infinity" then some infinity
  else if word = "nan" then some notANumber
  else (readScaled? (Text.joinDigits text)).map Scaled.toFloat

/-- Whether a character may stand around a numeral: a blank that is no separator
of records. -/
def isMargin (char : Char) : Bool :=
  Text.isBlank char && !(0x1C ≤ char.toNat && char.toNat ≤ 0x1F)

def withoutMargins (text : List Char) : List Char :=
  ((text.dropWhile isMargin).reverse.dropWhile isMargin).reverse

def ofText? (text : List Char) : Option Float :=
  let (negative, magnitude) := takeSign (withoutMargins text)
  (readMagnitude? magnitude).map fun value => if negative then value.neg else value

end ScriptLint.Decimal
