import ScriptLint.Text.Printable

/-!
# Quoted literals

How error texts show a text: in single quotes, or in double quotes if it holds
a single quote and no double quote.  The quote in use, backslashes and
characters that are not printable are escaped.
-/

namespace ScriptLint.Text

def singleQuote : Char := '\x27'

def doubleQuote : Char := '\x22'

/-- The lower-case hexadecimal digit of a number below sixteen. -/
def hexDigit (value : Nat) : Char :=
  if value < 10 then Char.ofNat (0x30 + value) else Char.ofNat (0x57 + value)

/-- The last `width` hexadecimal digits of a number. -/
def hexDigits (value : Nat) : Nat → List Char
  | 0 => []
  | width + 1 => hexDigits (value / 16) width ++ [hexDigit (value % 16)]

/-- A character that is not printable, by the shortest of the three numeric
escapes that holds it. -/
def numericEscape (char : Char) : List Char :=
  let code := char.toNat
  if code < 0x100 then '\\' :: 'x' :: hexDigits code 2
  else if code < 0x10000 then '\\' :: 'u' :: hexDigits code 4
  else '\\' :: 'U' :: hexDigits code 8

/-- A character inside a literal with the given quote. -/
def quotedChar (quote char : Char) : List Char :=
  if char = quote || char = '\\' then ['\\', char]
  else if char = '\t' then ['\\', 't']
  else if char = '\n' then ['\\', 'n']
  else if char = '\r' then ['\\', 'r']
  else if isPrintable char then [char]
  else numericEscape char

/-- The quote that a literal of this text uses. -/
def quoteFor (text : List Char) : Char :=
  if text.contains singleQuote && !text.contains doubleQuote then doubleQuote
  else singleQuote

def quotedChars (text : List Char) : List Char :=
  let quote := quoteFor text
  quote :: (text.flatMap (quotedChar quote) ++ [quote])

def quoted (text : String) : String :=
  String.ofList (quotedChars text.toList)

end ScriptLint.Text
