import ScriptLint.Literal.Field
import ScriptLint.Literal.Part
import ScriptLint.Text.CharName

/-!
# Texts in quotes

Letters before the quotes say how a text is read: as bytes, raw, or with values in
it.  Texts one after the other are one text, so they have to be of one kind.
-/

namespace ScriptLint.Literal

/-- What is wrong with a text in quotes. -/
inductive QuotedFault where
  | notAscii
  | mixed
  /-- An escape between two positions, and why it cannot be read. -/
  | escape (start stop : Nat) (reason : String)
  | byteEscape (position : Nat)
  | field (fault : FieldFault)
deriving DecidableEq, Repr

def QuotedFault.message : QuotedFault → String
  | notAscii => "bytes can only contain ASCII literal characters"
  | mixed => "cannot mix bytes and nonbytes literals"
  | escape start stop reason =>
      "(unicode error) 'unicodeescape' codec can't decode bytes in position " ++
        toString start ++ "-" ++ toString stop ++ ": " ++ reason
  | byteEscape position =>
      "(value error) invalid \\x escape at position " ++ toString position
  | field fault => fault.message

/-- Whether a character is a hexadecimal digit. -/
def isHex (char : Char) : Bool :=
  char.isDigit || ('a' ≤ char && char ≤ 'f') || ('A' ≤ char && char ≤ 'F')

def hexValue (digits : List Char) : Nat :=
  digits.foldl (fun value digit =>
    value * 16 +
      (if digit.isDigit then digit.toNat - 48 else digit.toLower.toNat - 87)) 0

/-- The fault of an escape with a fixed number of hexadecimal digits. -/
def hexFault? (position count : Nat) (reason : String) (text : List Char) :
    Option QuotedFault :=
  let digits := (text.take count).takeWhile isHex
  if digits.length < count then
    some (.escape position (position + 1 + digits.length) reason)
  else if 0x10FFFF < hexValue digits then
    some (.escape position (position + 1 + count) "illegal Unicode character")
  else none

/-- The positions that a character takes when it is decoded. -/
def decodedSize (char : Char) : Nat :=
  if char.toNat < 128 then 1 else 10

/-- The positions that a text takes when it is decoded.  A backslash before a character
that is not ASCII is written out. -/
def decodedLength : List Char → Nat
  | '\\' :: char :: rest => (if char.toNat < 128 then 2 else 16) + decodedLength rest
  | char :: rest => decodedSize char + decodedLength rest
  | [] => 0

/-- The fault of an escape with the name of a character. -/
def nameFault? (position : Nat) (text : List Char) : Option QuotedFault :=
  let malformed := "malformed \\N character escape"
  match text with
  | '\x7b' :: rest =>
      let name := rest.takeWhile (· ≠ '\x7d')
      let stop := position + 2 + decodedLength name
      if name.isEmpty || name.length = rest.length then some (.escape position stop malformed)
      else if Text.isCharName name then none
      else some (.escape position (stop + 1) "unknown Unicode character name")
  | _ => some (.escape position (position + 1) malformed)

/-- The first fault of the escapes in a text. -/
def escapeFault? (position : Nat) : List Char → Option QuotedFault
  | '\\' :: char :: rest =>
      let fault :=
        match char with
        | 'x' => hexFault? position 2 "truncated \\xXX escape" rest
        | 'u' => hexFault? position 4 "truncated \\uXXXX escape" rest
        | 'U' => hexFault? position 8 "truncated \\UXXXXXXXX escape" rest
        | 'N' => nameFault? position rest
        | _ => none
      let size := if char.toNat < 128 then 2 else 16
      fault.or (escapeFault? (position + size) rest)
  | char :: rest => escapeFault? (position + decodedSize char) rest
  | [] => none

/-- The first fault of the escapes in bytes. -/
def byteFault? (position : Nat) : List Char → Option QuotedFault
  | '\\' :: char :: rest =>
      if char = 'x' && ((rest.take 2).takeWhile isHex).length < 2 then
        some (.byteEscape position)
      else byteFault? (position + 2) rest
  | _ :: rest => byteFault? (position + 1) rest
  | [] => none

/-- What stands between the quotes of a text. -/
def quotedBody (chars : List Char) : List Char :=
  let quoted := chars.dropWhile Char.isAlpha
  let tripled := 6 ≤ quoted.length && quoted.take 1 = (quoted.drop 1).take 1 &&
    quoted.take 1 = (quoted.drop 2).take 1
  let margin := if tripled then 3 else 1
  (quoted.drop margin).take (quoted.length - 2 * margin)

/-- The first fault of a text, values in it apart. -/
def quotedFault? (chars : List Char) : Option QuotedFault :=
  let body := quotedBody chars
  let raw := Part.hasMark 'r' chars
  if Part.hasMark 'b' chars then
    if body.any (128 ≤ ·.toNat) then some .notAscii
    else if raw then none
    else byteFault? 0 body
  else if Part.hasMark 'f' chars || raw then none
  else escapeFault? 0 body

end ScriptLint.Literal
