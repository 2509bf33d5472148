import ScriptLint.Literal.Quoted

/-!
# Faults of a literal

Most faults have a place in the literal.  Two have none: a literal can be nested too
deeply to be read on, and a number that is too long has no place if it stands in a
text.
-/

namespace ScriptLint.Literal

/-- Why a text cannot be read as a literal. -/
inductive ReadFault where
  | token (fault : TokenFault)
  /-- A bracket that is not closed. -/
  | unclosed (bracket : Char)
  | quoted (fault : QuotedFault)
  /-- A number with too many digits. -/
  | tooLong (digits : Nat)
  /-- A slip and its wording. -/
  | slip (wording : String)
  | indented
  | other
  /-- A fault of a value in a text. -/
  | inValue (fault : ReadFault)
  /-- A number with too many digits in a value in a text. -/
  | tooLongInValue
  | tooDeep
deriving DecidableEq, Repr

namespace ReadFault

def message : ReadFault → String
  | token fault => fault.message
  | unclosed bracket => "'" ++ bracket.toString ++ "' was never closed"
  | quoted fault => fault.message
  | tooLong digits =>
      "Exceeds the limit (4300 digits) for integer string conversion: value has " ++
        toString digits ++ " digits; use sys.set_int_max_str_digits() to increase the " ++
        "limit - Consider hexadecimal for huge integer literals to avoid decimal " ++
        "conversion limits."
  | slip wording => wording
  | indented => "unexpected indent"
  | other => "invalid syntax"
  | inValue fault => "f-string: " ++ fault.message
  | tooLongInValue => "Negative size passed to PyUnicode_New"
  | tooDeep => ""

/-- Whether a fault has a place in the literal. -/
def isPlaced : ReadFault → Bool
  | tooLongInValue => false
  | tooDeep => false
  | _ => true

/-- The fault of a text of which a value has this fault.  What was found in a value
already, or while its tokens were read, stays as it is. -/
def ofValue : ReadFault → ReadFault
  | token fault => if fault.isImmediate then token fault else inValue (token fault)
  | inValue fault => inValue fault
  | tooLong _ => tooLongInValue
  | tooLongInValue => tooLongInValue
  | tooDeep => tooDeep
  | fault => inValue fault

end ReadFault

end ScriptLint.Literal
