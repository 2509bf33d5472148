import ScriptLint.Literal.Part

/-!
# Complaints about a literal

Where a literal cannot be read, forms that often stand for a slip are looked for, and
what is found has a complaint of its own.
-/

namespace ScriptLint.Literal

/-- What was found in place of something that can be read. -/
inductive Complaint where
  | forgottenComma
  | missingElse
  | missingParentheses
  | assignmentExpression
  | singleEquals
  | assignmentHere
  | keywordAssignment
  | assignmentInCall
  | starAfterKeyword
  | bareGenerator
  | bareGeneratorAfter
  | positionalAfterKeyword
  | starInBuilder
  | bareBuilderTarget
  | spreadInBuilder
  | badTarget
  | starHere
  | doubleStarHere
  | missingColon
  | starredEntry
  | missingEntry
  | missingDefault
  | defaultOrder
  | parameterParentheses
  | slashFirst
  | slashTwice
  | slashAfterStar
  | slashBeforeStar
  | bareStar
  | starDefault
  | starTwice
  | doubleStarDefault
  | afterDoubleStar
deriving DecidableEq, Repr

/-- Whether a part is the name of what used to be a statement. -/
def isLegacyName (part : Option Part) : Bool :=
  (part.bind Part.word?).any fun word => word = "print" || word = "exec"

/-- Whether some arguments have a value after two stars. -/
def holdsSpread : Option Part → Bool
  | some (.form .arguments parts) => parts.any (Part.isForm .spread)
  | _ => false

/-- The number of arguments without a keyword. -/
def positionalCount : Option Part → Nat
  | some (.form .arguments parts) =>
      (parts.filter fun part => !part.isForm .spread && !part.isForm .keyword).length
  | _ => 0

namespace Complaint

/-- The wording of a complaint about parts, of which the last token stands in this
many brackets.  Some have nothing to complain about after all. -/
def message? (parts : List Part) (depth : Nat) : Complaint → Option String
  | forgottenComma =>
      if isLegacyName parts.head? || depth = 0 then none
      else some "invalid syntax. Perhaps you forgot a comma?"
  | missingElse => some "expected 'else' after 'if' expression"
  | missingParentheses =>
      if isLegacyName parts.head? then
        let name := (parts.head?.bind Part.word?).getD ""
        some ("Missing parentheses in call to '" ++ name ++ "'. Did you mean " ++ name ++
          "(...)?")
      else none
  | assignmentExpression =>
      parts.head?.map fun part => "cannot use assignment expressions with " ++ part.noun
  | singleEquals => some "invalid syntax. Maybe you meant '==' or ':=' instead of '='?"
  | assignmentHere =>
      parts.head?.map fun part =>
        "cannot assign to " ++ part.noun ++ " here. Maybe you meant '==' instead of '='?"
  | keywordAssignment => parts.head?.map fun part => "cannot assign to " ++ part.noun
  | assignmentInCall =>
      some "expression cannot contain assignment, perhaps you meant \"==\"?"
  | starAfterKeyword =>
      some "iterable argument unpacking follows keyword argument unpacking"
  | bareGenerator => some "Generator expression must be parenthesized"
  | bareGeneratorAfter =>
      if positionalCount parts.head? ≤ 1 then none
      else some "Generator expression must be parenthesized"
  | positionalAfterKeyword =>
      some (if holdsSpread parts.head? then
          "positional argument follows keyword argument unpacking"
        else "positional argument follows keyword argument")
  | starInBuilder => some "iterable unpacking cannot be used in comprehension"
  | bareBuilderTarget =>
      some "did you forget parentheses around the comprehension target?"
  | spreadInBuilder => some "dict unpacking cannot be used in dict comprehension"
  | badTarget =>
      (parts.head?.bind Part.badTarget?).map fun part => "cannot assign to " ++ part.noun
  | starHere => some "cannot use starred expression here"
  | doubleStarHere => some "cannot use double starred expression here"
  | missingColon => some "':' expected after dictionary key"
  | starredEntry => some "cannot use a starred expression in a dictionary value"
  | missingEntry => some "expression expected after dictionary key and ':'"
  | missingDefault => some "expected default value expression"
  | defaultOrder => some "non-default argument follows default argument"
  | parameterParentheses => some "Lambda expression parameters cannot be parenthesized"
  | slashFirst => some "at least one argument must precede /"
  | slashTwice => some "/ may appear only once"
  | slashAfterStar => some "/ must be ahead of *"
  | slashBeforeStar => some "expected comma between / and *"
  | bareStar => some "named arguments must follow bare *"
  | starDefault => some "var-positional argument cannot have default value"
  | starTwice => some "* argument may appear only once"
  | doubleStarDefault => some "var-keyword argument cannot have default value"
  | afterDoubleStar => some "arguments cannot follow var-keyword argument"

end Complaint

end ScriptLint.Literal
