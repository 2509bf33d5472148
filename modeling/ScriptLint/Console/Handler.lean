import ScriptLint.Literal.Value
import ScriptLint.Text.Blank
import ScriptLint.Text.Quoted
import ScriptLint.Text.WordChar

/-!
# Handlers

A tag whose name starts with an at sign asks for a handler.  Its parameters are a
literal, or the name of a handler that may have a literal in parentheses after it.
-/

namespace ScriptLint.Console

/-- The literal that stands in the parameters of a handler: what is in parentheses
after a name, and nothing if there is only a name.  Anything else is a literal as a
whole. -/
def handlerValue (parameters : List Char) : List Char :=
  let written := Text.trim parameters
  let rest := written.dropWhile fun char => Text.isWordChar char || char = '.'
  if rest.isEmpty then ['(', ')']
  else if rest.head? = some '(' && rest.getLast? = some ')' && !rest.contains '\n' then
    rest
  else written

/-- Why the parameters of a handler have no value. -/
structure HandlerError where
  value : List Char
  parameters : List Char
  fault : Literal.Fault
deriving DecidableEq, Repr

/-- The wording of a failure.  A fault with a place in the literal is said to be in
it. -/
def HandlerError.message (failure : HandlerError) : String :=
  let parameters := String.ofList (Text.quotedChars failure.parameters)
  "error parsing " ++
    (if failure.fault.isPlaced then
      String.ofList (Text.quotedChars failure.value) ++ " in " ++ parameters
    else parameters) ++
    "; " ++ failure.fault.message

/-- Why the parameters of a handler have no value.  There may be none. -/
def checkHandler (parameters : List Char) : Option HandlerError :=
  if parameters.isEmpty then none
  else
    let value := handlerValue parameters
    (Literal.fault? value).map fun fault => ⟨value, parameters, fault⟩

end ScriptLint.Console
