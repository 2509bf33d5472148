import ScriptLint.Literal.Token

/-!
# The parts of a literal

Reading puts tokens together to forms.  Some complaints name the form that stands in
the wrong place.
-/

namespace ScriptLint.Literal

/-- How parts are put together. -/
inductive Form where
  | tuple
  | set
  | table
  /-- A key and its value. -/
  | pair
  /-- A value after two stars. -/
  | spread
  | conditional
  | boolean
  | comparison
  | operation
  /-- A sum or difference, with its signs. -/
  | sum
  /-- A value after a sign. -/
  | signed
  | awaited
  | yielded
  /-- A value with members and calls after it. -/
  | primary
  | member
  | call
  | function
  | starred
  | named
  | keyword
  | generator
  | setBuilder
  | tableBuilder
  | arguments
  /-- Texts in quotes, one after the other. -/
  | texts
deriving DecidableEq, Repr

/-- A token or a form. -/
inductive Part where
  | token (token : Token)
  | form (form : Form) (parts : List Part)
deriving Repr

namespace Form

def noun : Form → String
  | tuple => "tuple"
  | set => "set display"
  | table => "dict literal"
  | conditional => "conditional expression"
  | comparison => "comparison"
  | awaited => "await expression"
  | yielded => "yield expression"
  | member => "attribute"
  | call => "function call"
  | function => "lambda"
  | starred => "starred"
  | named => "named expression"
  | generator => "generator expression"
  | setBuilder => "set comprehension"
  | tableBuilder => "dict comprehension"
  | texts => "literal"
  | _ => "expression"

end Form

namespace Part

/-- Whether a text in quotes has this letter before it. -/
def hasMark (mark : Char) (chars : List Char) : Bool :=
  (chars.takeWhile Char.isAlpha).any (·.toLower = mark)

def tokenNoun (leaf : Token) : String :=
  let word := String.ofList leaf.chars
  match leaf.kind with
  | .number => "literal"
  | .text => "literal"
  | .word => if ["None", "True", "False"].contains word then word else "name"
  | _ => "ellipsis"

def noun : Part → String
  | token leaf => tokenNoun leaf
  | form .primary parts =>
      match parts.getLast? with
      | some (form last _) => last.noun
      | _ => "expression"
  | form .texts parts =>
      let formatted := parts.any fun part =>
        match part with
        | token leaf => hasMark 'f' leaf.chars
        | form _ _ => false
      if formatted then "f-string expression" else "literal"
  | form held _ => held.noun

def word? : Part → Option String
  | token leaf => if leaf.kind = .word then some (String.ofList leaf.chars) else none
  | form _ _ => none

def isForm (wanted : Form) : Part → Bool
  | token _ => false
  | form held _ => held = wanted

mutual

/-- The first part of a target that cannot be assigned to.  A target that is followed
by a membership test looks like a comparison. -/
def badTarget? : Part → Option Part
  | token leaf => if tokenNoun leaf = "name" then none else some (token leaf)
  | form held parts =>
      match held, parts with
      | .tuple, parts => firstBadTarget? parts
      | .starred, parts => firstBadTarget? parts
      | .comparison, left :: operator :: _ =>
          if operator.word? = some "in" then badTarget? left else none
      | .primary, parts =>
          if parts.getLast?.any (isForm .member) then none else some (form .primary parts)
      | held, parts => some (form held parts)

/-- The first of some parts that cannot be assigned to. -/
def firstBadTarget? : List Part → Option Part
  | [] => none
  | part :: rest => (badTarget? part).or (firstBadTarget? rest)

end

end Part

end ScriptLint.Literal
