import ScriptLint.Literal.Match

/-!
# The value of a literal

Numbers, texts, a few words and collections of them have a value.  A collection that
can change is no element of a set and no key.
-/

namespace ScriptLint.Literal

/-- The collections that can change. -/
inductive Changeable where
  | set
  | table
deriving DecidableEq, Repr

/-- Why a literal has no value. -/
inductive ValueFault where
  | malformed
  /-- Two stars in place of a key. -/
  | spread
  | unhashable (collection : Changeable)
  /-- A number is too large to be added to an imaginary one. -/
  | tooLarge
  | tooNested
deriving DecidableEq, Repr

def ValueFault.message : ValueFault → String
  | malformed => "malformed node or string on line 1"
  | spread => "malformed node or string: None"
  | unhashable .set => "unhashable type: 'set'"
  | unhashable .table => "unhashable type: 'dict'"
  | tooLarge => "int too large to convert to float"
  | tooNested => "maximum recursion depth exceeded during ast construction"

/-! ## Numbers -/

/-- The kinds of numbers. -/
inductive NumberKind where
  | integer (size : Nat)
  | real
  | imaginary
deriving DecidableEq, Repr

def digitsValue (base : Nat) (digits : List Char) : Nat :=
  digits.foldl (fun value digit => value * base + hexValue [digit]) 0

def numberKind (chars : List Char) : NumberKind :=
  let digits := chars.filter (· ≠ '_')
  let mark := (digits.drop 1).head?.map Char.toLower
  if digits.head? = some '0' && mark = some 'x' then .integer (digitsValue 16 (digits.drop 2))
  else if digits.head? = some '0' && mark = some 'o' then
    .integer (digitsValue 8 (digits.drop 2))
  else if digits.head? = some '0' && mark = some 'b' then
    .integer (digitsValue 2 (digits.drop 2))
  else if digits.getLast?.any (fun char => char.toLower = 'j') then .imaginary
  else if digits.all Char.isDigit then .integer (digitsValue 10 digits)
  else .real

def Part.numberKind? : Part → Option NumberKind
  | token leaf => if leaf.kind = .number then some (numberKind leaf.chars) else none
  | form _ _ => none

def Part.signedKind? : Part → Option NumberKind
  | form .signed [_, part] => part.numberKind?
  | form _ _ => none
  | part => part.numberKind?

/-- The integers from here on are closer to a power of two than to any number that
counts as real. -/
def realLimit : Nat :=
  Nat.pow 2 1024 - Nat.pow 2 970

/-- Whether two numbers can be added. -/
def checkSum (left right : Part) : Except ValueFault Unit :=
  match left.signedKind?, right.numberKind? with
  | some (.integer size), some .imaginary =>
      if realLimit ≤ size then .error .tooLarge else .ok ()
  | some .real, some .imaginary => .ok ()
  | _, _ => .error .malformed

/-! ## Values -/

def hasValue (leaf : Token) : Bool :=
  leaf.kind = .number ||
    ["None", "True", "False", "..."].contains (String.ofList leaf.chars)

/-- Whether texts one after the other have a value: they have no values in them. -/
def areConstant (texts : List Part) : Bool :=
  !(Part.form .texts texts).noun = "f-string expression"

def requireFixed : Option Changeable → Except ValueFault Unit
  | none => .ok ()
  | some collection => .error (.unhashable collection)

mutual

/-- Evaluates a literal.  The result is the first collection in its value that can
change. -/
def evaluate : Part → Except ValueFault (Option Changeable)
  | .token leaf => if hasValue leaf then .ok none else .error .malformed
  | .form .texts texts => if areConstant texts then .ok none else .error .malformed
  | .form .tuple parts => evaluateAll parts
  | .form .set parts => do
      evaluateElements parts
      pure (some .set)
  | .form .table entries => do
      evaluateEntries entries
      pure (some .table)
  | .form .primary [called, .form .call []] =>
      if called.word? = some "set" then .ok (some .set) else .error .malformed
  | .form .signed [_, part] =>
      if part.numberKind?.isSome then .ok none else .error .malformed
  | .form .sum [left, _, right] => do
      checkSum left right
      pure none
  | .form _ _ => .error .malformed

def evaluateAll : List Part → Except ValueFault (Option Changeable)
  | [] => .ok none
  | part :: rest => do
      let first ← evaluate part
      let others ← evaluateAll rest
      pure (first.or others)

def evaluateElements : List Part → Except ValueFault Unit
  | [] => .ok ()
  | part :: rest => do
      requireFixed (← evaluate part)
      evaluateElements rest

def evaluateEntries : List Part → Except ValueFault Unit
  | [] => .ok ()
  | .form .pair [key, value] :: rest => do
      let held ← evaluate key
      let _ ← evaluate value
      requireFixed held
      evaluateEntries rest
  | .form .spread _ :: _ => .error .spread
  | _ :: _ => .error .malformed

end

/-! ## Depth -/

/-- The number of levels that a form has for its parts.  Operands that are joined from
the left have a level each. -/
def Form.depth (form : Form) (count : Nat) : Nat :=
  match form with
  | .operation => max 1 (count - 1)
  | .sum => max 1 (count / 2)
  | .primary => max 1 (count - 1)
  | _ => 1

mutual

def Part.depth : Part → Nat
  | .token _ => 1
  | .form form parts => form.depth parts.length + greatestDepth parts

def greatestDepth : List Part → Nat
  | [] => 0
  | part :: rest => max part.depth (greatestDepth rest)

end

/-- The depth that a literal with a value may have. -/
def depthLimit : Nat :=
  2920

/-! ## Literals -/

/-- Why a text is no literal with a value. -/
inductive Fault where
  | nullCharacter
  | unreadable (fault : ReadFault)
  | valueless (fault : ValueFault)
deriving DecidableEq, Repr

namespace Fault

def message : Fault → String
  | nullCharacter => "source code string cannot contain null bytes"
  | unreadable fault => fault.message
  | valueless fault => fault.message

/-- Whether a fault has a place in the text. -/
def isPlaced : Fault → Bool
  | unreadable fault => fault.isPlaced
  | _ => false

end Fault

def evaluateRead (part : Part) : Except ValueFault (Option Changeable) :=
  if depthLimit < part.depth then .error .tooNested else evaluate part

/-- Why a text is no literal with a value, if it is none. -/
def fault? (text : List Char) : Option Fault :=
  if text.contains '\x00' then some .nullCharacter
  else
    match read text with
    | .error fault => some (.unreadable fault)
    | .ok part =>
        match evaluateRead part with
        | .error fault => some (.valueless fault)
        | .ok _ => none

end ScriptLint.Literal
