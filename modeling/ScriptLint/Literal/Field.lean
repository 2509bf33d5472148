import ScriptLint.Literal.Token

/-!
# Values in a text

A text may have values in braces, with a mark for how they are shown and a layout
after them.  A layout may have values again.  Braces that stand for themselves are
written twice.
-/

namespace ScriptLint.Literal

/-- What is wrong with the values in a text. -/
inductive FieldFault where
  | singleBrace
  | unclosed
  /-- There is no value before this character. -/
  | missing (mark : Char)
  | conversion
  | tooNested
  | backslash
  | comment
  | tooManyBrackets
  | unmatched (bracket : Char)
  | mismatched (closing opening : Char)
  | unterminated
deriving DecidableEq, Repr

def FieldFault.message : FieldFault → String
  | singleBrace => "f-string: single '\x7d' is not allowed"
  | unclosed => "f-string: expecting '\x7d'"
  | missing mark =>
      if mark = '\x7d' then "f-string: empty expression not allowed"
      else "f-string: expression required before '" ++ mark.toString ++ "'"
  | conversion => "f-string: invalid conversion character: expected 's', 'r', or 'a'"
  | tooNested => "f-string: expressions nested too deeply"
  | backslash => "f-string expression part cannot include a backslash"
  | comment => "f-string expression part cannot include '#'"
  | tooManyBrackets => "f-string: too many nested parenthesis"
  | unmatched bracket => "f-string: unmatched '" ++ bracket.toString ++ "'"
  | mismatched closing opening =>
      "f-string: closing parenthesis '" ++ closing.toString ++
        "' does not match opening parenthesis '" ++ opening.toString ++ "'"
  | unterminated => "f-string: unterminated string"

/-! ## Plain characters -/

/-- How a run of plain characters ends. -/
inductive RunEnd where
  /-- At a brace that is written twice, after which the text goes on. -/
  | doubled
  /-- At a value, at the end of a layout, or at the end of the text. -/
  | stopped
  /-- At a closing brace that belongs to nothing. -/
  | single
deriving DecidableEq, Repr

/-- A run of plain characters, how it ends, and what follows. -/
structure PlainRun where
  chars : List Char
  ended : RunEnd
  rest : List Char
deriving DecidableEq, Repr

namespace PlainRun

/-- A run with more characters before it. -/
def after (chars : List Char) (run : PlainRun) : PlainRun :=
  { run with chars := chars ++ run.chars }

def atBrace (inLayout : Bool) (brace : Char) (rest : List Char) : PlainRun :=
  if inLayout then ⟨[], .stopped, brace :: rest⟩
  else if rest.head? = some brace then ⟨[brace], .doubled, rest.drop 1⟩
  else if brace = '\x7d' then ⟨[], .single, brace :: rest⟩
  else ⟨[], .stopped, brace :: rest⟩

def isBrace (char : Char) : Bool :=
  char = '\x7b' || char = '\x7d'

/-- The first run of plain characters.  Unless the text is raw, the braces around the
name of a character belong to the run; `inName` says whether this is such a name. -/
def ofText (raw inLayout : Bool) : Bool → List Char → PlainRun
  | _, [] => ⟨[], .stopped, []⟩
  | true, char :: rest => (ofText raw inLayout (char ≠ '\x7d') rest).after [char]
  | false, [char] =>
      if isBrace char then atBrace inLayout char [] else ⟨[char], .stopped, []⟩
  | false, [char, next] =>
      if isBrace char then atBrace inLayout char [next]
      else if char = '\\' && !raw && !isBrace next then ⟨[char, next], .stopped, []⟩
      else (ofText raw inLayout false [next]).after [char]
  | false, char :: next :: third :: rest =>
      if isBrace char then atBrace inLayout char (next :: third :: rest)
      else if char = '\\' && !raw && next = 'N' then
        (ofText raw inLayout (third = '\x7b') rest).after [char, next, third]
      else if char = '\\' && !raw && !isBrace next then
        (ofText raw inLayout false (third :: rest)).after [char, next]
      else (ofText raw inLayout false (next :: third :: rest)).after [char]

end PlainRun

/-! ## Values -/

/-- The quotes that a place in a value stands in. -/
structure OpenQuote where
  mark : Char
  tripled : Bool
deriving DecidableEq, Repr

/-- Where reading a value has got to: the quotes and brackets around the place, and the
number of characters that are taken without looking at them. -/
structure FieldState where
  quote : Option OpenQuote
  brackets : List Char
  taken : Nat
deriving DecidableEq, Repr

namespace FieldState

def start : FieldState :=
  ⟨none, [], 0⟩

/-- The fault of a text that ends here, in the middle of a value. -/
def endFault (state : FieldState) : FieldFault :=
  if state.quote.isSome then .unterminated
  else
    match state.brackets with
    | bracket :: _ => .unmatched bracket
    | [] => .unclosed

/-- Whether a text goes on with this character twice. -/
def goesOnTwice (char : Char) (rest : List Char) : Bool :=
  rest.head? = some char && (rest.drop 1).head? = some char

/-- The state after a character in quotes. -/
def insideQuote (state : FieldState) (quote : OpenQuote) (char : Char) (rest : List Char) :
    FieldState :=
  if char ≠ quote.mark then state
  else if !quote.tripled then { state with quote := none }
  else if goesOnTwice char rest then { state with quote := none, taken := 2 }
  else state

/-- The state after a character that opens quotes. -/
def openingQuote (state : FieldState) (char : Char) (rest : List Char) : FieldState :=
  if goesOnTwice char rest then { state with quote := some ⟨char, true⟩, taken := 2 }
  else { state with quote := some ⟨char, false⟩ }

/-- The state after a bracket that closes another one. -/
def closingBracket (state : FieldState) (char : Char) : Except FieldFault FieldState :=
  match state.brackets with
  | [] => .error (.unmatched char)
  | opening :: outer =>
      if closingOf opening = char then .ok { state with brackets := outer }
      else .error (.mismatched char opening)

/-- Whether a character outside of brackets is of two that belong together, which do
not end a value. -/
def isPaired (char : Char) (rest : List Char) : Bool :=
  ['!', '=', '<', '>'].contains char && rest.head? = some '='

/-- The state after a character outside of quotes, unless the value ends before it. -/
def outsideQuotes (state : FieldState) (char : Char) (rest : List Char) :
    Except FieldFault (Option FieldState) :=
  if char = '\'' || char = '"' then .ok (some (state.openingQuote char rest))
  else if char = '(' || char = '[' || char = '\x7b' then
    if 200 ≤ state.brackets.length then .error .tooManyBrackets
    else .ok (some { state with brackets := char :: state.brackets })
  else if char = '#' then .error .comment
  else if state.brackets.isEmpty && ['!', ':', '\x7d', '=', '<', '>'].contains char then
    if isPaired char rest then .ok (some { state with taken := 1 })
    else if char = '<' || char = '>' then .ok (some state)
    else .ok none
  else if char = ')' || char = ']' || char = '\x7d' then
    (state.closingBracket char).map some
  else .ok (some state)

/-- The value from here on and what follows it, up to a character that ends it. -/
def split : FieldState → List Char → Except FieldFault (List Char × List Char)
  | state, [] => .error state.endFault
  | state, char :: rest =>
      let goOn (state : FieldState) : Except FieldFault (List Char × List Char) :=
        (split state rest).map fun (source, after) => (char :: source, after)
      if 0 < state.taken then goOn { state with taken := state.taken - 1 }
      else if char = '\\' then .error .backslash
      else
        match state.quote with
        | some quote => goOn (state.insideQuote quote char rest)
        | none =>
            match state.outsideQuotes char rest with
            | .error fault => .error fault
            | .ok (some state) => goOn state
            | .ok none => .ok ([], char :: rest)

end FieldState

end ScriptLint.Literal
