import ScriptLint.Literal.Fault

/-!
# Checking texts in quotes

The values in a text are read like the literal around them, so what checks them is
given from outside.  Texts one after the other are one text, so they have to be of one
kind.
-/

namespace ScriptLint.Literal

/-- What is wrong with a value that starts on a line. -/
abbrev ValueCheck := Nat → List Char → Option ReadFault

/-- A check that may leave the rest of a text. -/
abbrev Rest := Except ReadFault (List Char)

def fieldError (fault : FieldFault) : Rest :=
  .error (.quoted (.field fault))

/-! ## One value -/

/-- Whether a character may stand between an equals sign and what follows it. -/
def isFieldBlank (char : Char) : Bool :=
  [' ', '\t', '\n', '\x0b', '\x0c', '\r'].contains char

/-- Goes on after the equals sign that shows the value itself, with the blanks after
it. -/
def afterEquals (text : List Char) : Rest :=
  match text with
  | '=' :: rest =>
      let rest := rest.dropWhile isFieldBlank
      if rest.isEmpty then fieldError .unclosed else .ok rest
  | text => .ok text

/-- Goes on after the mark for how a value is shown. -/
def afterConversion (text : List Char) : Rest :=
  match text with
  | ['!'] => fieldError .unclosed
  | '!' :: mark :: rest =>
      if mark = 's' || mark = 'r' || mark = 'a' then .ok rest else fieldError .conversion
  | text => .ok text

/-- Goes on after a layout, of which `layout` checks the text. -/
def afterLayout (layout : List Char → Rest) (text : List Char) : Rest :=
  match text with
  | [':'] => fieldError .unclosed
  | ':' :: rest => layout rest
  | text => .ok text

/-- Goes on after the brace that ends a value. -/
def afterBrace (text : List Char) : Rest :=
  match text with
  | '\x7d' :: rest => .ok rest
  | _ => fieldError .unclosed

/-- Checks the source of a value, which ends before this mark. -/
def checkSource (check : List Char → Option ReadFault) (source : List Char) (mark : Char) :
    Except ReadFault Unit :=
  if source.all (fun char => isGap char || char = '\n') then
    .error (.quoted (.field (.missing mark)))
  else
    match check source with
    | some fault => .error fault.ofValue
    | none => .ok ()

/-- Goes on after a value, which has been opened. -/
def afterField (check : List Char → Option ReadFault) (layout : List Char → Rest)
    (text : List Char) : Rest :=
  match FieldState.start.split text with
  | .error fault => fieldError fault
  | .ok (_, []) => fieldError .unclosed
  | .ok (source, mark :: rest) => do
      checkSource check source mark
      let rest ← afterEquals (mark :: rest)
      let rest ← afterConversion rest
      let rest ← afterLayout layout rest
      afterBrace rest

/-! ## Texts with values -/

def checkPlain (raw : Bool) (chars : List Char) : Except ReadFault Unit :=
  match if raw then none else escapeFault? 0 chars with
  | some fault => .error (.quoted fault)
  | none => .ok ()

/-- Goes on to the end of a text or of a layout in it, at this level of layouts, with a
bound on the number of steps.  `check` gets the text after a value's brace. -/
def afterRuns (check : List Char → List Char → Option ReadFault) (raw : Bool) :
    Nat → Nat → List Char → Rest
  | 0, _, text => .ok text
  | bound + 1, level, text =>
      let run := PlainRun.ofText raw (0 < level) false text
      match run.ended with
      | .single => fieldError .singleBrace
      | .doubled => do
          checkPlain raw run.chars
          afterRuns check raw bound level run.rest
      | .stopped => do
          checkPlain raw run.chars
          match run.rest with
          | '\x7b' :: rest =>
              if 2 ≤ level then fieldError .tooNested
              else
                let after ← afterField (check rest) (afterRuns check raw bound (level + 1)) rest
                afterRuns check raw bound level after
          | rest =>
              if level = 0 || rest.head? = some '\x7d' then .ok rest
              else fieldError .unclosed

/-- The first fault of the values in a text. -/
def formattedFault? (check : ValueCheck) (leaf : Token) : Option ReadFault :=
  if Part.hasMark 'f' leaf.chars then
    let body := quotedBody leaf.chars
    let lines := lineFeeds leaf.chars
    let checkAt (rest : List Char) : List Char → Option ReadFault :=
      check (leaf.line + lines - lineFeeds rest)
    match afterRuns checkAt (Part.hasMark 'r' leaf.chars) (body.length + 1) 0 body with
    | .error fault => some fault
    | .ok _ => none
  else none

/-- The first fault of texts one after the other, where `bytes` says whether those
before are bytes. -/
def textFault? (check : ValueCheck) (bytes : Option Bool) : List Token → Option ReadFault
  | [] => none
  | leaf :: rest =>
      let here := Part.hasMark 'b' leaf.chars
      let mixed := if bytes.any (· ≠ here) then some QuotedFault.mixed else none
      let fault := (((quotedFault? leaf.chars).or mixed).map ReadFault.quoted).or
        (formattedFault? check leaf)
      fault.or (textFault? check (some here) rest)

end ScriptLint.Literal
