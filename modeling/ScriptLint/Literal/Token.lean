import ScriptLint.Text.Lines
import ScriptLint.Text.Name
import ScriptLint.Text.Printable

/-!
# The tokens of a literal

A literal is written in words, numbers, texts in quotes and signs.  Line ends count
only outside of brackets.  Every token knows how many brackets are open after it, as
some complaints depend on that.
-/

namespace ScriptLint.Literal

/-- The kinds of tokens. -/
inductive TokenKind where
  /-- A name or a word with a meaning of its own. -/
  | word
  | number
  /-- A text in quotes. -/
  | text
  /-- An operator or a bracket. -/
  | sign
  /-- The end of a line. -/
  | newline
  /-- The start of a line that is set in more than the one before. -/
  | indent
  /-- The end of the literal. -/
  | stop
deriving DecidableEq, Repr

/-- A token, the number of brackets that are open after it, its line, and whether
reading it shows that nothing follows. -/
structure Token where
  kind : TokenKind
  chars : List Char
  depth : Nat
  line : Nat
  isLast : Bool
deriving DecidableEq, Repr

/-- What is wrong with a number. -/
inductive NumberFault where
  | invalid (base : String)
  | digit (digit : Char) (base : String)
  | leadingZeros
deriving DecidableEq, Repr

/-- Why no further token can be read. -/
inductive TokenFault where
  /-- A text in quotes does not end before the end of this line. -/
  | unterminated (tripled : Bool) (line : Nat)
  | number (fault : NumberFault)
  /-- A character that stands in no token. -/
  | stray (char : Char)
  | tooDeep
  | unmatched (bracket : Char)
  /-- A bracket that does not belong to the one it closes, and the line of that if it
  is another one. -/
  | mismatched (closing opening : Char) (line : Option Nat)
  /-- A backslash that does not end its line. -/
  | backslash
  /-- The literal ends too early. -/
  | ended
deriving DecidableEq, Repr

/-- A code point in hexadecimal digits, at least four of them. -/
def codeText (char : Char) : String :=
  let digits := (Nat.toDigits 16 char.toNat).map Char.toUpper
  String.ofList (List.replicate (4 - digits.length) '0' ++ digits)

/-- The wording of a number that is wrong. -/
def NumberFault.message : NumberFault → String
  | invalid base => "invalid " ++ base ++ " literal"
  | digit char base => "invalid digit '" ++ char.toString ++ "' in " ++ base ++ " literal"
  | leadingZeros =>
      "leading zeros in decimal integer literals are not permitted; " ++
        "use an 0o prefix for octal integers"

/-- The wording of a token that cannot be read. -/
def TokenFault.message : TokenFault → String
  | unterminated tripled line =>
      (if tripled then "unterminated triple-quoted string literal"
        else "unterminated string literal") ++
        " (detected at line " ++ toString line ++ ")"
  | number fault => fault.message
  | stray char =>
      if Text.isPrintable char then
        "invalid character '" ++ char.toString ++ "' (U+" ++ codeText char ++ ")"
      else "invalid non-printable character U+" ++ codeText char
  | tooDeep => "too many nested parentheses"
  | unmatched bracket => "unmatched '" ++ bracket.toString ++ "'"
  | mismatched closing opening line =>
      "closing parenthesis '" ++ closing.toString ++
        "' does not match opening parenthesis '" ++ opening.toString ++ "'" ++
        (line.map fun line => " on line " ++ toString line).getD ""
  | backslash => "unexpected character after line continuation character"
  | ended => "unexpected EOF while parsing"

/-- Whether a fault is found as soon as its token is read.  The others only matter to
who asks for the token. -/
def TokenFault.isImmediate : TokenFault → Bool
  | backslash => false
  | ended => false
  | _ => true

/-- An open bracket and its line. -/
structure OpenBracket where
  char : Char
  line : Nat
deriving DecidableEq, Repr

/-- The tokens of a literal up to a fault, and the brackets that are open at its end,
the latest first. -/
structure Scan where
  tokens : List Token
  fault : Option TokenFault
  brackets : List OpenBracket
deriving DecidableEq, Repr

/-- A token's size in characters, or what is wrong with it. -/
abbrev Sized := Except TokenFault Nat

/-- Whether a character may stand in a word; all that is not ASCII is looked at
later. -/
def isWordPart (char : Char) : Bool :=
  char.isAlphanum || char = '_' || 128 ≤ char.toNat

/-- The number of leading characters with a property. -/
def runSize (belongs : Char → Bool) (text : List Char) : Nat :=
  (text.takeWhile belongs).length

/-! ## Numbers -/

/-- Whether a text starts with one of the words that may follow a number without a
blank.  Some of them need not end there. -/
def startsConnective (text : List Char) : Bool :=
  (["if", "in", "is"].any fun word => word.toList.isPrefixOf text) ||
    ["and", "else", "for", "or", "not"].contains (String.ofList (text.takeWhile isWordPart))

/-- The size of a number that ends before this text. -/
def endNumber (base : String) (size : Nat) (rest : List Char) : Sized :=
  if rest.head?.any (fun char => char.toNat < 128 && isWordPart char) &&
      !startsConnective rest then
    .error (.number (.invalid base))
  else .ok size

/-- The size of digits in groups between low lines, of which each has a digit. -/
def digitGroups (isDigit : Char → Bool) (size : Nat) : List Char → Except Unit Nat
  | [] => .ok size
  | [char] =>
      if isDigit char then .ok (size + 1)
      else if char = '_' then .error ()
      else .ok size
  | char :: next :: rest =>
      if isDigit char then digitGroups isDigit (size + 1) (next :: rest)
      else if char = '_' then
        if isDigit next then digitGroups isDigit (size + 1) (next :: rest) else .error ()
      else .ok size

/-- The size of decimal digits in groups. -/
def decimalGroups (text : List Char) : Sized :=
  (digitGroups Char.isDigit 0 text).mapError fun _ => .number (.invalid "decimal")

/-- The first character after digits in groups, where a low line has to be followed
by a digit. -/
def afterGroups (isDigit : Char → Bool) : List Char → Option Char
  | [] => none
  | char :: rest =>
      if isDigit char then afterGroups isDigit rest
      else if char = '_' then
        match rest with
        | next :: _ => if isDigit next then afterGroups isDigit rest else some next
        | [] => none
      else some char

/-- The size of a number with a mark for its base, after which digits follow. -/
def basedNumber (base : String) (isDigit : Char → Bool) (text : List Char) : Sized :=
  let digits := text.drop 2
  let first := if digits.head? = some '_' then digits.drop 1 else digits
  let wrong (char : Option Char) : TokenFault :=
    match char with
    | some digit =>
        if digit.isDigit && base ≠ "hexadecimal" then .number (.digit digit base)
        else .number (.invalid base)
    | none => .number (.invalid base)
  if !first.head?.any isDigit then .error (wrong first.head?)
  else
    match digitGroups isDigit 0 first with
    | .error () => .error (wrong (afterGroups isDigit first))
    | .ok size =>
        let rest := first.drop size
        if base ≠ "hexadecimal" && rest.head?.any Char.isDigit then
          .error (wrong rest.head?)
        else endNumber base (text.length - rest.length) rest

/-- The size of a number after its exponent, `size` being that of what is before the
rest. -/
def imaginaryNumber (size : Nat) (rest : List Char) : Sized :=
  match rest with
  | 'j' :: rest => endNumber "imaginary" (size + 1) rest
  | 'J' :: rest => endNumber "imaginary" (size + 1) rest
  | rest => endNumber "decimal" size rest

def exponentNumber (size : Nat) (rest : List Char) : Sized :=
  match rest with
  | mark :: after =>
      if mark = 'e' || mark = 'E' then
        let signed := after.head? = some '+' || after.head? = some '-'
        let digits := if signed then after.drop 1 else after
        if digits.head?.any Char.isDigit then do
          let count ← decimalGroups digits
          imaginaryNumber (size + 1 + (if signed then 1 else 0) + count)
            (digits.drop count)
        else if signed then .error (.number (.invalid "decimal"))
        else endNumber "decimal" size rest
      else imaginaryNumber size rest
  | [] => .ok size

/-- The size of a number from the fraction on, after the point. -/
def fractionNumber (size : Nat) (rest : List Char) : Sized :=
  if rest.head?.any Char.isDigit then do
    let count ← decimalGroups rest
    exponentNumber (size + count) (rest.drop count)
  else exponentNumber size rest

def decimalNumber (text : List Char) : Sized := do
  let count ← decimalGroups text
  match text.drop count with
  | '.' :: rest => fractionNumber (count + 1) rest
  | rest =>
      let integer := rest.head?.all fun char => !"eEjJ".toList.contains char
      let zeros := (text.take count).all fun char => char = '0' || char = '_'
      if text.head? = some '0' && integer && !zeros then
        .error (.number .leadingZeros)
      else exponentNumber count rest

def numberSize (text : List Char) : Sized :=
  match text with
  | '0' :: mark :: _ =>
      if mark = 'x' || mark = 'X' then
        basedNumber "hexadecimal"
          (fun char => char.isDigit || ('a' ≤ char && char ≤ 'f') || ('A' ≤ char && char ≤ 'F'))
          text
      else if mark = 'o' || mark = 'O' then
        basedNumber "octal" (fun char => '0' ≤ char && char ≤ '7') text
      else if mark = 'b' || mark = 'B' then
        basedNumber "binary" (fun char => char = '0' || char = '1') text
      else decimalNumber text
  | '.' :: rest => fractionNumber 1 rest
  | text => decimalNumber text

/-! ## Texts -/

/-- The letters before a text in quotes. -/
def markSize (text : List Char) : Option Nat :=
  let letters := text.takeWhile Char.isAlpha
  let marks := ["", "b", "u", "r", "f", "br", "rb", "fr", "rf"]
  let quoted := (text.drop letters.length).head?.any fun char => char = '"' || char = '\''
  if quoted && marks.contains (String.ofList (letters.map Char.toLower)) then
    some letters.length
  else none

/-- The size of a text up to its closing quotes, or the number of the line in which
they are missing. -/
def closingSize (quote : Char) (tripled : Bool) (line size : Nat) :
    List Char → Except Nat Nat
  | [] => .error line
  | [char] => if char = quote && !tripled then .ok (size + 1) else .error line
  | char :: next :: rest =>
      if char = '\\' then
        closingSize quote tripled (if next = '\n' then line + 1 else line) (size + 2) rest
      else if char = '\n' then
        if tripled then closingSize quote tripled (line + 1) (size + 1) (next :: rest)
        else .error line
      else if char = quote then
        if !tripled then .ok (size + 1)
        else if next = quote && rest.head? = some quote then .ok (size + 3)
        else closingSize quote tripled line (size + 1) (next :: rest)
      else closingSize quote tripled line (size + 1) (next :: rest)

/-- The size of a text in quotes that starts on a line, given the size of the letters
before it. -/
def textSize (line marks : Nat) (text : List Char) : Sized :=
  match text.drop marks with
  | quote :: rest =>
      let tripled := rest.head? = some quote && (rest.drop 1).head? = some quote
      let opened := if tripled then 3 else 1
      match closingSize quote tripled line 0 (rest.drop (opened - 1)) with
      | .ok size => .ok (marks + opened + size)
      | .error line => .error (.unterminated tripled line)
  | [] => .ok marks

/-! ## Signs -/

/-- The signs of two and three characters. -/
def longSigns : List String :=
  ["**=", "...", "//=", "<<=", ">>=", "!=", "%=", "&=", "**", "*=", "+=", "-=", "->", "//",
    "/=", ":=", "<<", "<=", "<>", "==", ">=", ">>", "@=", "^=", "|="]

def signSize (text : List Char) : Nat :=
  match longSigns.find? fun sign => sign.toList.isPrefixOf text with
  | some sign => sign.length
  | none => 1

/-- The bracket that closes another one. -/
def closingOf (opening : Char) : Char :=
  if opening = '(' then ')' else if opening = '[' then ']' else '\x7d'

def bracketsAfter (line : Nat) (brackets : List OpenBracket) (sign : Char) :
    Except TokenFault (List OpenBracket) :=
  if sign = '(' || sign = '[' || sign = '\x7b' then
    if 200 ≤ brackets.length then .error .tooDeep else .ok (⟨sign, line⟩ :: brackets)
  else if sign = ')' || sign = ']' || sign = '\x7d' then
    match brackets with
    | [] => .error (.unmatched sign)
    | bracket :: outer =>
        if closingOf bracket.char = sign then .ok outer
        else
          .error (.mismatched sign bracket.char
            (if bracket.line = line then none else some bracket.line))
  else .ok brackets

/-! ## Scanning -/

/-- Where scanning has got to: the line, the open brackets, and whether the line has
no token yet. -/
structure ScanState where
  line : Nat
  brackets : List OpenBracket
  fresh : Bool
deriving DecidableEq, Repr

namespace ScanState

def token (state : ScanState) (kind : TokenKind) (chars : List Char) (isLast : Bool) : Token :=
  ⟨kind, chars, state.brackets.length, state.line, isLast⟩

def ending (state : ScanState) (tokens : List Token) (fault : Option TokenFault) : Scan :=
  ⟨tokens, fault, state.brackets⟩

end ScanState

def Scan.after (token : Token) (scan : Scan) : Scan :=
  { scan with tokens := token :: scan.tokens }

def lineFeeds (text : List Char) : Nat :=
  text.count '\n'

/-- Whether the character after a token has to be looked at to see that it ends. -/
def looksAhead (kind : TokenKind) (chars : List Char) : Bool :=
  match kind with
  | .text => (chars.dropWhile Char.isAlpha).length = 2
  | .sign => chars.length < 3
  | _ => true

/-- A token of this size, unless it has a fault, and what follows it. -/
def sizedToken (state : ScanState) (kind : TokenKind) (size : Sized) (text : List Char)
    (next : ScanState → List Char → Scan) : Scan :=
  match size with
  | .error fault => state.ending [] (some fault)
  | .ok size =>
      let chars := text.take size
      let reached := { state with line := state.line + lineFeeds chars, fresh := false }
      let rest := text.drop size
      (next reached rest).after
        (state.token kind chars (rest.isEmpty && looksAhead kind chars))

/-- A word, unless a character in it belongs to none, and what follows it. -/
def wordToken (state : ScanState) (text : List Char)
    (next : ScanState → List Char → Scan) : Scan :=
  let size := runSize isWordPart text
  match Text.strayInName? (text.take size) with
  | some char => state.ending [] (some (.stray char))
  | none => sizedToken state .word (.ok size) text next

def signToken (state : ScanState) (text : List Char)
    (next : ScanState → List Char → Scan) : Scan :=
  match text with
  | [] => state.ending [] none
  | char :: _ =>
      if !Text.isPrintable char then state.ending [] (some (.stray char))
      else
        match bracketsAfter state.line state.brackets char with
        | .error fault => state.ending [] (some fault)
        | .ok brackets =>
            sizedToken { state with brackets } .sign (.ok (signSize text)) text next

/-- Whether a character is a blank between tokens. -/
def isGap (char : Char) : Bool :=
  char = ' ' || char = '\t' || char = '\x0c'

/-- Whether a line after the first one is set in, when there are tokens on it.  A form
feed starts the line anew. -/
def startsIndented (state : ScanState) (gap text : List Char) : Bool :=
  state.fresh && state.brackets.isEmpty && 1 < state.line &&
    gap.getLast?.any (· ≠ '\x0c') &&
    text.head?.any fun char => char ≠ '#' && char ≠ '\n'

/-- Scans a text with a bound on the number of steps. -/
def scanFrom : Nat → ScanState → List Char → Scan
  | 0, state, _ => state.ending [] none
  | bound + 1, state, text =>
      let gap := text.takeWhile isGap
      let rest := text.drop gap.length
      let next := scanFrom bound
      if startsIndented state gap rest then
        (next { state with fresh := false } rest).after (state.token .indent [] false)
      else
        match rest with
        | [] =>
            if state.brackets.isEmpty then state.ending [state.token .stop [] true] none
            else state.ending [] (some .ended)
        | '#' :: _ => next state (rest.dropWhile (· ≠ '\n'))
        | '\n' :: after =>
            let reached := { state with line := state.line + 1, fresh := true }
            if state.fresh || !state.brackets.isEmpty then next reached after
            else (next reached after).after (state.token .newline [] false)
        | '\\' :: '\n' :: after => next { state with line := state.line + 1 } after
        | '\\' :: _ => state.ending [] (some .backslash)
        | char :: after =>
            match markSize rest with
            | some marks => sizedToken state .text (textSize state.line marks rest) rest next
            | none =>
                if char.isDigit || (char = '.' && after.head?.any Char.isDigit) then
                  sizedToken state .number (numberSize rest) rest next
                else if isWordPart char then wordToken state rest next
                else signToken state rest next

/-- Scans a text that starts on this line.  Every line break counts as a line feed. -/
def scanLine (line : Nat) (text : List Char) : Scan :=
  scanFrom (text.length + 1) ⟨line, [], true⟩ (Text.unifyBreaks text)

end ScriptLint.Literal
