import ScriptLint.Console.StyledText
import ScriptLint.Text.Digit
import ScriptLint.Text.WordChar

/-!
# Items that stand out

The console styles what looks like an address, a call, a constant, a number, a path
or a quoted text.  An item is recognised by what a text starts with and by the
character before it.  Where several kinds fit, the first one counts.
-/

namespace ScriptLint.Console

/-- Something that stands out at the start of a text: the number of its characters,
and which of them are styled. -/
structure Item where
  size : Nat
  spans : List Span
deriving DecidableEq, Repr

namespace Item

def ofSize (size : Nat) : Item :=
  ⟨size, [.between 0 size]⟩

/-- The number of leading characters of a class. -/
def runSize (accepts : Char → Bool) (text : List Char) : Nat :=
  (text.takeWhile accepts).length

/-- The number of leading characters of a class, up to a bound. -/
def runUpTo (most : Nat) (accepts : Char → Bool) (text : List Char) : Nat :=
  runSize accepts (text.take most)

def isHexDigit (char : Char) : Bool :=
  char.isDigit || ('a' ≤ char && char ≤ 'f') || ('A' ≤ char && char ≤ 'F')

def startsWord (text : List Char) : Bool :=
  !Text.wordEndsBefore text

/-! Addresses -/

/-- The form of a group: how many characters of which class it has at least and at
most, and what comes after it. -/
structure GroupForm where
  accepts : Char → Bool
  least : Nat
  most : Nat
  separator : Char

namespace GroupForm

/-- The size of a group without its separator. -/
def groupSize? (form : GroupForm) (text : List Char) : Option Nat :=
  let size := runUpTo form.most form.accepts text
  if size < form.least then none else some size

def groupsSize? (form : GroupForm) : Nat → List Char → Option Nat
  | 0, _ => some 0
  | count + 1, text => do
      let size ← form.groupSize? text
      match text.drop size with
      | char :: rest =>
          if char = form.separator then
            return size + 1 + (← form.groupsSize? count rest)
          else none
      | [] => none

/-- The size of a number of groups with their separators and of a last one without
it. -/
def chainSize? (form : GroupForm) (count : Nat) (text : List Char) : Option Nat := do
  let front ← form.groupsSize? count text
  return front + (← form.groupSize? (text.drop front))

end GroupForm

/-- Four numbers with points between them. -/
def dottedSize? (text : List Char) : Option Nat :=
  GroupForm.chainSize? ⟨Char.isDigit, 1, 3, '.'⟩ 3 text

/-- The leading groups of hexadecimal digits with one colon or two after each, up to
a bound: how many digits each has, and its size with the colons. -/
def colonGroups : Nat → List Char → List (Nat × Nat)
  | 0, _ => []
  | bound + 1, text =>
      let digits := runUpTo 4 isHexDigit text
      if digits = 0 then []
      else
        match text.drop digits with
        | ':' :: ':' :: rest => (digits, digits + 2) :: colonGroups bound rest
        | ':' :: rest => (digits, digits + 1) :: colonGroups bound rest
        | _ => []

/-- Up to eight groups of hexadecimal digits with colons between them. -/
def colonSize? (text : List Char) : Option Nat :=
  let groups := colonGroups 7 text
  let front := groups.foldr (fun group size => group.2 + size) 0
  let last := runUpTo 4 isHexDigit (text.drop front)
  match groups.reverse with
  | [] => none
  | (digits, size) :: earlier =>
      if 0 < last then some (front + last)
      else if earlier.isEmpty then none
      else some (front - size + digits)

/-- The address of a device with one group more than the count, each of two digits,
or with half as many groups of four. -/
def deviceSize? (count : Nat) (text : List Char) : Option Nat :=
  (GroupForm.chainSize? ⟨isHexDigit, 1, 2, '-'⟩ count text).or
    ((GroupForm.chainSize? ⟨isHexDigit, 1, 2, ':'⟩ count text).or
      (GroupForm.chainSize? ⟨isHexDigit, 4, 4, '.'⟩ (count / 2) text))

/-- An identifier of five groups of hexadecimal digits. -/
def uniqueSize? (text : List Char) : Option Nat := do
  let first ← GroupForm.groupsSize? ⟨isHexDigit, 8, 8, '-'⟩ 1 text
  let middle ← GroupForm.groupsSize? ⟨isHexDigit, 4, 4, '-'⟩ 3 (text.drop first)
  let last ← GroupForm.groupSize? ⟨isHexDigit, 12, 12, '-'⟩ (text.drop (first + middle))
  return first + middle + last

/-! Calls and constants -/

/-- Whether a character may stand in the name of what is called. -/
def isCallChar (char : Char) : Bool :=
  Text.isWordChar char || char = '.'

/-- A name before an opening parenthesis. -/
def call? (text : List Char) : Option Item :=
  let size := runSize isCallChar text
  match text.drop size with
  | '(' :: _ => some ⟨size + 1, if size = 0 then [] else [.between 0 size]⟩
  | _ => none

def wordSize? (before : Option Char) (word : String) (text : List Char) : Option Nat :=
  let chars := word.toList
  if chars.isPrefixOf text && !before.any Text.isWordChar &&
      !startsWord (text.drop chars.length) then
    some chars.length
  else none

def constantSize? (before : Option Char) (text : List Char) : Option Nat :=
  ["True", "False", "None"].findSome? fun word => wordSize? before word text

def ellipsisSize? (text : List Char) : Option Nat :=
  if ['.', '.', '.'].isPrefixOf text then some 3 else none

/-! Numbers -/

def minusSize (text : List Char) : Nat :=
  if text.head? = some '-' then 1 else 0

def signSize (text : List Char) : Nat :=
  if text.head? = some '-' || text.head? = some '+' then 1 else 0

/-- Digits with a point among or after them. -/
def decimalSize? (text : List Char) : Option Nat :=
  let whole := runSize Char.isDigit text
  if whole = 0 then none
  else
    match text.drop whole with
    | '.' :: rest => some (whole + 1 + runSize Char.isDigit rest)
    | _ => some whole

def powerSize? (text : List Char) : Option Nat :=
  match text with
  | 'e' :: rest =>
      let sign := signSize rest
      let digits := runSize Text.isDigit (rest.drop sign)
      if digits = 0 then none else some (1 + sign + digits)
  | _ => none

/-- Digits with a point and a power of ten. -/
def scaledSize? (text : List Char) : Option Nat :=
  (decimalSize? text).map fun size => size + (powerSize? (text.drop size)).getD 0

/-- A complex number: a real part, an imaginary one, and the letter for its unit. -/
def complexSize? (before : Option Char) (text : List Char) : Option Nat := do
  if before.any Text.isWordChar then none
  else
    let minus := minusSize text
    let size := minus + (← scaledSize? (text.drop minus))
    let rest := text.drop size
    let second :=
      if signSize rest = 0 then 0
      else ((scaledSize? (rest.drop 1)).map (· + 1)).getD 0
    match rest.drop second with
    | 'j' :: _ => some (size + second + 1)
    | _ => none

/-- A power of ten that no word character follows. -/
def finalPowerSize? (text : List Char) : Option Nat :=
  (powerSize? text).filter fun size => !startsWord (text.drop size)

/-- The part of a decimal number after its first digits.  A point belongs to it if a
word character follows, of which the digits count if they end the word. -/
def fractionSize? (text : List Char) : Option Nat :=
  match text with
  | '.' :: rest =>
      let digits := runSize Char.isDigit rest
      let tail := rest.drop digits
      match finalPowerSize? tail with
      | some power => some (1 + digits + power)
      | none =>
          if digits = 0 then some (if startsWord tail then 1 else 0)
          else some (if startsWord tail then 1 else 1 + digits)
  | _ =>
      match finalPowerSize? text with
      | some power => some power
      | none => if startsWord text then none else some 0

def numberSize? (before : Option Char) (text : List Char) : Option Nat :=
  let minus := minusSize text
  let whole := runSize Char.isDigit (text.drop minus)
  if before.any Text.isWordChar || whole = 0 then none
  else (fractionSize? (text.drop (minus + whole))).map (minus + whole + ·)

def hexSize? : List Char → Option Nat
  | '0' :: 'x' :: rest => some (2 + runSize isHexDigit rest)
  | _ => none

/-! Paths, quoted texts and links -/

/-- Whether a character may stand in the name of a file. -/
def isNameChar (char : Char) : Bool :=
  Text.isWordChar char || char = '-' || char = '.' || char = '+'

/-- The size of a path up to its last slash, where `reached` is what was found so
far, `offset` where the text starts, and `named` whether the text continues a
name. -/
def foldersSize (reached offset : Nat) (named : Bool) : List Char → Nat
  | [] => reached
  | char :: rest =>
      if char = '/' then
        if named then foldersSize (offset + 1) (offset + 1) false rest else reached
      else if isNameChar char then foldersSize reached (offset + 1) true rest
      else reached

/-- Folders and the name of a file. -/
def path? (before : Option Char) (text : List Char) : Option Item :=
  match text with
  | '/' :: rest =>
      if before.any Text.isWordChar then none
      else
        let folders := foldersSize 1 1 false rest
        let name := runSize isNameChar (text.drop folders)
        some ⟨folders + name,
          .between 0 folders ::
            if name = 0 then [] else [.between folders (folders + name)]⟩
  | _ => none

/-- The offset in a line at which quotes close a text, unless a backslash stands
before them. -/
def closing? (quotes : List Char) (before : Char) (offset : Nat) :
    List Char → Option Nat
  | [] => none
  | char :: rest =>
      if before ≠ '\\' && quotes.isPrefixOf (char :: rest) then some offset
      else if char = '\n' then none
      else closing? quotes char (offset + 1) rest

def betweenSize? (quotes : List Char) (text : List Char) : Option Nat :=
  if quotes.isPrefixOf text then
    (closing? quotes (quotes.headD ' ') 0 (text.drop quotes.length)).map
      (· + 2 * quotes.length)
  else none

/-- A text between three quotes or between single ones. -/
def anyQuotesSize? (text : List Char) : Option Nat :=
  ['\'', '"'].findSome? fun quote =>
    (betweenSize? [quote, quote, quote] text).or (betweenSize? [quote] text)

/-- A quoted text, which may have a letter before its quotes. -/
def quotedSize? (before : Option Char) (text : List Char) : Option Nat :=
  if before.any fun char => char = '\\' || Text.isWordChar char then none
  else
    match text with
    | 'b' :: rest => (anyQuotesSize? rest).map (1 + ·)
    | _ => anyQuotesSize? text

/-- Whether a character may stand in a link. -/
def isLinkChar (char : Char) : Bool :=
  char.isAlphanum || "-$_+!\x60(),.?/;:&=%#~@".toList.contains char

def linkSize? (text : List Char) : Option Nat :=
  ["file://", "https://", "http://", "ws://", "wss://"].findSome? fun start =>
    if start.toList.isPrefixOf text then
      some (start.length + runSize isLinkChar (text.drop start.length))
    else none

/-- The item that a text starts with, given the character before it.  A call is not
looked for inside a name that was tried from an earlier character. -/
def at? (before : Option Char) (tried : Bool) (text : List Char) : Option Item :=
  ((dottedSize? text).map ofSize).or <|
  ((colonSize? text).map ofSize).or <|
  ((deviceSize? 7 text).map ofSize).or <|
  ((deviceSize? 5 text).map ofSize).or <|
  ((uniqueSize? text).map ofSize).or <|
  (if tried then none else call? text).or <|
  ((constantSize? before text).map ofSize).or <|
  ((ellipsisSize? text).map ofSize).or <|
  ((complexSize? before text).map ofSize).or <|
  ((numberSize? before text).map ofSize).or <|
  ((hexSize? text).map ofSize).or <|
  (path? before text).or <|
  ((quotedSize? before text).map ofSize).or <|
  (linkSize? text).map ofSize

end Item

end ScriptLint.Console
