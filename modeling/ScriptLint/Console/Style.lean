import ScriptLint.Text.Blank
import ScriptLint.Text.Digit
import ScriptLint.Text.LowerCase

/-!
# Names of styles

A style is written as words: attributes, which may be turned off, a colour, a colour
of the background, and a link.  Styles that look the same have one normal name, in
which attributes come first and in a fixed order.  What is no style is its own name,
in lower case.
-/

namespace ScriptLint.Console

/-- The attributes of a style, in the order of normal names. -/
inductive Attribute where
  | bold
  | dim
  | italic
  | underline
  | blink
  | blink2
  | reverse
  | conceal
  | strike
  | underline2
  | frame
  | encircle
  | overline
deriving DecidableEq, Repr

namespace Attribute

def all : List Attribute :=
  [bold, dim, italic, underline, blink, blink2, reverse, conceal, strike, underline2,
    frame, encircle, overline]

def name : Attribute → String
  | bold => "bold"
  | dim => "dim"
  | italic => "italic"
  | underline => "underline"
  | blink => "blink"
  | blink2 => "blink2"
  | reverse => "reverse"
  | conceal => "conceal"
  | strike => "strike"
  | underline2 => "underline2"
  | frame => "frame"
  | encircle => "encircle"
  | overline => "overline"

def shortName? : Attribute → Option String
  | bold => some "b"
  | dim => some "d"
  | italic => some "i"
  | underline => some "u"
  | reverse => some "r"
  | conceal => some "c"
  | strike => some "s"
  | underline2 => some "uu"
  | overline => some "o"
  | _ => none

def ofWord? (word : String) : Option Attribute :=
  all.find? fun kind =>
    kind.name = word || kind.shortName? = some word

end Attribute

def colorNames : List String :=
  [
    "black", "red", "green", "yellow", "blue", "magenta", "cyan", "white",
    "bright_black", "bright_red", "bright_green", "bright_yellow", "bright_blue",
    "bright_magenta", "bright_cyan", "bright_white", "grey0", "gray0", "navy_blue",
    "dark_blue", "blue3", "blue1", "dark_green", "deep_sky_blue4", "dodger_blue3",
    "dodger_blue2", "green4", "spring_green4", "turquoise4", "deep_sky_blue3",
    "dodger_blue1", "green3", "spring_green3", "dark_cyan", "light_sea_green",
    "deep_sky_blue2", "deep_sky_blue1", "spring_green2", "cyan3", "dark_turquoise",
    "turquoise2", "green1", "spring_green1", "medium_spring_green", "cyan2", "cyan1",
    "dark_red", "deep_pink4", "purple4", "purple3", "blue_violet", "orange4", "grey37",
    "gray37", "medium_purple4", "slate_blue3", "royal_blue1", "chartreuse4",
    "dark_sea_green4", "pale_turquoise4", "steel_blue", "steel_blue3",
    "cornflower_blue", "chartreuse3", "cadet_blue", "sky_blue3", "steel_blue1",
    "pale_green3", "sea_green3", "aquamarine3", "medium_turquoise", "chartreuse2",
    "sea_green2", "sea_green1", "aquamarine1", "dark_slate_gray2", "dark_magenta",
    "dark_violet", "purple", "light_pink4", "plum4", "medium_purple3", "slate_blue1",
    "yellow4", "wheat4", "grey53", "gray53", "light_slate_grey", "light_slate_gray",
    "medium_purple", "light_slate_blue", "dark_olive_green3", "dark_sea_green",
    "light_sky_blue3", "sky_blue2", "dark_sea_green3", "dark_slate_gray3", "sky_blue1",
    "chartreuse1", "light_green", "pale_green1", "dark_slate_gray1", "red3",
    "medium_violet_red", "magenta3", "dark_orange3", "indian_red", "hot_pink3",
    "medium_orchid3", "medium_orchid", "medium_purple2", "dark_goldenrod",
    "light_salmon3", "rosy_brown", "grey63", "gray63", "medium_purple1", "gold3",
    "dark_khaki", "navajo_white3", "grey69", "gray69", "light_steel_blue3",
    "light_steel_blue", "yellow3", "dark_sea_green2", "light_cyan3", "light_sky_blue1",
    "green_yellow", "dark_olive_green2", "dark_sea_green1", "pale_turquoise1",
    "deep_pink3", "magenta2", "hot_pink2", "orchid", "medium_orchid1", "orange3",
    "light_pink3", "pink3", "plum3", "violet", "light_goldenrod3", "tan", "misty_rose3",
    "thistle3", "plum2", "khaki3", "light_goldenrod2", "light_yellow3", "grey84",
    "gray84", "light_steel_blue1", "yellow2", "dark_olive_green1", "honeydew2",
    "light_cyan1", "red1", "deep_pink2", "deep_pink1", "magenta1", "orange_red1",
    "indian_red1", "hot_pink", "dark_orange", "salmon1", "light_coral",
    "pale_violet_red1", "orchid2", "orchid1", "orange1", "sandy_brown", "light_salmon1",
    "light_pink1", "pink1", "plum1", "gold1", "navajo_white1", "misty_rose1",
    "thistle1", "yellow1", "light_goldenrod1", "khaki1", "wheat1", "cornsilk1",
    "grey100", "gray100", "grey3", "gray3", "grey7", "gray7", "grey11", "gray11",
    "grey15", "gray15", "grey19", "gray19", "grey23", "gray23", "grey27", "gray27",
    "grey30", "gray30", "grey35", "gray35", "grey39", "gray39", "grey42", "gray42",
    "grey46", "gray46", "grey50", "gray50", "grey54", "gray54", "grey58", "gray58",
    "grey62", "gray62", "grey66", "gray66", "grey70", "gray70", "grey74", "gray74",
    "grey78", "gray78", "grey82", "gray82", "grey85", "gray85", "grey89", "gray89",
    "grey93", "gray93"
  ]

/-- Why words are no style. -/
inductive StyleError where
  /-- A word has no meaning where it stands. -/
  | notAStyle
  /-- A part of a colour has no digits. -/
  | noDigits
  /-- A part of a colour has more digits than are read. -/
  | tooManyDigits (count : Nat)
deriving DecidableEq, Repr

def StyleError.message : StyleError → String
  | notAStyle => "not a style"
  | noDigits => "invalid literal for int() with base 10: ''"
  | tooManyDigits count =>
      "Exceeds the limit (4300 digits) for integer string conversion: value has " ++
        toString count ++
        " digits; use sys.set_int_max_str_digits() to increase the limit"

/-- What stands between a start and an end. -/
def between? (start : String) (stop : Char) (text : List Char) : Option (List Char) :=
  if start.toList.isPrefixOf text && text.getLast? = some stop then
    some ((text.drop start.length).dropLast)
  else none

def splitCommas : List Char → List (List Char)
  | [] => [[]]
  | char :: rest =>
      match splitCommas rest with
      | [] => [[char]]
      | piece :: pieces =>
          if char = ',' then [] :: piece :: pieces else (char :: piece) :: pieces

/-- The number that a part of a colour denotes. -/
def colorPart (digits : List Char) : Except StyleError Nat :=
  if digits.isEmpty then .error .noDigits
  else if 4300 < digits.length then .error (.tooManyDigits digits.length)
  else .ok (Text.digitsValue digits)

/-- Checks the three parts of a colour. -/
def checkParts (parts : List (List Char)) : Except StyleError Unit :=
  if parts.length ≠ 3 then .error .notAStyle
  else do
    let numbers ← parts.mapM colorPart
    if numbers.all (· ≤ 255) then return () else .error .notAStyle

/-- Whether a character is a small hexadecimal digit. -/
def isSmallHexDigit (char : Char) : Bool :=
  char.isDigit || ('a' ≤ char && char ≤ 'f')

/-- The name of the colour that a word denotes. -/
def colorOfWord (word : List Char) : Except StyleError (List Char) :=
  let color := Text.lower word
  let named := String.ofList color
  if named = "default" || colorNames.contains named then .ok color
  else
    match color, between? "color(" ')' color, between? "rgb(" ')' color with
    | '#' :: digits, _, _ =>
        if digits.length = 6 && digits.all isSmallHexDigit then .ok color
        else .error .notAStyle
    | _, some digits, _ =>
        if !digits.isEmpty && digits.length ≤ 3 && digits.all Char.isDigit &&
            Text.digitsValue digits ≤ 255 then
          .ok color
        else .error .notAStyle
    | _, _, some parts =>
        if !parts.isEmpty && parts.all (fun char => char = ',' || Text.isDigit char) then
          (checkParts (splitCommas parts)).map fun _ => color
        else .error .notAStyle
    | _, _, _ => .error .notAStyle

/-- What the words of a style say. -/
structure TextStyle where
  attributes : List (Attribute × Bool)
  color : Option (List Char)
  background : Option (List Char)
  link : Option (List Char)
deriving DecidableEq, Repr

namespace TextStyle

def none : TextStyle :=
  ⟨[], .none, .none, .none⟩

/-- A style with an attribute turned on or off. -/
def setting (style : TextStyle) (kind : Attribute) (value : Bool) : TextStyle :=
  { style with attributes := (kind, value) :: style.attributes }

def ofWords (style : TextStyle) : List (List Char) → Except StyleError TextStyle
  | [] => .ok style
  | word :: rest =>
      let small := String.ofList (Text.lower word)
      match small, rest with
      | "on", background :: rest => do
          let color ← colorOfWord background
          ofWords { style with background := some color } rest
      | "not", name :: rest =>
          match Attribute.ofWord? (String.ofList name) with
          | some kind => ofWords (style.setting kind false) rest
          | .none => .error .notAStyle
      | "link", link :: rest => ofWords { style with link := some link } rest
      | _, rest =>
          if small = "on" || small = "not" || small = "link" then .error .notAStyle
          else
            match Attribute.ofWord? small with
            | some kind => ofWords (style.setting kind true) rest
            | .none => do
                let color ← colorOfWord small.toList
                ofWords { style with color := some color } rest

/-- The words of the attributes that are set, in their order. -/
def attributeWords (style : TextStyle) : List String :=
  Attribute.all.filterMap fun kind =>
    (style.attributes.find? (·.1 = kind)).map fun (_, value) =>
      if value then kind.name else "not " ++ kind.name

def name (style : TextStyle) : String :=
  let words := style.attributeWords ++
    (style.color.map String.ofList).toList ++
    (style.background.map fun color => "on " ++ String.ofList color).toList ++
    (style.link.map fun link => "link " ++ String.ofList link).toList
  if words.isEmpty then "none" else String.intercalate " " words

end TextStyle

def blankSeparated (text : List Char) : List (List Char) :=
  (text.splitBy fun left right => Text.isBlank left = Text.isBlank right).filter
    fun piece => !piece.any Text.isBlank

/-- Why the words of a style cannot be read.  Words that are no style are left out
without complaint. -/
def styleFault? (written : List Char) : Option StyleError :=
  match TextStyle.none.ofWords (blankSeparated written) with
  | .error .notAStyle => none
  | .error error => some error
  | .ok _ => none

/-- The normal name of a style that is written in a tag. -/
def styleName (written : List Char) : Except StyleError String :=
  if String.ofList (Text.trim written) = "none" then .ok "none"
  else
    match TextStyle.none.ofWords (blankSeparated written) with
    | .ok style => .ok style.name
    | .error .notAStyle => .ok (String.ofList (Text.lower (Text.trim written)))
    | .error error => .error error

end ScriptLint.Console
