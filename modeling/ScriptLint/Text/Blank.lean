import ScriptLint.Text.CharRange

/-!
# Blanks

Blanks are the white space characters and line and paragraph separators of
Unicode together with the information separators of ASCII.  Trimming removes
them from the ends of a text, and words are the pieces between them.
-/

namespace ScriptLint.Text

def blankRanges : List (Nat × Nat) :=
  [
    (0x9, 0xD), (0x1C, 0x20), (0x85, 0x85), (0xA0, 0xA0), (0x1680, 0x1680),
    (0x2000, 0x200A), (0x2028, 0x2029), (0x202F, 0x202F), (0x205F, 0x205F), (0x3000, 0x3000)
  ]

def isBlank (char : Char) : Bool :=
  inRanges char.toNat blankRanges

/-- Whether a text holds nothing but blanks. -/
def allBlank (text : List Char) : Bool :=
  text.all isBlank

def trimStart (text : List Char) : List Char :=
  text.dropWhile isBlank

def trimEnd (text : List Char) : List Char :=
  (text.reverse.dropWhile isBlank).reverse

/-- A text without the blanks at both of its ends. -/
def trim (text : List Char) : List Char :=
  trimEnd (trimStart text)

/-- The first run of characters that are not blanks; empty if there is none. -/
def firstWord (text : List Char) : List Char :=
  (trimStart text).takeWhile (!isBlank ·)

theorem length_trimStart_le (text : List Char) :
    (trimStart text).length ≤ text.length := by
  unfold trimStart
  induction text with
  | nil => simp
  | cons char rest induction =>
      simp only [List.dropWhile_cons]
      split
      · simp only [List.length_cons]
        omega
      · simp

example : allBlank [' ', '\t', '\r', '\n'] = true := by decide

end ScriptLint.Text
