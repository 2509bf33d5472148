import ScriptLint.Text.CharRange

/-!
# Widths of characters

On a terminal a character takes no cell, one or two.  Controls, marks that combine
with the character before them and format characters take none; characters that
Unicode calls wide or fullwidth take two.  Some narrow characters take two if a
selector after them asks for the form of an emoji.
-/

namespace ScriptLint.Text

/-- The code points of characters other than controls that take no cell: combining
marks, format characters, separators of lines and paragraphs, modifiers of emoji,
the vowels and final consonants that complete a Hangul syllable, and what Unicode
ignores by default.  Marks that are written before the digits they enclose, and the
soft hyphen, take a cell. -/
def zeroWidthStretches : List Nat :=
  [
    0, 1, 767, 112, 275, 7, 263, 45, 1, 1, 1, 2, 1, 2, 1, 1, 72, 11, 1, 1, 46, 21, 16, 1, 101, 7,
    2, 6, 2, 2, 1, 4, 35, 1, 30, 27, 91, 11, 58, 9, 9, 1, 24, 4, 1, 9, 1, 3, 1, 5, 43, 3, 59, 9,
    42, 24, 1, 33, 54, 3, 1, 18, 1, 7, 10, 2, 29, 3, 56, 1, 1, 7, 2, 2, 2, 3, 9, 1, 10, 2, 26, 1,
    2, 3, 56, 1, 1, 5, 4, 2, 2, 3, 3, 1, 30, 2, 3, 1, 11, 3, 56, 1, 1, 8, 1, 3, 1, 3, 20, 2, 22,
    6, 1, 3, 56, 1, 1, 7, 2, 2, 2, 3, 7, 3, 10, 2, 30, 1, 59, 5, 3, 3, 1, 4, 9, 1, 40, 5, 55, 1,
    1, 7, 1, 3, 1, 4, 7, 2, 11, 2, 29, 3, 56, 1, 1, 7, 1, 3, 1, 4, 7, 2, 11, 2, 15, 1, 12, 4, 55,
    2, 1, 7, 1, 3, 1, 4, 9, 1, 10, 2, 29, 3, 70, 1, 4, 6, 1, 1, 1, 8, 18, 2, 61, 1, 2, 7, 12, 8,
    98, 1, 2, 9, 11, 7, 73, 2, 27, 1, 1, 1, 1, 1, 4, 2, 49, 20, 1, 2, 5, 11, 1, 36, 9, 1, 100, 20,
    23, 4, 4, 3, 1, 3, 2, 7, 3, 4, 13, 12, 1, 1, 10, 4, 194, 160, 349, 3, 946, 4, 28, 3, 29, 2,
    30, 2, 64, 32, 9, 1, 45, 5, 117, 2, 34, 1, 118, 12, 4, 12, 219, 5, 57, 10, 1, 29, 2, 1, 48,
    46, 2, 12, 20, 5, 47, 17, 38, 9, 12, 3, 30, 13, 56, 14, 48, 20, 152, 3, 1, 21, 4, 1, 6, 1, 2,
    3, 198, 64, 523, 5, 24, 7, 49, 16, 96, 33, 3070, 3, 141, 1, 96, 32, 554, 6, 105, 2, 201, 1,
    29962, 4, 1, 10, 32, 2, 80, 2, 272, 1, 3, 1, 4, 1, 23, 5, 4, 1, 83, 2, 50, 18, 26, 18, 13, 1,
    38, 8, 25, 13, 44, 4, 47, 14, 36, 1, 67, 14, 12, 1, 8, 2, 45, 3, 50, 1, 1, 3, 2, 2, 5, 2, 1,
    1, 41, 5, 5, 2, 236, 8, 1, 2, 11202, 80, 8990, 1, 737, 16, 16, 16, 207, 1, 160, 1, 79, 12,
    513, 1, 226, 1, 149, 5, 1670, 3, 1, 2, 5, 4, 40, 3, 4, 1, 165, 2, 573, 4, 65, 5, 317, 2, 77,
    6, 70, 11, 49, 4, 122, 3, 53, 15, 41, 1, 2, 2, 10, 4, 45, 11, 7, 1, 61, 3, 36, 14, 16, 2, 44,
    1, 12, 3, 48, 14, 8, 4, 1, 2, 92, 12, 6, 1, 2, 1, 157, 12, 21, 4, 55, 2, 1, 7, 2, 2, 2, 3, 9,
    1, 10, 2, 2, 7, 3, 5, 67, 9, 1, 1, 2, 1, 1, 4, 1, 5, 1, 1, 14, 2, 82, 18, 23, 1, 81, 20, 235,
    7, 2, 9, 27, 2, 82, 17, 106, 13, 101, 15, 256, 15, 245, 6, 1, 2, 2, 4, 1, 1, 1, 2, 141, 7, 2,
    7, 3, 1, 28, 10, 40, 7, 1, 4, 8, 1, 9, 11, 46, 16, 198, 8, 199, 8, 1, 8, 82, 22, 1, 14, 122,
    6, 3, 1, 1, 2, 1, 7, 1, 1, 66, 5, 1, 2, 1, 5, 347, 4, 9, 2, 1, 1, 48, 7, 3, 5, 23, 1, 5333,
    17, 6, 15, 11464, 18, 2496, 5, 59, 7, 1048, 1, 1, 55, 7, 4, 81, 1, 11, 2, 19627, 2, 1, 4,
    4700, 46, 2, 23, 542, 5, 3, 22, 2, 7, 30, 4, 148, 3, 1979, 55, 4, 50, 8, 1, 14, 1, 22, 5, 1,
    15, 1360, 7, 1, 17, 2, 7, 1, 2, 1, 5, 100, 1, 160, 7, 375, 1, 61, 4, 508, 4, 254, 2, 243, 1,
    2, 1, 7, 2, 5, 1, 474, 7, 109, 7, 2736, 5, 789504, 4096
  ]

/-- The code points of characters that take two cells. -/
def wideStretches : List Nat :=
  [
    4352, 96, 4538, 2, 13, 2, 190, 4, 3, 1, 2, 1, 521, 2, 21, 2, 26, 8, 16, 12, 43, 1, 10, 6, 3,
    1, 13, 1, 8, 2, 17, 2, 5, 2, 8, 1, 5, 1, 21, 1, 7, 2, 1, 1, 4, 1, 2, 1, 7, 1, 4, 2, 28, 1, 35,
    1, 1, 1, 4, 3, 1, 1, 61, 3, 24, 1, 14, 1, 859, 2, 51, 1, 4, 1, 810, 26, 1, 89, 12, 214, 26,
    58, 6, 15, 2, 86, 4, 101, 5, 43, 1, 94, 1, 86, 9, 48, 1, 40, 8, 29245, 3, 55, 1177, 29, 643,
    11172, 8540, 512, 784, 10, 22, 35, 1, 19, 1, 4, 149, 96, 127, 7, 28665, 4, 14, 5, 9, 7382, 41,
    32, 97, 115, 8701, 4, 1, 7, 1, 2, 1, 291, 15, 1, 29, 3, 2, 1, 14, 4, 8, 396, 8196, 87, 9, 23,
    7309, 1, 202, 1, 190, 1, 2, 10, 101, 3, 13, 44, 4, 9, 7, 2, 14, 6, 154, 33, 12, 9, 1, 70, 1,
    22, 12, 43, 4, 5, 12, 17, 3, 1, 3, 3, 5, 63, 1, 1, 1, 187, 2, 63, 13, 4, 1, 24, 18, 1, 26, 2,
    13, 1, 86, 85, 48, 70, 6, 1, 3, 3, 2, 4, 3, 4, 11, 2, 7, 9, 227, 12, 4, 1, 283, 47, 1, 10, 1,
    185, 112, 13, 3, 11, 3, 57, 1, 1, 4, 16, 2, 12, 4, 10, 1287, 65534, 2, 65534
  ]

/-- The code points of narrow characters that also have the form of an emoji. -/
def emojiFormStretches : List Nat :=
  [
    35, 1, 6, 1, 5, 10, 111, 1, 4, 1, 8077, 1, 12, 1, 216, 1, 22, 1, 90, 6, 15, 2, 381, 1, 166, 1,
    29, 3, 1, 2, 5, 3, 199, 1, 231, 2, 10, 1, 9, 1, 58, 2, 3, 5, 9, 1, 2, 1, 6, 1, 4, 1, 2, 1, 1,
    2, 2, 1, 3, 1, 3, 2, 8, 3, 5, 1, 1, 1, 28, 2, 2, 1, 1, 2, 1, 1, 18, 1, 2, 1, 19, 1, 1, 4, 1,
    1, 1, 2, 3, 1, 6, 1, 8, 2, 22, 1, 6, 1, 1, 1, 1, 1, 21, 1, 6, 2, 2, 1, 2, 3, 8, 1, 5, 2, 2, 2,
    1, 1, 2, 1, 1, 1, 1, 1, 6, 1, 3, 1, 17, 2, 15, 1, 2, 1, 27, 2, 60, 1, 402, 2, 463, 3, 116328,
    2, 12, 2, 417, 1, 2, 9, 9, 1, 70, 1, 24, 2, 1, 3, 2, 2, 43, 4, 5, 12, 19, 1, 1, 1, 1, 1, 71,
    1, 1, 1, 187, 1, 75, 2, 36, 2, 2, 7, 13, 1, 2, 4, 2, 1, 20, 1, 2, 1, 8, 2, 9, 1, 5, 3, 12, 3,
    8, 3, 2, 1, 1, 1, 4, 1, 6, 1, 3, 1, 6, 1, 208, 1, 1, 3, 16, 6, 3, 1, 6, 1, 2, 1
  ]

/-- Whether a code point is that of a control other than the null character. -/
def isControlCode (code : Nat) : Bool :=
  (1 ≤ code && code < 0x20) || (0x7F ≤ code && code < 0xA0)

/-- The number of cells that a character takes. -/
def cellWidth (char : Char) : Nat :=
  let code := char.toNat
  if isControlCode code || inStretches code zeroWidthStretches then 0
  else if inStretches code wideStretches then 2
  else 1

/-- Whether a character is narrow and also has the form of an emoji. -/
def hasEmojiForm (char : Char) : Bool :=
  inStretches char.toNat emojiFormStretches

end ScriptLint.Text
