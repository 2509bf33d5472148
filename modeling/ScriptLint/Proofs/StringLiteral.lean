import Mathlib.Data.List.Basic
import ScriptLint.Rules.Quotes

/-!
# String literals of scripts

The body of a literal stands between two quotes or two backticks.  It is well formed if
the closing delimiter cannot be found earlier, and its value is a list of UTF-16 code
units: a backslash starts an escape, a line continuation has no value, and a line break
in a template is read as a line feed.  Octal escapes are read in string literals of
scripts that are not strict, and nowhere else.
-/

namespace ScriptLint.StringLiteral

open Quotes (backtick)

/-- Whether a character can stand in a body without a backslash before it: it is not the
delimiter, starts no substitution in a template and breaks no line elsewhere. -/
def stands (delimiter char : Char) (rest : List Char) : Bool :=
  char ≠ '\\' && char ≠ delimiter &&
    if delimiter = backtick then !(char = '$' && rest.head? = some '\x7b')
    else char ≠ '\r' && char ≠ '\n'

/-- Whether a body can stand between two delimiters: each of its characters can or is
escaped, and no backslash dangles. -/
def isBody (delimiter : Char) : List Char → Bool
  | [] => true
  | '\\' :: '\r' :: '\n' :: rest => isBody delimiter rest
  | '\\' :: _ :: rest => isBody delimiter rest
  | char :: rest => stands delimiter char rest && isBody delimiter rest

/-- The characters that end a line of a script. -/
def isLineTerminator (char : Char) : Bool :=
  char = '\n' || char = '\r' || char = '\u2028' || char = '\u2029'

/-- The UTF-16 code units of a code point. -/
def unitsOf (code : Nat) : List Nat :=
  if code < 0x10000 then [code]
  else [0xD800 + (code - 0x10000) / 0x400, 0xDC00 + (code - 0x10000) % 0x400]

def isDecimal (char : Char) : Bool :=
  '0' ≤ char && char ≤ '9'

def isOctal (char : Char) : Bool :=
  '0' ≤ char && char ≤ '7'

def isHex (char : Char) : Bool :=
  isDecimal char || ('a' ≤ char && char ≤ 'f') || ('A' ≤ char && char ≤ 'F')

/-- The value of a digit up to the hexadecimal ones. -/
def digitValue (char : Char) : Nat :=
  if isDecimal char then char.toNat - 0x30
  else if 'a' ≤ char then char.toNat - 0x61 + 10
  else char.toNat - 0x41 + 10

def number (base : Nat) (digits : List Char) : Nat :=
  digits.foldl (fun value digit => base * value + digitValue digit) 0

/-- The characters that numeric escapes are made of. -/
def isNumeral (char : Char) : Bool :=
  isHex char || char = '\x7b' || char = '\x7d'

/-- The code after `\x` or `\u` that is written with a fixed number of digits. -/
def fixedCode? (width : Nat) (numerals : List Char) : Option (List Nat × Nat) :=
  if width ≤ (numerals.takeWhile isHex).length then
    some (unitsOf (number 16 (numerals.take width)), width)
  else none

/-- The code after `\u`, in braces or with four digits. -/
def unicodeCode? (numerals : List Char) : Option (List Nat × Nat) :=
  match numerals with
  | '\x7b' :: rest =>
      let digits := rest.takeWhile isHex
      if digits ≠ [] ∧ (rest.drop digits.length).head? = some '\x7d' ∧
          number 16 digits ≤ 0x10FFFF then
        some (unitsOf (number 16 digits), digits.length + 2)
      else none
  | numerals => fixedCode? 4 numerals

/-- The code of an escape that starts with a digit. -/
def digitCode? (octal : Bool) (char : Char) (numerals : List Char) :
    Option (List Nat × Nat) :=
  if char = '0' && !numerals.head?.any isDecimal then some ([0], 0)
  else if !octal then none
  else if isOctal char then
    let more := (numerals.takeWhile isOctal).take (if char ≤ '3' then 2 else 1)
    some ([number 8 (char :: more)], more.length)
  else some (unitsOf char.toNat, 0)

/-- The code point that an escaped character stands for by itself. -/
def controlCode (char : Char) : Nat :=
  if char = 'b' then 8
  else if char = 't' then 9
  else if char = 'n' then 10
  else if char = 'v' then 11
  else if char = 'f' then 12
  else if char = 'r' then 13
  else char.toNat

/-- The code units of an escape by its first character and the numerals that follow it,
with how many of these belong to it. -/
def escapedCode? (octal : Bool) (char : Char) (numerals : List Char) :
    Option (List Nat × Nat) :=
  if char = 'x' then fixedCode? 2 numerals
  else if char = 'u' then unicodeCode? numerals
  else if isDecimal char then digitCode? octal char numerals
  else some (unitsOf (controlCode char), 0)

/-- The code units of what follows a backslash, with the number of its characters after
the first. -/
def escape? (octal : Bool) (char : Char) (rest : List Char) : Option (List Nat × Nat) :=
  if isLineTerminator char then
    some ([], if char = '\r' ∧ rest.head? = some '\n' then 1 else 0)
  else escapedCode? octal char (rest.takeWhile isNumeral)

/-- The code units of the first item of a body, with the number of its characters after
the first. -/
def item? (template octal : Bool) (char : Char) (rest : List Char) :
    Option (List Nat × Nat) :=
  if char = '\\' then
    match rest with
    | [] => none
    | escaped :: rest =>
        (escape? octal escaped rest).map fun (units, more) => (units, more + 1)
  else if template && char = '\r' then
    some ([10], if rest.head? = some '\n' then 1 else 0)
  else some (unitsOf char.toNat, 0)

/-- The code units that a body denotes, if all of its escapes are valid. -/
def units? (template octal : Bool) : List Char → Option (List Nat)
  | [] => some []
  | char :: rest =>
      match item? template octal char rest with
      | none => none
      | some (units, more) => (units? template octal (rest.drop more)).map (units ++ ·)
termination_by body => body.length
decreasing_by
  simp only [List.length_drop, List.length_cons]
  omega

/-- The value of a literal in a script that reads octal escapes or, being strict, does
not.  Templates never do. -/
def value? (octal : Bool) (delimiter : Char) (body : List Char) : Option (List Nat) :=
  units? (delimiter = backtick) (octal && delimiter ≠ backtick) body

section Bodies

variable {delimiter char : Char} {rest : List Char}

theorem isBody_escape :
    isBody delimiter ('\\' :: char :: rest) =
      isBody delimiter (if char = '\r' ∧ rest.head? = some '\n' then rest.tail else rest) := by
  split
  · rename_i isBreak
    obtain ⟨rfl, starts⟩ := isBreak
    cases rest with
    | nil => simp at starts
    | cons next rest =>
        obtain rfl : next = '\n' := by simpa using starts
        rfl
  · rename_i noBreak
    rw [isBody.eq_3]
    intro later rfl same
    exact noBreak ⟨rfl, by rw [same]; rfl⟩

theorem isBody_cons (plain : char ≠ '\\') :
    isBody delimiter (char :: rest) =
      (stands delimiter char rest && isBody delimiter rest) := by
  rw [isBody.eq_4]
  · intro later isBackslash
    exact absurd isBackslash plain
  · intro head later isBackslash
    exact absurd isBackslash plain

theorem isBody_drop_numerals {body : List Char} {count : Nat}
    (wellFormed : isBody delimiter body = true)
    (within : count ≤ (body.takeWhile isNumeral).length) :
    isBody delimiter (body.drop count) = true := by
  induction count generalizing body with
  | zero => exact wellFormed
  | succ count induction =>
      cases body with
      | nil => exact wellFormed
      | cons char rest =>
          by_cases numeral : isNumeral char = true
          · have plain : char ≠ '\\' := by
              rintro rfl
              exact absurd numeral (by decide)
            rw [isBody_cons plain, Bool.and_eq_true] at wellFormed
            rw [List.takeWhile_cons_of_pos numeral, List.length_cons] at within
            exact induction wellFormed.2 (by omega)
          · simp [List.takeWhile_cons_of_neg numeral] at within

end Bodies

section Numbers

variable {octal : Bool} {char : Char} {numerals : List Char} {units : List Nat} {more : Nat}

theorem le_of_fixedCode? {width : Nat}
    (read : fixedCode? width numerals = some (units, more)) : more ≤ numerals.length := by
  unfold fixedCode? at read
  split at read
  · rename_i enough
    obtain ⟨-, rfl⟩ := Prod.mk.inj (Option.some.inj read)
    exact Nat.le_trans enough (List.takeWhile_sublist isHex).length_le
  · simp at read

theorem le_of_unicodeCode? (read : unicodeCode? numerals = some (units, more)) :
    more ≤ numerals.length := by
  unfold unicodeCode? at read
  split at read
  · rename_i rest
    dsimp only at read
    split at read
    · rename_i closed
      obtain ⟨-, rfl⟩ := Prod.mk.inj (Option.some.inj read)
      have inside : (rest.takeWhile isHex).length < rest.length := by
        by_contra reached
        simp [List.drop_eq_nil_of_le (Nat.not_lt.mp reached)] at closed
      rw [List.length_cons]
      omega
    · simp at read
  · exact le_of_fixedCode? read

theorem le_of_digitCode? (read : digitCode? octal char numerals = some (units, more)) :
    more ≤ numerals.length := by
  unfold digitCode? at read
  split at read
  · obtain ⟨-, rfl⟩ := Prod.mk.inj (Option.some.inj read)
    exact Nat.zero_le _
  split at read
  · simp at read
  split at read
  · obtain ⟨-, rfl⟩ := Prod.mk.inj (Option.some.inj read)
    exact ((List.take_sublist _ _).trans (List.takeWhile_sublist isOctal)).length_le
  · obtain ⟨-, rfl⟩ := Prod.mk.inj (Option.some.inj read)
    exact Nat.zero_le _

/-- An escape takes no more than the numerals behind its first character. -/
theorem le_of_escapedCode? (read : escapedCode? octal char numerals = some (units, more)) :
    more ≤ numerals.length := by
  unfold escapedCode? at read
  split at read
  · exact le_of_fixedCode? read
  split at read
  · exact le_of_unicodeCode? read
  split at read
  · exact le_of_digitCode? read
  · obtain ⟨-, rfl⟩ := Prod.mk.inj (Option.some.inj read)
    exact Nat.zero_le _

theorem escapedCode?_of_strict {found : List Nat × Nat}
    (read : escapedCode? false char numerals = some found) :
    escapedCode? octal char numerals = some found := by
  unfold escapedCode? at read ⊢
  by_cases digit : isDecimal char = true
  · have notLetters : char ≠ 'x' ∧ char ≠ 'u' := by
      constructor
      · rintro rfl
        exact absurd digit (by decide)
      · rintro rfl
        exact absurd digit (by decide)
    rw [if_neg notLetters.1, if_neg notLetters.2, if_pos digit] at read ⊢
    unfold digitCode? at read ⊢
    split at read
    · rename_i zero
      rw [if_pos zero]
      exact read
    · simp at read
  · rw [if_neg digit] at read ⊢
    exact read

end Numbers

section Values

variable {template octal : Bool} {char : Char} {rest : List Char} {units : List Nat}
  {more : Nat}

theorem units?_of_item? (read : item? template octal char rest = some (units, more)) :
    units? template octal (char :: rest) =
      (units? template octal (rest.drop more)).map (units ++ ·) := by
  rw [units?, read]

theorem units?_of_none (read : item? template octal char rest = none) :
    units? template octal (char :: rest) = none := by
  rw [units?, read]

theorem units?_plain (plain : char ≠ '\\') (noBreak : ¬(template = true ∧ char = '\r')) :
    units? template octal (char :: rest) =
      (units? template octal rest).map (unitsOf char.toNat ++ ·) := by
  have read : item? template octal char rest = some (unitsOf char.toNat, 0) := by
    rw [item?.eq_def, if_neg plain, if_neg (by simpa using noBreak)]
  rw [units?_of_item? read, List.drop_zero]

theorem units?_escape (read : escape? octal char rest = some (units, more)) :
    units? template octal ('\\' :: char :: rest) =
      (units? template octal (rest.drop more)).map (units ++ ·) := by
  have item : item? template octal '\\' (char :: rest) = some (units, more + 1) := by
    rw [item?, if_pos rfl]
    dsimp only
    rw [read, Option.map_some]
  rw [units?_of_item? item, List.drop_succ_cons]

theorem units?_escape_of_none (read : escape? octal char rest = none) :
    units? template octal ('\\' :: char :: rest) = none := by
  apply units?_of_none
  rw [item?, if_pos rfl]
  dsimp only
  rw [read, Option.map_none]

theorem item?_of_strict {found : List Nat × Nat}
    (read : item? template false char rest = some found) :
    item? template octal char rest = some found := by
  unfold item? at read ⊢
  split at read
  · rename_i isBackslash
    rw [if_pos isBackslash]
    split at read
    · simp at read
    · rename_i escaped rest
      obtain ⟨⟨units, more⟩, escape, rfl⟩ := Option.map_eq_some_iff.mp read
      apply Option.map_eq_some_iff.mpr
      refine ⟨(units, more), ?_, rfl⟩
      unfold escape? at escape ⊢
      split at escape
      · rename_i terminator
        rw [if_pos terminator]
        exact escape
      · rename_i noTerminator
        rw [if_neg noTerminator]
        exact escapedCode?_of_strict escape
  · rename_i noBackslash
    rw [if_neg noBackslash]
    exact read

theorem units?_of_strict {body : List Char} {value : List Nat}
    (denoted : units? template false body = some value) :
    units? template octal body = some value := by
  fun_induction units? template false body generalizing value with
  | case1 =>
      rw [units?]
      exact denoted
  | case2 char rest failed => simp at denoted
  | case3 char rest units more read induction =>
      obtain ⟨others, later, rfl⟩ := Option.map_eq_some_iff.mp denoted
      rw [units?_of_item? (item?_of_strict read), induction later, Option.map_some]

end Values

end ScriptLint.StringLiteral
