import Mathlib.Data.List.TakeWhile
import ScriptLint.Proofs.StringLiteral

/-!
# Literals in other quotes

A well-formed literal that is written with another quote is well formed again and has the
same value.  A literal is cut into pieces that may be shorter than its escapes, but the
digits of an escape are pieces of their own that stay as they are, and nothing that could
be read as a digit comes to stand behind them.
-/

namespace ScriptLint.Quotes

open StringLiteral

/-- A change from a delimiter of literals to another one that is a quote. -/
structure Change (old quote : Char) : Prop where
  isOld : old = Text.singleQuote ∨ old = Text.doubleQuote ∨ old = backtick
  isQuote : quote = Text.singleQuote ∨ quote = Text.doubleQuote
  differ : quote ≠ old

theorem Change.old_ne {old quote other : Char} (change : Change old quote)
    (single : Text.singleQuote ≠ other) (double : Text.doubleQuote ≠ other)
    (tick : backtick ≠ other) : old ≠ other := by
  rcases change.isOld with rfl | rfl | rfl
  · exact single
  · exact double
  · exact tick

theorem Change.quote_ne {old quote other : Char} (change : Change old quote)
    (single : Text.singleQuote ≠ other) (double : Text.doubleQuote ≠ other) :
    quote ≠ other := by
  rcases change.isQuote with rfl | rfl
  · exact single
  · exact double

/-- The body of a literal written for another quote. -/
def convertedBody (old quote : Char) (body : List Char) : List Char :=
  (pieces body).flatMap (swapped old [quote])

theorem convert_literal (old quote : Char) (body : List Char) :
    convert (old :: (body ++ [old])) [quote] =
      quote :: (convertedBody old quote body ++ [quote]) := by
  rw [convert, List.dropLast_concat]
  rfl

section Pieces

variable {old quote char : Char} {rest : List Char}

theorem convertedBody_nil : convertedBody old quote [] = [] := by
  simp [convertedBody, pieces]

theorem convertedBody_cons :
    convertedBody old quote (char :: rest) =
      swapped old [quote] (firstPiece char rest) ++
        convertedBody old quote (rest.drop ((firstPiece char rest).chars.length - 1)) := by
  rw [convertedBody, pieces, List.flatMap_cons]
  rfl

/-- A character that is a piece by itself and no quote. -/
structure Ordinary (char : Char) (rest : List Char) : Prop where
  notBackslash : char ≠ '\\'
  notMark : char ≠ Text.doubleQuote ∧ char ≠ Text.singleQuote ∧ char ≠ backtick
  notReturn : char ≠ '\r'
  notFeed : char ≠ '\n'
  notOpening : ¬(char = '$' ∧ rest.head? = some '\x7b')

theorem Ordinary.not_old (ordinary : Ordinary old rest) (change : Change old quote) : False := by
  obtain ⟨notDouble, notSingle, notBacktick⟩ := ordinary.notMark
  rcases change.isOld with single | double | tick
  · exact notSingle single
  · exact notDouble double
  · exact notBacktick tick

theorem firstPiece_of_ordinary (ordinary : Ordinary char rest) :
    firstPiece char rest = .plain char := by
  obtain ⟨notBackslash, ⟨notDouble, notSingle, notBacktick⟩, notReturn, notFeed, notOpening⟩ :=
    ordinary
  have notSubstitution : char :: rest.take 1 ≠ substitution := by
    intro same
    apply notOpening
    cases rest with
    | nil => simp [substitution] at same
    | cons next rest => simpa [substitution] using same
  simp [firstPiece, notBackslash, notDouble, notSingle, notBacktick, notReturn, notFeed,
    notSubstitution]

theorem convertedBody_ordinary (ordinary : Ordinary char rest) :
    convertedBody old quote (char :: rest) = char :: convertedBody old quote rest := by
  rw [convertedBody_cons, firstPiece_of_ordinary ordinary]
  rfl

theorem convertedBody_continuation :
    convertedBody old quote ('\\' :: '\r' :: '\n' :: rest) =
      '\\' :: '\r' :: '\n' :: convertedBody old quote rest := by
  have piece : firstPiece '\\' ('\r' :: '\n' :: rest) = .escape ['\r', '\n'] := rfl
  rw [convertedBody_cons, piece]
  simp [swapped, Piece.chars, substitution]

theorem convertedBody_substitution :
    convertedBody old quote ('\\' :: '$' :: '\x7b' :: rest) =
      (if old = backtick then ['$', '\x7b'] else ['\\', '$', '\x7b']) ++
        convertedBody old quote rest := by
  have piece : firstPiece '\\' ('$' :: '\x7b' :: rest) = .escape substitution := rfl
  rw [convertedBody_cons, piece]
  by_cases template : old = backtick
  · simp [swapped, Piece.chars, substitution, template]
  · simp [swapped, Piece.chars, substitution, template]

theorem convertedBody_escape (single : escaped (char :: rest) = [char]) :
    convertedBody old quote ('\\' :: char :: rest) =
      (if char = old then [char] else ['\\', char]) ++ convertedBody old quote rest := by
  have piece : firstPiece '\\' (char :: rest) = .escape [char] := by
    simp [firstPiece, single]
  rw [convertedBody_cons, piece]
  by_cases same : char = old
  · simp [swapped, Piece.chars, same]
  · simp [swapped, Piece.chars, substitution, same]

theorem convertedBody_mark
    (mark : char = Text.doubleQuote ∨ char = Text.singleQuote ∨ char = backtick) :
    convertedBody old quote (char :: rest) =
      (if char = quote then ['\\', char] else [char]) ++ convertedBody old quote rest := by
  have piece : firstPiece char rest = .mark [char] := by
    rcases mark with rfl | rfl | rfl
    · rfl
    · rfl
    · rfl
  rw [convertedBody_cons, piece]
  by_cases same : char = quote
  · simp [swapped, Piece.chars, same]
  · simp [swapped, Piece.chars, same]

theorem convertedBody_opening :
    convertedBody old quote ('$' :: '\x7b' :: rest) =
      '$' :: '\x7b' :: convertedBody old quote rest := by
  have piece : firstPiece '$' ('\x7b' :: rest) = .mark substitution := rfl
  rw [convertedBody_cons, piece]
  simp [swapped, Piece.chars, substitution]

theorem convertedBody_returnFeed :
    convertedBody backtick quote ('\r' :: '\n' :: rest) =
      '\\' :: 'n' :: convertedBody backtick quote rest := by
  have piece : firstPiece '\r' ('\n' :: rest) = .lineBreak ['\r', '\n'] := rfl
  rw [convertedBody_cons, piece]
  simp [swapped, Piece.chars]

theorem convertedBody_lineBreak (change : Change backtick quote)
    (isBreak : char = '\n' ∨ char = '\r' ∧ rest.head? ≠ some '\n') :
    convertedBody backtick quote (char :: rest) =
      '\\' :: 'n' :: convertedBody backtick quote rest := by
  have piece : firstPiece char rest = .lineBreak [char] := by
    rcases isBreak with rfl | ⟨rfl, single⟩
    · rfl
    · cases rest with
      | nil => rfl
      | cons next rest =>
          have noFeed : next ≠ '\n' := by simpa using single
          simp [firstPiece, Text.doubleQuote, Text.singleQuote, backtick, noFeed]
  have other : char ≠ quote := by
    rcases isBreak with rfl | ⟨rfl, -⟩
    · exact (change.quote_ne (by decide) (by decide)).symm
    · exact (change.quote_ne (by decide) (by decide)).symm
  rw [convertedBody_cons, piece]
  simp [swapped, Piece.chars, other]

end Pieces

section Numerals

variable {old quote : Char}

theorem ordinary_of_isNumeral {char : Char} (numeral : isNumeral char = true)
    (rest : List Char) : Ordinary char rest := by
  have other : ∀ {special : Char}, isNumeral special = false → char ≠ special := by
    rintro special none rfl
    simp [none] at numeral
  refine ⟨other rfl, ⟨other rfl, other rfl, other rfl⟩, other rfl, other rfl, ?_⟩
  rintro ⟨rfl, -⟩
  exact absurd numeral (by decide)

theorem exists_chars_firstPiece (char : Char) (rest : List Char) :
    ∃ tail, (firstPiece char rest).chars = char :: tail := by
  unfold firstPiece
  split
  · rename_i isBackslash
    subst isBackslash
    split
    · exact ⟨_, rfl⟩
    · exact ⟨_, rfl⟩
  split
  · exact ⟨_, rfl⟩
  split
  · rename_i isReturn
    subst isReturn
    split
    · exact ⟨_, rfl⟩
    · exact ⟨_, rfl⟩
  split
  · rename_i isFeed
    subst isFeed
    exact ⟨_, rfl⟩
  split
  · rename_i opens
    obtain ⟨rfl, -⟩ := List.cons.inj opens
    exact ⟨_, rfl⟩
  · exact ⟨_, rfl⟩

/-- A converted body starts with its first character, a backslash, or what a backslash
was taken from. -/
theorem exists_convertedBody_cons (old quote char : Char) (rest : List Char) :
    ∃ head tail, convertedBody old quote (char :: rest) = head :: tail ∧
      (head = char ∨ head = '\\' ∨ head = old ∨ head = '$') := by
  obtain ⟨others, chars⟩ := exists_chars_firstPiece char rest
  have swapping : ∃ head tail, swapped old [quote] (firstPiece char rest) = head :: tail ∧
      (head = char ∨ head = '\\' ∨ head = old ∨ head = '$') := by
    generalize firstPiece char rest = piece at chars
    unfold swapped
    split
    · exact ⟨_, _, rfl, Or.inl (List.cons.inj chars).1⟩
    split
    · rename_i unescapes
      simp only [Bool.or_eq_true, Bool.and_eq_true, decide_eq_true_eq] at unescapes
      rcases unescapes with rfl | ⟨-, rfl⟩
      · exact ⟨_, _, rfl, by simp⟩
      · exact ⟨_, _, rfl, by simp⟩
    split
    · exact ⟨_, _, rfl, by simp⟩
    split
    · split
      · exact ⟨_, _, rfl, by simp⟩
      · exact ⟨_, _, chars, by simp⟩
    · exact ⟨_, _, chars, by simp⟩
  obtain ⟨head, tail, same, heads⟩ := swapping
  exact ⟨head, _, by rw [convertedBody_cons, same, List.cons_append], heads⟩

theorem takeWhile_convertedBody (change : Change old quote) (body : List Char) :
    (convertedBody old quote body).takeWhile isNumeral = body.takeWhile isNumeral := by
  induction body with
  | nil => rw [convertedBody_nil]
  | cons char rest induction =>
      by_cases numeral : isNumeral char = true
      · rw [convertedBody_ordinary (ordinary_of_isNumeral numeral rest),
          List.takeWhile_cons_of_pos numeral, List.takeWhile_cons_of_pos numeral, induction]
      · obtain ⟨head, tail, same, heads⟩ := exists_convertedBody_cons old quote char rest
        have none : ¬isNumeral head = true := by
          rcases heads with rfl | rfl | rfl | rfl
          · exact numeral
          · decide
          · intro isDigit
            exact (ordinary_of_isNumeral isDigit rest).not_old change
          · decide
        rw [same, List.takeWhile_cons_of_neg none, List.takeWhile_cons_of_neg numeral]

theorem drop_convertedBody {body : List Char} {count : Nat}
    (within : count ≤ (body.takeWhile isNumeral).length) :
    (convertedBody old quote body).drop count = convertedBody old quote (body.drop count) := by
  induction count generalizing body with
  | zero => rfl
  | succ count induction =>
      cases body with
      | nil => simp at within
      | cons char rest =>
          by_cases numeral : isNumeral char = true
          · rw [List.takeWhile_cons_of_pos numeral, List.length_cons] at within
            rw [convertedBody_ordinary (ordinary_of_isNumeral numeral rest),
              List.drop_succ_cons, List.drop_succ_cons]
            exact induction (by omega)
          · simp [List.takeWhile_cons_of_neg numeral] at within

theorem head?_convertedBody_ne_feed (change : Change old quote) {body : List Char}
    (other : body.head? ≠ some '\n') : (convertedBody old quote body).head? ≠ some '\n' := by
  cases body with
  | nil => simp [convertedBody_nil]
  | cons char rest =>
      obtain ⟨head, tail, same, heads⟩ := exists_convertedBody_cons old quote char rest
      have noFeed : head ≠ '\n' := by
        rcases heads with rfl | rfl | rfl | rfl
        · simpa using other
        · decide
        · exact change.old_ne (by decide) (by decide) (by decide)
        · decide
      simpa [same] using noFeed

end Numerals

section Starts

variable {old : Char}

/-- How a body that is well formed starts, by the first of its pieces. -/
inductive Starts (old : Char) : List Char → Prop
  | continuation {rest : List Char} :
      isBody old rest = true → Starts old ('\\' :: '\r' :: '\n' :: rest)
  | substitution {rest : List Char} :
      isBody old rest = true → Starts old ('\\' :: '$' :: '\x7b' :: rest)
  | escape {char : Char} {rest : List Char} :
      ¬(char = '\r' ∧ rest.head? = some '\n') → escaped (char :: rest) = [char] →
        isBody old rest = true → Starts old ('\\' :: char :: rest)
  | returnFeed {rest : List Char} :
      old = backtick → isBody old rest = true → Starts old ('\r' :: '\n' :: rest)
  | lineBreak {char : Char} {rest : List Char} :
      old = backtick → (char = '\n' ∨ char = '\r' ∧ rest.head? ≠ some '\n') →
        isBody old rest = true → Starts old (char :: rest)
  | mark {char : Char} {rest : List Char} :
      (char = Text.doubleQuote ∨ char = Text.singleQuote ∨ char = backtick) →
        isBody old rest = true → Starts old (char :: rest)
  | opening {rest : List Char} :
      isBody old rest = true → Starts old ('$' :: '\x7b' :: rest)
  | ordinary {char : Char} {rest : List Char} :
      Ordinary char rest → isBody old rest = true → Starts old (char :: rest)

theorem eq_cons_of_head? {char : Char} {body : List Char} (starts : body.head? = some char) :
    ∃ rest, body = char :: rest := by
  cases body with
  | nil => simp at starts
  | cons first rest =>
      obtain rfl : first = char := by simpa using starts
      exact ⟨rest, rfl⟩

theorem isBody_of_cons {char : Char} {rest : List Char} (plain : char ≠ '\\')
    (wellFormed : isBody old (char :: rest) = true) : isBody old rest = true := by
  rw [isBody_cons plain, Bool.and_eq_true] at wellFormed
  exact wellFormed.2

theorem starts_of_escape {char : Char} {rest : List Char}
    (wellFormed : isBody old ('\\' :: char :: rest) = true) :
    Starts old ('\\' :: char :: rest) := by
  rw [isBody_escape] at wellFormed
  by_cases continues : char = '\r' ∧ rest.head? = some '\n'
  · obtain ⟨rfl, feed⟩ := continues
    obtain ⟨later, rfl⟩ := eq_cons_of_head? feed
    exact .continuation wellFormed
  rw [if_neg continues] at wellFormed
  by_cases opens : char = '$' ∧ rest.head? = some '\x7b'
  · obtain ⟨rfl, brace⟩ := opens
    obtain ⟨later, rfl⟩ := eq_cons_of_head? brace
    exact .substitution (isBody_of_cons (by decide) wellFormed)
  · apply Starts.escape continues _ wellFormed
    rw [escaped.eq_3]
    · rintro later rfl rfl
      exact opens ⟨rfl, rfl⟩
    · rintro later rfl rfl
      exact continues ⟨rfl, rfl⟩

theorem starts_of_isBody {char : Char} {rest : List Char}
    (wellFormed : isBody old (char :: rest) = true) : Starts old (char :: rest) := by
  by_cases isBackslash : char = '\\'
  · subst isBackslash
    cases rest with
    | nil => simp [isBody, stands] at wellFormed
    | cons next rest => exact starts_of_escape wellFormed
  have onward := isBody_of_cons isBackslash wellFormed
  rw [isBody_cons isBackslash, Bool.and_eq_true] at wellFormed
  have standing := wellFormed.1
  by_cases mark : char = Text.doubleQuote ∨ char = Text.singleQuote ∨ char = backtick
  · exact .mark mark onward
  have template : char = '\r' ∨ char = '\n' → old = backtick := by
    intro isBreak
    by_contra other
    rcases isBreak with rfl | rfl
    · simp [stands, other] at standing
    · simp [stands, other] at standing
  by_cases isReturn : char = '\r'
  · subst isReturn
    by_cases feed : rest.head? = some '\n'
    · obtain ⟨later, rfl⟩ := eq_cons_of_head? feed
      exact .returnFeed (template (by simp)) (isBody_of_cons (by decide) onward)
    · exact .lineBreak (template (by simp)) (by simp [feed]) onward
  by_cases isFeed : char = '\n'
  · exact .lineBreak (template (by simp [isFeed])) (by simp [isFeed]) onward
  by_cases opens : char = '$' ∧ rest.head? = some '\x7b'
  · obtain ⟨rfl, brace⟩ := opens
    obtain ⟨later, rfl⟩ := eq_cons_of_head? brace
    exact .opening (isBody_of_cons (by decide) onward)
  · apply Starts.ordinary _ onward
    exact ⟨isBackslash, by simpa using mark, isReturn, isFeed, opens⟩

theorem isBody_induction {holds : List Char → Prop} (empty : holds [])
    (step : ∀ {body : List Char}, Starts old body →
      (∀ {shorter : List Char}, shorter.length < body.length → isBody old shorter = true →
        holds shorter) → holds body)
    {body : List Char} (wellFormed : isBody old body = true) : holds body := by
  induction size : body.length using Nat.strong_induction_on generalizing body with
  | h size induction =>
      cases body with
      | nil => exact empty
      | cons char rest =>
          apply step (starts_of_isBody wellFormed)
          intro shorter less shorterFormed
          exact induction _ (size ▸ less) shorterFormed rfl

end Starts

section Body

variable {old quote : Char} {body : List Char}

theorem stands_quote (change : Change old quote) {char : Char} (rest : List Char)
    (noBackslash : char ≠ '\\') (noQuote : char ≠ quote) (noReturn : char ≠ '\r')
    (noFeed : char ≠ '\n') : stands quote char rest = true := by
  have noTemplate : quote ≠ backtick := change.quote_ne (by decide) (by decide)
  simp [stands, noBackslash, noQuote, noReturn, noFeed, noTemplate]

theorem isBody_quote_cons (change : Change old quote) {char : Char} {rest : List Char}
    (noBackslash : char ≠ '\\') (noQuote : char ≠ quote) (noReturn : char ≠ '\r')
    (noFeed : char ≠ '\n') (onward : isBody quote rest = true) :
    isBody quote (char :: rest) = true := by
  rw [isBody_cons noBackslash, onward,
    stands_quote change rest noBackslash noQuote noReturn noFeed]
  rfl

theorem isBody_quote_escape {char : Char} {rest : List Char}
    (noBreak : ¬(char = '\r' ∧ rest.head? = some '\n')) (onward : isBody quote rest = true) :
    isBody quote ('\\' :: char :: rest) = true := by
  rw [isBody_escape, if_neg noBreak]
  exact onward

theorem isBody_convertedBody_substitution (change : Change old quote) {rest : List Char}
    (onward : isBody quote (convertedBody old quote rest) = true) :
    isBody quote (convertedBody old quote ('\\' :: '$' :: '\x7b' :: rest)) = true := by
  have dollar : '$' ≠ quote := (change.quote_ne (by decide) (by decide)).symm
  have brace : '\x7b' ≠ quote := (change.quote_ne (by decide) (by decide)).symm
  have text : isBody quote ('\x7b' :: convertedBody old quote rest) = true :=
    isBody_quote_cons change (by decide) brace (by decide) (by decide) onward
  rw [convertedBody_substitution]
  split
  · exact isBody_quote_cons change (by decide) dollar (by decide) (by decide) text
  · exact isBody_quote_escape (by simp) text

theorem isBody_convertedBody_escape (change : Change old quote) {char : Char}
    {rest : List Char} (noBreak : ¬(char = '\r' ∧ rest.head? = some '\n'))
    (single : escaped (char :: rest) = [char])
    (onward : isBody quote (convertedBody old quote rest) = true) :
    isBody quote (convertedBody old quote ('\\' :: char :: rest)) = true := by
  rw [convertedBody_escape single]
  split
  · rename_i same
    subst same
    exact isBody_quote_cons change
      (change.old_ne (by decide) (by decide) (by decide)) change.differ.symm
      (change.old_ne (by decide) (by decide) (by decide))
      (change.old_ne (by decide) (by decide) (by decide)) onward
  · apply isBody_quote_escape _ onward
    rintro ⟨rfl, feed⟩
    apply head?_convertedBody_ne_feed change _ feed
    intro starts
    exact noBreak ⟨rfl, starts⟩

theorem isBody_convertedBody_mark (change : Change old quote) {char : Char} {rest : List Char}
    (mark : char = Text.doubleQuote ∨ char = Text.singleQuote ∨ char = backtick)
    (onward : isBody quote (convertedBody old quote rest) = true) :
    isBody quote (convertedBody old quote (char :: rest)) = true := by
  have plain : char ≠ '\\' ∧ char ≠ '\r' ∧ char ≠ '\n' := by
    rcases mark with rfl | rfl | rfl
    · decide
    · decide
    · decide
  rw [convertedBody_mark mark]
  split
  · exact isBody_quote_escape (by simp [plain.2.1]) onward
  · rename_i noQuote
    exact isBody_quote_cons change plain.1 noQuote plain.2.1 plain.2.2 onward

theorem isBody_convertedBody_ordinary (change : Change old quote) {char : Char}
    {rest : List Char} (ordinary : Ordinary char rest)
    (onward : isBody quote (convertedBody old quote rest) = true) :
    isBody quote (convertedBody old quote (char :: rest)) = true := by
  have noQuote : char ≠ quote := by
    rcases change.isQuote with rfl | rfl
    · exact ordinary.notMark.2.1
    · exact ordinary.notMark.1
  rw [convertedBody_ordinary ordinary]
  exact isBody_quote_cons change ordinary.notBackslash noQuote ordinary.notReturn
    ordinary.notFeed onward

theorem isBody_convertedBody (change : Change old quote) (wellFormed : isBody old body = true) :
    isBody quote (convertedBody old quote body) = true := by
  apply isBody_induction _ _ wellFormed
  · rw [convertedBody_nil]
    rfl
  · intro body starts later
    cases starts with
    | continuation onward =>
        rw [convertedBody_continuation, isBody_escape]
        exact later (by simp only [List.length_cons]; omega) onward
    | substitution onward =>
        exact isBody_convertedBody_substitution change
          (later (by simp only [List.length_cons]; omega) onward)
    | escape noBreak single onward =>
        exact isBody_convertedBody_escape change noBreak single
          (later (by simp only [List.length_cons]; omega) onward)
    | returnFeed template onward =>
        subst template
        rw [convertedBody_returnFeed]
        exact isBody_quote_escape (by simp)
          (later (by simp only [List.length_cons]; omega) onward)
    | lineBreak template isBreak onward =>
        subst template
        rw [convertedBody_lineBreak change isBreak]
        exact isBody_quote_escape (by simp) (later (by simp) onward)
    | mark mark onward => exact isBody_convertedBody_mark change mark (later (by simp) onward)
    | opening onward =>
        rw [convertedBody_opening]
        apply isBody_quote_cons change (by decide)
          (change.quote_ne (by decide) (by decide)).symm (by decide) (by decide)
        exact isBody_quote_cons change (by decide)
          (change.quote_ne (by decide) (by decide)).symm (by decide) (by decide)
          (later (by simp only [List.length_cons]; omega) onward)
    | ordinary ordinary onward =>
        exact isBody_convertedBody_ordinary change ordinary (later (by simp) onward)

/-- An escape is read in the same way before what it stood before was converted. -/
theorem escape?_convertedBody (change : Change old quote) (octal : Bool) {char : Char}
    {rest : List Char} (noBreak : ¬(char = '\r' ∧ rest.head? = some '\n')) :
    escape? octal char (convertedBody old quote rest) = escape? octal char rest := by
  have stillNoBreak : ¬(char = '\r' ∧ (convertedBody old quote rest).head? = some '\n') := by
    rintro ⟨rfl, feed⟩
    apply head?_convertedBody_ne_feed change _ feed
    intro starts
    exact noBreak ⟨rfl, starts⟩
  unfold escape?
  rw [if_neg noBreak, if_neg stillNoBreak, takeWhile_convertedBody change]

theorem le_of_escape? {octal : Bool} {char : Char} {rest : List Char} {units : List Nat}
    {more : Nat} (noBreak : ¬(char = '\r' ∧ rest.head? = some '\n'))
    (read : escape? octal char rest = some (units, more)) :
    more ≤ (rest.takeWhile isNumeral).length := by
  rw [escape?, if_neg noBreak] at read
  split at read
  · obtain ⟨-, rfl⟩ := Prod.mk.inj (Option.some.inj read)
    exact Nat.zero_le _
  · exact le_of_escapedCode? read

/-- A body denotes the same code units after its conversion. -/
def KeepsUnits (old quote : Char) (octal : Bool) (body : List Char) : Prop :=
  units? false octal (convertedBody old quote body) = units? (old = backtick) octal body

namespace KeepsUnits

variable {octal : Bool} {char : Char} {rest : List Char}

theorem continuation (onward : KeepsUnits old quote octal rest) :
    KeepsUnits old quote octal ('\\' :: '\r' :: '\n' :: rest) := by
  have read : ∀ rest, escape? octal '\r' ('\n' :: rest) = some ([], 1) := fun _ => rfl
  rw [KeepsUnits, convertedBody_continuation, units?_escape (read _), units?_escape (read _),
    List.drop_succ_cons, List.drop_succ_cons, List.drop_zero, List.drop_zero, onward]

theorem substitution (onward : KeepsUnits old quote octal rest) :
    KeepsUnits old quote octal ('\\' :: '$' :: '\x7b' :: rest) := by
  have read : ∀ rest, escape? octal '$' rest = some (unitsOf '$'.toNat, 0) := fun _ => rfl
  rw [KeepsUnits, convertedBody_substitution, units?_escape (read _), List.drop_zero,
    units?_plain (by decide) (by simp), ← onward]
  split
  · rw [List.cons_append, List.singleton_append, units?_plain (by decide) (by simp),
      units?_plain (by decide) (by simp)]
  · rw [List.cons_append, List.cons_append, List.singleton_append,
      units?_escape (read _), List.drop_zero, units?_plain (by decide) (by simp)]

theorem escapedOld (change : Change old quote) (single : escaped (old :: rest) = [old])
    (onward : KeepsUnits old quote octal rest) :
    KeepsUnits old quote octal ('\\' :: old :: rest) := by
  have read : escape? octal old rest = some (unitsOf old.toNat, 0) := by
    rcases change.isOld with rfl | rfl | rfl
    · rfl
    · rfl
    · rfl
  rw [KeepsUnits, convertedBody_escape single, if_pos rfl, units?_escape read, List.drop_zero,
    List.singleton_append,
    units?_plain (change.old_ne (by decide) (by decide) (by decide)) (by simp), onward]

/-- An escape may take numerals after it, so what follows it starts behind some of them. -/
theorem escape (change : Change old quote)
    (noBreak : ¬(char = '\r' ∧ rest.head? = some '\n'))
    (single : escaped (char :: rest) = [char]) (other : char ≠ old)
    (onward : ∀ more ≤ (rest.takeWhile isNumeral).length,
      KeepsUnits old quote octal (rest.drop more)) :
    KeepsUnits old quote octal ('\\' :: char :: rest) := by
  have sameEscape := escape?_convertedBody change octal noBreak
  rw [KeepsUnits, convertedBody_escape single, if_neg other, List.cons_append,
    List.singleton_append]
  cases read : escape? octal char rest with
  | none => rw [units?_escape_of_none read, units?_escape_of_none (sameEscape.trans read)]
  | some found =>
      obtain ⟨units, more⟩ := found
      have within := le_of_escape? noBreak read
      rw [units?_escape read, units?_escape (sameEscape.trans read), drop_convertedBody within,
        onward more within]

theorem returnFeed (onward : KeepsUnits backtick quote octal rest) :
    KeepsUnits backtick quote octal ('\r' :: '\n' :: rest) := by
  have read : escape? octal 'n' (convertedBody backtick quote rest) = some ([10], 0) := rfl
  have item : item? true octal '\r' ('\n' :: rest) = some ([10], 1) := rfl
  rw [KeepsUnits, convertedBody_returnFeed, units?_escape read, List.drop_zero, onward]
  exact (units?_of_item? item).symm

theorem lineBreak (change : Change backtick quote)
    (isBreak : char = '\n' ∨ char = '\r' ∧ rest.head? ≠ some '\n')
    (onward : KeepsUnits backtick quote octal rest) :
    KeepsUnits backtick quote octal (char :: rest) := by
  have read : escape? octal 'n' (convertedBody backtick quote rest) = some ([10], 0) := rfl
  have item : item? true octal char rest = some ([10], 0) := by
    rcases isBreak with rfl | ⟨rfl, single⟩
    · rfl
    · simp [item?, single]
  rw [KeepsUnits, convertedBody_lineBreak change isBreak, units?_escape read, List.drop_zero,
    onward]
  exact (units?_of_item? item).symm

theorem mark (mark : char = Text.doubleQuote ∨ char = Text.singleQuote ∨ char = backtick)
    (onward : KeepsUnits old quote octal rest) :
    KeepsUnits old quote octal (char :: rest) := by
  have plain : char ≠ '\\' ∧ char ≠ '\r' := by
    rcases mark with rfl | rfl | rfl
    · decide
    · decide
    · decide
  have read : ∀ rest, escape? octal char rest = some (unitsOf char.toNat, 0) := by
    intro rest
    rcases mark with rfl | rfl | rfl
    · rfl
    · rfl
    · rfl
  rw [KeepsUnits, convertedBody_mark mark, units?_plain plain.1 (by simp [plain.2]), ← onward]
  split
  · rw [List.cons_append, List.singleton_append, units?_escape (read _), List.drop_zero]
  · rw [List.singleton_append, units?_plain plain.1 (by simp)]

theorem opening (onward : KeepsUnits old quote octal rest) :
    KeepsUnits old quote octal ('$' :: '\x7b' :: rest) := by
  rw [KeepsUnits, convertedBody_opening, units?_plain (by decide) (by simp),
    units?_plain (by decide) (by simp), units?_plain (by decide) (by simp),
    units?_plain (by decide) (by simp), onward]

theorem ordinary (ordinary : Ordinary char rest) (onward : KeepsUnits old quote octal rest) :
    KeepsUnits old quote octal (char :: rest) := by
  rw [KeepsUnits, convertedBody_ordinary ordinary,
    units?_plain ordinary.notBackslash (by simp),
    units?_plain ordinary.notBackslash (by simp [ordinary.notReturn]), onward]

end KeepsUnits

theorem keepsUnits_of_isBody (change : Change old quote) (octal : Bool)
    (wellFormed : isBody old body = true) : KeepsUnits old quote octal body := by
  apply isBody_induction _ _ wellFormed
  · rw [KeepsUnits, convertedBody_nil, units?, units?]
  · intro body starts later
    cases starts with
    | continuation onward =>
        exact .continuation (later (by simp only [List.length_cons]; omega) onward)
    | substitution onward =>
        exact .substitution (later (by simp only [List.length_cons]; omega) onward)
    | @escape char rest noBreak single onward =>
        by_cases same : char = old
        · subst same
          exact .escapedOld change single (later (by simp only [List.length_cons]; omega) onward)
        · apply KeepsUnits.escape change noBreak single same
          intro more within
          exact later (by simp only [List.length_cons, List.length_drop]; omega)
            (isBody_drop_numerals onward within)
    | returnFeed template onward =>
        subst template
        exact .returnFeed (later (by simp only [List.length_cons]; omega) onward)
    | lineBreak template isBreak onward =>
        subst template
        exact .lineBreak change isBreak (later (by simp) onward)
    | mark mark onward => exact .mark mark (later (by simp) onward)
    | opening onward => exact .opening (later (by simp only [List.length_cons]; omega) onward)
    | ordinary ordinary onward => exact .ordinary ordinary (later (by simp) onward)

/-- A well-formed literal that is written with another quote is a well-formed literal in
this quote with the same value, whether its script reads octal escapes or not.  Where
templates and strings read the same escapes, it has a value only if it had one before. -/
theorem convert_keeps_value (change : Change old quote) (wellFormed : isBody old body = true)
    (octal : Bool) :
    ∃ converted, convert (old :: (body ++ [old])) [quote] = quote :: (converted ++ [quote]) ∧
      isBody quote converted = true ∧
      (∀ value, value? octal old body = some value →
        value? octal quote converted = some value) ∧
      (old ≠ backtick ∨ octal = false →
        value? octal quote converted = value? octal old body) := by
  have noTemplate : quote ≠ backtick := change.quote_ne (by decide) (by decide)
  have written : ∀ converted, value? octal quote converted = units? false octal converted := by
    intro converted
    simp [value?, noTemplate]
  refine ⟨convertedBody old quote body, convert_literal old quote body,
    isBody_convertedBody change wellFormed, ?_, ?_⟩
  · intro value denoted
    rw [written]
    by_cases template : old = backtick
    · apply units?_of_strict
      rw [keepsUnits_of_isBody change false wellFormed, ← denoted]
      simp [value?, template]
    · rw [keepsUnits_of_isBody change octal wellFormed, ← denoted]
      simp [value?, template]
  · intro alike
    rw [written, keepsUnits_of_isBody change octal wellFormed, value?]
    by_cases template : old = backtick
    · obtain rfl : octal = false := by simpa [template] using alike
      rfl
    · simp [template]

/-- A template with a line break, a quote, an escaped backtick and a numeric escape. -/
def mixedBody : List Char :=
  ['\\', 'x', '4', '1', '\r', '\n', '\'', '\\', '\x60', '\\', '$', '\x7b', '1']

theorem convert_keeps_value_mixedBody :
    Change backtick Text.singleQuote ∧ isBody backtick mixedBody = true ∧
      value? true backtick mixedBody = some [65, 10, 39, 96, 36, 123, 49] ∧
      ∃ converted,
        convert (backtick :: (mixedBody ++ [backtick])) [Text.singleQuote] =
          Text.singleQuote :: (converted ++ [Text.singleQuote]) ∧
        isBody Text.singleQuote converted = true ∧
        value? true Text.singleQuote converted = some [65, 10, 39, 96, 36, 123, 49] := by
  have change : Change backtick Text.singleQuote := ⟨by simp, by simp, by decide⟩
  have wellFormed : isBody backtick mixedBody = true := by decide
  have denoted : value? true backtick mixedBody = some [65, 10, 39, 96, 36, 123, 49] := by
    cbv
  obtain ⟨converted, written, again, same, -⟩ := convert_keeps_value change wellFormed true
  exact ⟨change, wellFormed, denoted, converted, written, again, same _ denoted⟩

end Body

end ScriptLint.Quotes
