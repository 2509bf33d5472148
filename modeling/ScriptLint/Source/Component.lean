import ScriptLint.Language
import ScriptLint.Text.Blank
import ScriptLint.Text.LetterCase
import ScriptLint.Text.WordChar

/-!
# Script elements of components

A component file holds script elements among other markup.  Its text is cut into
characters outside of scripts and whole script elements; blanking everything but
the bodies keeps every row and column.  An opening tag that is never closed is
ordinary text.
-/

namespace ScriptLint

/-- A piece of a component: a character outside of scripts, or an element with
its opening tag, its attributes, its body and its closing tag. -/
inductive ComponentPiece where
  | outside (char : Char)
  | script (opening attributes body closing : List Char)
deriving DecidableEq, Repr

namespace Component

/-- Splits a text at its first closing angle bracket, which belongs to neither
part. -/
def splitAtBracket? : List Char → Option (List Char × List Char)
  | [] => none
  | char :: rest =>
      if char = '>' then some ([], rest)
      else
        match splitAtBracket? rest with
        | some (before, after) => some (char :: before, after)
        | none => none

/-- Reads an opening script tag: its attributes and what follows it. -/
def afterOpening? (text : List Char) : Option (List Char × List Char) :=
  match text with
  | '<' :: rest =>
      match Text.dropWord? "script".toList rest with
      | some after =>
          if Text.wordEndsBefore after then splitAtBracket? after else none
      | none => none
  | _ => none

/-- Reads a closing script tag: what follows it. -/
def afterClosing? (text : List Char) : Option (List Char) :=
  match text with
  | '<' :: '/' :: rest =>
      match Text.dropWord? "script".toList rest with
      | some after =>
          match Text.trimStart after with
          | '>' :: remaining => some remaining
          | _ => none
      | none => none
  | _ => none

/-- Splits a text at the nearest closing tag: the body before it and the text
from the tag on, with what follows the tag. -/
def splitAtClosing? : List Char → Option (List Char × List Char × List Char)
  | [] => none
  | char :: rest =>
      match afterClosing? (char :: rest) with
      | some after => some ([], char :: rest, after)
      | none =>
          match splitAtClosing? rest with
          | some (body, closing, after) => some (char :: body, closing, after)
          | none => none

/-- The start of a text that is left when a rest of it is taken away. -/
def lead (text rest : List Char) : List Char :=
  text.take (text.length - rest.length)

theorem length_of_splitAtBracket? {text before after : List Char}
    (split : splitAtBracket? text = some (before, after)) :
    after.length < text.length := by
  induction text generalizing before after with
  | nil => simp [splitAtBracket?] at split
  | cons char rest induction =>
      unfold splitAtBracket? at split
      split at split
      · simp only [Option.some.injEq, Prod.mk.injEq] at split
        simp [← split.2]
      · split at split
        · rename_i found
          simp only [Option.some.injEq, Prod.mk.injEq] at split
          have shorter := induction found
          rw [← split.2]
          simp only [List.length_cons]
          omega
        · simp at split

theorem length_of_afterOpening? {text attributes after : List Char}
    (read : afterOpening? text = some (attributes, after)) :
    after.length < text.length := by
  unfold afterOpening? at read
  split at read
  · split at read
    · rename_i dropped
      have word := Text.length_of_dropWord? dropped
      split at read
      · have tag := length_of_splitAtBracket? read
        simp only [List.length_cons]
        omega
      · simp at read
    · simp at read
  · simp at read

theorem length_of_afterClosing? {text after : List Char}
    (read : afterClosing? text = some after) : after.length < text.length := by
  unfold afterClosing? at read
  split at read
  · split at read
    · rename_i left dropped
      have word := Text.length_of_dropWord? dropped
      split at read
      · rename_i remaining trimmed
        have kept := Text.length_trimStart_le left
        rw [trimmed] at kept
        simp only [Option.some.injEq] at read
        subst read
        simp only [List.length_cons] at kept
        simp only [List.length_cons]
        omega
      · simp at read
    · simp at read
  · simp at read

theorem length_of_splitAtClosing? {text body closing after : List Char}
    (split : splitAtClosing? text = some (body, closing, after)) :
    after.length < text.length := by
  induction text generalizing body closing after with
  | nil => simp [splitAtClosing?] at split
  | cons char rest induction =>
      unfold splitAtClosing? at split
      split at split
      · rename_i closed
        simp only [Option.some.injEq, Prod.mk.injEq] at split
        rw [← split.2.2]
        exact length_of_afterClosing? closed
      · split at split
        · rename_i found
          simp only [Option.some.injEq, Prod.mk.injEq] at split
          have shorter := induction found
          rw [← split.2.2]
          simp only [List.length_cons]
          omega
        · simp at split

/-- Cuts a text into its pieces, taking script elements from left to right. -/
def pieces : List Char → List ComponentPiece
  | [] => []
  | char :: rest =>
      match opened : afterOpening? (char :: rest) with
      | some (attributes, content) =>
          match split : splitAtClosing? content with
          | some (body, closing, after) =>
              have := length_of_afterOpening? opened
              have := length_of_splitAtClosing? split
              .script (lead (char :: rest) content) attributes body
                  (lead closing after) ::
                pieces after
          | none => .outside char :: pieces rest
      | none => .outside char :: pieces rest
termination_by text => text.length
decreasing_by
  all_goals simp only [List.length_cons] at *; omega

/-- A character outside of scripts: line ends stay, everything else becomes a
space. -/
def blanked (char : Char) : Char :=
  if char = '\r' || char = '\n' then char else ' '

end Component

namespace ComponentPiece

def chars : ComponentPiece → List Char
  | outside char => [char]
  | script opening _ body closing => opening ++ body ++ closing

/-- The characters of a piece with everything but the script body blanked. -/
def blankedChars : ComponentPiece → List Char
  | outside char => [Component.blanked char]
  | script opening _ body closing =>
      opening.map Component.blanked ++ body ++ closing.map Component.blanked

/-- The characters of a piece, each with whether it is kept as script. -/
def marked : ComponentPiece → List (Char × Bool)
  | outside char => [(char, false)]
  | script opening _ body closing =>
      opening.map (·, false) ++ body.map (·, true) ++ closing.map (·, false)

end ComponentPiece

namespace Component

/-- What follows the name of a language attribute that starts here: an equals
sign with optional blanks and an optional quote. -/
def languageValue? (attributes : List Char) : Option (List Char) :=
  match Text.dropWord? "lang".toList attributes with
  | none => none
  | some after =>
      match Text.trimStart after with
      | '=' :: value =>
          match Text.trimStart value with
          | [] => some []
          | char :: rest =>
              if char = '\x22' || char = '\x27' then some rest
              else some (char :: rest)
      | _ => none

/-- Whether a word stands whole at the start of a text. -/
def startsWithWord (word : String) (text : List Char) : Bool :=
  match Text.dropWord? word.toList text with
  | some after => Text.wordEndsBefore after
  | none => false

/-- Whether some language attribute has a value that starts with one of the
given words.  The attribute's name starts at a word boundary. -/
def hasLanguage (words : List String) : Bool → List Char → Bool
  | _, [] => false
  | afterWord, char :: rest =>
      (!afterWord &&
        match languageValue? (char :: rest) with
        | some value => words.any (startsWithWord · value)
        | none => false) ||
      hasLanguage words (Text.isWordChar char) rest

/-- The grammar that the attributes of one element ask for. -/
def grammarOf? (attributes : List Char) : Option Grammar :=
  if hasLanguage ["tsx"] false attributes then some .tsx
  else if hasLanguage ["ts", "typescript"] false attributes then some .typescript
  else none

/-- The grammar of a component: the last element that asks for one decides. -/
def grammar (elements : List ComponentPiece) : Grammar :=
  elements.foldl
    (fun current piece =>
      match piece with
      | .script _ attributes _ _ => (grammarOf? attributes).getD current
      | .outside _ => current)
    .javascript

/-- The rows, from a given one on, that hold a script character other than a
blank. -/
def scriptRowsFrom (row : Nat) : List (Char × Bool) → List Nat
  | [] => []
  | (char, kept) :: rest =>
      if char = '\n' then scriptRowsFrom (row + 1) rest
      else if kept && !Text.isBlank char then row :: scriptRowsFrom row rest
      else scriptRowsFrom row rest

/-- The rows of a component that hold script, each once and in order. -/
def scriptRows (elements : List ComponentPiece) : List Nat :=
  (scriptRowsFrom 0 (elements.flatMap ComponentPiece.marked)).eraseDups

end Component

/-- The script of a component: its text with everything else blanked, its
grammar and the rows it occupies. -/
structure ComponentScript where
  text : List Char
  grammar : Grammar
  rows : List Nat
deriving DecidableEq, Repr

def ComponentScript.ofText (text : List Char) : ComponentScript :=
  let elements := Component.pieces text
  ⟨elements.flatMap ComponentPiece.blankedChars, Component.grammar elements,
    Component.scriptRows elements⟩

end ScriptLint
