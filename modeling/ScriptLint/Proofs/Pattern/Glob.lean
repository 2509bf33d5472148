import Mathlib.Data.List.Infix
import ScriptLint.Pattern.Glob

/-!
# What file name patterns match

`Matches` describes part by part which texts a pattern stands for.  The matcher, which
works on all ends of a text at once, decides it.
-/

namespace ScriptLint.Glob

variable {part : Part} {parts : List Part} {text : List Char}

/-- Parts match a text from its start to its end: a star takes any number of characters,
every other part takes one that it covers. -/
inductive Matches : List Part → List Char → Prop
  | nil : Matches [] []
  | one {part : Part} {parts : List Part} {char : Char} {text : List Char} :
      part.covers char = true → Matches parts text → Matches (part :: parts) (char :: text)
  | skip {parts : List Part} {text : List Char} :
      Matches parts text → Matches (.many :: parts) text
  | take {parts : List Part} {char : Char} {text : List Char} :
      Matches (.many :: parts) text → Matches (.many :: parts) (char :: text)

theorem matches_nil_iff : Matches [] text ↔ text = [] := by
  constructor
  · intro found
    cases found
    rfl
  · rintro rfl
    exact .nil

theorem matches_cons_iff (single : part ≠ .many) :
    Matches (part :: parts) text ↔
      ∃ char rest, text = char :: rest ∧ part.covers char = true ∧ Matches parts rest := by
  constructor
  · intro found
    cases found with
    | one covers onward => exact ⟨_, _, rfl, covers, onward⟩
    | skip => exact absurd rfl single
    | take => exact absurd rfl single
  · rintro ⟨char, rest, rfl, covers, onward⟩
    exact .one covers onward

theorem matches_many_iff :
    Matches (.many :: parts) text ↔ ∃ rest, rest <:+ text ∧ Matches parts rest := by
  constructor
  · intro found
    generalize whole : Part.many :: parts = all at found
    induction found with
    | nil => simp at whole
    | one covers =>
        obtain ⟨rfl, -⟩ := List.cons.inj whole
        simp [Part.covers] at covers
    | skip onward =>
        obtain ⟨-, rfl⟩ := List.cons.inj whole
        exact ⟨_, List.suffix_rfl, onward⟩
    | take _ induction =>
        obtain ⟨rest, ends, onward⟩ := induction whole
        exact ⟨rest, ends.trans (List.suffix_cons _ _), onward⟩
  · rintro ⟨rest, ⟨start, rfl⟩, onward⟩
    induction start with
    | nil => exact .skip onward
    | cons char start induction => exact .take induction

section Deciding

/-- Flags for all ends of a text, from the whole text down, say whether parts match
them. -/
private inductive Decides (parts : List Part) : List Char → List Bool → Prop
  | nil {flag : Bool} : (flag = true ↔ Matches parts []) → Decides parts [] [flag]
  | cons {flag : Bool} {char : Char} {rest : List Char} {flags : List Bool} :
      (flag = true ↔ Matches parts (char :: rest)) → Decides parts rest flags →
        Decides parts (char :: rest) (flag :: flags)

private theorem Decides.head {flags : List Bool} (decides : Decides parts text flags) :
    flags.headD false = true ↔ Matches parts text := by
  cases decides with
  | nil here => exact here
  | cons here _ => exact here

private theorem decides_nil (text : List Char) :
    Decides [] text (text.map (fun _ => false) ++ [true]) := by
  induction text with
  | nil => exact .nil (by simp [matches_nil_iff])
  | cons char rest induction => exact .cons (by simp [matches_nil_iff]) induction

private theorem anyFrom_cons (flag : Bool) (rest : List Bool) :
    anyFrom (flag :: rest) = (flag || (anyFrom rest).headD false) :: anyFrom rest :=
  rfl

private theorem Decides.many {flags : List Bool} (decides : Decides parts text flags) :
    Decides (.many :: parts) text (anyFrom flags) := by
  induction decides with
  | nil here => exact .nil (by simp [matches_many_iff, here])
  | @cons flag char rest flags here _ induction =>
      rw [anyFrom_cons]
      refine .cons ?_ induction
      rw [Bool.or_eq_true, here, induction.head, matches_many_iff, matches_many_iff]
      simp only [List.suffix_cons_iff]
      constructor
      · rintro (whole | ⟨last, ends, found⟩)
        · exact ⟨_, Or.inl rfl, whole⟩
        · exact ⟨last, Or.inr ends, found⟩
      · rintro ⟨last, rfl | ends, found⟩
        · exact Or.inl found
        · exact Or.inr ⟨last, ends, found⟩

private theorem Decides.one {flags : List Bool} (single : part ≠ .many)
    (decides : Decides parts text flags) :
    Decides (part :: parts) text
      (text.zipWith (fun char rest => part.covers char && rest) flags.tail ++ [false]) := by
  induction decides with
  | nil => exact .nil (by simp [matches_cons_iff single])
  | @cons flag char rest flags here onward induction =>
      have next := onward.head
      cases onward with
      | nil => exact .cons (by simp [matches_cons_iff single, ← next]) induction
      | cons => exact .cons (by simp [matches_cons_iff single, ← next]) induction

private theorem decides_matchEnds (parts : List Part) (text : List Char) :
    Decides parts text (matchEnds text parts) := by
  induction parts with
  | nil => exact decides_nil text
  | cons part parts induction =>
      cases part with
      | many => exact induction.many
      | char expected => exact induction.one (by simp)
      | one => exact induction.one (by simp)
      | set chars => exact induction.one (by simp)

end Deciding

theorem matchParts_iff : matchParts parts text = true ↔ Matches parts text :=
  (decides_matchEnds parts text).head

section Ends

theorem matches_chars_iff {letters : List Char} :
    Matches (letters.map .char) text ↔ text = letters := by
  induction letters generalizing text with
  | nil => exact matches_nil_iff
  | cons letter letters induction =>
      rw [List.map_cons, matches_cons_iff (by simp)]
      constructor
      · rintro ⟨char, rest, rfl, covers, onward⟩
        rw [induction.mp onward, show char = letter by simpa [Part.covers] using covers]
      · rintro rfl
        exact ⟨letter, letters, rfl, by simp [Part.covers], induction.mpr rfl⟩

theorem matchParts_many_chars_iff {letters : List Char} :
    matchParts (.many :: letters.map .char) text = true ↔ letters <:+ text := by
  rw [matchParts_iff, matches_many_iff]
  constructor
  · rintro ⟨rest, ends, found⟩
    rwa [← matches_chars_iff.mp found]
  · intro ends
    exact ⟨letters, ends, matches_chars_iff.mpr rfl⟩

end Ends

end ScriptLint.Glob
