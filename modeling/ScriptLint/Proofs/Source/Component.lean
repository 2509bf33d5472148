import Mathlib.Data.List.Basic
import ScriptLint.Source.Component

/-!
# Characters of components

The pieces of a component put together are its text, and blanking works character
by character: a character of a script body is kept, any other becomes a space
unless it is a part of a line end.
-/

namespace ScriptLint

namespace Component

theorem suffix_of_dropWord? {word text rest : List Char}
    (dropped : Text.dropWord? word text = some rest) : rest <:+ text := by
  induction word generalizing text with
  | nil =>
      simp only [Text.dropWord?, Option.some.injEq] at dropped
      exact dropped ▸ List.suffix_refl text
  | cons letter word induction =>
      cases text with
      | nil => simp [Text.dropWord?] at dropped
      | cons char text =>
          simp only [Text.dropWord?] at dropped
          split at dropped
          · exact (induction dropped).trans (List.suffix_cons char text)
          · simp at dropped

theorem suffix_of_splitAtBracket? {text before after : List Char}
    (split : splitAtBracket? text = some (before, after)) : after <:+ text := by
  induction text generalizing before after with
  | nil => simp [splitAtBracket?] at split
  | cons char rest induction =>
      unfold splitAtBracket? at split
      split at split
      · simp only [Option.some.injEq, Prod.mk.injEq] at split
        exact split.2 ▸ List.suffix_cons char rest
      · split at split
        · rename_i found
          simp only [Option.some.injEq, Prod.mk.injEq] at split
          exact split.2 ▸ (induction found).trans (List.suffix_cons char rest)
        · simp at split

theorem suffix_of_afterOpening? {text attributes after : List Char}
    (read : afterOpening? text = some (attributes, after)) : after <:+ text := by
  unfold afterOpening? at read
  split at read
  · split at read
    · rename_i dropped
      split at read
      · exact (suffix_of_splitAtBracket? read).trans
          ((suffix_of_dropWord? dropped).trans (List.suffix_cons _ _))
      · simp at read
    · simp at read
  · simp at read

theorem suffix_of_afterClosing? {text after : List Char}
    (read : afterClosing? text = some after) : after <:+ text := by
  unfold afterClosing? at read
  split at read
  · split at read
    · rename_i left dropped
      split at read
      · rename_i remaining trimmed
        simp only [Option.some.injEq] at read
        subst read
        have kept : '>' :: remaining <:+ left :=
          trimmed ▸ List.dropWhile_suffix Text.isBlank
        exact (List.suffix_cons _ _).trans (kept.trans
          ((suffix_of_dropWord? dropped).trans
            ((List.suffix_cons _ _).trans (List.suffix_cons _ _))))
      · simp at read
    · simp at read
  · simp at read

theorem append_of_splitAtClosing? {text body closing after : List Char}
    (split : splitAtClosing? text = some (body, closing, after)) :
    text = body ++ closing ∧ after <:+ closing := by
  induction text generalizing body closing after with
  | nil => simp [splitAtClosing?] at split
  | cons char rest induction =>
      unfold splitAtClosing? at split
      split at split
      · rename_i closed
        simp only [Option.some.injEq, Prod.mk.injEq] at split
        obtain ⟨rfl, rfl, rfl⟩ := split
        exact ⟨rfl, suffix_of_afterClosing? closed⟩
      · split at split
        · rename_i found
          simp only [Option.some.injEq, Prod.mk.injEq] at split
          obtain ⟨rfl, rfl, rfl⟩ := split
          obtain ⟨whole, ends⟩ := induction found
          exact ⟨by rw [List.cons_append, ← whole], ends⟩
        · simp at split

theorem lead_append {text rest : List Char} (ends : rest <:+ text) :
    lead text rest ++ rest = text := by
  obtain ⟨start, rfl⟩ := ends
  simp [lead]

theorem lead_append_left (start rest : List Char) : lead (start ++ rest) rest = start := by
  simp [lead]

theorem script_append {text attributes content body closing after : List Char}
    (opened : afterOpening? text = some (attributes, content))
    (closed : splitAtClosing? content = some (body, closing, after)) :
    (lead text content ++ body ++ lead closing after) ++ after = text := by
  obtain ⟨whole, ends⟩ := append_of_splitAtClosing? closed
  calc (lead text content ++ body ++ lead closing after) ++ after
      = lead text content ++ (body ++ (lead closing after ++ after)) := by
        simp only [List.append_assoc]
    _ = text := by
        rw [lead_append ends, ← whole, lead_append (suffix_of_afterOpening? opened)]

theorem pieces_cons_outside {char : Char} {rest : List Char}
    (unopened : afterOpening? (char :: rest) = none) :
    pieces (char :: rest) = .outside char :: pieces rest := by
  rw [pieces]
  split
  · rename_i opened
    simp [unopened] at opened
  · rfl

theorem pieces_cons_script {char : Char}
    {rest attributes content body closing after : List Char}
    (opened : afterOpening? (char :: rest) = some (attributes, content))
    (closed : splitAtClosing? content = some (body, closing, after)) :
    pieces (char :: rest) =
      .script (lead (char :: rest) content) attributes body (lead closing after) ::
        pieces after := by
  rw [pieces]
  split
  · rename_i found
    rw [opened, Option.some.injEq, Prod.mk.injEq] at found
    obtain ⟨rfl, rfl⟩ := found
    split
    · rename_i split
      rw [closed, Option.some.injEq, Prod.mk.injEq, Prod.mk.injEq] at split
      obtain ⟨rfl, rfl, rfl⟩ := split
      rfl
    · rename_i split
      simp [closed] at split
  · rename_i found
    simp [opened] at found

theorem flatMap_chars_pieces (text : List Char) :
    (pieces text).flatMap ComponentPiece.chars = text := by
  fun_induction pieces text with
  | case1 => rfl
  | case2 char rest attributes content opened body closing after split _ _ induction =>
      rw [List.flatMap_cons, induction]
      exact script_append opened split
  | case3 char rest attributes content opened unclosed induction =>
      rw [List.flatMap_cons, induction]
      rfl
  | case4 char rest unopened induction =>
      rw [List.flatMap_cons, induction]
      rfl

/-- What a marked character becomes. -/
def shown : Char × Bool → Char
  | (char, true) => char
  | (char, false) => blanked char

/-- The characters of a component, each with whether it belongs to the body of a
script. -/
def marks (text : List Char) : List (Char × Bool) :=
  (pieces text).flatMap ComponentPiece.marked

theorem map_fst_marks (text : List Char) : (marks text).map Prod.fst = text := by
  have each : ∀ piece : ComponentPiece,
      piece.marked.map Prod.fst = piece.chars := by
    intro piece
    cases piece with
    | outside char => rfl
    | script opening attributes body closing =>
        simp [ComponentPiece.marked, ComponentPiece.chars, Function.comp_def]
  simp only [marks, List.map_flatMap, each, flatMap_chars_pieces]

theorem map_shown_marks (text : List Char) :
    (marks text).map shown = (ComponentScript.ofText text).text := by
  have each : ∀ piece : ComponentPiece,
      piece.marked.map shown = piece.blankedChars := by
    intro piece
    cases piece with
    | outside char => rfl
    | script opening attributes body closing =>
        simp [ComponentPiece.marked, ComponentPiece.blankedChars, Function.comp_def,
          shown]
  simp only [marks, List.map_flatMap, each, ComponentScript.ofText]

/-- Blanking keeps line feeds where they are and makes no new ones. -/
theorem shown_eq_lineFeed (mark : Char × Bool) :
    (shown mark == '\n') = (mark.1 == '\n') := by
  obtain ⟨char, kept⟩ := mark
  cases kept with
  | true => rfl
  | false =>
      simp only [shown, blanked]
      split
      · rfl
      · rename_i ordinary
        simp only [Bool.or_eq_true, decide_eq_true_eq, not_or] at ordinary
        simp [ordinary.2]

theorem map_lineFeed_script (text : List Char) :
    (ComponentScript.ofText text).text.map (· == '\n') = text.map (· == '\n') := by
  conv_rhs => rw [← map_fst_marks text]
  rw [← map_shown_marks, List.map_map, List.map_map]
  exact List.map_congr_left fun mark _ => shown_eq_lineFeed mark

end Component

end ScriptLint
