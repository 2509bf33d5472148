/-!
# Colour codes

What is printed has no colours, so codes that would set the colours of a terminal are
left out of it.  Such a code is an escape character, an opening bracket, numbers with
semicolons between them and the letter `m`.
-/

namespace ScriptLint.Console

/-- What follows the numbers of a colour code at the start of a text, if it is one. -/
def afterColorCode? (text : List Char) : Option (List Char) :=
  match text with
  | '\x1b' :: '[' :: rest =>
      match rest.dropWhile fun char => char.isDigit || char = ';' with
      | 'm' :: after => some after
      | _ => none
  | _ => none

theorem length_of_afterColorCode? {text after : List Char}
    (read : afterColorCode? text = some after) : after.length < text.length := by
  unfold afterColorCode? at read
  split at read
  · rename_i rest
    split at read
    · rename_i remaining dropped
      have shorter := (List.dropWhile_sublist
        (fun char : Char => char.isDigit || char = ';') (l := rest)).length_le
      rw [dropped] at shorter
      simp only [Option.some.injEq] at read
      subst read
      simp only [List.length_cons] at shorter ⊢
      omega
    · simp at read
  · simp at read

/-- A text without the colour codes in it. -/
def withoutColors : List Char → List Char
  | [] => []
  | char :: rest =>
      match read : afterColorCode? (char :: rest) with
      | some after =>
          have := length_of_afterColorCode? read
          withoutColors after
      | none => char :: withoutColors rest
termination_by text => text.length
decreasing_by
  · simpa using this
  · simp

end ScriptLint.Console
