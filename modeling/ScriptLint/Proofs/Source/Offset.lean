import ScriptLint.Proofs.Text.Utf8
import ScriptLint.Source.Basic

/-!
# Byte offsets and characters

A byte offset of a text stands for the characters that end at or before it.  It
can be counted from the start of the text or, after it was turned into a row and
a byte column, from the start of its line: both ways give the same characters.
-/

namespace ScriptLint

/-- The number of characters of a text whose encoding ends at or before a byte
offset. -/
def charsEndingBy (text : List Char) (offset : Nat) : Nat :=
  (List.range text.length).countP fun index =>
    (Utf8.encode (text.take (index + 1))).length ≤ offset

/-- Offsets between two characters of a text, or at one of its ends. -/
def OnBoundary (text : List Char) (offset : Nat) : Prop :=
  ∃ count ≤ text.length, offset = (Utf8.encode (text.take count)).length

@[simp]
theorem charsWithin_zero (text : List Char) : charsWithin 0 text = 0 := by
  cases text with
  | nil => rfl
  | cons char rest =>
      have := char.utf8Size_pos
      rw [charsWithin, if_neg (by omega)]

/-- Whole leading characters are counted apart. -/
theorem charsWithin_append (before after : List Char) (limit : Nat) :
    charsWithin ((Utf8.encode before).length + limit) (before ++ after) =
      before.length + charsWithin limit after := by
  induction before with
  | nil => simp
  | cons char before induction =>
      rw [Utf8.length_encode_cons, List.cons_append, charsWithin,
        if_pos (by omega), List.length_cons]
      have less : char.utf8Size + (Utf8.encode before).length + limit -
          char.utf8Size = (Utf8.encode before).length + limit := by omega
      rw [less, induction]
      omega

theorem charsWithin_encode_take {text : List Char} {count : Nat}
    (within : count ≤ text.length) :
    charsWithin (Utf8.encode (text.take count)).length text = count := by
  have counted := charsWithin_append (text.take count) (text.drop count) 0
  rw [List.take_append_drop] at counted
  simpa [within] using counted

/-- Counting the characters that end in time gives the leading ones that fit. -/
theorem charsEndingBy_eq_charsWithin (text : List Char) (offset : Nat) :
    charsEndingBy text offset = charsWithin offset text := by
  induction text generalizing offset with
  | nil => rfl
  | cons char rest induction =>
      unfold charsEndingBy at induction ⊢
      rw [List.length_cons, List.range_succ_eq_map, List.countP_cons,
        List.countP_map, charsWithin]
      by_cases fits : char.utf8Size ≤ offset
      · rw [if_pos fits, if_pos (by simpa [String.length_utf8EncodeChar] using fits),
          Nat.add_comm, ← induction (offset - char.utf8Size)]
        congr 1
        apply List.countP_congr
        intro index _
        simp only [Function.comp_apply, Nat.succ_eq_add_one, List.take_succ_cons,
          Utf8.length_encode_cons, decide_eq_true_eq]
        omega
      · rw [if_neg fits, if_neg (by simpa [String.length_utf8EncodeChar] using fits),
          Nat.add_zero, List.countP_eq_zero]
        intro index _
        simp only [Function.comp_apply, Nat.succ_eq_add_one, List.take_succ_cons,
          Utf8.length_encode_cons, decide_eq_true_eq]
        omega

theorem charsEndingBy_le_length (text : List Char) (offset : Nat) :
    charsEndingBy text offset ≤ text.length := by
  have counted := List.countP_le_length (l := List.range text.length)
    (p := fun index => (Utf8.encode (text.take (index + 1))).length ≤ offset)
  simpa [charsEndingBy] using counted

theorem charsEndingBy_mono (text : List Char) {first second : Nat}
    (ordered : first ≤ second) :
    charsEndingBy text first ≤ charsEndingBy text second := by
  apply List.countP_mono_left
  intro index _ ends
  simp only [decide_eq_true_eq] at ends ⊢
  omega

section Lines

/-- Lines whose first one goes on after some characters. -/
def continueLine (before : List Char) : List (List Char) → List (List Char)
  | [] => []
  | line :: lines => (before ++ line) :: lines

theorem continueLine_nil (lines : List (List Char)) : continueLine [] lines = lines := by
  cases lines <;> rfl

theorem continueLine_rawLines_cons {char : Char} (inside : char ≠ '\n')
    (before rest : List Char) :
    continueLine before (Text.rawLines (char :: rest)) =
      continueLine (before ++ [char]) (Text.rawLines rest) := by
  rw [Text.rawLines, if_neg inside]
  cases lines : Text.rawLines rest with
  | nil => exact absurd lines (Text.rawLines_ne_nil rest)
  | cons line others => simp [continueLine]

/-- Bytes that do not hold the first character of a text hold none of its first
line. -/
private theorem exists_rawLines_cons {char : Char} {remaining : Nat}
    (rest : List Char) (tooLong : ¬ char.utf8Size ≤ remaining) :
    ∃ line others, Text.rawLines (char :: rest) = line :: others ∧
      charsWithin remaining line = 0 := by
  rw [Text.rawLines]
  split
  · exact ⟨[], _, rfl, rfl⟩
  · split
    · exact ⟨[char], [], rfl, by rw [charsWithin, if_neg tooLong]⟩
    · exact ⟨_, _, rfl, by rw [charsWithin, if_neg tooLong]⟩

/-- A byte offset after some characters of a line lies on one of the lines that
follow, and counting characters from the start of this line agrees with counting
them from where the offset is counted. -/
theorem pointFrom_on_line (base row remaining : Nat) (before rest : List Char) :
    ∃ down column line start,
      pointFrom row (Utf8.encode before).length remaining rest =
        (row + down, column) ∧
      (continueLine before (Text.rawLines rest))[down]? = some line ∧
      (Text.lineStartsFrom base
        (continueLine before (Text.rawLines rest)))[down]? = some start ∧
      start + charsWithin column line =
        base + before.length + charsWithin remaining rest := by
  induction rest generalizing base row remaining before with
  | nil =>
      refine ⟨0, _, before, base, rfl, ?_, rfl, ?_⟩
      · simp [Text.rawLines, continueLine]
      · have counted := charsWithin_append before [] remaining
        rw [List.append_nil] at counted
        rw [counted]
        omega
  | cons char rest induction =>
      by_cases fits : char.utf8Size ≤ remaining
      · by_cases isBreak : char = '\n'
        · subst isBreak
          obtain ⟨down, column, line, start, reached, onLine, starts, counted⟩ :=
            induction (base + before.length + 1) (row + 1)
              (remaining - Char.utf8Size '\n') []
          rw [continueLine_nil] at onLine starts
          refine ⟨down + 1, column, line, start, ?_, ?_, ?_, ?_⟩
          · rw [pointFrom, if_pos fits, if_pos rfl]
            simpa [Nat.add_assoc, Nat.add_comm 1 down] using reached
          · simpa [Text.rawLines, continueLine] using onLine
          · simpa [Text.rawLines, continueLine, Text.lineStartsFrom] using starts
          · rw [counted, charsWithin, if_pos fits, List.length_nil]
            omega
        · obtain ⟨down, column, line, start, reached, onLine, starts, counted⟩ :=
            induction base row (remaining - char.utf8Size) (before ++ [char])
          rw [← continueLine_rawLines_cons isBreak] at onLine starts
          refine ⟨down, column, line, start, ?_, onLine, starts, ?_⟩
          · rw [pointFrom, if_pos fits, if_neg isBreak]
            simpa [String.length_utf8EncodeChar] using reached
          · rw [counted, charsWithin, if_pos fits, List.length_append,
              List.length_singleton]
            omega
      · obtain ⟨line, others, lines, none⟩ := exists_rawLines_cons rest fits
        refine ⟨0, (Utf8.encode before).length + remaining, before ++ line, base,
          ?_, ?_, ?_, ?_⟩
        · rw [pointFrom, if_neg fits, Nat.add_zero]
        · simp [lines, continueLine]
        · simp [lines, continueLine, Text.lineStartsFrom]
        · rw [charsWithin_append, none, charsWithin, if_neg fits]
          omega

/-- A byte offset of a text lies on one of its lines, and the characters before it
are those of the lines before and those on its own line. -/
theorem pointAt_on_line (text : List Char) (offset : Nat) :
    ∃ row column line start,
      pointAt text offset = (row, column) ∧
      (Text.rawLines text)[row]? = some line ∧
      (Text.lineStarts text)[row]? = some start ∧
      start + charsWithin column line = charsWithin offset text := by
  obtain ⟨row, column, line, start, reached, onLine, starts, counted⟩ :=
    pointFrom_on_line 0 0 offset [] text
  rw [continueLine_nil] at onLine starts
  exact ⟨row, column, line, start, by simpa [pointAt] using reached, onLine, starts,
    by simpa using counted⟩

theorem map_length_rawLines {left right : List Char}
    (same : left.map (· == '\n') = right.map (· == '\n')) :
    (Text.rawLines left).map List.length = (Text.rawLines right).map List.length := by
  induction left generalizing right with
  | nil =>
      obtain rfl : right = [] := by simpa using same.symm
      rfl
  | cons first left induction =>
      cases right with
      | nil => simp at same
      | cons second right =>
          simp only [List.map_cons, List.cons.injEq, beq_eq_beq] at same
          obtain ⟨sameFirst, sameRest⟩ := same
          have lengths := induction sameRest
          simp only [Text.rawLines, sameFirst]
          split
          · simpa using lengths
          · cases leftLines : Text.rawLines left with
            | nil => exact absurd leftLines (Text.rawLines_ne_nil left)
            | cons leftLine leftOthers =>
                cases rightLines : Text.rawLines right with
                | nil => exact absurd rightLines (Text.rawLines_ne_nil right)
                | cons rightLine rightOthers =>
                    rw [leftLines, rightLines] at lengths
                    simpa using lengths

private theorem lineStartsFrom_congr {left right : List (List Char)}
    (same : left.map List.length = right.map List.length) (base : Nat) :
    Text.lineStartsFrom base left = Text.lineStartsFrom base right := by
  induction left generalizing right base with
  | nil =>
      obtain rfl : right = [] := by simpa using same.symm
      rfl
  | cons first left induction =>
      cases right with
      | nil => simp at same
      | cons second right =>
          simp only [List.map_cons, List.cons.injEq] at same
          simp only [Text.lineStartsFrom, same.1, induction same.2]

/-- Texts with line feeds at the same places have lines at the same places. -/
theorem lineStarts_congr {left right : List Char}
    (same : left.map (· == '\n') = right.map (· == '\n')) :
    Text.lineStarts left = Text.lineStarts right :=
  lineStartsFrom_congr (map_length_rawLines same) 0

end Lines

section Bytes

theorem dropWithin_spec (limit : Nat) (text : List Char) :
    ∃ before, text = before ++ (dropWithin limit text).2 ∧
      limit = (Utf8.encode before).length + (dropWithin limit text).1 := by
  induction text generalizing limit with
  | nil => exact ⟨[], by simp [dropWithin]⟩
  | cons char rest induction =>
      rw [dropWithin]
      split
      · obtain ⟨before, whole, bytes⟩ := induction (limit - char.utf8Size)
        refine ⟨char :: before, by rw [List.cons_append, ← whole], ?_⟩
        rw [Utf8.length_encode_cons]
        omega
      · exact ⟨[], by simp⟩

/-- The first bytes of a text are bytes of as many characters. -/
private theorem take_encode_take {count limit : Nat} (within : limit ≤ count)
    (text : List Char) :
    (Utf8.encode (text.take count)).take limit = (Utf8.encode text).take limit := by
  induction text generalizing count limit with
  | nil => simp
  | cons char rest induction =>
      cases count with
      | zero =>
          obtain rfl : limit = 0 := by omega
          simp
      | succ count =>
          have := char.utf8Size_pos
          rw [List.take_succ_cons, Utf8.encode_cons, Utf8.encode_cons,
            List.take_append, List.take_append, String.length_utf8EncodeChar,
            induction (show limit - char.utf8Size ≤ count by omega)]

theorem bytesBetween_eq (text : List Char) (start stop : Nat) :
    bytesBetween text start stop = ((Utf8.encode text).take stop).drop start := by
  obtain ⟨before, whole, bytes⟩ := dropWithin_spec start text
  unfold bytesBetween
  generalize dropWithin start text = found at whole bytes
  obtain ⟨skipped, rest⟩ := found
  dsimp only at whole bytes ⊢
  rw [take_encode_take (Nat.le_refl _), whole, Utf8.encode_append]
  by_cases ordered : start ≤ stop
  · have reach : stop =
        (Utf8.encode before).length + (skipped + (stop - start)) := by omega
    rw [reach, bytes, List.take_length_add_append, List.drop_length_add_append]
    congr 2
    omega
  · rw [List.drop_eq_nil_of_le (by rw [List.length_take]; omega),
      List.drop_eq_nil_of_le (by rw [List.length_take]; omega)]

/-- Between character boundaries the bytes are those of the characters there. -/
theorem bytesBetween_encode_take (text : List Char) (first last : Nat) :
    bytesBetween text (Utf8.encode (text.take first)).length
        (Utf8.encode (text.take last)).length =
      Utf8.encode ((text.take last).drop first) := by
  have lead : ∀ count, (Utf8.encode text).take
      (Utf8.encode (text.take count)).length = Utf8.encode (text.take count) := by
    intro count
    conv_lhs => rw [← List.take_append_drop count text, Utf8.encode_append]
    simp
  rw [bytesBetween_eq, lead]
  rcases Nat.le_total first last with ordered | crossed
  · conv_lhs => rw [← List.take_append_drop first (text.take last),
      List.take_take, Nat.min_eq_left ordered, Utf8.encode_append]
    simp
  · have shorter : text.take last = (text.take first).take last := by
      rw [List.take_take, Nat.min_eq_left crossed]
    have noChars : (text.take last).drop first = [] :=
      List.drop_eq_nil_of_le (by rw [List.length_take]; omega)
    rw [noChars, Utf8.encode_nil]
    apply List.drop_eq_nil_of_le
    conv_rhs => rw [← List.take_append_drop last (text.take first), ← shorter,
      Utf8.encode_append, List.length_append]
    omega

end Bytes

end ScriptLint
