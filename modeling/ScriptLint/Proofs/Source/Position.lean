import ScriptLint.Proofs.Source.Span

/-!
# Positions of a text

A position of a text lies on one of its lines, at most right behind the last
character, and stands for the characters before it.  Positions are ordered as
the characters before them are, and so are their columns in UTF-16 code units,
which go up to one more than those of the raw line.
-/

namespace ScriptLint

namespace Text

theorem units_take_mono (text : List Char) {first second : Nat}
    (ordered : first ≤ second) :
    units (text.take first) ≤ units (text.take second) := by
  have shorter : text.take first = (text.take second).take first := by
    rw [List.take_take, Nat.min_eq_left ordered]
  have whole := units_append ((text.take second).take first) ((text.take second).drop first)
  rw [List.take_append_drop] at whole
  rw [shorter]
  omega

theorem units_take_le (text : List Char) (count : Nat) :
    units (text.take count) ≤ units text := by
  have whole := units_append (text.take count) (text.drop count)
  rw [List.take_append_drop] at whole
  omega

/-- Every character of a text takes a code unit at least. -/
theorem units_take_lt (text : List Char) {first second : Nat} (ordered : first < second)
    (inside : first < text.length) : units (text.take first) < units (text.take second) := by
  have longer := units_take_mono text (show first + 1 ≤ second from ordered)
  have positive := charUnits_pos text[first]
  rw [List.take_succ_eq_append_getElem inside, units_append] at longer
  simp only [units] at longer
  omega

theorem units_of_returns {text : List Char} (returns : ∀ char ∈ text, char = '\r') :
    units text = text.length := by
  induction text with
  | nil => rfl
  | cons char rest induction =>
      obtain ⟨isReturn, others⟩ := List.forall_mem_cons.mp returns
      have single : charUnits char = 1 := by
        rw [isReturn]
        rfl
      simp only [units, single, induction others, List.length_cons]
      omega

/-- A line is what is left without its carriage returns, and these. -/
theorem exists_dropReturns_append (line : List Char) :
    ∃ returns, line = dropReturns line ++ returns ∧ ∀ char ∈ returns, char = '\r' := by
  refine ⟨(line.reverse.takeWhile (· = '\r')).reverse, ?_, ?_⟩
  · rw [dropReturns, ← List.reverse_append, List.takeWhile_append_dropWhile,
      List.reverse_reverse]
  · intro char member
    have all := List.all_eq_true.mp List.all_takeWhile char (List.mem_reverse.mp member)
    simpa using all

theorem le_of_getElem?_lineStartsFrom {base row start : Nat} {raw : List (List Char)}
    (starts : (lineStartsFrom base raw)[row]? = some start) : base ≤ start := by
  induction raw generalizing base row with
  | nil => simp [lineStartsFrom] at starts
  | cons line rest induction =>
      cases row with
      | zero =>
          simp only [lineStartsFrom, List.getElem?_cons_zero, Option.some.injEq] at starts
          omega
      | succ row =>
          simp only [lineStartsFrom, List.getElem?_cons_succ] at starts
          have later := induction starts
          omega

theorem lt_of_getElem?_lineStartsFrom {base row later start next : Nat}
    {raw : List (List Char)} {line : List Char} (before : row < later)
    (onLine : raw[row]? = some line)
    (starts : (lineStartsFrom base raw)[row]? = some start)
    (follows : (lineStartsFrom base raw)[later]? = some next) :
    start + line.length < next := by
  induction raw generalizing base row later with
  | nil => simp at onLine
  | cons first rest induction =>
      obtain ⟨later, rfl⟩ : ∃ less, later = less + 1 := ⟨later - 1, by omega⟩
      simp only [lineStartsFrom, List.getElem?_cons_succ] at follows
      cases row with
      | zero =>
          simp only [lineStartsFrom, List.getElem?_cons_zero, Option.some.injEq]
            at onLine starts
          have behind := le_of_getElem?_lineStartsFrom follows
          subst onLine starts
          omega
      | succ row =>
          simp only [lineStartsFrom, List.getElem?_cons_succ] at onLine starts
          exact induction (by omega) onLine starts follows

/-- The characters of lines with a break behind each of them. -/
def brokenLength (raw : List (List Char)) : Nat :=
  raw.foldr (fun line length => line.length + 1 + length) 0

theorem brokenLength_rawLines (text : List Char) :
    brokenLength (rawLines text) = text.length + 1 := by
  induction text with
  | nil => rfl
  | cons char rest induction =>
      unfold brokenLength at induction ⊢
      rw [rawLines]
      split
      · simp only [List.foldr_cons, induction, List.length_nil, List.length_cons]
        omega
      · cases lines : rawLines rest with
        | nil => exact absurd lines (rawLines_ne_nil rest)
        | cons line others =>
            rw [lines] at induction
            simp only [List.foldr_cons, List.length_cons] at induction ⊢
            omega

theorem getElem?_lineStartsFrom_le {base row start : Nat} {raw : List (List Char)}
    {line : List Char} (onLine : raw[row]? = some line)
    (starts : (lineStartsFrom base raw)[row]? = some start) :
    start + line.length + 1 ≤ base + brokenLength raw := by
  induction raw generalizing base row with
  | nil => simp at onLine
  | cons first rest induction =>
      unfold brokenLength at induction ⊢
      rw [List.foldr_cons]
      cases row with
      | zero =>
          simp only [lineStartsFrom, List.getElem?_cons_zero, Option.some.injEq]
            at onLine starts
          subst onLine starts
          omega
      | succ row =>
          simp only [lineStartsFrom, List.getElem?_cons_succ] at onLine starts
          have later := induction onLine starts
          omega

/-- A line of a text and a column on it or right behind it, in UTF-16 code units
and both counted from one. -/
def HasColumn (text : List Char) (line column : Int) : Prop :=
  ∃ (row : Nat) (raw : List Char), (rawLines text)[row]? = some raw ∧
    line = row + 1 ∧ 1 ≤ column ∧ column ≤ units raw + 1

end Text

namespace Position

/-- One position does not come after another. -/
def NotAfter (left right : Position) : Prop :=
  left.line < right.line ∨ left.line = right.line ∧ left.column ≤ right.column

/-- The position of a text that has a number of characters before it. -/
def Follows (text : List Char) (position : Position) (count : Nat) : Prop :=
  ∃ (row column : Nat) (line : List Char) (start : Nat),
    (Text.rawLines text)[row]? = some line ∧
    (Text.lineStarts text)[row]? = some start ∧ column ≤ line.length ∧
    position = ⟨row + 1, column + 1⟩ ∧ count = start + column

namespace Follows

variable {text : List Char} {left right position : Position} {count fewer : Nat}

theorem le_length (follows : position.Follows text count) : count ≤ text.length := by
  obtain ⟨row, column, line, start, onLine, starts, within, -, rfl⟩ := follows
  have inside := Text.getElem?_lineStartsFrom_le onLine starts
  rw [Text.brokenLength_rawLines] at inside
  omega

theorem notAfter (first : left.Follows text fewer) (second : right.Follows text count)
    (ordered : fewer ≤ count) : left.NotAfter right := by
  obtain ⟨row, column, line, start, onLine, starts, within, rfl, rfl⟩ := first
  obtain ⟨later, behind, next, base, onNext, startsNext, withinNext, rfl, rfl⟩ := second
  rcases Nat.lt_trichotomy row later with before | same | after
  · exact .inl (by dsimp only; omega)
  · subst same
    obtain rfl : start = base := Option.some.inj (starts.symm.trans startsNext)
    exact .inr ⟨rfl, by dsimp only; omega⟩
  · have crossed := Text.lt_of_getElem?_lineStartsFrom after onNext startsNext starts
    omega

theorem one_le_line (follows : position.Follows text count) : 1 ≤ position.line := by
  obtain ⟨row, column, line, start, -, -, -, rfl, -⟩ := follows
  dsimp only
  omega

theorem line_le_length (follows : position.Follows text count) :
    position.line ≤ (Text.rawLines text).length := by
  obtain ⟨row, column, line, start, onLine, -, -, rfl, -⟩ := follows
  obtain ⟨inside, -⟩ := List.getElem?_eq_some_iff.mp onLine
  dsimp only
  omega

theorem lt_lineStart (follows : position.Follows text count) {start : Nat}
    (starts : (Text.lineStarts text)[position.line.toNat]? = some start) :
    count < start := by
  obtain ⟨row, column, line, base, onLine, startsHere, within, rfl, rfl⟩ := follows
  have next : ((row : Int) + 1).toNat = row + 1 := by omega
  dsimp only at starts
  rw [next] at starts
  have behind := Text.lt_of_getElem?_lineStartsFrom (Nat.lt_succ_self row) onLine
    startsHere starts
  omega

theorem lineStart_le (follows : position.Follows text count) {row start : Nat}
    (starts : (Text.lineStarts text)[row]? = some start) (upTo : row < position.line) :
    start ≤ count := by
  obtain ⟨here, column, line, base, onLine, startsHere, within, rfl, rfl⟩ := follows
  dsimp only at upTo
  rcases Nat.lt_or_ge row here with before | same
  · have exists_line : row < (Text.rawLines text).length := by
      have inside := (List.getElem?_eq_some_iff.mp onLine).1
      omega
    have behind := Text.lt_of_getElem?_lineStartsFrom before
      (List.getElem?_eq_getElem exists_line) starts startsHere
    omega
  · obtain rfl : row = here := by omega
    obtain rfl : start = base := Option.some.inj (starts.symm.trans startsHere)
    omega

end Follows

end Position

namespace Text

theorem get_eq_ok_iff {α : Type} {items : List α} {position : Nat} {item : α} :
    get items position = .ok item ↔ items[position]? = some item := by
  rw [get, at?_of_nat]
  cases items[position]? with
  | none =>
      constructor
      · intro found
        dsimp only at found
        split at found
        · simp at found
        · simp at found
      · simp
  | some held => simp

theorem lineStart_le_length {text : List Char} {row start : Nat}
    (starts : (lineStarts text)[row]? = some start) : start ≤ text.length := by
  have inside := (List.getElem?_eq_some_iff.mp starts).1
  rw [lineStarts, length_lineStartsFrom] at inside
  have broken := getElem?_lineStartsFrom_le (List.getElem?_eq_getElem inside) starts
  rw [brokenLength_rawLines] at broken
  omega

end Text

namespace Source

theorem offset_eq_ok_iff {source : Source} {row : Nat} {offset : Int} :
    source.offset ⟨row + 1, 1⟩ = .ok offset ↔
      ∃ start : Nat, (Text.lineStarts source.text)[row]? = some start ∧ offset = start := by
  rw [Source.offset, Int.add_sub_cancel]
  constructor
  · intro found
    cases got : Text.get (Text.lineStarts source.text) row with
    | error error => simp [got, Except.map] at found
    | ok start =>
        rw [got] at found
        have isStart : (start : Int) + 1 - 1 = offset := Except.ok.inj found
        exact ⟨start, Text.get_eq_ok_iff.mp got, by omega⟩
  · rintro ⟨start, atRow, rfl⟩
    rw [Text.get_eq_ok_iff.mpr atRow]
    exact congrArg Except.ok (Int.add_sub_cancel start 1)

theorem getElem?_lines {source : Source} {row : Nat} {raw : List Char}
    (onLine : (Text.rawLines source.text)[row]? = some raw) :
    source.lines[row]? = some (Text.dropReturns raw) := by
  rw [lines, Text.lines, List.getElem?_map, onLine]
  rfl

/-- A column in UTF-16 code units counts those before it on the shown line, and then
one for each column. -/
theorem utf16Column_shown {source : Source} {row : Nat} {line : List Char}
    (shown : source.lines[row]? = some line) (column : Nat) :
    source.utf16Column ⟨row + 1, column + 1⟩ =
      Text.units (line.take column) + (column - line.length : Nat) + 1 := by
  have positive : ¬ ((row : Int) + 1 ≤ 0) := by omega
  have index : ((row : Int) + 1 - 1).toNat = row := by omega
  rw [utf16Column, if_neg positive]
  dsimp only
  rw [index, shown, Int.add_sub_cancel]
  dsimp only
  rw [Text.sliceTo, Text.clamp_natCast, ← List.take_eq_take_min, List.length_take]
  omega

/-- A column in UTF-16 code units counts those before it on the raw line. -/
theorem utf16Column_eq {source : Source} {row column : Nat} {raw : List Char}
    (onLine : (Text.rawLines source.text)[row]? = some raw)
    (within : column ≤ raw.length) :
    source.utf16Column ⟨row + 1, column + 1⟩ = Text.units (raw.take column) + 1 := by
  obtain ⟨returns, whole, areReturns⟩ := Text.exists_dropReturns_append raw
  -- What the column has beyond the shown line are carriage returns.
  have lengths := congrArg List.length whole
  rw [List.length_append] at lengths
  have before : raw.take column =
      (Text.dropReturns raw).take column ++
        returns.take (column - (Text.dropReturns raw).length) := by
    conv_lhs => rw [whole]
    rw [List.take_append]
  have beyond : Text.units (returns.take (column - (Text.dropReturns raw).length)) =
      column - (Text.dropReturns raw).length := by
    rw [Text.units_of_returns, List.length_take]
    · omega
    · intro char member
      exact areReturns char (List.mem_of_mem_take member)
  rw [utf16Column_shown (getElem?_lines onLine), before, Text.units_append, beyond]
  omega

/-- On a line of the text a later column has more code units before it. -/
theorem utf16Column_lt {source : Source} {row first second : Nat} {raw : List Char}
    (onLine : (Text.rawLines source.text)[row]? = some raw) (ordered : first < second) :
    source.utf16Column ⟨row + 1, first + 1⟩ < source.utf16Column ⟨row + 1, second + 1⟩ := by
  have shown := getElem?_lines onLine
  rw [utf16Column_shown shown, utf16Column_shown shown]
  rcases Nat.lt_or_ge first (Text.dropReturns raw).length with inside | past
  · have fewer := Text.units_take_lt (Text.dropReturns raw) ordered inside
    omega
  · rw [List.take_of_length_le past, List.take_of_length_le (by omega)]
    omega

variable {source : Source} {left right position : Position} {count fewer : Nat}

theorem hasColumn_utf16Column (follows : position.Follows source.text count) :
    Text.HasColumn source.text position.line (source.utf16Column position) := by
  obtain ⟨row, column, line, start, onLine, -, within, rfl, -⟩ := follows
  refine ⟨row, line, onLine, rfl, ?_⟩
  rw [utf16Column_eq onLine within]
  have most := Text.units_take_le line column
  omega

theorem utf16Column_le (first : left.Follows source.text fewer)
    (second : right.Follows source.text count) (sameLine : left.line = right.line)
    (ordered : left.column ≤ right.column) :
    source.utf16Column left ≤ source.utf16Column right := by
  obtain ⟨row, column, line, start, onLine, -, within, rfl, -⟩ := first
  obtain ⟨later, behind, next, base, onNext, -, withinNext, rfl, -⟩ := second
  dsimp only at sameLine ordered
  obtain rfl : row = later := by omega
  obtain rfl : line = next := Option.some.inj (onLine.symm.trans onNext)
  rw [utf16Column_eq onLine within, utf16Column_eq onLine withinNext]
  have units := Text.units_take_mono line (show column ≤ behind by omega)
  omega

namespace Aligned

theorem follows_positionAt (aligned : source.Aligned) (offset : Nat) :
    (source.positionAt offset).Follows source.text
      (charsEndingBy source.parsed offset) := by
  obtain ⟨row, column, line, start, reached, onLine, starts, counted⟩ :=
    pointAt_on_line source.parsed offset
  have lengths := congrArg (·[row]?) (map_length_rawLines aligned)
  simp only [List.getElem?_map, onLine, Option.map_some] at lengths
  obtain ⟨raw, onRaw, sameLength⟩ := Option.map_eq_some_iff.mp lengths.symm
  refine ⟨row, charsWithin column line, raw, start, onRaw, ?_, ?_, ?_, ?_⟩
  · rw [← lineStarts_congr aligned, starts]
  · have counts := charsEndingBy_le_length line column
    rw [charsEndingBy_eq_charsWithin] at counts
    omega
  · simp [positionAt, reached, charColumn, onLine]
  · rw [charsEndingBy_eq_charsWithin, counted]

theorem notAfter_positionAt (aligned : source.Aligned) {first second : Nat}
    (ordered : first ≤ second) :
    (source.positionAt first).NotAfter (source.positionAt second) :=
  (aligned.follows_positionAt first).notAfter (aligned.follows_positionAt second)
    (charsEndingBy_mono source.parsed ordered)

end Aligned

end Source

end ScriptLint
