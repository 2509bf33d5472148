import ScriptLint.Proofs.Config.Options
import ScriptLint.Proofs.Rules.Located
import ScriptLint.Rules.LineLength

/-!
# Findings about long lines

What is measured of a line is the line or a part of its start, so a finding covers a
part of the line.  Only a tab width of nothing could keep the rule from answering.  The
length of a line is the column in which it ends when each tab goes on to the next tab
stop.
-/

namespace ScriptLint

theorem Text.length_trimEnd_le (text : List Char) : (trimEnd text).length ≤ text.length := by
  have shorter := length_trimStart_le text.reverse
  simpa [trimEnd, trimStart] using shorter

namespace LineLength

variable {context : RuleContext} {exceptions : Exceptions} {row : Nat} {line : List Char}

theorem length_measured_le {measured : List Char}
    (found : measured? context exceptions row line = some measured) :
    measured.length ≤ line.length := by
  simp only [measured?] at found
  split at found
  · simp at found
  split at found
  · simp at found
  split at found
  · split at found
    · rename_i comment _
      simp only [besideComment?] at found
      split at found
      · simp at found
      split at found
      · rw [← Option.some.inj found]
        apply (Text.length_trimEnd_le _).trans
        exact (List.take_sublist _ _).length_le
      · rw [Option.some.inj found]
    · rw [Option.some.inj found]
  · rw [Option.some.inj found]

theorem located_of_checkLine {findings : List Finding}
    (onLine : context.source.lines[row]? = some line)
    (checked : checkLine context exceptions row line = .ok findings) :
    ∀ finding ∈ findings, finding.Located context.source false := by
  unfold checkLine at checked
  split at checked
  · exact forall_of_ok_nil checked
  · rename_i measured found
    dsimp only at checked
    split at checked
    · simp at checked
    · split at checked
      · split at checked
        · simp at checked
        · split at checked
          · simp at checked
          · rw [← Except.ok.inj checked]
            simpa using .line _ onLine (length_measured_le found)
      · exact forall_of_ok_nil checked

theorem located_of_checkLines {lines : List (List Char)} {findings : List Finding}
    (onLines : ∀ index, context.source.lines[row + index]? = lines[index]?)
    (checked : checkLines context exceptions row lines = .ok findings) :
    ∀ finding ∈ findings, finding.Located context.source false := by
  induction lines generalizing row findings with
  | nil => exact forall_of_ok_nil checked
  | cons line rest induction =>
      unfold checkLines at checked
      split at checked
      · simp at checked
      · rename_i here checkedHere
        split at checked
        · simp at checked
        · rename_i others checkedRest
          rw [← Except.ok.inj checked]
          intro finding member
          rcases List.mem_append.mp member with now | later
          · exact located_of_checkLine (onLines 0) checkedHere finding now
          · refine induction ?_ checkedRest finding later
            intro index
            have shifted := onLines (index + 1)
            rwa [List.getElem?_cons_succ, ← Nat.add_assoc, Nat.add_right_comm] at shifted

theorem maxLen_finds : maxLen.Finds context context.Locates := by
  apply Rule.atEnd_finds
  intro findings checked
  apply located_of_checkLines _ checked
  intro index
  rw [Nat.zero_add]

theorem tabWidth_pos {name : String} {options : Options}
    (accepted : Options.validate maxLen.options name options = .ok ()) :
    0 < options.integer "tab_width" 4 := by
  have value : options.integer "tab_width" 4 = 4 ∨ 0 < options.integer "tab_width" 4 :=
    Options.integer_of_validate accepted rfl
  omega

theorem tabWidth_ne_zero {name : String} {options : Options}
    (accepted : Options.validate maxLen.options name options = .ok ()) :
    options.integer "tab_width" 4 ≠ 0 :=
  Int.ne_of_gt (tabWidth_pos accepted)

theorem maximum_pos {name : String} {options : Options}
    (accepted : Options.validate maxLen.options name options = .ok ()) :
    0 < options.integer "code" 80 := by
  have value : options.integer "code" 80 = 80 ∨ 0 < options.integer "code" 80 :=
    Options.integer_of_validate accepted rfl
  omega

section Answering

/-- What counts of a line is too long under the options in force. -/
def TooLong (options : Options) (rest : List Char) : Prop :=
  options.integer "code" 80 < expandedLength rest (options.integer "tab_width" 4)

/-- What is too long of a line has a length that can be written out. -/
def WritesLine (context : RuleContext) (exceptions : Exceptions) (row : Nat)
    (line : List Char) : Prop :=
  ∀ rest, measured? context exceptions row line = some rest → TooLong context.options rest →
    expandedLength rest (context.options.integer "tab_width" 4) < digitBound

/-- The lengths of all lines that are too long can be written out. -/
def WritesOut (context : RuleContext) : Prop :=
  ∀ row line, context.source.lines[row]? = some line →
    WritesLine context (.ofSource context.source context.options) row line

theorem thousand_le_digitBound : 1000 ≤ digitBound := by
  decide +kernel

theorem written_of_lt {value : Int} (short : value.natAbs < digitBound) :
    written value = .ok (toString value) :=
  if_neg (Nat.not_le_of_lt short)

theorem measure_of_wide {width : Int} (wide : width ≠ 0) (line : List Char) :
    measure line width = .ok (expandedLength line width) := by
  rw [measure, if_neg (by simp [wide])]

variable (wide : context.options.integer "tab_width" 4 ≠ 0)
  (positive : 0 < context.options.integer "code" 80)

include wide positive

/-- A line is checked if its length can be written out.  The maximum is less than the
length, so it can be as well. -/
theorem exists_checkLine_iff :
    (∃ findings, checkLine context exceptions row line = .ok findings) ↔
      WritesLine context exceptions row line := by
  unfold checkLine WritesLine
  cases found : measured? context exceptions row line with
  | none => simp
  | some rest =>
      simp only [measure_of_wide wide, Option.some.injEq, forall_eq', TooLong]
      split
      · rename_i long
        by_cases short : expandedLength rest (context.options.integer "tab_width" 4) < digitBound
        · have maximumShort : (context.options.integer "code" 80).natAbs < digitBound := by omega
          rw [written_of_lt (by omega), written_of_lt maximumShort]
          exact iff_of_true ⟨_, rfl⟩ fun _ => short
        · have unwritten : written (expandedLength rest (context.options.integer "tab_width" 4)) =
              .error .tooManyDigits := if_pos (by omega)
          rw [unwritten]
          exact iff_of_false (by simp) fun all => short (all long)
      · rename_i notLong
        exact iff_of_true ⟨[], rfl⟩ fun long => absurd long notLong

theorem exists_checkLines_iff {lines : List (List Char)} :
    (∃ findings, checkLines context exceptions row lines = .ok findings) ↔
      ∀ index line, lines[index]? = some line →
        WritesLine context exceptions (row + index) line := by
  induction lines generalizing row with
  | nil => simp [checkLines]
  | cons line rest induction =>
      have onLine : (∃ findings, checkLine context exceptions row line = .ok findings) ↔
          WritesLine context exceptions row line := exists_checkLine_iff wide positive
      have onward : (∃ findings, checkLines context exceptions (row + 1) rest = .ok findings) ↔
          ∀ index line, rest[index]? = some line →
            WritesLine context exceptions (row + 1 + index) line := induction
      have both : (∃ findings, checkLines context exceptions row (line :: rest) = .ok findings) ↔
          (∃ findings, checkLine context exceptions row line = .ok findings) ∧
            ∃ findings, checkLines context exceptions (row + 1) rest = .ok findings := by
        rw [checkLines]
        cases checkLine context exceptions row line with
        | error fault => simp
        | ok findings =>
            cases checkLines context exceptions (row + 1) rest with
            | error fault => simp
            | ok others => simp
      rw [both, onLine, onward]
      constructor
      · rintro ⟨here, later⟩ index other listed
        cases index with
        | zero =>
            obtain rfl : line = other := by simpa using listed
            exact here
        | succ index =>
            rw [← Nat.add_assoc, Nat.add_right_comm]
            exact later index other listed
      · intro all
        refine ⟨all 0 line rfl, ?_⟩
        intro index other listed
        rw [Nat.add_right_comm]
        exact all (index + 1) other listed

theorem exists_finish_maxLen_iff (state : maxLen.State) :
    (∃ findings, maxLen.finish context state = .ok findings) ↔ WritesOut context := by
  have all : (∃ findings, checkLines context (.ofSource context.source context.options) 0
      context.source.lines = .ok findings) ↔ ∀ index line, context.source.lines[index]? =
        some line → WritesLine context (.ofSource context.source context.options) (0 + index)
          line := exists_checkLines_iff wide positive
  simp only [Nat.zero_add] at all
  exact all

end Answering

section TabStops

/-- The column that a character leads to: a tab goes on to the next multiple of the
width, and any other character takes one column. -/
def nextColumn (width column : Int) (char : Char) : Int :=
  if char = '\t' then (column / width + 1) * width else column + 1

variable {width : Int}

theorem lt_nextColumn (positive : 1 ≤ width) (column : Int) (char : Char) :
    column < nextColumn width column char := by
  unfold nextColumn
  split
  · exact Int.lt_ediv_add_one_mul_self column (by omega)
  · omega

/-- What a character adds to the number of characters and to the surplus takes their
sum to the next column. -/
theorem nextColumn_add_surplus (positive : 1 ≤ width) (index : Nat) (surplus : Int)
    (char : Char) :
    nextColumn width (index + surplus) char =
      (index + 1 : Nat) + if char = '\t' then
        surplus + (width - (index + surplus).fmod width - 1) else surplus := by
  unfold nextColumn
  split
  · have parted := Int.mul_ediv_add_emod (index + surplus) width
    rw [Int.fmod_eq_emod_of_nonneg _ (by omega), Int.add_mul, Int.one_mul,
      Int.mul_comm _ width]
    omega
  · omega

/-- Characters and surplus together are the column, from wherever the line goes on. -/
theorem length_add_surplusFrom (positive : 1 ≤ width) (index : Nat) (surplus : Int)
    (line : List Char) :
    (index + line.length : Nat) + surplusFrom width index surplus line =
      line.foldl (nextColumn width) (index + surplus) := by
  induction line generalizing index surplus with
  | nil => rfl
  | cons char rest induction =>
      rw [List.foldl_cons, nextColumn_add_surplus positive, ← induction, surplusFrom,
        List.length_cons, Nat.add_right_comm, Nat.add_assoc]

theorem add_length_le_foldl_nextColumn (positive : 1 ≤ width) (column : Int)
    (line : List Char) : column + line.length ≤ line.foldl (nextColumn width) column := by
  induction line generalizing column with
  | nil => simp
  | cons char rest induction =>
      have onward := induction (nextColumn width column char)
      have further := lt_nextColumn positive column char
      rw [List.foldl_cons, List.length_cons]
      omega

theorem expandedLength_eq_foldl (positive : 1 ≤ width) (line : List Char) :
    expandedLength line width = line.foldl (nextColumn width) 0 := by
  have summed := length_add_surplusFrom positive 0 0 line
  rw [Nat.zero_add] at summed
  rw [expandedLength, summed]
  rfl

theorem measure_eq_foldl (positive : 1 ≤ width) (line : List Char) :
    measure line width = .ok (line.foldl (nextColumn width) 0) := by
  rw [measure_of_wide (by omega), expandedLength_eq_foldl positive]

/-- Under a positive width a line is as long as the column in which it ends.  This is
at least its number of characters, and each further character makes it longer. -/
theorem measure_reaches_column (positive : 1 ≤ width) (line : List Char) :
    ∃ length, measure line width = .ok length ∧
      length = line.foldl (nextColumn width) 0 ∧ line.length ≤ length ∧
      ∀ char, ∃ longer, measure (line ++ [char]) width = .ok longer ∧ length < longer := by
  refine ⟨_, measure_eq_foldl positive line, rfl, ?_, ?_⟩
  · simpa using add_length_le_foldl_nextColumn positive 0 line
  · intro char
    refine ⟨_, measure_eq_foldl positive (line ++ [char]), ?_⟩
    rw [List.foldl_append]
    exact lt_nextColumn positive _ char

/-- A tab that starts right at a stop takes the whole width. -/
theorem measure_reaches_column_twoTabs :
    (1 : Int) ≤ 4 ∧ ['a', '\t', '\t', 'b'].foldl (nextColumn 4) 0 = 9 ∧
    ∃ length, measure ['a', '\t', '\t', 'b'] 4 = .ok length ∧
      length = ['a', '\t', '\t', 'b'].foldl (nextColumn 4) 0 ∧
      (['a', '\t', '\t', 'b'].length : Int) ≤ length ∧
      ∀ char, ∃ longer,
        measure (['a', '\t', '\t', 'b'] ++ [char]) 4 = .ok longer ∧ length < longer :=
  ⟨by decide, by decide, measure_reaches_column (by decide) _⟩

/-- No character takes more than the width of a tab. -/
theorem foldl_nextColumn_le (positive : 1 ≤ width) (column : Int) (line : List Char) :
    line.foldl (nextColumn width) column ≤ column + line.length * width := by
  induction line generalizing column with
  | nil => simp
  | cons char rest induction =>
      have onward := induction (nextColumn width column char)
      have step : nextColumn width column char ≤ column + width := by
        unfold nextColumn
        split
        · rw [Int.add_mul, Int.one_mul]
          exact Int.add_le_add_right (Int.ediv_mul_le column (by omega)) width
        · omega
      rw [List.foldl_cons, List.length_cons, Int.natCast_succ, Int.add_mul, Int.one_mul]
      omega

/-- The lengths of lines can be written out if no line would be too long for it with a tab
for each of its characters. -/
theorem writesOut_of_short (positive : 1 ≤ context.options.integer "tab_width" 4)
    (short : ∀ line ∈ context.source.lines,
      line.length * context.options.integer "tab_width" 4 < digitBound) :
    WritesOut context := by
  intro row line onLine rest found _
  have fewer : (rest.length : Int) ≤ line.length :=
    Int.ofNat_le.mpr (length_measured_le found)
  have within := short line (List.mem_of_getElem? onLine)
  rw [expandedLength_eq_foldl positive]
  calc rest.foldl (nextColumn (context.options.integer "tab_width" 4)) 0
      ≤ 0 + rest.length * context.options.integer "tab_width" 4 :=
        foldl_nextColumn_le positive 0 rest
    _ = rest.length * context.options.integer "tab_width" 4 := Int.zero_add _
    _ ≤ line.length * context.options.integer "tab_width" 4 :=
        Int.mul_le_mul_of_nonneg_right fewer (by omega)
    _ < digitBound := within

end TabStops

end LineLength

end ScriptLint
