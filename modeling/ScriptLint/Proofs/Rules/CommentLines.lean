import ScriptLint.Proofs.Engine.Reports
import ScriptLint.Proofs.Rules.LineLength
import ScriptLint.Proofs.Source.Position

/-!
# Long lines of comments

A line is told to be too long if what is measured of it is.  Where comments do not count,
one comment decides about a line: the last that touches it.  If it holds all visible
characters, the line is left out.  If it ends the line, what comes before it is measured,
which may be nothing but other comments.  So of the lines that hold only comments those with
a single one are never told.
-/

namespace ScriptLint

theorem RuleContext.exists_message_line_iff {context : RuleContext} {findings : List Finding}
    {messages : List Message} (told : context.messages findings = .ok messages)
    (number : Int) :
    (∃ message ∈ messages, message.line = number) ↔
      ∃ finding ∈ findings, finding.start.map (·.line) = some number := by
  have all := messages_eq_ok_iff.mp told
  clear told
  induction all with
  | nil => simp
  | cons placed _ induction =>
      obtain ⟨start, starts, -, onLine, -⟩ := of_message_eq_ok placed
      rw [List.exists_mem_cons_iff, List.exists_mem_cons_iff, starts, onLine, Option.map_some,
        Option.some.injEq]
      exact or_congr_right induction

namespace LineLength

/-! ## Visible characters -/

/-- A character that is no blank stands in a column of a line, where columns count from
zero. -/
def Visible (text : List Char) (column : Nat) : Prop :=
  ∃ char, text[column]? = some char ∧ Text.isBlank char = false

section Visible

variable {line : List Char}

theorem allBlank_iff : Text.allBlank line = true ↔ ∀ column, ¬Visible line column := by
  rw [Text.allBlank, List.all_eq_true]
  constructor
  · rintro blank column ⟨char, stands, visible⟩
    simp [blank char (List.mem_of_getElem? stands)] at visible
  · intro blank char member
    obtain ⟨column, stands⟩ := List.getElem?_of_mem member
    by_contra visible
    exact blank column ⟨char, stands, by simpa using visible⟩

theorem Visible.lt_length {column : Nat} (visible : Visible line column) :
    column < line.length := by
  obtain ⟨char, stands, -⟩ := visible
  exact (List.getElem?_eq_some_iff.mp stands).1

theorem visible_take_iff {count column : Nat} :
    Visible (line.take count) column ↔ column < count ∧ Visible line column := by
  by_cases before : column < count
  · rw [Visible, List.getElem?_take_of_lt before]
    exact (and_iff_right before).symm
  · rw [Visible, List.getElem?_take_eq_none (Nat.le_of_not_lt before)]
    simp [before]

theorem visible_drop_iff {count column : Nat} :
    Visible (line.drop count) column ↔ Visible line (count + column) := by
  simp [Visible]

theorem allBlank_sliceTo_iff {stop : Int} (positive : 0 ≤ stop) :
    Text.allBlank (Text.sliceTo line stop) = true ↔
      ∀ column : Nat, Visible line column → stop ≤ column := by
  rw [allBlank_iff, Text.sliceTo, Text.clamp, if_neg (by omega)]
  constructor
  · intro blank column visible
    have within := visible.lt_length
    by_contra before
    exact blank column (visible_take_iff.mpr ⟨by omega, visible⟩)
  · intro behind column visible
    obtain ⟨before, onLine⟩ := visible_take_iff.mp visible
    have after := behind column onLine
    omega

theorem allBlank_sliceFrom_iff {start : Int} (positive : 0 ≤ start) :
    Text.allBlank (Text.sliceFrom line start) = true ↔
      ∀ column : Nat, Visible line column → column < start := by
  rw [allBlank_iff, Text.sliceFrom, Text.clamp, if_neg (by omega)]
  constructor
  · intro blank column visible
    have within := visible.lt_length
    by_contra behind
    refine blank (column - min start.toNat line.length) (visible_drop_iff.mpr ?_)
    rwa [Nat.add_sub_cancel' (by omega)]
  · intro before column visible
    have onLine := visible_drop_iff.mp visible
    have within := onLine.lt_length
    have starts := before _ onLine
    omega

end Visible

/-! ## Comments on a line -/

namespace Extent

def Holds (extent : Extent) (position : Position) : Prop :=
  extent.start.NotAfter position ∧ ¬extent.stop.NotAfter position

/-- All visible characters of a line lie in an extent. -/
def HoldsLine (extent : Extent) (number : Int) (line : List Char) : Prop :=
  ∀ column : Nat, Visible line column → extent.Holds ⟨number, column + 1⟩

/-- An extent starts on a line, and no visible character comes after it. -/
def EndsLine (extent : Extent) (number : Int) (line : List Char) : Prop :=
  extent.start.line = number ∧
    ∀ column : Nat, Visible line column → ¬extent.stop.NotAfter ⟨number, column + 1⟩

/-- What counts of a line beside an extent: the text before it if it ends the line, or else
the whole line. -/
def Leaves (extent : Extent) (number : Int) (line rest : List Char) : Prop :=
  extent.EndsLine number line ∧
      rest = Text.trimEnd (Text.sliceTo line (extent.start.column - 1)) ∨
    ¬extent.EndsLine number line ∧ rest = line

variable {extent : Extent} {number : Int} {line rest : List Char}

theorem touches_of_holds {column : Int} (holds : extent.Holds ⟨number, column⟩) :
    extent.touches number = true := by
  obtain ⟨starts, stops⟩ := holds
  simp only [Position.NotAfter] at starts stops
  simp only [touches, Bool.and_eq_true, decide_eq_true_eq]
  omega

theorem startsBefore_iff (line : List Char) (touches : extent.touches number = true)
    (positive : 0 < extent.start.column) :
    (decide (extent.start.line < number) ||
        Text.allBlank (Text.sliceTo line (extent.start.column - 1))) = true ↔
      ∀ column : Nat, Visible line column → extent.start.NotAfter ⟨number, column + 1⟩ := by
  simp only [Extent.touches, Bool.and_eq_true, decide_eq_true_eq] at touches
  rw [Bool.or_eq_true, decide_eq_true_eq, allBlank_sliceTo_iff (by omega)]
  simp only [Position.NotAfter]
  constructor
  · rintro (above | behind) column visible
    · exact Or.inl above
    · have starts := behind column visible
      omega
  · intro before
    by_cases above : extent.start.line < number
    · exact Or.inl above
    · refine Or.inr fun column visible => ?_
      have starts := before column visible
      omega

theorem endsAfter_iff (line : List Char) (touches : extent.touches number = true)
    (positive : 0 < extent.stop.column) :
    (decide (number < extent.stop.line) ||
        Text.allBlank (Text.sliceFrom line (extent.stop.column - 1))) = true ↔
      ∀ column : Nat, Visible line column → ¬extent.stop.NotAfter ⟨number, column + 1⟩ := by
  simp only [Extent.touches, Bool.and_eq_true, decide_eq_true_eq] at touches
  rw [Bool.or_eq_true, decide_eq_true_eq, allBlank_sliceFrom_iff (by omega)]
  simp only [Position.NotAfter]
  constructor
  · rintro (below | before) column visible
    · omega
    · have stops := before column visible
      omega
  · intro after
    by_cases below : number < extent.stop.line
    · exact Or.inl below
    · refine Or.inr fun column visible => ?_
      have stops := after column visible
      omega

theorem besideComment?_eq_some_iff (touches : extent.touches number = true)
    (starts : 0 < extent.start.column) (stops : 0 < extent.stop.column) :
    besideComment? number line extent = some rest ↔
      ¬extent.HoldsLine number line ∧ extent.Leaves number line rest := by
  have before := startsBefore_iff line touches starts
  have after := endsAfter_iff line touches stops
  have holds : extent.HoldsLine number line ↔
      (∀ column : Nat, Visible line column → extent.start.NotAfter ⟨number, column + 1⟩) ∧
      ∀ column : Nat, Visible line column → ¬extent.stop.NotAfter ⟨number, column + 1⟩ := by
    simp only [HoldsLine, Holds, ← forall_and]
  rw [holds, Leaves, EndsLine, ← before, ← after, besideComment?]
  split
  · rename_i both
    simp_all
  · rename_i notBoth
    rw [Bool.and_eq_true] at notBoth
    split
    · rename_i ends
      rw [Bool.and_eq_true, decide_eq_true_eq] at ends
      rw [Option.some.injEq]
      constructor
      · intro same
        exact ⟨notBoth, Or.inl ⟨ends, same.symm⟩⟩
      · rintro ⟨-, ⟨-, rfl⟩ | ⟨noEnd, -⟩⟩
        · rfl
        · exact absurd ends noEnd
    · rename_i noEnd
      rw [Bool.and_eq_true, decide_eq_true_eq] at noEnd
      rw [Option.some.injEq]
      constructor
      · intro same
        exact ⟨notBoth, Or.inr ⟨noEnd, same.symm⟩⟩
      · rintro ⟨-, ⟨ends, -⟩ | ⟨-, rfl⟩⟩
        · exact absurd ends noEnd
        · rfl

end Extent

/-- Where the comments lie, in document order. -/
def comments (source : Source) : List Extent :=
  extents source (·.kind = "comment") source.walk

/-- The comments that touch a line, in document order. -/
def commentsOn (source : Source) (number : Int) : List Extent :=
  (comments source).filter (·.touches number)

/-- All visible characters of a line lie in comments. -/
def IsCommentLine (source : Source) (number : Int) (line : List Char) : Prop :=
  ∀ column : Nat, Visible line column →
    ∃ comment ∈ comments source, comment.Holds ⟨number, column + 1⟩

section Comments

variable {source : Source} {number : Int} {comment : Extent}

theorem mem_commentsOn_of_holds {column : Int} (member : comment ∈ comments source)
    (holds : comment.Holds ⟨number, column⟩) : comment ∈ commentsOn source number :=
  List.mem_filter.mpr ⟨member, Extent.touches_of_holds holds⟩

theorem besideComment?_of_mem {line rest : List Char}
    (member : comment ∈ commentsOn source number) :
    besideComment? number line comment = some rest ↔
      ¬comment.HoldsLine number line ∧ comment.Leaves number line rest := by
  obtain ⟨listed, touches⟩ := List.mem_filter.mp member
  obtain ⟨place, -, rfl⟩ := List.mem_map.mp listed
  exact Extent.besideComment?_eq_some_iff touches (Int.natCast_succ_pos _)
    (Int.natCast_succ_pos _)

end Comments

/-! ## What is told -/

/-- A line is checked, no node that is left out touches it, and it is not left out for an
address. -/
structure Counts (source : Source) (options : Options) (row : Nat) (line : List Char) :
    Prop where
  linted : source.isLinted row = true
  kept : ∀ extent ∈ (Exceptions.ofSource source options).exempt,
    extent.touches (row + 1) = false
  plain : options.flag "ignore_urls" = true → hasAddress line = false

section Checks

variable {context : RuleContext} {exceptions : Exceptions} {row : Nat} {line : List Char}

/-- What of a line is measured is too long. -/
def IsLong (context : RuleContext) (exceptions : Exceptions) (row : Nat) (line : List Char) :
    Prop :=
  ∃ rest, measured? context exceptions row line = some rest ∧ TooLong context.options rest

theorem start_checkLine_iff {findings : List Finding}
    (wide : context.options.integer "tab_width" 4 ≠ 0)
    (checked : checkLine context exceptions row line = .ok findings) (number : Int) :
    (∃ finding ∈ findings, finding.start.map (·.line) = some number) ↔
      number = row + 1 ∧ IsLong context exceptions row line := by
  unfold checkLine at checked
  unfold IsLong
  cases found : measured? context exceptions row line with
  | none =>
      rw [found] at checked
      rw [← Except.ok.inj checked]
      simp
  | some rest =>
      rw [found] at checked
      dsimp only at checked
      rw [measure, if_neg (by simp [wide])] at checked
      dsimp only at checked
      split at checked
      · rename_i long
        split at checked
        · simp at checked
        · split at checked
          · simp at checked
          · rw [← Except.ok.inj checked]
            simp [RuleContext.between, TooLong, long, eq_comm]
      · rename_i short
        rw [← Except.ok.inj checked]
        simp [TooLong, short]

theorem start_checkLines_iff {lines : List (List Char)} {findings : List Finding}
    (wide : context.options.integer "tab_width" 4 ≠ 0)
    (checked : checkLines context exceptions row lines = .ok findings) (number : Int) :
    (∃ finding ∈ findings, finding.start.map (·.line) = some number) ↔
      ∃ index line, lines[index]? = some line ∧ number = ((row + index : Nat) : Int) + 1 ∧
        IsLong context exceptions (row + index) line := by
  induction lines generalizing row findings with
  | nil =>
      rw [← Except.ok.inj checked]
      simp
  | cons line rest induction =>
      unfold checkLines at checked
      split at checked
      · simp at checked
      · rename_i here checkedHere
        split at checked
        · simp at checked
        · rename_i others checkedRest
          rw [← Except.ok.inj checked]
          have onLine := start_checkLine_iff wide checkedHere number
          have later := induction checkedRest
          constructor
          · rintro ⟨finding, member, starts⟩
            rcases List.mem_append.mp member with now | after
            · exact ⟨0, line, rfl, onLine.mp ⟨finding, now, starts⟩⟩
            · obtain ⟨index, other, listed, numbered, long⟩ :=
                later.mp ⟨finding, after, starts⟩
              rw [Nat.add_right_comm] at numbered long
              exact ⟨index + 1, other, listed, numbered, long⟩
          · rintro ⟨index, other, listed, numbered, long⟩
            cases index with
            | zero =>
                obtain rfl : line = other := by simpa using listed
                obtain ⟨finding, now, starts⟩ := onLine.mpr ⟨numbered, long⟩
                exact ⟨finding, List.mem_append_left _ now, starts⟩
            | succ index =>
                rw [← Nat.add_assoc, Nat.add_right_comm] at numbered long
                obtain ⟨finding, after, starts⟩ :=
                  later.mpr ⟨index, other, listed, numbered, long⟩
                exact ⟨finding, List.mem_append_right _ after, starts⟩

end Checks

section CommentLines

variable {source : Source} {options : Options} {row : Nat} {line : List Char}

theorem counts_iff :
    Counts source options row line ↔
      ¬(!source.isLinted row || (Exceptions.ofSource source options).exempt.any
          (·.touches (row + 1))) = true ∧
        ¬(options.flag "ignore_urls" && hasAddress line) = true := by
  simp only [Bool.or_eq_true, not_or, Bool.not_eq_true', Bool.not_eq_false, List.any_eq_true,
    not_exists, not_and, Bool.and_eq_true, Bool.not_eq_true]
  constructor
  · rintro ⟨linted, kept, plain⟩
    exact ⟨⟨linted, kept⟩, plain⟩
  · rintro ⟨⟨linted, kept⟩, plain⟩
    exact ⟨linted, kept, plain⟩

theorem measured?_eq_some_iff {name : String} {severity : Int} {fixable : Bool}
    {rest : List Char} (ignoring : options.flag "ignore_comments" = true) :
    measured? ⟨name, severity, options, source, fixable⟩ (.ofSource source options) row line =
        some rest ↔
      Counts source options row line ∧
        (commentsOn source (row + 1) = [] ∧ rest = line ∨
          ∃ last, (commentsOn source (row + 1)).getLast? = some last ∧
            ¬last.HoldsLine (row + 1) line ∧ last.Leaves (row + 1) line rest) := by
  have lastComment : (Exceptions.ofSource source options).commentOn? (row + 1) =
      (commentsOn source (row + 1)).getLast? := rfl
  rw [counts_iff, measured?]
  dsimp only
  rw [if_pos ignoring, lastComment]
  split
  · rename_i left
    simp [left]
  · rename_i notLeft
    split
    · rename_i address
      simp [address]
    · rename_i noAddress
      cases last : (commentsOn source (row + 1)).getLast? with
      | none =>
          have empty := List.getLast?_eq_none_iff.mp last
          simp [notLeft, noAddress, empty, eq_comm]
      | some comment =>
          have member := List.mem_of_getLast? last
          have nonempty : commentsOn source (row + 1) ≠ [] := List.ne_nil_of_mem member
          dsimp only
          rw [besideComment?_of_mem member]
          simp [notLeft, noAddress, nonempty]

theorem exists_other_comment {last : Extent} (isComment : IsCommentLine source (row + 1) line)
    (misses : ¬last.HoldsLine (row + 1) line) :
    ∃ other ∈ commentsOn source (row + 1), ∃ column : Nat, Visible line column ∧
      other.Holds ⟨row + 1, column + 1⟩ ∧ ¬last.Holds ⟨row + 1, column + 1⟩ := by
  simp only [Extent.HoldsLine, not_forall] at misses
  obtain ⟨column, visible, outside⟩ := misses
  obtain ⟨comment, member, holds⟩ := isComment column visible
  exact ⟨comment, mem_commentsOn_of_holds member holds, column, visible, holds, outside⟩

theorem allBlank_of_commentsOn_eq_nil (isComment : IsCommentLine source (row + 1) line)
    (empty : commentsOn source (row + 1) = []) : Text.allBlank line = true := by
  rw [allBlank_iff]
  intro column visible
  obtain ⟨comment, member, holds⟩ := isComment column visible
  have touching := mem_commentsOn_of_holds member holds
  simp [empty] at touching

/-- The last comment on a line leaves out a visible character of another comment, and what
counts beside it is too long. -/
def LeftLong (source : Source) (options : Options) (row : Nat) (line : List Char) : Prop :=
  ∃ last other rest, (commentsOn source (row + 1)).getLast? = some last ∧
    other ∈ commentsOn source (row + 1) ∧
    (∃ column : Nat, Visible line column ∧
      other.Holds ⟨row + 1, column + 1⟩ ∧ ¬last.Holds ⟨row + 1, column + 1⟩) ∧
    last.Leaves (row + 1) line rest ∧ TooLong options rest

theorem isLong_iff_of_commentLine {name : String} {severity : Int} {fixable : Bool}
    (ignoring : options.flag "ignore_comments" = true)
    (isComment : IsCommentLine source (row + 1) line) :
    IsLong ⟨name, severity, options, source, fixable⟩ (.ofSource source options) row line ↔
      Counts source options row line ∧
        (commentsOn source (row + 1) = [] ∧ Text.allBlank line = true ∧ TooLong options line ∨
          LeftLong source options row line) := by
  simp only [IsLong, measured?_eq_some_iff ignoring]
  constructor
  · rintro ⟨rest, ⟨counts, ⟨empty, rfl⟩ | ⟨last, isLast, misses, leaves⟩⟩, long⟩
    · exact ⟨counts, Or.inl ⟨empty, allBlank_of_commentsOn_eq_nil isComment empty, long⟩⟩
    · obtain ⟨other, member, between⟩ := exists_other_comment isComment misses
      exact ⟨counts, Or.inr ⟨last, other, rest, isLast, member, between, leaves, long⟩⟩
  · rintro ⟨counts, ⟨empty, -, long⟩ |
      ⟨last, other, rest, isLast, -, ⟨column, visible, -, outside⟩, leaves, long⟩⟩
    · exact ⟨line, ⟨counts, Or.inl ⟨empty, rfl⟩⟩, long⟩
    · exact ⟨rest, ⟨counts, Or.inr ⟨last, isLast,
        fun holds => outside (holds column visible), leaves⟩⟩, long⟩

theorem not_leftLong_of_length_eq_one (single : (commentsOn source (row + 1)).length = 1) :
    ¬LeftLong source options row line := by
  rintro ⟨last, other, rest, isLast, member, ⟨column, -, inside, outside⟩, -⟩
  obtain ⟨only, isOnly⟩ := List.length_eq_one_iff.mp single
  rw [isOnly, List.mem_singleton] at member
  rw [isOnly, List.getLast?_singleton, Option.some.injEq] at isLast
  rw [member, isLast] at inside
  exact outside inside

end CommentLines

/-- A message tells that a line is too long. -/
def Told (result : LintResult) (row : Nat) : Prop :=
  ∃ message ∈ result.messages, message.rule = some "max-len" ∧ message.line = row + 1

section Told

variable {parse : Parser} {path : String} {text : List Char} {source : Source}
  {setting : RuleSetting} {level : Level}

theorem mem_messages_iff {result : LintResult} {messages : List Message} {rule : String}
    (own : result.messages.filter (·.rule = some rule) = Message.inOrder messages)
    {message : Message} :
    message ∈ messages ↔ message ∈ result.messages ∧ message.rule = some rule := by
  rw [← Message.mem_inOrder, ← own, List.mem_filter, decide_eq_true_eq]

/-- A pass of the rule that is not stopped by a length tells of the lines of which too much
is measured. -/
theorem exists_run_maxLen
    (accepted : setting.validate RuleBook.standard "max-len" = .ok ())
    (isLevel : setting.severity.level? = some level) (on : level ≠ .off)
    (writes : WritesOut ⟨"max-len", level.number, setting.options, source, false⟩) :
    ∃ messages,
      Pass.run [.ofRule ⟨"max-len", level.number, setting.options, source, false⟩ maxLen]
          source.root = .ok messages ∧
      ∀ (row : Nat) (line : List Char), source.lines[row]? = some line →
        ((∃ message ∈ messages, message.line = row + 1) ↔
          IsLong ⟨"max-len", level.number, setting.options, source, false⟩
            (.ofSource source setting.options) row line) := by
  have known : RuleBook.standard.rule? "max-len" = some maxLen := rfl
  have validated := RuleSetting.validate_options accepted known isLevel on
  have wide := tabWidth_ne_zero validated
  obtain ⟨findings, found⟩ : ∃ findings,
      checkLines ⟨"max-len", level.number, setting.options, source, false⟩
        (.ofSource source setting.options) 0 source.lines = .ok findings :=
    (exists_finish_maxLen_iff wide (maximum_pos validated) ()).mpr writes
  obtain ⟨messages, told⟩ : ∃ messages, RuleContext.messages
      ⟨"max-len", level.number, setting.options, source, false⟩ findings = .ok messages := by
    apply RuleContext.exists_messages
    intro finding member
    refine (located_of_checkLines ?_ found finding member).exists_message
    intro index
    rw [Nat.zero_add]
  refine ⟨messages, Reports.run_atEnd found told, ?_⟩
  intro row line onLine
  rw [RuleContext.exists_message_line_iff told, start_checkLines_iff wide found]
  constructor
  · rintro ⟨index, other, listed, numbered, long⟩
    obtain rfl : row = 0 + index := by omega
    rw [Nat.zero_add] at onLine
    obtain rfl := Option.some.inj (onLine.symm.trans listed)
    exact long
  · intro long
    refine ⟨row, line, onLine, ?_⟩
    rw [Nat.zero_add]
    exact ⟨rfl, long⟩

/-- In a text that was checked, the lengths of all lines that are too long can be written
out. -/
theorem writesOut_of_lintText {config : RuleConfig} {result : LintResult}
    (clean : (Source.ofText parse (Path.ofString path) text).problem? = none)
    (accepted : setting.validate RuleBook.standard "max-len" = .ok ())
    (isLevel : setting.severity.level? = some level) (on : level ≠ .off)
    (member : ("max-len", setting) ∈ config)
    (success : lintText parse RuleBook.standard config path text = .ok result) :
    WritesOut ⟨"max-len", level.number, setting.options,
      Source.ofText parse (Path.ofString path) text, false⟩ := by
  have known : RuleBook.standard.rule? "max-len" = some maxLen := rfl
  have validated := RuleSetting.validate_options accepted known isLevel on
  obtain ⟨-, last, finishes⟩ := of_lintText known clean member isLevel on success
  exact (exists_finish_maxLen_iff (tabWidth_ne_zero validated) (maximum_pos validated) last).mp
    finishes

/-- The rule alone goes through if and only if the text cannot be parsed or all lengths can
be written out. -/
theorem exists_lintText_maxLen_iff (parse : Parser) (path : String) (text : List Char)
    (accepted : setting.validate RuleBook.standard "max-len" = .ok ())
    (isLevel : setting.severity.level? = some level) (on : level ≠ .off) :
    (∃ result,
      lintText parse RuleBook.standard [("max-len", setting)] path text = .ok result) ↔
    ((Source.ofText parse (Path.ofString path) text).problem? = none →
      WritesOut ⟨"max-len", level.number, setting.options,
        Source.ofText parse (Path.ofString path) text, false⟩) := by
  constructor
  · rintro ⟨result, success⟩ clean
    exact writesOut_of_lintText clean accepted isLevel on List.mem_cons_self success
  · intro writes
    cases found : (Source.ofText parse (Path.ofString path) text).problem? with
    | none =>
        have validated := RuleSetting.validate_options accepted rfl isLevel on
        obtain ⟨messages, ran, -⟩ := exists_run_maxLen accepted isLevel on (writes found)
        exact ⟨_, lintText_singleton rfl validated isLevel on found ran⟩
    | some problem =>
        have validated : RuleConfig.validate RuleBook.standard [("max-len", setting)] =
            .ok () := by
          rw [RuleConfig.validate_eq_ok_iff]
          intro name other member
          obtain ⟨rfl, rfl⟩ : name = "max-len" ∧ other = setting := by simpa using member
          exact accepted
        exact ⟨_, lintText_eq_ok_iff.mpr ⟨validated, Source.lint_of_problem found⟩⟩

variable {config : RuleConfig} {result : LintResult} {row : Nat} {line : List Char}

/-- Lines of a text that can be parsed are told if too much of them is measured. -/
theorem told_iff_isLong (clean : (Source.ofText parse (Path.ofString path) text).problem? = none)
    (accepted : setting.validate RuleBook.standard "max-len" = .ok ())
    (isLevel : setting.severity.level? = some level) (on : level ≠ .off)
    (distinct : (config.map (·.1)).Nodup) (member : ("max-len", setting) ∈ config)
    (success : lintText parse RuleBook.standard config path text = .ok result)
    (onLine : (Source.ofText parse (Path.ofString path) text).lines[row]? = some line) :
    Told result row ↔
      IsLong ⟨"max-len", level.number, setting.options,
          Source.ofText parse (Path.ofString path) text, false⟩
        (.ofSource (Source.ofText parse (Path.ofString path) text) setting.options) row line := by
  have writes := writesOut_of_lintText clean accepted isLevel on member success
  obtain ⟨messages, ran, tells⟩ := exists_run_maxLen accepted isLevel on writes
  have own := filter_lintText_of_run rfl clean distinct member isLevel on success ran
  rw [← tells row line onLine]
  simp only [Told, ← and_assoc, ← mem_messages_iff own]

/-- Of a text that cannot be parsed, no line is told to be too long. -/
theorem not_told_of_problem {problem : Problem}
    (found : (Source.ofText parse (Path.ofString path) text).problem? = some problem)
    (success : lintText parse RuleBook.standard config path text = .ok result) :
    ¬Told result row := by
  obtain ⟨-, linted⟩ := lintText_eq_ok_iff.mp success
  rw [Source.lint_of_problem found, Except.ok.injEq] at linted
  rintro ⟨message, member, named, -⟩
  rw [← linted, List.mem_singleton] at member
  have unnamed : (problem.message (Source.ofText parse (Path.ofString path) text)).rule = none :=
    rfl
  rw [member, unnamed] at named
  simp at named

/-- The rule alone fails only where a length cannot be written out.  Of the lines of
comments, those with a single comment are never told to be too long.  Others are told if the text can be parsed, they count, and either they are blank and too
long, or the last comment leaves out a character of another one and what counts beside it
is too long. -/
theorem lintText_commentLine
    (sourced : Source.ofText parse (Path.ofString path) text = source)
    (accepted : setting.validate RuleBook.standard "max-len" = .ok ())
    (isLevel : setting.severity.level? = some level) (on : level ≠ .off)
    (ignoring : setting.options.flag "ignore_comments" = true) :
    ((∃ result,
      lintText parse RuleBook.standard [("max-len", setting)] path text = .ok result) ↔
        (source.problem? = none →
          WritesOut ⟨"max-len", level.number, setting.options, source, false⟩)) ∧
    ∀ (config : RuleConfig) (result : LintResult) (row : Nat) (line : List Char),
      (config.map (·.1)).Nodup → ("max-len", setting) ∈ config →
      lintText parse RuleBook.standard config path text = .ok result →
      source.lines[row]? = some line → IsCommentLine source (row + 1) line →
        ((commentsOn source (row + 1)).length = 1 → ¬Told result row) ∧
        (Told result row ↔
          source.problem? = none ∧ Counts source setting.options row line ∧
            (commentsOn source (row + 1) = [] ∧ Text.allBlank line = true ∧
                TooLong setting.options line ∨
              LeftLong source setting.options row line)) := by
  subst sourced
  refine ⟨exists_lintText_maxLen_iff parse path text accepted isLevel on, ?_⟩
  intro config result row line distinct member success onLine isComment
  cases found : (Source.ofText parse (Path.ofString path) text).problem? with
  | some problem =>
      have untold : ¬Told result row := not_told_of_problem found success
      simp [untold]
  | none =>
      have told := told_iff_isLong found accepted isLevel on distinct member success onLine
      rw [isLong_iff_of_commentLine ignoring isComment] at told
      refine ⟨?_, told.trans (and_iff_right rfl).symm⟩
      intro single reported
      obtain ⟨-, ⟨empty, -⟩ | left⟩ := told.mp reported
      · rw [empty] at single
        simp at single
      · exact not_leftLong_of_length_eq_one single left

end Told

/-- The tree of two lines, of which the first has two comments and the second has one. -/
def threeComments : Node :=
  ⟨"program", true, false, false, 0, 15, none,
    [⟨"comment", true, false, false, 0, 4, none, []⟩,
      ⟨"comment", true, false, false, 4, 8, none, []⟩,
      ⟨"comment", true, false, false, 9, 15, none, []⟩]⟩

/-- A setting that allows for three characters beside comments. -/
def threeAllowed : RuleSetting :=
  ⟨.text "error", [("code", .int 3), ("ignore_comments", .bool true)]⟩

def commented : Source :=
  .ofText (fun _ _ => threeComments) (Path.ofString "a.js") "/**//**/\n/*ab*/".toList

theorem comments_commented :
    comments commented = [⟨⟨1, 1⟩, ⟨1, 5⟩⟩, ⟨⟨1, 5⟩, ⟨1, 9⟩⟩, ⟨⟨2, 1⟩, ⟨2, 7⟩⟩] := by
  decide +kernel

theorem isCommentLine_commented :
    IsCommentLine commented 1 "/**//**/".toList ∧ IsCommentLine commented 2 "/*ab*/".toList := by
  simp only [IsCommentLine, comments_commented, List.exists_mem_cons_iff, List.not_mem_nil,
    false_and, exists_false, true_and, Extent.Holds, Position.NotAfter]
  constructor
  · intro column visible
    have within : column < 8 := visible.lt_length
    omega
  · intro column visible
    have within : column < 6 := visible.lt_length
    omega

theorem writesOut_commented :
    WritesOut ⟨"max-len", Level.error.number, threeAllowed.options, commented, false⟩ := by
  apply writesOut_of_short
  · decide
  · have lines : commented.lines = ["/**//**/".toList, "/*ab*/".toList] := rfl
    have wide : threeAllowed.options.integer "tab_width" 4 = 4 := rfl
    have bound := thousand_le_digitBound
    rw [lines, wide]
    intro line member
    rcases List.mem_cons.mp member with rfl | later
    · exact Int.lt_of_lt_of_le (by decide) (Int.ofNat_le.mpr bound)
    · rw [List.mem_singleton.mp later]
      exact Int.lt_of_lt_of_le (by decide) (Int.ofNat_le.mpr bound)

theorem lintText_commentLine_commented :
    ∃ result, lintText (fun _ _ => threeComments) RuleBook.standard
        [("max-len", threeAllowed)] "a.js" "/**//**/\n/*ab*/".toList = .ok result ∧
      Told result 0 ∧ (commentsOn commented 2).length = 1 ∧ ¬Told result 1 := by
  have sourced : Source.ofText (fun _ _ => threeComments) (Path.ofString "a.js")
      "/**//**/\n/*ab*/".toList = commented := rfl
  have clean : commented.problem? = none := rfl
  have accepted : threeAllowed.validate RuleBook.standard "max-len" = .ok () := rfl
  have isLevel : threeAllowed.severity.level? = some .error := rfl
  obtain ⟨checks, tells⟩ := lintText_commentLine sourced accepted isLevel (by decide) rfl
  obtain ⟨result, success⟩ := checks.mpr fun _ => writesOut_commented
  have onFirst : commentsOn commented 1 = [⟨⟨1, 1⟩, ⟨1, 5⟩⟩, ⟨⟨1, 5⟩, ⟨1, 9⟩⟩] := by
    rw [commentsOn, comments_commented]
    decide
  have single : (commentsOn commented 2).length = 1 := by
    rw [commentsOn, comments_commented]
    decide
  have counts : Counts commented threeAllowed.options 0 "/**//**/".toList := by
    have none : (Exceptions.ofSource commented threeAllowed.options).exempt = [] := by
      decide +kernel
    exact ⟨rfl, by simp [none], by decide⟩
  have left : LeftLong commented threeAllowed.options 0 "/**//**/".toList := by
    refine ⟨⟨⟨1, 5⟩, ⟨1, 9⟩⟩, ⟨⟨1, 1⟩, ⟨1, 5⟩⟩, "/**/".toList, ?_, ?_, ?_, Or.inl ⟨?_, ?_⟩, ?_⟩
    · exact (congrArg List.getLast? onFirst).trans rfl
    · exact onFirst ▸ List.mem_cons_self
    · refine ⟨0, ⟨'/', rfl, by decide⟩, ?_⟩
      simp [Extent.Holds, Position.NotAfter]
    · refine ⟨rfl, ?_⟩
      intro column visible
      have within : column < 8 := visible.lt_length
      simp only [Position.NotAfter]
      omega
    · decide
    · unfold TooLong
      decide
  have distinct : ([("max-len", threeAllowed)].map (·.1)).Nodup := by decide
  have first := tells _ result 0 _ distinct List.mem_cons_self success rfl
    isCommentLine_commented.1
  have second := tells _ result 1 _ distinct List.mem_cons_self success rfl
    isCommentLine_commented.2
  exact ⟨result, success, first.2.mpr ⟨clean, counts, Or.inr left⟩, single, second.1 single⟩

/-- A line of two comments is told to be too long. -/
theorem told_two_comments :
    IsCommentLine commented 1 "/**//**/".toList ∧
      ∃ result, lintText (fun _ _ => threeComments) RuleBook.standard
          [("max-len", threeAllowed)] "a.js" "/**//**/\n/*ab*/".toList = .ok result ∧
        Told result 0 := by
  have known : RuleBook.standard.rule? "max-len" = some maxLen := rfl
  have accepted : Options.validate maxLen.options "max-len" threeAllowed.options = .ok () := rfl
  have isLevel : threeAllowed.severity.level? = some .error := rfl
  have clean : commented.problem? = none := rfl
  have ran : Pass.run [.ofRule ⟨"max-len", Level.error.number, threeAllowed.options, commented,
      maxLen.fixable⟩ maxLen] commented.root =
        .ok [⟨some "max-len", 2, "This line has a length of 4. Maximum allowed is 3.", 1, 1,
          some 1, some 5, none, false⟩] := by
    decide +kernel
  refine ⟨isCommentLine_commented.1, _,
    lintText_singleton known accepted isLevel (by decide) clean ran, ?_⟩
  exact ⟨_, Message.mem_inOrder.mpr List.mem_cons_self, rfl, rfl⟩

end LineLength

end ScriptLint
