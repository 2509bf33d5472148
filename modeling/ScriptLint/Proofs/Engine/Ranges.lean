import ScriptLint.Proofs.Engine.Acceptance

/-!
# Ranges of messages

In a nested tree every finding lies between two positions of the text, the first not
after the second.  So the message made of it has a line and a column of the text, and
its end and its fix, if there are any, are ordered and lie in the text too.
-/

namespace ScriptLint

/-- The start, the end and the fix of a message lie in a text, and no start comes
after its end. -/
structure Message.InRange (text : List Char) (message : Message) : Prop where
  starts : Text.HasColumn text message.line message.column
  ends : message.endLine = none ∧ message.endColumn = none ∨
    ∃ line column, message.endLine = some line ∧ message.endColumn = some column ∧
      Text.HasColumn text line column ∧
      (message.line < line ∨ message.line = line ∧ message.column ≤ column)
  fixes : ∀ fix, message.fix = some fix →
    0 ≤ fix.start ∧ fix.start ≤ fix.stop ∧ fix.stop ≤ text.length

/-- A finding lies between two positions of a text, and so does its fix. -/
structure Finding.Spans (text : List Char) (finding : Finding) (start stop : Position) :
    Prop where
  begins : finding.start = some start
  ceases : finding.stop = some stop
  ordered : ∃ fewer count, start.Follows text fewer ∧ stop.Follows text count ∧ fewer ≤ count
  fixes : ∀ fix, finding.fix = some fix →
    0 ≤ fix.start ∧ fix.start ≤ fix.stop ∧ fix.stop ≤ text.length

theorem Text.exists_follows {text line : List Char} {row column : Nat}
    (onLine : (lines text)[row]? = some line) (within : column ≤ line.length) :
    ∃ start, Position.Follows text ⟨row + 1, column + 1⟩ (start + column) ∧
      (lineStarts text)[row]? = some start := by
  rw [lines, List.getElem?_map, Option.map_eq_some_iff] at onLine
  obtain ⟨raw, onRaw, rfl⟩ := onLine
  obtain ⟨returns, whole, -⟩ := exists_dropReturns_append raw
  have longer := congrArg List.length whole
  rw [List.length_append] at longer
  have inside : row < (lineStarts text).length := by
    rw [lineStarts, length_lineStartsFrom]
    exact (List.getElem?_eq_some_iff.mp onRaw).1
  have starts := List.getElem?_eq_getElem inside
  exact ⟨_, ⟨row, column, raw, _, onRaw, starts, by omega, rfl, rfl⟩, starts⟩

/-- In a nested tree findings lie between positions of the text. -/
theorem Finding.Located.exists_spans {source : Source} {fixable : Bool} {finding : Finding}
    (aligned : source.Aligned) (nested : source.root.IsNested)
    (located : finding.Located source fixable) :
    ∃ start stop, finding.Spans source.text start stop := by
  have between : ∀ first last, first ≤ last →
      ∃ fewer count, (source.positionAt first).Follows source.text fewer ∧
        (source.positionAt last).Follows source.text count ∧ fewer ≤ count := by
    intro first last ordered
    exact ⟨_, _, aligned.follows_positionAt first, aligned.follows_positionAt last,
      charsEndingBy_mono source.parsed ordered⟩
  cases located with
  | node text held =>
      refine ⟨_, _, rfl, rfl, between _ _ (nested.1 _ held).1, ?_⟩
      simp
  | head text held inside =>
      refine ⟨_, _, rfl, rfl, between _ _ (nested.2 _ held _ inside).1, ?_⟩
      simp
  | @line row length line text onLine within =>
      obtain ⟨start, first, starts⟩ := Text.exists_follows onLine (Nat.zero_le _)
      obtain ⟨again, last, startsAgain⟩ := Text.exists_follows onLine within
      obtain rfl : start = again := Option.some.inj (starts.symm.trans startsAgain)
      refine ⟨_, _, rfl, rfl, ⟨_, _, first, last, by omega⟩, ?_⟩
      simp
  | fixed text held declared starts ordered ends =>
      refine ⟨_, _, rfl, rfl, between _ _ (nested.1 _ held).1, ?_⟩
      rintro fix ⟨⟩
      exact ⟨starts, ordered, ends⟩

theorem Finding.Spans.inRange {context : RuleContext} {finding : Finding}
    {start stop : Position} {message : Message}
    (spans : finding.Spans context.source.text start stop)
    (told : context.message finding = .ok message) :
    message.InRange context.source.text := by
  obtain ⟨fewer, count, first, last, ordered⟩ := spans.ordered
  obtain ⟨placed, isStart, -, line, column, endLine, endColumn, sameFix⟩ :=
    RuleContext.of_message_eq_ok told
  obtain rfl : placed = start := Option.some.inj (isStart.symm.trans spans.begins)
  constructor
  · rw [line, column]
    exact Source.hasColumn_utf16Column first
  · refine .inr ⟨stop.line, context.source.utf16Column stop, ?_, ?_,
      Source.hasColumn_utf16Column last, ?_⟩
    · rw [endLine, spans.ceases, Option.map_some]
    · rw [endColumn, spans.ceases, Option.map_some]
    · rw [line, column]
      rcases first.notAfter last ordered with before | ⟨sameLine, notAfter⟩
      · exact .inl before
      · exact .inr ⟨sameLine, Source.utf16Column_le first last sameLine notAfter⟩
  · intro fix attached
    exact spans.fixes fix (sameFix.symm.trans attached)

theorem Source.exists_positionAt_of_problem {source : Source} {problem : Problem}
    (found : source.problem? = some problem) :
    ∃ offset, problem.position = source.positionAt offset := by
  unfold problem? at found
  split at found
  · split at found
    · rename_i node _
      exact ⟨node.startByte, by rw [← Option.some.inj found]; rfl⟩
    · exact ⟨source.root.startByte, by rw [← Option.some.inj found]; rfl⟩
  · simp at found

theorem Source.problem_message_inRange {source : Source} (aligned : source.Aligned)
    {problem : Problem} (found : source.problem? = some problem) :
    (problem.message source).InRange source.text := by
  obtain ⟨offset, place⟩ := exists_positionAt_of_problem found
  constructor
  · have follows := aligned.follows_positionAt offset
    rw [← place] at follows
    exact Source.hasColumn_utf16Column follows
  · exact .inl ⟨rfl, rfl⟩
  · rintro fix ⟨⟩

/-- All messages about a text with a nested tree lie in the text. -/
theorem lintText_messages_inRange {parse : Parser} {config : RuleConfig} {path : String}
    {text : List Char} {result : LintResult}
    (nested : (Source.ofText parse (Path.ofString path) text).root.IsNested)
    (success : lintText parse RuleBook.standard config path text = .ok result) :
    ∀ message ∈ result.messages, message.InRange text := by
  have aligned := Source.aligned_ofText parse (Path.ofString path) text
  have sameText := Source.text_ofText parse (Path.ofString path) text
  obtain ⟨accepted, linted⟩ := lintText_eq_ok_iff.mp success
  generalize Source.ofText parse (Path.ofString path) text = source at *
  subst sameText
  cases problem : source.problem? with
  | some found =>
      rw [Source.lint, problem] at linted
      rw [← Except.ok.inj linted, List.forall_mem_singleton]
      exact Source.problem_message_inRange aligned problem
  | none =>
      obtain ⟨emitted, ran, rfl⟩ := (Source.lint_eq_ok_iff problem).mp linted
      intro message member
      obtain ⟨context, rule, finding, -, rfl, located, told⟩ :=
        RuleConfig.of_mem_run aligned ran message (Message.mem_inOrder.mp member)
      obtain ⟨start, stop, spans⟩ := located.exists_spans aligned nested
      exact spans.inRange told

/-- Single quotes are asked for, and blank lines before functions. -/
def quotesAndBlanks : RuleConfig :=
  [("quotes", ⟨.text "warn", [("style", .text "single")]⟩),
    ("padding-line-between-statements",
      ⟨.text "warn", [("pairs", .tuple [.tuple [.text "*", .text "function"]])]⟩)]

theorem lintText_functionBelowString : ∃ blank quote,
    lintText (fun _ _ => functionBelowString) RuleBook.standard quotesAndBlanks "a.js"
        ['"', '"', '\n', 'f', ';'] =
      .ok (.ofMessages ['"', '"', '\n', 'f', ';'] [blank, quote]) ∧
    blank.fix = some ⟨3, 3, ['\n']⟩ ∧ quote.fix = some ⟨0, 2, ['\'', '\'']⟩ := by
  generalize sourced : Source.ofText (fun _ _ => functionBelowString) (Path.ofString "a.js")
    ['"', '"', '\n', 'f', ';'] = source
  have clean : source.problem? = none := by rw [← sourced]; rfl
  have whole : source.text = ['"', '"', '\n', 'f', ';'] := by rw [← sourced]; rfl
  have root : source.root = functionBelowString := by rw [← sourced]; rfl
  have single : Quotes.convert ['"', '"'] ['\''] = ['\'', '\''] := by
    simp [Quotes.convert, Quotes.pieces]
  obtain ⟨blank, quote, ran, blankFix, quoteFix⟩ : ∃ blank quote,
      Pass.run (quotesAndBlanks.activate RuleBook.standard source) source.root =
        .ok [blank, quote] ∧
      blank.fix = some ⟨3, 3, ['\n']⟩ ∧ quote.fix = some ⟨0, 2, ['\'', '\'']⟩ := by
    rw [root, Pass.run]
    simp only [Visit.ofRoot, Visit.run, functionBelowString, Place.namedChildren,
      Place.children, Place.childrenFrom, Place.ofRoot, List.filter_cons,
      List.filter_nil, if_true, List.map_cons, List.map_nil, List.cons_append,
      List.nil_append]
    rw [← sourced]
    refine ⟨_, _, rfl, rfl, ?_⟩
    change some (⟨0, 2, Quotes.convert ['"', '"'] ['\'']⟩ : Fix) = _
    rw [single]
  refine ⟨blank, quote, lintText_eq_ok_iff.mpr ⟨rfl, ?_⟩, blankFix, quoteFix⟩
  rw [sourced]
  exact (Source.lint_eq_ok_iff clean).mpr ⟨_, ran, by rw [whole]⟩

theorem lintText_messages_inRange_functionBelowString :
    ∃ result, lintText (fun _ _ => functionBelowString) RuleBook.standard quotesAndBlanks
        "a.js" ['"', '"', '\n', 'f', ';'] = .ok result ∧
      result.messages.length = 2 ∧
      ∀ message ∈ result.messages, message.InRange ['"', '"', '\n', 'f', ';'] := by
  obtain ⟨blank, quote, success, -, -⟩ := lintText_functionBelowString
  have nested : (Source.ofText (fun _ _ => functionBelowString) (Path.ofString "a.js")
      ['"', '"', '\n', 'f', ';']).root.IsNested := isNested_functionBelowString
  refine ⟨_, success, ?_, lintText_messages_inRange nested success⟩
  simp only [LintResult.ofMessages, Message.inOrder, List.length_mergeSort,
    List.length_cons, List.length_nil]

end ScriptLint
