import ScriptLint.Proofs.Engine.Ranges

/-!
# The order of messages

Messages are placed by lines and columns in UTF-16 code units.  Such a column counts the
code units before it on the raw line exactly, and later columns are larger, also past
the end of a line.  So messages that are sorted by line and column are sorted by the
number of characters before them.
-/

namespace ScriptLint

namespace Text

/-- The UTF-16 code units of a character: its code point, or a high and a low
surrogate. -/
def charUtf16 (char : Char) : List UInt16 :=
  if char.toNat < 0x10000 then [.ofNat char.toNat]
  else
    [.ofNat (0xD800 + (char.toNat - 0x10000) / 0x400),
      .ofNat (0xDC00 + (char.toNat - 0x10000) % 0x400)]

def utf16 (text : List Char) : List UInt16 :=
  text.flatMap charUtf16

theorem length_charUtf16 (char : Char) : (charUtf16 char).length = charUnits char := by
  unfold charUtf16 charUnits
  split
  · rw [if_neg (by omega)]
    rfl
  · rw [if_pos (by omega)]
    rfl

theorem length_utf16 (text : List Char) : (utf16 text).length = units text := by
  induction text with
  | nil => rfl
  | cons char rest induction =>
      unfold utf16 at induction ⊢
      rw [List.flatMap_cons, List.length_append, length_charUtf16, induction]
      rfl

end Text

/-- A message has the line and the column of a place in the text, and so many
characters stand before this place. -/
def Message.StartsAt (source : Source) (message : Message) (offset : Int) : Prop :=
  ∃ (row column : Nat) (raw : List Char), (Text.rawLines source.text)[row]? = some raw ∧
    column ≤ raw.length ∧ source.offset ⟨row + 1, column + 1⟩ = .ok offset ∧
    message.line = row + 1 ∧ message.column = source.utf16Column ⟨row + 1, column + 1⟩

namespace Source

variable {source : Source} {row : Nat} {raw : List Char}

theorem utf16Column_exact (onLine : (Text.rawLines source.text)[row]? = some raw)
    {column : Int} (positive : 1 ≤ column) (within : column ≤ raw.length + 1) :
    source.utf16Column ⟨row + 1, column⟩ =
      1 + (Text.utf16 (raw.take (column - 1).toNat)).length := by
  obtain ⟨before, rfl⟩ : ∃ before : Nat, column = before + 1 := ⟨(column - 1).toNat, by omega⟩
  have counted : ((before : Int) + 1 - 1).toNat = before := by omega
  rw [utf16Column_eq onLine (by omega), counted, Text.length_utf16, Int.add_comm]

theorem utf16Column_increases (onLine : (Text.rawLines source.text)[row]? = some raw)
    {first second : Int} (positive : 1 ≤ first) (ordered : first < second) :
    source.utf16Column ⟨row + 1, first⟩ < source.utf16Column ⟨row + 1, second⟩ := by
  obtain ⟨before, rfl⟩ : ∃ before : Nat, first = before + 1 := ⟨(first - 1).toNat, by omega⟩
  obtain ⟨behind, rfl⟩ : ∃ behind : Nat, second = behind + 1 := ⟨(second - 1).toNat, by omega⟩
  exact utf16Column_lt onLine (by omega)

theorem utf16Column_le_iff (onLine : (Text.rawLines source.text)[row]? = some raw)
    {first second : Nat} :
    source.utf16Column ⟨row + 1, first + 1⟩ ≤ source.utf16Column ⟨row + 1, second + 1⟩ ↔
      first ≤ second := by
  constructor
  · intro ordered
    apply Nat.le_of_not_lt
    intro crossed
    have larger := utf16Column_lt onLine crossed
    omega
  · intro ordered
    rcases Nat.lt_or_eq_of_le ordered with before | rfl
    · exact Int.le_of_lt (utf16Column_lt onLine before)
    · exact Int.le_refl _

theorem offset_eq_ok {start : Nat} (starts : (Text.lineStarts source.text)[row]? = some start)
    (column : Nat) : source.offset ⟨row + 1, column + 1⟩ = .ok (start + column : Nat) := by
  have summed : (start : Int) + (column + 1) - 1 = (start + column : Nat) := by omega
  rw [offset]
  dsimp only
  rw [Int.add_sub_cancel, Text.get_eq_ok_iff.mpr starts]
  exact congrArg Except.ok summed

theorem exists_lineStart (onLine : (Text.rawLines source.text)[row]? = some raw) :
    ∃ start, (Text.lineStarts source.text)[row]? = some start := by
  have inside := (List.getElem?_eq_some_iff.mp onLine).1
  rw [← Text.length_lineStartsFrom 0] at inside
  exact ⟨_, List.getElem?_eq_getElem inside⟩

end Source

namespace Message

variable {source : Source} {left right : Message}

theorem startsAt_of_follows {message : Message} {position : Position} {count : Nat}
    (follows : position.Follows source.text count) (line : message.line = position.line)
    (column : message.column = source.utf16Column position) :
    message.StartsAt source count := by
  obtain ⟨row, before, raw, start, onLine, starts, within, rfl, rfl⟩ := follows
  exact ⟨row, before, raw, onLine, within, Source.offset_eq_ok starts before, line, column⟩

/-- Of two places in a text the one with the smaller line and column has fewer
characters before it. -/
theorem before_eq_decide {fewer count : Int} (first : left.StartsAt source fewer)
    (second : right.StartsAt source count) : left.before right = decide (fewer ≤ count) := by
  obtain ⟨row, column, raw, onLine, within, found, line, units⟩ := first
  obtain ⟨later, behind, next, onNext, withinNext, foundNext, lineNext, unitsNext⟩ := second
  obtain ⟨start, starts⟩ := Source.exists_lineStart onLine
  obtain ⟨base, startsNext⟩ := Source.exists_lineStart onNext
  rw [Source.offset_eq_ok starts] at found
  rw [Source.offset_eq_ok startsNext] at foundNext
  obtain rfl := Except.ok.inj found
  obtain rfl := Except.ok.inj foundNext
  rw [Bool.eq_iff_iff, before_eq_true_iff, decide_eq_true_iff, line, lineNext, units, unitsNext]
  rcases Nat.lt_trichotomy row later with before | rfl | after
  · have parted := Text.lt_of_getElem?_lineStartsFrom before onLine starts startsNext
    omega
  · -- On one line both orders are those of the columns.
    obtain rfl : start = base := Option.some.inj (starts.symm.trans startsNext)
    rw [Source.utf16Column_le_iff onLine]
    omega
  · have parted := Text.lt_of_getElem?_lineStartsFrom after onNext startsNext starts
    omega

/-- Messages at places in a text are sorted by the characters before them. -/
theorem inOrder_eq_mergeSort {messages : List Message} {offset : Message → Int}
    (placed : ∀ message ∈ messages, message.StartsAt source (offset message)) :
    inOrder messages = messages.mergeSort fun left right => offset left ≤ offset right := by
  have sorted := List.map_mergeSort (l := messages) (r := before) (f := id)
    (s := fun left right => decide (offset left ≤ offset right)) ?_
  · simpa [inOrder] using sorted
  · intro left isLeft right isRight
    exact before_eq_decide (placed left isLeft) (placed right isRight)

end Message

/-- A finding starts at a place in the text, whatever the tree is like. -/
theorem Finding.Located.exists_start {source : Source} {fixable : Bool} {finding : Finding}
    (aligned : source.Aligned) (located : finding.Located source fixable) :
    ∃ start count, finding.start = some start ∧ start.Follows source.text count := by
  cases located with
  | node text held => exact ⟨_, _, rfl, aligned.follows_positionAt _⟩
  | head text held inside => exact ⟨_, _, rfl, aligned.follows_positionAt _⟩
  | line text onLine within =>
      obtain ⟨start, follows, -⟩ := Text.exists_follows onLine (Nat.zero_le _)
      exact ⟨_, _, rfl, follows⟩
  | fixed text held declared starts ordered ends =>
      exact ⟨_, _, rfl, aligned.follows_positionAt _⟩

theorem Source.pairwise_messages {source : Source} {book : RuleBook} {config : RuleConfig}
    {result : LintResult} (linted : source.lint book config = .ok result) :
    result.messages.Pairwise (·.before · = true) := by
  cases problem : source.problem? with
  | some found =>
      rw [Source.lint, problem] at linted
      rw [← Except.ok.inj linted]
      exact List.pairwise_singleton _ _
  | none =>
      obtain ⟨emitted, -, rfl⟩ := (Source.lint_eq_ok_iff problem).mp linted
      exact Message.pairwise_inOrder emitted

theorem Source.exists_startsAt {source : Source} (aligned : source.Aligned)
    {config : RuleConfig} {result : LintResult}
    (linted : source.lint RuleBook.standard config = .ok result) :
    ∀ message ∈ result.messages, ∃ offset, message.StartsAt source offset := by
  cases problem : source.problem? with
  | some found =>
      rw [Source.lint, problem] at linted
      rw [← Except.ok.inj linted, List.forall_mem_singleton]
      obtain ⟨offset, place⟩ := exists_positionAt_of_problem problem
      have follows := aligned.follows_positionAt offset
      rw [← place] at follows
      exact ⟨_, Message.startsAt_of_follows follows rfl rfl⟩
  | none =>
      obtain ⟨emitted, ran, rfl⟩ := (Source.lint_eq_ok_iff problem).mp linted
      intro message member
      obtain ⟨context, rule, finding, -, rfl, located, told⟩ :=
        RuleConfig.of_mem_run aligned ran message (Message.mem_inOrder.mp member)
      obtain ⟨start, count, begins, follows⟩ := located.exists_start aligned
      obtain ⟨placed, isStart, -, line, column, -⟩ := RuleContext.of_message_eq_ok told
      obtain rfl : placed = start := Option.some.inj (isStart.symm.trans begins)
      exact ⟨_, Message.startsAt_of_follows follows line column⟩

/-- The messages about a text come in the order of the characters before them. -/
theorem exists_offsets_of_lintText {parse : Parser} {config : RuleConfig} {path : String}
    {text : List Char} {result : LintResult}
    (success : lintText parse RuleBook.standard config path text = .ok result) :
    ∃ offset : Message → Int,
      (∀ message ∈ result.messages,
        message.StartsAt (Source.ofText parse (Path.ofString path) text) (offset message)) ∧
      result.messages.Pairwise (offset · ≤ offset ·) := by
  classical
  have aligned := Source.aligned_ofText parse (Path.ofString path) text
  obtain ⟨accepted, linted⟩ := lintText_eq_ok_iff.mp success
  have exists_offset := Source.exists_startsAt aligned linted
  choose! offset placed using exists_offset
  refine ⟨offset, placed, ?_⟩
  apply (Source.pairwise_messages linted).imp_of_mem
  intro left right isLeft isRight ordered
  rw [Message.before_eq_decide (placed left isLeft) (placed right isRight)] at ordered
  exact of_decide_eq_true ordered

/-- Columns in UTF-16 code units count those before them on the raw line and grow from
each column to the next.  So messages sorted by line and column are sorted by the
characters before them, as those about a text are. -/
theorem utf16Column_orders_messages :
    (∀ (source : Source) (row : Nat) (raw : List Char),
      (Text.rawLines source.text)[row]? = some raw →
      (∀ column : Int, 1 ≤ column → column ≤ raw.length + 1 →
        source.utf16Column ⟨row + 1, column⟩ =
          1 + (Text.utf16 (raw.take (column - 1).toNat)).length) ∧
      ∀ first second : Int, 1 ≤ first → first < second →
        source.utf16Column ⟨row + 1, first⟩ < source.utf16Column ⟨row + 1, second⟩) ∧
    (∀ (source : Source) (messages : List Message) (offset : Message → Int),
      (∀ message ∈ messages, message.StartsAt source (offset message)) →
      Message.inOrder messages =
        messages.mergeSort fun left right => offset left ≤ offset right) ∧
    ∀ (parse : Parser) (config : RuleConfig) (path : String) (text : List Char)
      (result : LintResult),
      lintText parse RuleBook.standard config path text = .ok result →
      ∃ offset : Message → Int,
        (∀ message ∈ result.messages,
          message.StartsAt (Source.ofText parse (Path.ofString path) text) (offset message)) ∧
        result.messages.Pairwise (offset · ≤ offset ·) := by
  refine ⟨?_, ?_, ?_⟩
  · intro source row raw onLine
    constructor
    · intro column positive within
      exact Source.utf16Column_exact onLine positive within
    · intro first second positive ordered
      exact Source.utf16Column_increases onLine positive ordered
  · intro source messages offset placed
    exact Message.inOrder_eq_mergeSort placed
  · intro parse config path text result success
    exact exists_offsets_of_lintText success

/-- A line with a character beyond the basic plane and two carriage returns, and a line
after it. -/
def twoReturns : Source :=
  ⟨['😀', '\r', '\r', '\n', '😀', 'a'], ['😀', '\r', '\r', '\n', '😀', 'a'],
    .javascript, functionBelowString, none⟩

theorem utf16Column_orders_messages_twoReturns :
    (twoReturns.utf16Column ⟨1, 4⟩ = 1 + (Text.utf16 ['😀', '\r', '\r']).length ∧
      (Text.utf16 ['😀', '\r', '\r']).length = 4 ∧
      twoReturns.utf16Column ⟨1, 4⟩ < twoReturns.utf16Column ⟨1, 9⟩) ∧
    (∃ later first : Message, later.StartsAt twoReturns 5 ∧ first.StartsAt twoReturns 3 ∧
      Message.inOrder [later, first] = [later, first].mergeSort fun left right =>
        (if left = later then (5 : Int) else 3) ≤ if right = later then 5 else 3) ∧
    ∃ result, lintText (fun _ _ => functionBelowString) RuleBook.standard quotesAndBlanks
        "a.js" ['"', '"', '\n', 'f', ';'] = .ok result ∧
      ∃ offset : Message → Int,
        (∀ message ∈ result.messages, message.StartsAt
          (Source.ofText (fun _ _ => functionBelowString) (Path.ofString "a.js")
            ['"', '"', '\n', 'f', ';']) (offset message)) ∧
        result.messages.Pairwise (offset · ≤ offset ·) := by
  obtain ⟨columns, sorting, linting⟩ := utf16Column_orders_messages
  obtain ⟨counts, increasing⟩ := columns twoReturns 0 ['😀', '\r', '\r'] rfl
  refine ⟨⟨counts 4 (by decide) (by decide), by decide,
    increasing 4 9 (by decide) (by decide)⟩, ?_, ?_⟩
  · have startsLater : Message.StartsAt twoReturns
        ⟨none, 1, "", 2, 3, none, none, none, false⟩ 5 :=
      ⟨1, 1, ['😀', 'a'], rfl, by decide, rfl, rfl, rfl⟩
    have startsFirst : Message.StartsAt twoReturns
        ⟨none, 1, "", 1, 5, none, none, none, false⟩ 3 :=
      ⟨0, 3, ['😀', '\r', '\r'], rfl, by decide, rfl, rfl, rfl⟩
    refine ⟨_, _, startsLater, startsFirst, sorting twoReturns _ _ ?_⟩
    rw [List.forall_mem_cons, List.forall_mem_singleton]
    exact ⟨startsLater, startsFirst⟩
  · obtain ⟨blank, quote, success, -, -⟩ := lintText_functionBelowString
    exact ⟨_, success, linting _ _ _ _ _ success⟩

end ScriptLint
