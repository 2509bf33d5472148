import ScriptLint.Proofs.FixSplice
import ScriptLint.Proofs.Rules.Padding
import ScriptLint.Proofs.Source.Rows

/-!
# Blank lines after the fixes

The fixes of a block only insert line breaks between its statements.  Each statement is
moved as a whole by what is inserted before it, and each pair of statements that has to be
apart then has a blank line between them, so there is nothing left to find.
-/

namespace ScriptLint

namespace Padding

/-- The text between two places has a blank line once a fix inserted something at a place
between them. -/
def Pads (text : List Char) (first last : Nat) (fix : Fix) : Prop :=
  ∃ before left right after, text = before ++ (left ++ (right ++ after)) ∧
    first = before.length ∧ last = before.length + (left.length + right.length) ∧
    fix.start = before.length + left.length ∧ fix.stop = fix.start ∧
    Text.HasInnerBlank (left ++ (fix.text ++ right))

section Pair

variable {source : Source} {previous current : Node}

theorem of_anyBlank {lines : List (List Char)} {row count : Nat} {found : Bool}
    (looked : anyBlank lines row count = .ok found) :
    found = true ↔ ∃ index line, row ≤ index ∧ index < row + count ∧
      lines[index]? = some line ∧ Text.allBlank line = true := by
  induction count generalizing row with
  | zero =>
      rw [← Except.ok.inj looked]
      constructor
      · intro impossible
        simp at impossible
      · rintro ⟨index, line, behind, upTo, -⟩
        omega
  | succ count induction =>
      rw [anyBlank] at looked
      split at looked
      · simp at looked
      · rename_i here onRow
        split at looked
        · rename_i blank
          rw [← Except.ok.inj looked]
          constructor
          · intro _
            exact ⟨row, here, by omega, by omega, onRow, blank⟩
          · intro _
            rfl
        · rename_i filled
          rw [induction looked]
          constructor
          · rintro ⟨index, line, behind, upTo, onLine, blank⟩
            exact ⟨index, line, by omega, by omega, onLine, blank⟩
          · rintro ⟨index, line, behind, upTo, onLine, blank⟩
            refine ⟨index, line, ?_, by omega, onLine, blank⟩
            rcases Nat.lt_or_eq_of_le behind with later | same
            · exact later
            · subst same
              obtain rfl := Option.some.inj (onRow.symm.trans onLine)
              exact absurd blank filled

/-- Whether there is a blank line between two statements depends on the rows of the text. -/
theorem hasBlankLine_spec (aligned : source.Aligned) (previous current : Node) :
    ∃ found, hasBlankLine source previous current = .ok found ∧
      (found = true ↔ Text.BlankBetween source.text (source.spanStop previous)
        (source.spanStart current)) := by
  obtain ⟨found, looked⟩ := exists_hasBlankLine aligned previous current
  refine ⟨found, looked, ?_⟩
  rw [hasBlankLine, Source.stop, Source.start, aligned.line_positionAt,
    aligned.line_positionAt] at looked
  rw [of_anyBlank looked, Text.BlankBetween, Source.spanStop, Source.spanStart]
  constructor
  · rintro ⟨row, line, behind, upTo, onLine, blank⟩
    exact ⟨row, line, by omega, by omega, onLine, blank⟩
  · rintro ⟨row, line, behind, upTo, onLine, blank⟩
    exact ⟨row, line, by omega, by omega, onLine, blank⟩

theorem exists_lineBreak (text : List Char) :
    ∃ returns, lineBreak text = returns ++ ['\n'] ∧ '\n' ∉ returns ∧
      Text.allBlank returns = true := by
  unfold lineBreak
  split
  · exact ⟨['\r'], rfl, by decide, by decide⟩
  · exact ⟨[], rfl, by decide, by decide⟩

/-- Two line breaks leave a blank line behind the place where they are inserted. -/
theorem pads_twoBreaks {text : List Char} {first last : Nat} (ordered : first ≤ last)
    (within : last ≤ text.length) :
    Pads text first last ⟨first, first, lineBreak text ++ lineBreak text⟩ := by
  obtain ⟨returns, isBreak, noFeed, blank⟩ := exists_lineBreak text
  refine ⟨text.take first, [], (text.take last).drop first, text.drop last, ?_, ?_, ?_, ?_,
    rfl, ?_⟩
  · have cut := List.take_append_drop first (text.take last)
    rw [List.take_take, Nat.min_eq_left ordered] at cut
    rw [List.nil_append, ← List.append_assoc, cut, List.take_append_drop]
  · rw [List.length_take]
    omega
  · simp only [List.length_take, List.length_drop, List.length_nil]
    omega
  · simp only [List.length_take, List.length_nil]
    omega
  · have inner : Text.HasInnerBlank
        (returns ++ '\n' :: (returns ++ '\n' :: (text.take last).drop first)) :=
      Text.hasInnerBlank_of_feeds noFeed blank
    simpa [isBreak] using inner

theorem pads_lineStart {before after : List Char} {first last : Nat}
    (behind : first ≤ before.length) (upTo : before.length + 1 ≤ last)
    (within : last ≤ (before ++ '\n' :: after).length) (text : List Char) :
    Pads (before ++ '\n' :: after) first last
      ⟨before.length + 1, before.length + 1, lineBreak text⟩ := by
  obtain ⟨returns, isBreak, noFeed, blank⟩ := exists_lineBreak text
  rw [List.length_append, List.length_cons] at within
  refine ⟨before.take first, before.drop first ++ ['\n'],
    after.take (last - (before.length + 1)), after.drop (last - (before.length + 1)),
    ?_, ?_, ?_, ?_, rfl, ?_⟩
  · rw [List.take_append_drop]
    conv_lhs => rw [← List.take_append_drop first before]
    simp only [List.append_assoc, List.singleton_append]
  · rw [List.length_take]
    omega
  · simp only [List.length_append, List.length_take, List.length_drop, List.length_singleton]
    omega
  · simp only [List.length_append, List.length_take, List.length_drop, List.length_singleton]
    omega
  · have inner : Text.HasInnerBlank (before.drop first ++
        '\n' :: (returns ++ '\n' :: after.take (last - (before.length + 1)))) :=
      Text.hasInnerBlank_of_feeds noFeed blank
    simpa [isBreak] using inner

/-- Between statements in order there is a place for a blank line. -/
theorem blankLineFix_pads (aligned : source.Aligned)
    (ordered : source.spanStop previous ≤ source.spanStart current) :
    ∃ fix, blankLineFix source previous current = .ok fix ∧
      Pads source.text (source.spanStop previous) (source.spanStart current) fix := by
  have ends := aligned.follows_positionAt previous.endByte
  have starts := aligned.follows_positionAt current.startByte
  have within : source.spanStart current ≤ source.text.length := starts.le_length
  have rows := Text.rowOf_mono source.text ordered
  have lastLine := aligned.line_positionAt previous.endByte
  have nextLine := aligned.line_positionAt current.startByte
  simp only [blankLineFix, aligned.span?_eq, Source.stop, Source.start]
  by_cases sameLine : (source.positionAt previous.endByte).line =
      (source.positionAt current.startByte).line
  · rw [if_pos sameLine]
    exact ⟨_, rfl, pads_twoBreaks ordered within⟩
  · rw [if_neg sameLine]
    -- The line after the first statement exists since the second one starts below it.
    obtain ⟨row, isRow⟩ : ∃ row, Text.rowOf source.text (source.spanStop previous) = row :=
      ⟨_, rfl⟩
    have rowOfLine : (source.positionAt previous.endByte).line = ((row + 1 : Nat) : Int) := by
      rw [lastLine, ← isRow]
      rfl
    have below : row + 1 < (Text.lineStarts source.text).length := by
      have most := starts.line_le_length
      rw [Text.lineStarts, Text.length_lineStartsFrom]
      unfold Source.spanStop Source.spanStart at *
      omega
    obtain ⟨start, atRow⟩ : ∃ start, (Text.lineStarts source.text)[row + 1]? = some start :=
      ⟨_, List.getElem?_eq_getElem below⟩
    rw [rowOfLine, Source.offset_eq_ok_iff.mpr ⟨start, atRow, rfl⟩]
    refine ⟨_, rfl, ?_⟩
    have behind : source.spanStop previous < start := by
      apply ends.lt_lineStart
      rw [rowOfLine, Int.toNat_natCast]
      exact atRow
    have upTo : start ≤ source.spanStart current := by
      apply starts.lineStart_le atRow
      unfold Source.spanStop Source.spanStart at *
      omega
    obtain ⟨before, after, whole, isStart⟩ := Text.of_getElem?_lineStartsFrom atRow
    obtain rfl : start = before.length + 1 := by omega
    rw [whole] at within ⊢
    exact pads_lineStart (by omega) upTo within _

end Pair

def fixesOf (findings : List Finding) : List Fix :=
  findings.filterMap (·.fix)

def fixedText (text : List Char) (findings : List Finding) : List Char :=
  (Fix.applyAll text (fixesOf findings)).getD text

/-- How many characters the fixes of some findings insert up to an offset. -/
def insertedUpTo (findings : List Finding) (offset : Nat) : Nat :=
  (((fixesOf findings).filter (·.start ≤ (offset : Int))).flatMap (·.text)).length

/-- A finding that asks for a blank line between two statements, with a fix that inserts
something there. -/
def AsksBetween (context : RuleContext) (previous current : Node) (finding : Finding) : Prop :=
  ∃ (offset : Nat) (text : List Char),
    finding = context.fixing current "Expected blank line before this statement."
      ⟨offset, offset, text⟩ ∧
    context.source.spanStop previous ≤ offset ∧ offset ≤ context.source.spanStart current

section Findings

variable {context : RuleContext} {previous current : Node} {findings : List Finding}

/-- What is found about two statements if blank lines are required: nothing if they need
none or have one, else a fix that puts one there. -/
def CheckedPair (context : RuleContext) (previous current : Node)
    (findings : List Finding) : Prop :=
  (findings = [] ∧ (matchesSome context.source previous current
      (context.options.items "pairs") = .ok true →
    Text.BlankBetween context.source.text (context.source.spanStop previous)
      (context.source.spanStart current))) ∨
  ∃ finding fix, findings = [finding] ∧ AsksBetween context previous current finding ∧
    finding.fix = some fix ∧ Pads context.source.text (context.source.spanStop previous)
      (context.source.spanStart current) fix

theorem checkPair_spec (aligned : context.source.Aligned)
    (always : context.options.word "blank_line" "always" = "always")
    (pairs : ∀ entry ∈ context.options.items "pairs", IsWordPair entry)
    (ordered : context.source.spanStop previous ≤ context.source.spanStart current) :
    ∃ findings, checkPair context previous current = .ok findings ∧
      CheckedPair context previous current findings := by
  obtain ⟨isMatch, matched⟩ := exists_matchesSome context.source previous current pairs
  obtain ⟨blank, looked, isBlank⟩ := hasBlankLine_spec aligned previous current
  obtain ⟨fix, made, padded⟩ := blankLineFix_pads aligned ordered
  simp only [checkPair, bind, Except.bind, pure, Except.pure, matched, looked, made, always]
  cases isMatch with
  | false =>
      refine ⟨[], rfl, Or.inl ⟨rfl, ?_⟩⟩
      intro isMatch
      simp [matched] at isMatch
  | true =>
      cases blank with
      | true => exact ⟨[], rfl, Or.inl ⟨rfl, fun _ => isBlank.mp rfl⟩⟩
      | false =>
          refine ⟨_, rfl, Or.inr ⟨_, fix, rfl, ?_, rfl, padded⟩⟩
          obtain ⟨before, left, right, after, whole, first, last, starts, ends, -⟩ := padded
          refine ⟨before.length + left.length, fix.text, ?_, by omega, by omega⟩
          congr 1
          cases fix
          simp_all

/-- What is found about statements in order if blank lines are required. -/
structure CheckedPairs (context : RuleContext) (statements : List Node)
    (findings : List Finding) : Prop where
  asks : ∀ finding ∈ findings, ∃ previous current,
    [previous, current] <:+: statements ∧ AsksBetween context previous current finding
  follow : (fixesOf findings).Pairwise (·.stop ≤ ·.start)

theorem fixesOf_append (first second : List Finding) :
    fixesOf (first ++ second) = fixesOf first ++ fixesOf second :=
  List.filterMap_append

theorem AsksBetween.of_fix {finding : Finding} {fix : Fix}
    (asks : AsksBetween context previous current finding) (attached : finding.fix = some fix) :
    fix.start = fix.stop ∧ context.source.spanStop previous ≤ fix.start ∧
      fix.start ≤ context.source.spanStart current := by
  obtain ⟨offset, text, rfl, behind, before⟩ := asks
  obtain rfl := Option.some.inj attached
  dsimp only
  omega

theorem CheckedPairs.of_mem_fixesOf {statements : List Node} {fix : Fix}
    (checked : CheckedPairs context statements findings) (member : fix ∈ fixesOf findings) :
    ∃ previous ∈ statements, ∃ current ∈ statements, fix.start = fix.stop ∧
      context.source.spanStop previous ≤ fix.start ∧
      fix.start ≤ context.source.spanStart current := by
  obtain ⟨finding, found, attached⟩ := List.mem_filterMap.mp member
  obtain ⟨previous, current, adjacent, asks⟩ := checked.asks finding found
  exact ⟨previous, adjacent.subset (by simp), current, adjacent.subset (by simp),
    asks.of_fix attached⟩

/-- All fixes lie behind the first statement. -/
theorem CheckedPairs.spanStop_le {rest : List Node} {fix : Fix}
    (checked : CheckedPairs context (previous :: rest) findings)
    (separate : context.source.Separates (previous :: rest)) (member : fix ∈ fixesOf findings) :
    (context.source.spanStop previous : Int) ≤ fix.start := by
  obtain ⟨first, isFirst, -, -, -, behind, -⟩ := checked.of_mem_fixesOf member
  rcases List.mem_cons.mp isFirst with rfl | later
  · exact behind
  · have filled := separate.filled first isFirst
    have ordered := List.rel_of_pairwise_cons separate.ordered later
    omega

theorem CheckedPairs.le_spanStart {before : List Node} {fix : Fix}
    (checked : CheckedPairs context (before ++ [current]) findings)
    (separate : context.source.Separates (before ++ [current]))
    (member : fix ∈ fixesOf findings) :
    fix.start ≤ context.source.spanStart current := by
  obtain ⟨-, -, last, isLast, -, -, upTo⟩ := checked.of_mem_fixesOf member
  rcases List.mem_append.mp isLast with earlier | same
  · have filled := separate.filled last isLast
    have ordered := (List.pairwise_append.mp separate.ordered).2.2 last earlier current
      List.mem_cons_self
    omega
  · rw [← List.mem_singleton.mp same]
    exact upTo

theorem CheckedPair.asks (checked : CheckedPair context previous current findings) :
    ∀ finding ∈ findings, AsksBetween context previous current finding := by
  rcases checked with ⟨rfl, -⟩ | ⟨finding, fix, rfl, asks, -⟩
  · simp
  · exact List.forall_mem_singleton.mpr asks

theorem CheckedPair.follow (checked : CheckedPair context previous current findings) :
    (fixesOf findings).Pairwise (·.stop ≤ ·.start) := by
  rcases checked with ⟨rfl, -⟩ | ⟨finding, fix, rfl, -, attached, -⟩
  · exact List.Pairwise.nil
  · rw [fixesOf, List.filterMap_cons_some attached]
    exact List.pairwise_singleton _ _

theorem CheckedPairs.cons {rest : List Node} {others : List Finding}
    (separate : context.source.Separates (previous :: current :: rest))
    (here : CheckedPair context previous current findings)
    (later : CheckedPairs context (current :: rest) others) :
    CheckedPairs context (previous :: current :: rest) (findings ++ others) where
  asks := by
    intro finding member
    rcases List.mem_append.mp member with isHere | isLater
    · exact ⟨previous, current, ⟨[], rest, rfl⟩, here.asks finding isHere⟩
    · obtain ⟨first, second, adjacent, asks⟩ := later.asks finding isLater
      exact ⟨first, second, adjacent.trans (List.suffix_cons _ _).isInfix, asks⟩
  follow := by
    rw [fixesOf_append, List.pairwise_append]
    refine ⟨here.follow, later.follow, ?_⟩
    intro fix isHere next isLater
    obtain ⟨finding, found, attached⟩ := List.mem_filterMap.mp isHere
    have placed := (here.asks finding found).of_fix attached
    have separateRest := separate.of_sublist (List.sublist_cons_self _ _)
    have filled := separateRest.filled current List.mem_cons_self
    have behind := later.spanStop_le separateRest isLater
    omega

theorem checkPairs_spec (aligned : context.source.Aligned)
    (always : context.options.word "blank_line" "always" = "always")
    (pairs : ∀ entry ∈ context.options.items "pairs", IsWordPair entry)
    {statements : List Node} (separate : context.source.Separates statements) :
    ∃ findings, checkPairs context statements = .ok findings ∧
      CheckedPairs context statements findings := by
  induction statements with
  | nil => exact ⟨[], rfl, by simp, List.Pairwise.nil⟩
  | cons previous rest induction =>
      cases rest with
      | nil => exact ⟨[], rfl, by simp, List.Pairwise.nil⟩
      | cons current rest =>
          obtain ⟨others, checkedRest, later⟩ :=
            induction (separate.of_sublist (List.sublist_cons_self _ _))
          obtain ⟨here, checkedHere, pair⟩ := checkPair_spec aligned always pairs
            (List.rel_of_pairwise_cons separate.ordered List.mem_cons_self)
          refine ⟨here ++ others, ?_, CheckedPairs.cons separate pair later⟩
          simp only [checkPairs, checkedHere, checkedRest]

/-- Statements can be checked in two parts that share one of them. -/
theorem checkPairs_append {before after : List Node} {node : Node} {left right : List Finding}
    (checkedLeft : checkPairs context (before ++ [node]) = .ok left)
    (checkedRight : checkPairs context (node :: after) = .ok right) :
    checkPairs context (before ++ node :: after) = .ok (left ++ right) := by
  induction before generalizing left with
  | nil =>
      rw [← Except.ok.inj checkedLeft]
      exact checkedRight
  | cons previous rest induction =>
      -- Both lists have the same second statement, which is that of the rest or the shared one.
      obtain ⟨current, others, restLeft, restWhole⟩ :
          ∃ current others, rest ++ [node] = current :: others ∧
            rest ++ node :: after = current :: (others ++ after) := by
        cases rest with
        | nil => exact ⟨node, [], rfl, rfl⟩
        | cons current rest => exact ⟨current, rest ++ [node], rfl, by simp⟩
      rw [List.cons_append, restLeft, checkPairs] at checkedLeft
      rw [List.cons_append, restWhole, checkPairs]
      rw [restLeft, restWhole] at induction
      split at checkedLeft
      · simp at checkedLeft
      · rename_i here checkedHere
        split at checkedLeft
        · simp at checkedLeft
        · rename_i others checkedOthers
          rw [← Except.ok.inj checkedLeft, induction checkedOthers, List.append_assoc]

end Findings

section Fixed

variable {context : RuleContext} {statements before after : List Node}
  {node previous current : Node} {findings left here right : List Finding}

theorem CheckedPairs.inserts (checked : CheckedPairs context statements findings) :
    ∀ fix ∈ fixesOf findings, 0 ≤ fix.start ∧ fix.start = fix.stop := by
  intro fix member
  obtain ⟨first, -, last, -, empty, behind, -⟩ := checked.of_mem_fixesOf member
  omega

theorem CheckedPairs.le_length (checked : CheckedPairs context statements findings)
    (aligned : context.source.Aligned) :
    ∀ fix ∈ fixesOf findings, fix.start ≤ context.source.text.length := by
  intro fix member
  obtain ⟨first, -, last, -, -, -, upTo⟩ := checked.of_mem_fixesOf member
  have within := aligned.spanStart_le_length last
  omega

theorem CheckedPairs.fixedText_eq (checked : CheckedPairs context statements findings)
    (text : List Char) :
    fixedText text findings = Fix.replaceFrom text 0 (fixesOf findings) :=
  Fix.getD_applyAll_of_follow text checked.inserts checked.follow

theorem insertedUpTo_append {offset : Nat}
    (upTo : ∀ fix ∈ fixesOf left, fix.start ≤ offset)
    (behind : ∀ fix ∈ fixesOf right, offset < fix.start) :
    insertedUpTo (left ++ right) offset = ((fixesOf left).flatMap (·.text)).length := by
  have kept : (fixesOf left).filter (·.start ≤ (offset : Int)) = fixesOf left := by
    apply List.filter_eq_self.mpr
    intro fix member
    simpa using upTo fix member
  have dropped : (fixesOf right).filter (·.start ≤ (offset : Int)) = [] := by
    apply List.filter_eq_nil_iff.mpr
    intro fix member
    simpa using behind fix member
  rw [insertedUpTo, fixesOf_append, List.filter_append, kept, dropped, List.append_nil]

/-- Around a part of the text, the fixes before it move it and those behind it do not. -/
theorem CheckedPairs.exists_fixedText_around {first last : Nat}
    (checked : CheckedPairs context statements (left ++ (here ++ right)))
    (aligned : context.source.Aligned) (ordered : first ≤ last)
    (inside : last ≤ context.source.text.length)
    (upTo : ∀ fix ∈ fixesOf left, fix.start ≤ first)
    (between : ∀ fix ∈ fixesOf here, first ≤ fix.start ∧ fix.start ≤ last)
    (behind : ∀ fix ∈ fixesOf right, last ≤ fix.start) :
    ∃ start rest, fixedText context.source.text (left ++ (here ++ right)) =
        start ++ (Fix.replaceFrom (Text.sliceTo context.source.text last) first
          (fixesOf here) ++ rest) ∧
      start.length = first + ((fixesOf left).flatMap (·.text)).length ∧
      first + (Fix.replaceFrom (Text.sliceTo context.source.text last) first
          (fixesOf here)).length =
        last + ((fixesOf here).flatMap (·.text)).length := by
  have split : fixesOf (left ++ (here ++ right)) =
      fixesOf left ++ (fixesOf here ++ fixesOf right) := by
    rw [fixesOf_append, fixesOf_append]
  have inserts := checked.inserts
  have follow := checked.follow
  have within := checked.le_length aligned
  rw [split] at inserts follow within
  rw [checked.fixedText_eq, split]
  apply Fix.exists_replaceFrom_around ordered inside inserts follow upTo between
  intro fix member
  exact ⟨behind fix member,
    within fix (List.mem_append_right _ (List.mem_append_right _ member))⟩

theorem slice_fixedText (aligned : context.source.Aligned)
    (separate : context.source.Separates (before ++ node :: after))
    (checked : CheckedPairs context (before ++ node :: after) (left ++ right))
    (checkedLeft : CheckedPairs context (before ++ [node]) left)
    (checkedRight : CheckedPairs context (node :: after) right) :
    let moved := insertedUpTo (left ++ right) (context.source.spanStart node)
    Text.slice (fixedText context.source.text (left ++ right))
        (context.source.spanStart node + moved : Nat)
        (context.source.spanStop node + moved : Nat) =
      Text.slice context.source.text (context.source.spanStart node : Int)
        (context.source.spanStop node : Int) := by
  intro moved
  have filled := separate.filled node (by simp)
  have inside := aligned.spanStop_le_length node
  have upTo : ∀ fix ∈ fixesOf left, fix.start ≤ context.source.spanStart node := by
    intro fix
    exact checkedLeft.le_spanStart separate.upTo
  have behind : ∀ fix ∈ fixesOf right, context.source.spanStop node ≤ fix.start := by
    intro fix
    exact checkedRight.spanStop_le separate.onward
  have isMoved : moved = ((fixesOf left).flatMap (·.text)).length := by
    apply insertedUpTo_append upTo
    intro fix member
    have later := behind fix member
    omega
  have around : CheckedPairs context (before ++ node :: after) (left ++ ([] ++ right)) :=
    checked
  obtain ⟨start, rest, whole, reached, length⟩ :=
    around.exists_fixedText_around aligned filled.le inside upTo (by simp [fixesOf]) behind
  have middle : Fix.replaceFrom
      (Text.sliceTo context.source.text (context.source.spanStop node : Int))
      (context.source.spanStart node : Int) (fixesOf []) =
        Text.slice context.source.text (context.source.spanStart node : Int)
          (context.source.spanStop node : Int) :=
    Text.sliceFrom_sliceTo (by omega) (by omega) (by omega)
  rw [List.nil_append, middle] at whole
  rw [middle, fixesOf, List.filterMap_nil, List.flatMap_nil, List.length_nil] at length
  have first : context.source.spanStart node + moved = start.length := by omega
  have last : context.source.spanStop node + moved = start.length +
      (Text.slice context.source.text (context.source.spanStart node : Int)
        (context.source.spanStop node : Int)).length := by omega
  rw [whole, first, last, Text.slice_middle]

theorem CheckedPair.hasInnerBlank (checked : CheckedPair context previous current here)
    (isMatch : matchesSome context.source previous current
      (context.options.items "pairs") = .ok true)
    (ordered : context.source.spanStop previous ≤ context.source.spanStart current)
    (inside : context.source.spanStart current ≤ context.source.text.length) :
    Text.HasInnerBlank (Fix.replaceFrom
      (Text.sliceTo context.source.text (context.source.spanStart current : Int))
      (context.source.spanStop previous : Int) (fixesOf here)) := by
  rcases checked with ⟨rfl, blank⟩ | ⟨finding, fix, rfl, -, attached, padded⟩
  · have between := (Text.blankBetween_iff ordered inside).mp (blank isMatch)
    rw [fixesOf, List.filterMap_nil, Fix.replaceFrom,
      Text.sliceFrom_sliceTo (by omega) (by omega) (by omega)]
    exact between
  · obtain ⟨before, left, right, after, whole, first, last, starts, ends, inner⟩ := padded
    have upTo : Text.sliceTo context.source.text (context.source.spanStart current : Int) =
        before ++ (left ++ right) := by
      rw [Text.sliceTo, Text.clamp_of_nat inside, whole, last, ← List.append_assoc left,
        ← List.append_assoc, ← List.length_append, ← List.length_append, List.take_left]
    have next : fix.start = (before.length + left.length : Nat) := by omega
    have rest : Text.sliceFrom (before ++ (left ++ right))
        ((before.length + left.length : Nat) : Int) = right := by
      rw [← List.append_assoc]
      exact Text.sliceFrom_append_right (by rw [List.length_append]) right
    rw [fixesOf, List.filterMap_cons_some attached, List.filterMap_nil, Fix.replaceFrom,
      Fix.replaceFrom, upTo, ends, next, first, Text.slice_middle, rest, List.append_assoc]
    exact inner

/-- Two statements that have to be apart have a blank line between them. -/
theorem blankBetween_fixedText (aligned : context.source.Aligned)
    (separate : context.source.Separates (before ++ previous :: current :: after))
    (checked : CheckedPairs context (before ++ previous :: current :: after)
      (left ++ (here ++ right)))
    (checkedLeft : CheckedPairs context (before ++ [previous]) left)
    (pair : CheckedPair context previous current here)
    (checkedRight : CheckedPairs context (current :: after) right)
    (isMatch : matchesSome context.source previous current
      (context.options.items "pairs") = .ok true) :
    Text.BlankBetween (fixedText context.source.text (left ++ (here ++ right)))
      (context.source.spanStop previous +
        insertedUpTo (left ++ (here ++ right)) (context.source.spanStart previous))
      (context.source.spanStart current +
        insertedUpTo (left ++ (here ++ right)) (context.source.spanStart current)) := by
  have separatePair := separate.onward
  have separateRest := separatePair.of_sublist (List.sublist_cons_self _ _)
  have filledFirst := separatePair.filled previous List.mem_cons_self
  have filledSecond := separateRest.filled current List.mem_cons_self
  have ordered := List.rel_of_pairwise_cons separatePair.ordered List.mem_cons_self
  have inside := aligned.spanStart_le_length current
  have upTo : ∀ fix ∈ fixesOf left, fix.start ≤ context.source.spanStart previous := by
    intro fix
    exact checkedLeft.le_spanStart separate.upTo
  have between : ∀ fix ∈ fixesOf here, context.source.spanStop previous ≤ fix.start ∧
      fix.start ≤ context.source.spanStart current := by
    intro fix member
    obtain ⟨finding, found, attached⟩ := List.mem_filterMap.mp member
    exact ((pair.asks finding found).of_fix attached).2
  have behind : ∀ fix ∈ fixesOf right, context.source.spanStop current ≤ fix.start := by
    intro fix
    exact checkedRight.spanStop_le separateRest
  have first : insertedUpTo (left ++ (here ++ right)) (context.source.spanStart previous) =
      ((fixesOf left).flatMap (·.text)).length := by
    apply insertedUpTo_append upTo
    intro fix member
    rw [fixesOf_append] at member
    rcases List.mem_append.mp member with isHere | isRight
    · have placed := between fix isHere
      omega
    · have placed := behind fix isRight
      omega
  have last : insertedUpTo (left ++ (here ++ right)) (context.source.spanStart current) =
      ((fixesOf (left ++ here)).flatMap (·.text)).length := by
    rw [← List.append_assoc]
    apply insertedUpTo_append
    · intro fix member
      rw [fixesOf_append] at member
      rcases List.mem_append.mp member with isLeft | isHere
      · have placed := upTo fix isLeft
        omega
      · exact (between fix isHere).2
    · intro fix member
      have placed := behind fix member
      omega
  obtain ⟨start, rest, whole, reached, length⟩ :=
    checked.exists_fixedText_around aligned ordered inside
      (fun fix member => by have placed := upTo fix member; omega) between
      (fun fix member => by have placed := behind fix member; omega)
  have inner := pair.hasInnerBlank isMatch ordered inside
  rw [fixesOf_append, List.flatMap_append, List.length_append] at last
  have stop : context.source.spanStart current +
      insertedUpTo (left ++ (here ++ right)) (context.source.spanStart current) =
        start.length + (Fix.replaceFrom
          (Text.sliceTo context.source.text (context.source.spanStart current : Int))
          (context.source.spanStop previous : Int) (fixesOf here)).length := by omega
  rw [first, ← reached, stop, whole]
  exact Text.blankBetween_append_iff.mpr inner

end Fixed

/-- A statement of the source stands in a later one, where the fixes of some findings put
it. -/
structure Moved (context : RuleContext) (findings : List Finding) (later : Source)
    (statement moved : Node) : Prop where
  kind : moved.kind = statement.kind
  word : later.textOf (moved.field? "kind") = context.source.textOf (statement.field? "kind")
  start : later.spanStart moved = context.source.spanStart statement +
    insertedUpTo findings (context.source.spanStart statement)
  stop : later.spanStop moved = context.source.spanStop statement +
    insertedUpTo findings (context.source.spanStart statement)

/-- The findings about the statements of a block are all that has to be done: they insert
something between two statements each, the statements stay as they are, those that have to
be apart then have a blank line between them, and nothing is found about them again. -/
structure Padded (context : RuleContext) (statements : List Node) (findings : List Finding) :
    Prop where
  asks : ∀ finding ∈ findings, ∃ previous current,
    [previous, current] <:+: statements ∧ AsksBetween context previous current finding
  moves : ∀ statement ∈ statements,
    let moved := insertedUpTo findings (context.source.spanStart statement)
    Text.slice (fixedText context.source.text findings)
        (context.source.spanStart statement + moved : Nat)
        (context.source.spanStop statement + moved : Nat) =
      Text.slice context.source.text (context.source.spanStart statement : Int)
        (context.source.spanStop statement : Int)
  apart : ∀ previous current, [previous, current] <:+: statements →
    matchesSome context.source previous current (context.options.items "pairs") = .ok true →
    Text.BlankBetween (fixedText context.source.text findings)
      (context.source.spanStop previous +
        insertedUpTo findings (context.source.spanStart previous))
      (context.source.spanStart current +
        insertedUpTo findings (context.source.spanStart current))
  blank : ∀ (later : Source) (previous current first second : Node),
    later.Aligned → later.text = fixedText context.source.text findings →
    [previous, current] <:+: statements →
    matchesSome context.source previous current (context.options.items "pairs") = .ok true →
    Moved context findings later previous first →
    Moved context findings later current second →
    hasBlankLine later first second = .ok true
  settled : ∀ (later : RuleContext) (again : Place) (state : paddingLines.State),
    later.options = context.options → later.source.Aligned →
    later.source.text = fixedText context.source.text findings →
    List.Forall₂ (Moved context findings later.source) statements again.node.statements →
    ∃ next, paddingLines.enter later again state = .ok (next, [])

section Rechecked

variable {context later : RuleContext} {statements : List Node} {findings : List Finding}
  {previous current first second : Node}

theorem Moved.isOf_eq (moved : Moved context findings later.source current second)
    (kind : Value) :
    isOf later.source second kind = isOf context.source current kind := by
  cases kind with
  | text word => simp only [isOf, isOfKind, moved.kind, moved.word]
  | _ => rfl

theorem matchesSome_moved (movedFirst : Moved context findings later.source previous first)
    (movedSecond : Moved context findings later.source current second)
    (entries : List Value) :
    matchesSome later.source first second entries =
      matchesSome context.source previous current entries := by
  induction entries with
  | nil => rfl
  | cons entry rest induction =>
      simp only [matchesSome, movedFirst.isOf_eq, movedSecond.isOf_eq, induction]

theorem hasBlankLine_moved {source : Source} (aligned : source.Aligned)
    (sameText : source.text = fixedText context.source.text findings)
    (movedFirst : Moved context findings source previous first)
    (movedSecond : Moved context findings source current second)
    (apart : Text.BlankBetween (fixedText context.source.text findings)
      (context.source.spanStop previous +
        insertedUpTo findings (context.source.spanStart previous))
      (context.source.spanStart current +
        insertedUpTo findings (context.source.spanStart current))) :
    hasBlankLine source first second = .ok true := by
  obtain ⟨found, looked, isBlank⟩ := hasBlankLine_spec aligned first second
  rw [movedFirst.stop, movedSecond.start, sameText] at isBlank
  rw [looked, isBlank.mpr apart]

/-- Nothing is found about a pair that has the blank line it needs. -/
theorem checkPair_eq_nil
    (always : later.options.word "blank_line" "always" = "always")
    (pairs : ∀ entry ∈ later.options.items "pairs", IsWordPair entry)
    (blank : matchesSome later.source first second (later.options.items "pairs") = .ok true →
      hasBlankLine later.source first second = .ok true) :
    checkPair later first second = .ok [] := by
  obtain ⟨isMatch, matched⟩ := exists_matchesSome later.source first second pairs
  simp only [checkPair, bind, Except.bind, pure, Except.pure, matched, always]
  cases isMatch with
  | false => rfl
  | true =>
      rw [blank matched]
      rfl

theorem checkPairs_eq_nil {related : Node → Node → Prop} {moved : List Node}
    (all : List.Forall₂ related statements moved)
    (quiet : ∀ previous current first second, [previous, current] <:+: statements →
      related previous first → related current second →
      checkPair later first second = .ok []) :
    checkPairs later moved = .ok [] := by
  induction all with
  | nil => rfl
  | cons relatedFirst others induction =>
      cases others with
      | nil => rfl
      | cons relatedSecond others =>
          have here := quiet _ _ _ _ ⟨[], _, rfl⟩ relatedFirst relatedSecond
          have rest := induction fun previous current first second adjacent =>
            quiet previous current first second
              (adjacent.trans (List.suffix_cons _ _).isInfix)
          simp only [checkPairs, here, rest, List.append_nil]

end Rechecked

section Split

variable {context : RuleContext} {before after : List Node} {node previous current : Node}
  {findings : List Finding}

theorem exists_split (aligned : context.source.Aligned)
    (always : context.options.word "blank_line" "always" = "always")
    (pairs : ∀ entry ∈ context.options.items "pairs", IsWordPair entry)
    (separate : context.source.Separates (before ++ node :: after))
    (found : checkPairs context (before ++ node :: after) = .ok findings) :
    ∃ left right, findings = left ++ right ∧ CheckedPairs context (before ++ [node]) left ∧
      checkPairs context (node :: after) = .ok right ∧
      CheckedPairs context (node :: after) right := by
  obtain ⟨left, foundLeft, checkedLeft⟩ := checkPairs_spec aligned always pairs separate.upTo
  obtain ⟨right, foundRight, checkedRight⟩ :=
    checkPairs_spec aligned always pairs separate.onward
  have joined := checkPairs_append foundLeft foundRight
  exact ⟨left, right, Except.ok.inj (found.symm.trans joined), checkedLeft, foundRight,
    checkedRight⟩

theorem exists_split_pair (aligned : context.source.Aligned)
    (always : context.options.word "blank_line" "always" = "always")
    (pairs : ∀ entry ∈ context.options.items "pairs", IsWordPair entry)
    (separate : context.source.Separates (previous :: current :: after))
    (found : checkPairs context (previous :: current :: after) = .ok findings) :
    ∃ here right, findings = here ++ right ∧ CheckedPair context previous current here ∧
      CheckedPairs context (current :: after) right := by
  obtain ⟨here, foundHere, pair⟩ := checkPair_spec aligned always pairs
    (List.rel_of_pairwise_cons separate.ordered List.mem_cons_self)
  obtain ⟨right, foundRight, checkedRight⟩ := checkPairs_spec aligned always pairs
    (separate.of_sublist (List.sublist_cons_self _ _))
  rw [checkPairs, foundHere] at found
  dsimp only at found
  rw [foundRight] at found
  exact ⟨here, right, (Except.ok.inj found).symm, pair, checkedRight⟩

/-- Among the statements of a block, those that have to be apart have a blank line between
them in the end. -/
theorem blankBetween_of_adjacent {statements : List Node} (aligned : context.source.Aligned)
    (always : context.options.word "blank_line" "always" = "always")
    (pairs : ∀ entry ∈ context.options.items "pairs", IsWordPair entry)
    (separate : context.source.Separates statements)
    (found : checkPairs context statements = .ok findings)
    (checked : CheckedPairs context statements findings)
    (adjacent : [previous, current] <:+: statements)
    (isMatch : matchesSome context.source previous current
      (context.options.items "pairs") = .ok true) :
    Text.BlankBetween (fixedText context.source.text findings)
      (context.source.spanStop previous +
        insertedUpTo findings (context.source.spanStart previous))
      (context.source.spanStart current +
        insertedUpTo findings (context.source.spanStart current)) := by
  obtain ⟨before, after, whole⟩ := adjacent
  obtain rfl : before ++ previous :: current :: after = statements := by
    rw [← whole, List.append_assoc]
    rfl
  obtain ⟨left, others, rfl, checkedLeft, foundOthers, -⟩ :=
    exists_split aligned always pairs separate found
  obtain ⟨here, right, rfl, pair, checkedRight⟩ :=
    exists_split_pair aligned always pairs separate.onward foundOthers
  exact blankBetween_fixedText aligned separate checked checkedLeft pair checkedRight isMatch

end Split

theorem enter_paddingLines {context : RuleContext} {place : Place} {findings : List Finding}
    (checked : checkPairs context place.node.statements = .ok findings)
    (state : paddingLines.State) :
    paddingLines.enter context place state = .ok ((), findings) := by
  simp only [paddingLines, Rule.onEntering, checked]

/-- Where blank lines are required between statements of some kinds, the statements of a
block, whatever lies between them, are answered with findings whose fixes put all the
missing blank lines there. -/
theorem paddingLines_pads {context : RuleContext} {place : Place}
    (aligned : context.source.Aligned)
    (always : context.options.word "blank_line" "always" = "always")
    (pairs : ∀ entry ∈ context.options.items "pairs", IsWordPair entry)
    (separate : context.source.Separates place.node.statements)
    (state : paddingLines.State) :
    ∃ next findings, paddingLines.enter context place state = .ok (next, findings) ∧
      Padded context place.node.statements findings := by
  obtain ⟨findings, found, checked⟩ := checkPairs_spec aligned always pairs separate
  refine ⟨(), findings, enter_paddingLines found state, ?_⟩
  refine ⟨checked.asks, ?_, ?_, ?_, ?_⟩
  · intro statement member
    obtain ⟨before, after, split⟩ := List.append_of_mem member
    rw [split] at separate found checked
    obtain ⟨left, right, rfl, checkedLeft, -, checkedRight⟩ :=
      exists_split aligned always pairs separate found
    exact slice_fixedText aligned separate checked checkedLeft checkedRight
  · intro previous current
    exact blankBetween_of_adjacent aligned always pairs separate found checked
  · intro later previous current first second alignedLater sameText adjacent isMatch
      movedFirst movedSecond
    exact hasBlankLine_moved alignedLater sameText movedFirst movedSecond
      (blankBetween_of_adjacent aligned always pairs separate found checked adjacent isMatch)
  · intro later again _ sameOptions alignedLater sameText all
    refine ⟨(), enter_paddingLines (checkPairs_eq_nil all ?_) _⟩
    intro previous current first second adjacent movedFirst movedSecond
    apply checkPair_eq_nil (sameOptions ▸ always) (sameOptions ▸ pairs)
    intro isMatch
    rw [matchesSome_moved movedFirst movedSecond, sameOptions] at isMatch
    exact hasBlankLine_moved alignedLater sameText movedFirst movedSecond
      (blankBetween_of_adjacent aligned always pairs separate found checked adjacent isMatch)

/-- Three statements on two lines, between which blank lines are required. -/
def crowdedContext : RuleContext where
  rule := "padding-line-between-statements"
  severity := 1
  options := [("pairs", .tuple [.tuple [.text "*", .text "expression"]])]
  source := ⟨"a;\r\nb;c;".toList, "a;\r\nb;c;".toList, .javascript,
    ⟨"program", true, false, false, 0, 8, none,
      [⟨"expression_statement", true, false, false, 0, 2, none, []⟩,
        ⟨"expression_statement", true, false, false, 4, 6, none, []⟩,
        ⟨"expression_statement", true, false, false, 6, 8, none, []⟩]⟩, none⟩
  fixable := true

/-- The same statements with the blank lines between them. -/
def spacedContext : RuleContext :=
  { crowdedContext with
    source := ⟨"a;\r\n\r\nb;\r\n\r\nc;".toList, "a;\r\n\r\nb;\r\n\r\nc;".toList, .javascript,
      ⟨"program", true, false, false, 0, 14, none,
        [⟨"expression_statement", true, false, false, 0, 2, none, []⟩,
          ⟨"expression_statement", true, false, false, 6, 8, none, []⟩,
          ⟨"expression_statement", true, false, false, 12, 14, none, []⟩]⟩, none⟩ }

theorem paddingLines_pads_crowdedContext :
    ∃ next findings, paddingLines.enter crowdedContext crowdedContext.source.rootPlace () =
        .ok (next, findings) ∧
      Padded crowdedContext crowdedContext.source.root.statements findings ∧
      fixedText crowdedContext.source.text findings = spacedContext.source.text ∧
      List.Forall₂ (Moved crowdedContext findings spacedContext.source)
        crowdedContext.source.root.statements spacedContext.source.root.statements ∧
      paddingLines.enter spacedContext spacedContext.source.rootPlace () = .ok ((), []) := by
  have separate : crowdedContext.source.Separates crowdedContext.source.root.statements := by
    refine ⟨?_, ?_⟩
    · decide +kernel
    · decide +kernel
  obtain ⟨next, findings, entered, padded⟩ :=
    paddingLines_pads (show crowdedContext.source.Aligned from rfl) (by decide +kernel)
      (fun entry member => ⟨"*", "expression", Or.inl (List.mem_singleton.mp member)⟩)
      (show crowdedContext.source.Separates
        crowdedContext.source.rootPlace.node.statements from separate) ()
  have fixes : fixesOf findings =
      [⟨4, 4, ['\r', '\n']⟩, ⟨6, 6, ['\r', '\n', '\r', '\n']⟩] := by
    have found : (paddingLines.enter crowdedContext crowdedContext.source.rootPlace
        ()).toOption.map (fun answer => fixesOf answer.2) =
          some [⟨4, 4, ['\r', '\n']⟩, ⟨6, 6, ['\r', '\n', '\r', '\n']⟩] := by
      decide +kernel
    rw [entered] at found
    exact Option.some.inj found
  have fixed : fixedText crowdedContext.source.text findings = spacedContext.source.text := by
    rw [fixedText, fixes, Fix.getD_applyAll_of_follow _ (by decide) (by decide)]
    decide +kernel
  have moved : List.Forall₂ (Moved crowdedContext findings spacedContext.source)
      crowdedContext.source.root.statements spacedContext.source.root.statements := by
    have first : crowdedContext.source.root.statements =
        crowdedContext.source.root.children := rfl
    have second : spacedContext.source.root.statements =
        spacedContext.source.root.children := rfl
    rw [first, second]
    refine .cons ⟨rfl, rfl, ?_, ?_⟩ (.cons ⟨rfl, rfl, ?_, ?_⟩ (.cons ⟨rfl, rfl, ?_, ?_⟩ .nil))
    all_goals
      rw [insertedUpTo, fixes]
      decide +kernel
  refine ⟨next, findings, entered, padded, fixed, moved, ?_⟩
  obtain ⟨again, quiet⟩ := padded.settled spacedContext spacedContext.source.rootPlace () rfl rfl
    fixed.symm moved
  exact quiet

end Padding

end ScriptLint
