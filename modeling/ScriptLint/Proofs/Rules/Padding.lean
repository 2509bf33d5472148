import ScriptLint.Proofs.Rules.Located
import ScriptLint.Proofs.Source.Position
import ScriptLint.Rules.Padding

/-!
# Findings about blank lines between statements

A fix inserts line breaks at one place between two consecutive statements, not
before the first one ends and, if the statements are in order, not after the second
one starts.  With such statements and pairs of words as its option, the rule answers.
-/

namespace ScriptLint

namespace Padding

section Fixes

variable {source : Source} {previous current : Node} {fix : Fix}

/-- The fix between two statements inserts something at one place behind the first
one. -/
theorem of_blankLineFix (aligned : source.Aligned)
    (made : blankLineFix source previous current = .ok fix) :
    ∃ offset : Nat, fix.start = offset ∧ fix.stop = offset ∧
      offset ≤ source.text.length ∧
      charsEndingBy source.parsed previous.endByte ≤ offset ∧
      (previous.endByte ≤ current.startByte →
        offset ≤ charsEndingBy source.parsed current.startByte) := by
  have ends := aligned.follows_positionAt previous.endByte
  have starts := aligned.follows_positionAt current.startByte
  simp only [blankLineFix, aligned.span?_eq] at made
  split at made
  · rw [← Except.ok.inj made]
    exact ⟨_, rfl, rfl, ends.le_length, Nat.le_refl _, charsEndingBy_mono source.parsed⟩
  · rename_i apart
    have first := ends.one_le_line
    obtain ⟨row, isRow⟩ : ∃ row : Nat, (source.positionAt previous.endByte).line = row :=
      ⟨(source.positionAt previous.endByte).line.toNat, by omega⟩
    rw [Source.stop, isRow] at made
    split at made
    · simp at made
    · rename_i offset found
      obtain ⟨start, atRow, rfl⟩ := Source.offset_eq_ok_iff.mp found
      rw [← Except.ok.inj made]
      have behind : charsEndingBy source.parsed previous.endByte < start := by
        apply ends.lt_lineStart
        rw [isRow, Int.toNat_natCast, atRow]
      refine ⟨start, rfl, rfl, Text.lineStart_le_length atRow, behind.le, ?_⟩
      intro ordered
      apply starts.lineStart_le atRow
      rcases aligned.notAfter_positionAt ordered with before | ⟨same, -⟩
      · omega
      · exact absurd same apart

theorem exists_anyBlank {lines : List (List Char)} {row count : Nat}
    (within : row + count ≤ lines.length) :
    ∃ found, anyBlank lines row count = .ok found := by
  induction count generalizing row with
  | zero => exact ⟨false, rfl⟩
  | succ count induction =>
      have inside : row < lines.length := by omega
      rw [anyBlank, List.getElem?_eq_getElem inside]
      dsimp only
      split
      · exact ⟨true, rfl⟩
      · exact induction (by omega)

theorem exists_hasBlankLine (aligned : source.Aligned) (previous current : Node) :
    ∃ found, hasBlankLine source previous current = .ok found := by
  have first := aligned.follows_positionAt previous.endByte
  have second := aligned.follows_positionAt current.startByte
  apply exists_anyBlank
  have one := first.one_le_line
  have most := first.line_le_length
  have last := second.line_le_length
  have lines : source.lines.length = (Text.rawLines source.text).length :=
    Text.length_lines source.text
  unfold Source.start Source.stop
  omega

end Fixes

/-- Entries that name two kinds of statements. -/
def IsWordPair (entry : Value) : Prop :=
  ∃ first second, entry = .tuple [.text first, .text second] ∨
    entry = .list [.text first, .text second]

theorem exists_matchesSome (source : Source) (previous current : Node)
    {entries : List Value} (pairs : ∀ entry ∈ entries, IsWordPair entry) :
    ∃ found, matchesSome source previous current entries = .ok found := by
  induction entries with
  | nil => exact ⟨false, rfl⟩
  | cons entry rest induction =>
      obtain ⟨here, others⟩ := List.forall_mem_cons.mp pairs
      obtain ⟨first, second, isPair⟩ := here
      have kinds : kindsOf entry = .ok (.text first, .text second) := by
        rcases isPair with rfl | rfl
        · rfl
        · rfl
      simp only [matchesSome, kinds, isOf, bind, Except.bind, pure, Except.pure]
      split
      · split
        · exact ⟨true, rfl⟩
        · exact induction others
      · exact induction others

section Checks

variable {context : RuleContext} {findings : List Finding}

/-- What is found about two consecutive statements. -/
def AboutPair (context : RuleContext) (previous current : Node) (finding : Finding) :
    Prop :=
  (∃ text, finding = context.about current text) ∨
    ∃ text fix, blankLineFix context.source previous current = .ok fix ∧
      finding = context.fixing current text fix

theorem of_checkPair {previous current : Node}
    (checked : checkPair context previous current = .ok findings) :
    ∀ finding ∈ findings, AboutPair context previous current finding := by
  simp only [checkPair, bind, Except.bind, pure, Except.pure] at checked
  split at checked
  · simp at checked
  split at checked
  · exact forall_of_ok_nil checked
  split at checked
  · simp at checked
  split at checked
  · split at checked
    · simp at checked
    · rename_i fix made
      rw [← Except.ok.inj checked, List.forall_mem_singleton]
      exact .inr ⟨_, fix, made, rfl⟩
  split at checked
  · rw [← Except.ok.inj checked, List.forall_mem_singleton]
    exact .inl ⟨_, rfl⟩
  · exact forall_of_ok_nil checked

theorem of_checkPairs {statements : List Node}
    (checked : checkPairs context statements = .ok findings) :
    ∀ finding ∈ findings, ∃ previous current,
      [previous, current] <:+: statements ∧ AboutPair context previous current finding := by
  induction statements generalizing findings with
  | nil => exact forall_of_ok_nil checked
  | cons previous rest induction =>
      cases rest with
      | nil => exact forall_of_ok_nil checked
      | cons current rest =>
          unfold checkPairs at checked
          split at checked
          · simp at checked
          · rename_i here checkedHere
            split at checked
            · simp at checked
            · rename_i others checkedRest
              rw [← Except.ok.inj checked]
              intro finding member
              rcases List.mem_append.mp member with now | later
              · exact ⟨previous, current, ⟨[], rest, rfl⟩,
                  of_checkPair checkedHere finding now⟩
              · obtain ⟨first, second, adjacent, about⟩ :=
                  induction checkedRest finding later
                exact ⟨first, second, adjacent.trans (List.suffix_cons _ _).isInfix, about⟩

theorem of_enter_paddingLines {place : Place} {state next : paddingLines.State}
    (entered : paddingLines.enter context place state = .ok (next, findings)) :
    ∀ finding ∈ findings, ∃ previous current,
      [previous, current] <:+: place.node.statements ∧
        AboutPair context previous current finding := by
  simp only [paddingLines, Rule.onEntering] at entered
  split at entered
  · rename_i found checked
    rw [← (Prod.mk.inj (Except.ok.inj entered)).2]
    exact of_checkPairs checked
  · simp at entered

theorem paddingLines_finds (aligned : context.source.Aligned) :
    paddingLines.Finds context (Finding.Located context.source true) where
  entering := by
    intro place state next findings held entered finding member
    obtain ⟨previous, current, adjacent, about⟩ :=
      of_enter_paddingLines entered finding member
    have isStatement : current ∈ place.node.statements := adjacent.subset (by simp)
    have isChild := place.node.statements_sublist.subset isStatement
    have currentHeld := Node.mem_nodes_of_mem_children isChild held
    rcases about with ⟨text, rfl⟩ | ⟨text, fix, made, rfl⟩
    · exact .node text currentHeld
    · obtain ⟨offset, starts, ends, inside, -⟩ := of_blankLineFix aligned made
      exact .fixed text currentHeld rfl (by omega) (by omega) (by omega)
  leaving := fun _ _ _ _ _ => Answer.forall_of_silent
  finishing := fun _ _ => forall_of_ok_nil

end Checks

end Padding

end ScriptLint
