import Mathlib.Data.List.Dedup
import ScriptLint.Proofs.Engine.Reports
import ScriptLint.Proofs.Named
import ScriptLint.Proofs.Source.Position
import ScriptLint.Proofs.Tree.Traversal

/-!
# Repeated blocks

A table of fingerprints holds for each fingerprint the lines recorded for it so far.  The
rule about repeated blocks records all blocks of a text under one fingerprint, so it reports
every block but the first, with the lines of all blocks up to it.  In a nested tree blocks
start in the order in which they are entered, and sorting by position changes nothing.
-/

namespace ScriptLint

namespace FingerprintTable

/-- The table after some records on a fresh one. -/
def recorded (records : List (String × Int)) : FingerprintTable :=
  records.foldl (fun table entry => (table.record entry.1 entry.2).2) []

/-- The lines that are recorded for a fingerprint, in order. -/
def linesOf (digest : String) (records : List (String × Int)) : List Int :=
  (records.filter (·.1 = digest)).map (·.2)

theorem recorded_append_singleton (records : List (String × Int)) (digest : String)
    (line : Int) :
    recorded (records ++ [(digest, line)]) = ((recorded records).record digest line).2 := by
  rw [recorded, List.foldl_append]
  rfl

theorem record_snd (table : FingerprintTable) (digest : String) (line : Int) :
    (table.record digest line).2 =
      putNamed digest ((getNamed? table digest).getD [] ++ [line]) table := by
  unfold record
  cases held : getNamed? table digest with
  | none => exact (putNamed_of_absent [line] held).symm
  | some lines => rfl

theorem record_fst (table : FingerprintTable) (digest : String) (line : Int) :
    (table.record digest line).1 = (getNamed? table digest).map (· ++ [line]) := by
  unfold record
  cases getNamed? table digest with
  | none => rfl
  | some lines => rfl

theorem getNamed?_recorded (records : List (String × Int)) (digest : String) :
    getNamed? (recorded records) digest =
      if digest ∈ records.map (·.1) then some (linesOf digest records) else none := by
  induction records using List.reverseRecOn with
  | nil => rfl
  | append_singleton before entry induction =>
      obtain ⟨other, line⟩ := entry
      rw [recorded_append_singleton, record_snd, getNamed?_putNamed]
      by_cases same : other = digest
      · subst same
        rw [induction]
        by_cases earlier : other ∈ before.map (·.1)
        · simp [linesOf, earlier]
        · have none : linesOf other before = [] := by
            rw [linesOf, List.map_eq_nil_iff, List.filter_eq_nil_iff]
            intro entry member isOther
            exact earlier (List.mem_map.mpr ⟨entry, member, by simpa using isOther⟩)
          simp [linesOf, earlier, ← none]
      · have listed : digest ∈ (before ++ [(other, line)]).map (·.1) ↔
            digest ∈ before.map (·.1) := by
          simp [Ne.symm same]
        rw [if_neg same, induction]
        simp only [listed]
        simp [linesOf, same]

/-- A record gives nothing for a new fingerprint, and otherwise all lines that were recorded
for it, the new one included. -/
theorem record_recorded (records : List (String × Int)) (digest : String) (line : Int) :
    (recorded records).record digest line =
      (if digest ∈ records.map (·.1) then some (linesOf digest (records ++ [(digest, line)]))
        else none,
        recorded (records ++ [(digest, line)])) := by
  apply Prod.ext
  · rw [record_fst, getNamed?_recorded]
    split
    · simp [linesOf]
    · rfl
  · exact (recorded_append_singleton records digest line).symm

theorem nodup_names_recorded (records : List (String × Int)) :
    ((recorded records).map (·.1)).Nodup := by
  induction records using List.reverseRecOn with
  | nil => exact List.nodup_nil
  | append_singleton before entry induction =>
      rw [recorded_append_singleton, record_snd, names_putNamed]
      split
      · exact induction
      · rename_i absent
        exact induction.append (List.nodup_singleton _) (by simpa using absent)

theorem length_recorded (records : List (String × Int)) :
    (recorded records).length = (records.map (·.1)).dedup.length := by
  have sameNames : ((recorded records).map (·.1)).Perm (records.map (·.1)).dedup := by
    rw [List.perm_ext_iff_of_nodup (nodup_names_recorded records) (List.nodup_dedup _)]
    intro digest
    rw [List.mem_dedup, ← not_iff_not, ← getNamed?_eq_none_iff, getNamed?_recorded]
    simp
  simpa using sameNames.length_eq

end FingerprintTable

/-- Messages about nodes are in order if the nodes are. -/
theorem Source.Aligned.before_message {source : Source} (aligned : source.Aligned)
    {rule : String} {level : Level} {left right : Place} {leftText rightText : String}
    (ordered : left.node.startByte ≤ right.node.startByte) :
    (left.message source rule level leftText).before
      (right.message source rule level rightText) = true := by
  rw [Message.before_eq_true_iff]
  rcases aligned.notAfter_positionAt ordered with earlier | ⟨sameLine, notAfter⟩
  · exact .inl earlier
  · exact .inr ⟨sameLine, Source.utf16Column_le (aligned.follows_positionAt _)
      (aligned.follows_positionAt _) sameLine notAfter⟩

namespace DuplicateBlocks

open FingerprintTable

/-- The blocks of a tree in the order in which they are entered. -/
def blocks (source : Source) : List Place :=
  source.walk.filter (·.kind = "statement_block")

def startLine (source : Source) (block : Place) : Int :=
  (source.start block.node).line

/-- What is said about a block when these lines are recorded for it. -/
def repeatedText (lines : List Int) : String :=
  "Duplicate code detected. Similar code found at: " ++ ", ".intercalate (lines.map toString)

def recordsOf (source : Source) (done : List Place) : List (String × Int) :=
  done.map fun block => (fingerprint source.text, startLine source block)

/-- The report about a block after others. -/
def reportAfter (source : Source) (done : List Place) (block : Place) :
    List (Place × String) :=
  if done.isEmpty then []
  else [(block, repeatedText ((done ++ [block]).map (startLine source)))]

/-- The reports about blocks after others. -/
def reportsAfter (source : Source) (done : List Place) : List Place → List (Place × String)
  | [] => []
  | block :: rest => reportAfter source done block ++ reportsAfter source (done ++ [block]) rest

theorem recordsOf_append_singleton (source : Source) (done : List Place) (block : Place) :
    recordsOf source (done ++ [block]) =
      recordsOf source done ++ [(fingerprint source.text, startLine source block)] := by
  rw [recordsOf, List.map_append]
  rfl

theorem linesOf_recordsOf (source : Source) (done : List Place) :
    linesOf (fingerprint source.text) (recordsOf source done) =
      done.map (startLine source) := by
  induction done with
  | nil => rfl
  | cons block rest induction =>
      simpa [linesOf, recordsOf] using induction

theorem step_enter_of_block (context : RuleContext) (done : List Place) {block : Place}
    (isBlock : block.kind = "statement_block") :
    noDuplicateCode.step context (recorded (recordsOf context.source done)) (.enter block) =
      .ok (recorded (recordsOf context.source (done ++ [block])),
        (reportAfter context.source done block).map fun report =>
          context.about report.1.node report.2) := by
  have watched : noDuplicateCode.kinds.contains block.kind = true := by
    rw [isBlock]
    rfl
  have known : fingerprint context.source.text ∈ (recordsOf context.source done).map (·.1) ↔
      ¬done.isEmpty = true := by
    cases done with
    | nil => simp [recordsOf]
    | cons first rest => simp [recordsOf]
  have noted := record_recorded (recordsOf context.source done)
    (fingerprint context.source.text) (startLine context.source block)
  rw [← recordsOf_append_singleton, linesOf_recordsOf] at noted
  rw [startLine] at noted
  refine (Rule.step_enter_of_watched context _ watched).trans ?_
  simp only [noDuplicateCode, noted, reportAfter]
  by_cases first : done.isEmpty = true
  · rw [if_neg (fun isKnown => known.mp isKnown first), if_pos first]
    rfl
  · rw [if_pos (known.mpr first), if_neg first]
    rfl

theorem along_noDuplicateCode (context : RuleContext) (done : List Place)
    (visits : List Visit) :
    along (noDuplicateCode.step context) (recorded (recordsOf context.source done)) visits =
      .ok (recorded (recordsOf context.source
          (done ++ (Visit.entered visits).filter (·.kind = "statement_block"))),
        (reportsAfter context.source done
          ((Visit.entered visits).filter (·.kind = "statement_block"))).map fun report =>
            context.about report.1.node report.2) := by
  induction visits generalizing done with
  | nil =>
      rw [Visit.entered_nil, List.filter_nil, List.append_nil]
      rfl
  | cons visit rest induction =>
      cases visit with
      | enter place =>
          rw [Visit.entered_enter_cons]
          by_cases isBlock : place.kind = "statement_block"
          · rw [List.filter_cons_of_pos (by simpa using isBlock)]
            have here := (along_singleton _ _).trans (step_enter_of_block context done isBlock)
            refine (along_append_eq_ok here (induction _)).trans ?_
            rw [reportsAfter, List.map_append, List.append_assoc]
            rfl
          · have unwatched : ¬noDuplicateCode.kinds.contains place.kind = true := by
              simpa [noDuplicateCode] using isBlock
            rw [List.filter_cons_of_neg (by simpa using isBlock)]
            exact (along_cons_of_silent rest
              (Rule.step_enter_of_unwatched context _ unwatched)).trans (induction done)
      | leave place =>
          have silent : noDuplicateCode.step context
              (recorded (recordsOf context.source done)) (.leave place) =
                .ok (recorded (recordsOf context.source done), []) := by
            by_cases watched : noDuplicateCode.kinds.contains place.kind = true
            · exact Rule.step_leave_of_watched context _ watched
            · exact Rule.step_leave_of_unwatched context _ watched
          rw [Visit.entered_leave_cons]
          exact (along_cons_of_silent rest silent).trans (induction done)

section Reports

variable (source : Source)

theorem getElem?_reportsAfter {done : List Place} (nonempty : done ≠ []) (rest : List Place)
    (index : Nat) :
    (reportsAfter source done rest)[index]? = rest[index]?.map fun block =>
      (block, repeatedText ((done ++ rest.take (index + 1)).map (startLine source))) := by
  induction rest generalizing done index with
  | nil => simp [reportsAfter]
  | cons block rest induction =>
      rw [reportsAfter, reportAfter, if_neg (by simpa using nonempty), List.singleton_append]
      cases index with
      | zero => simp
      | succ index =>
          rw [List.getElem?_cons_succ, List.getElem?_cons_succ,
            induction (List.append_ne_nil_of_right_ne_nil _ (List.cons_ne_nil block []))]
          simp

/-- The first block is not reported, and every other block is reported with all blocks up
to it. -/
theorem getElem?_reportsAfter_nil (places : List Place) (index : Nat) :
    (reportsAfter source [] places)[index]? = places[index + 1]?.map fun block =>
      (block, repeatedText ((places.take (index + 2)).map (startLine source))) := by
  cases places with
  | nil => simp [reportsAfter]
  | cons first rest =>
      rw [reportsAfter, reportAfter, if_pos List.isEmpty_nil, List.nil_append,
        List.nil_append,
        getElem?_reportsAfter source (List.cons_ne_nil first [])]
      simp

theorem map_fst_reportsAfter (places : List Place) :
    (reportsAfter source [] places).map (·.1) = places.tail := by
  apply List.ext_getElem?
  intro index
  rw [List.getElem?_map, getElem?_reportsAfter_nil, Option.map_map, List.getElem?_tail]
  exact Option.map_id'

end Reports

/-- In a nested tree the reports about blocks are told as they arise. -/
theorem inOrder_reportsAfter {source : Source} (aligned : source.Aligned)
    (nested : source.root.IsNested) (level : Level) :
    Message.inOrder ((reportsAfter source [] (blocks source)).map fun report =>
        report.1.message source duplicateRuleName level report.2) =
      (reportsAfter source [] (blocks source)).map fun report =>
        report.1.message source duplicateRuleName level report.2 := by
  have started : (blocks source).Pairwise (·.node.startByte ≤ ·.node.startByte) :=
    (Place.pairwise_walk nested (Node.self_mem_nodes source.root)).filter _
  have reported : (reportsAfter source [] (blocks source)).Pairwise
      fun left right => left.1.node.startByte ≤ right.1.node.startByte := by
    have places := started.sublist (List.tail_sublist _)
    rwa [← map_fst_reportsAfter, List.pairwise_map] at places
  apply List.mergeSort_of_pairwise
  rw [List.pairwise_map]
  exact reported.imp aligned.before_message

theorem run_noDuplicateCode (source : Source) (level : Level) (options : Options) :
    Pass.run [.ofRule ⟨duplicateRuleName, level.number, options, source,
        noDuplicateCode.fixable⟩ noDuplicateCode] source.root =
      .ok ((reportsAfter source [] (blocks source)).map fun report =>
        report.1.message source duplicateRuleName level report.2) := by
  have found := along_noDuplicateCode ⟨duplicateRuleName, level.number, options, source,
    noDuplicateCode.fixable⟩ [] (Visit.ofRoot source.root)
  rw [Visit.entered_ofRoot] at found
  exact Pass.run_singleton found rfl (RuleContext.messages_about source duplicateRuleName level
    options noDuplicateCode.fixable (reportsAfter source [] (blocks source)))

/-- With the rule about repeated blocks alone, checking a text with a nested tree tells every
block but the first in document order, with the lines of all blocks up to it.  On a fresh
table, a record gives nothing for a new fingerprint and otherwise all lines recorded for it,
and there are as many entries as fingerprints. -/
theorem lintText_duplicateBlocks {parse : Parser} {path : String} {text : List Char}
    {source : Source} {setting : RuleSetting} {level : Level}
    (sourced : Source.ofText parse (Path.ofString path) text = source)
    (clean : source.problem? = none) (nested : source.root.IsNested)
    (accepted : setting.validate RuleBook.standard duplicateRuleName = .ok ())
    (isLevel : setting.severity.level? = some level) (on : level ≠ .off) :
    (∃ messages,
      lintText parse RuleBook.standard [(duplicateRuleName, setting)] path text =
        .ok ⟨messages, none⟩ ∧
      messages.length = (blocks source).length - 1 ∧
      ∀ index, messages[index]? = (blocks source)[index + 1]?.map fun block =>
        block.message source duplicateRuleName level
          (repeatedText (((blocks source).take (index + 2)).map (startLine source)))) ∧
    (∀ (records : List (String × Int)) (digest : String) (line : Int),
      ((recorded records).record digest line).1 =
          (if digest ∈ records.map (·.1) then
            some (linesOf digest (records ++ [(digest, line)])) else none) ∧
        (recorded records).length = (records.map (·.1)).dedup.length) := by
  refine ⟨?_, fun records digest line =>
    ⟨congrArg Prod.fst (record_recorded records digest line), length_recorded records⟩⟩
  have aligned : source.Aligned := by
    rw [← sourced]
    exact Source.aligned_ofText parse (Path.ofString path) text
  refine ⟨(reportsAfter source [] (blocks source)).map fun report =>
    report.1.message source duplicateRuleName level report.2, ?_, ?_, ?_⟩
  · have known : RuleBook.standard.rule? duplicateRuleName = some noDuplicateCode := rfl
    have options := RuleSetting.validate_options accepted known isLevel on
    have noFix : ((reportsAfter source [] (blocks source)).map fun report =>
        report.1.message source duplicateRuleName level report.2).filterMap (·.fix) = [] := by
      rw [List.filterMap_map]
      exact List.filterMap_eq_nil_iff.mpr fun _ _ => rfl
    have ran := run_noDuplicateCode source level setting.options
    have sorted := inOrder_reportsAfter aligned nested level
    subst sourced
    have linted := lintText_singleton known options isLevel on clean ran
    rwa [LintResult.ofMessages, sorted, noFix, Fix.applyAll_nil] at linted
  · have lengths := congrArg List.length (map_fst_reportsAfter source (blocks source))
    simpa using lengths
  · intro index
    rw [List.getElem?_map, getElem?_reportsAfter_nil, Option.map_map]
    rfl

/-- The text of a block with a block in it, and of another block on the next line. -/
def threeBlocksText : List Char :=
  ['\x7b', '\x7b', '\x7d', '\x7d', '\n', '\x7b', '\x7d']

def threeBlocks : Node :=
  ⟨"program", true, false, false, 0, 7, none,
    [⟨"statement_block", true, false, false, 0, 4, none,
        [⟨"\x7b", false, false, false, 0, 1, none, []⟩,
          ⟨"statement_block", true, false, false, 1, 3, none, []⟩,
          ⟨"\x7d", false, false, false, 3, 4, none, []⟩]⟩,
      ⟨"statement_block", true, false, false, 5, 7, none, []⟩]⟩

theorem lintText_duplicateBlocks_threeBlocks :
    ∃ messages,
      lintText (fun _ _ => threeBlocks) RuleBook.standard
          [(duplicateRuleName, ⟨.text "error", []⟩)] "a.js" threeBlocksText =
        .ok ⟨messages, none⟩ ∧
      messages.length = 2 ∧
      messages[0]?.map (fun message => (message.line, message.column, message.text)) =
        some (1, 2, "Duplicate code detected. Similar code found at: 1, 1") ∧
      messages[1]?.map (fun message => (message.line, message.column, message.text)) =
        some (2, 1, "Duplicate code detected. Similar code found at: 1, 1, 2") ∧
      ((recorded [("a", 3), ("b", 4)]).record "a" 9).1 = some [3, 9] := by
  have clean : (Source.ofText (fun _ _ => threeBlocks) (Path.ofString "a.js")
      threeBlocksText).problem? = none := rfl
  have nested : threeBlocks.IsNested := by
    constructor
    · simp [threeBlocks, Node.IsOrdered, Node.nodes, Node.nodesOf]
    · simp [threeBlocks, Node.IsInside, Node.nodes, Node.nodesOf]
  have accepted : RuleSetting.validate RuleBook.standard duplicateRuleName
      ⟨.text "error", []⟩ = .ok () := rfl
  have isLevel : (Value.text "error").level? = some .error := rfl
  obtain ⟨⟨messages, linted, count, each⟩, table⟩ :=
    lintText_duplicateBlocks rfl clean nested accepted isLevel (by decide)
  refine ⟨messages, linted, count.trans ?_, ?_, ?_, ?_⟩
  · decide +kernel
  · rw [each 0]
    decide +kernel
  · rw [each 1]
    decide +kernel
  · rw [(table [("a", 3), ("b", 4)] "a" 9).1]
    decide

end DuplicateBlocks

end ScriptLint
