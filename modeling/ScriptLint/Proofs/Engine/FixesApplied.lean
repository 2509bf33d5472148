import Mathlib.Data.List.Perm.Basic
import ScriptLint.Proofs.Engine.FixPlaces
import ScriptLint.Proofs.Engine.Independence
import ScriptLint.Proofs.Engine.Ranges

/-!
# No fix is left out

The fixes of a pass are those of the two rules that offer any, in the order of the
messages.  In a tidy tree they lie apart, so all of them are applied.
-/

namespace ScriptLint

/-- What two tests pick out that exclude each other and cover all that counts. -/
private theorem filterMap_perm_append {α : Type*} {β : Type*} {value : α → Option β}
    {first second : α → Bool} {items : List α}
    (exclusive : ∀ item, first item = true → second item = false)
    (covered : ∀ item ∈ items, (value item).isSome = true →
      first item = true ∨ second item = true) :
    (items.filterMap value).Perm
      ((items.filter first).filterMap value ++ (items.filter second).filterMap value) := by
  induction items with
  | nil => exact .nil
  | cons item rest induction =>
      obtain ⟨here, others⟩ := List.forall_mem_cons.mp covered
      have later := induction others
      cases held : value item with
      | none =>
          simp only [List.filterMap_cons, List.filter_cons, held]
          split
          · split
            · simpa [List.filterMap_cons, held] using later
            · simpa [List.filterMap_cons, held] using later
          · split
            · simpa [List.filterMap_cons, held] using later
            · exact later
      | some found =>
          rcases here (by simp [held]) with isFirst | isSecond
          · simp only [List.filterMap_cons, List.filter_cons, held, isFirst,
              exclusive item isFirst, if_true, Bool.false_eq_true, if_false,
              List.cons_append]
            exact later.cons found
          · have notFirst : first item = false := by
              cases isFirst : first item with
              | false => rfl
              | true => simp [exclusive item isFirst] at isSecond
            simp only [List.filterMap_cons, List.filter_cons, held, isSecond, notFirst,
              if_true, Bool.false_eq_true, if_false]
            exact (later.cons found).trans List.perm_middle.symm

theorem RuleBook.map_fst_filter_fixable :
    (RuleBook.standard.filter (·.2.fixable)).map (·.1) =
      ["padding-line-between-statements", "quotes"] :=
  rfl

namespace RuleConfig

variable {source : Source} {config : RuleConfig} {emitted : List Message}

/-- The fixes that a rule of entered nodes attaches are those it has at the places of
the tree, or it is not at work. -/
theorem fixes_of_rule (name : String) {kinds : List String} {fixable : Bool}
    {options : List (String × OptionType)}
    {check : RuleContext → Place → Except Fault (List Finding)}
    (distinct : (config.map (·.1)).Nodup)
    (ran : Pass.run (config.activate RuleBook.standard source) source.root = .ok emitted)
    (known : RuleBook.standard.rule? name = some (.onEntering kinds fixable options check)) :
    ∃ context : RuleContext, context.source = source ∧
      ((emitted.filter (·.rule = some name)).filterMap (·.fix)).Sublist
        ((Place.ofRoot source.root).walk.flatMap
          ((Rule.onEntering kinds fixable options check).fixesAt context)) := by
  by_cases atWork : ∃ active ∈ config.activate RuleBook.standard source,
      active.context.rule = name
  · obtain ⟨active, isActive, isNamed⟩ := atWork
    have alone := Pass.filter_run ran (nodup_activate distinct) isActive
    rw [isNamed] at alone
    obtain ⟨parts, spoken, said⟩ := Pass.run_singleton_eq_ok_iff.mp alone
    obtain ⟨other, setting, rule, level, -, isRule, -, -, rfl⟩ := of_mem_activate isActive
    obtain rfl : other = name := isNamed
    obtain rfl := Option.some.inj (known.symm.trans isRule)
    refine ⟨⟨other, level.number, setting.options, source, fixable⟩, rfl, ?_⟩
    rw [said, ActiveRule.fixes_of_voice_onEntering spoken, Visit.entered_ofRoot,
      List.filterMap_flatMap]
    exact List.Sublist.refl _
  · refine ⟨⟨name, 0, [], source, fixable⟩, rfl, ?_⟩
    have nothing : emitted.filter (·.rule = some name) = [] := by
      apply List.filter_eq_nil_iff.mpr
      intro message member isNamed
      obtain ⟨active, isActive, named⟩ := Pass.rule_of_mem_run ran member
      refine atWork ⟨active, isActive, ?_⟩
      simpa [named] using isNamed
    rw [nothing]
    exact List.nil_sublist _

theorem rule_of_fix (aligned : source.Aligned)
    (ran : Pass.run (config.activate RuleBook.standard source) source.root = .ok emitted) :
    ∀ message ∈ emitted, message.fix.isSome = true →
      message.rule = some "quotes" ∨
        message.rule = some "padding-line-between-statements" := by
  intro message member attached
  obtain ⟨context, rule, finding, inBook, -, located, told⟩ :=
    of_mem_run aligned ran message member
  have named : message.rule = some context.rule := by
    have all := RuleContext.rule_of_mem_messages
      (RuleContext.messages_eq_ok_iff.mpr (.cons told .nil))
    exact all message List.mem_cons_self
  obtain ⟨-, -, -, -, -, -, -, sameFix⟩ := RuleContext.of_message_eq_ok told
  have declared : rule.fixable = true := by
    rw [sameFix] at attached
    cases located with
    | node => simp at attached
    | head => simp at attached
    | line => simp at attached
    | fixed text held declared => exact declared
  have isOne : context.rule ∈ (RuleBook.standard.filter (·.2.fixable)).map (·.1) :=
    List.mem_map.mpr ⟨_, List.mem_filter.mpr ⟨inBook, declared⟩, rfl⟩
  rw [RuleBook.map_fst_filter_fixable, List.mem_cons, List.mem_singleton] at isOne
  rw [named, Option.some.injEq, Option.some.injEq]
  exact isOne.symm

theorem apart_of_run (aligned : source.Aligned) (tidy : source.root.IsTidy)
    (distinct : (config.map (·.1)).Nodup)
    (ran : Pass.run (config.activate RuleBook.standard source) source.root = .ok emitted) :
    (emitted.filterMap (·.fix)).Pairwise Fix.Apart ∧
      ∀ fix ∈ emitted.filterMap (·.fix), 0 ≤ fix.start ∧ fix.start ≤ fix.stop := by
  obtain ⟨quoting, quotes, quoted⟩ := fixes_of_rule "quotes" distinct ran rfl
  obtain ⟨padding, blanks, padded⟩ :=
    fixes_of_rule "padding-line-between-statements" distinct ran rfl
  have both : (emitted.filterMap (·.fix)).Perm
      ((emitted.filter (·.rule = some "quotes")).filterMap (·.fix) ++
        (emitted.filter (·.rule = some "padding-line-between-statements")).filterMap
          (·.fix)) := by
    apply filterMap_perm_append
    · intro message isQuotes
      rw [decide_eq_true_eq] at isQuotes
      simp [isQuotes]
    · simpa using rule_of_fix aligned ran
  have held := Node.self_mem_nodes source.root
  have spread := List.flatMap_append_perm (Place.ofRoot source.root).walk
    (Quotes.quotes.fixesAt quoting) (Padding.paddingLines.fixesAt padding)
  have among := quoted.append padded
  constructor
  · apply (both.pairwise_iff Fix.Apart.symm).mpr
    apply List.Pairwise.sublist among
    apply (spread.pairwise_iff Fix.Apart.symm).mpr
    exact pairwise_apart_fixesBelow quotes blanks aligned tidy held
  · intro fix member
    have isBelow := spread.mem_iff.mp (among.subset (both.mem_iff.mp member))
    obtain ⟨starts, proper, -⟩ :=
      inside_of_mem_fixesBelow quotes blanks aligned tidy held fix isBelow
    exact ⟨by omega, proper⟩

end RuleConfig

theorem Fix.replaceFrom_zero_nil (text : List Char) : replaceFrom text 0 [] = text := by
  rw [replaceFrom, Text.sliceFrom]
  simp [Text.clamp]

/-- All fixes come from two rules.  In a tidy tree they lie apart, so that none is left
out and the fixed text has every one of them in its range. -/
theorem lintText_applies_all_fixes {parse : Parser} {config : RuleConfig} {path : String}
    {text : List Char} {result : LintResult} (distinct : (config.map (·.1)).Nodup)
    (tidy : (Source.ofText parse (Path.ofString path) text).root.IsTidy)
    (success : lintText parse RuleBook.standard config path text = .ok result) :
    (∀ message ∈ result.messages, message.fix.isSome = true →
      message.rule = some "quotes" ∨
        message.rule = some "padding-line-between-statements") ∧
    (result.messages.filterMap (·.fix)).Pairwise Fix.Apart ∧
    Fix.applied (result.messages.filterMap (·.fix)) =
      Fix.inOrder (result.messages.filterMap (·.fix)) ∧
    result.output.getD text =
      Fix.replaceFrom text 0 (Fix.inOrder (result.messages.filterMap (·.fix))) := by
  have aligned := Source.aligned_ofText parse (Path.ofString path) text
  have sameText := Source.text_ofText parse (Path.ofString path) text
  obtain ⟨-, linted⟩ := lintText_eq_ok_iff.mp success
  generalize Source.ofText parse (Path.ofString path) text = source at *
  subst sameText
  cases problem : source.problem? with
  | some found =>
      rw [Source.lint, problem] at linted
      rw [← Except.ok.inj linted]
      have noFix : [found.message source].filterMap (·.fix) = [] := rfl
      have nothing : Fix.inOrder [] = [] := List.mergeSort_nil
      refine ⟨?_, .nil, ?_, ?_⟩
      · rw [List.forall_mem_singleton]
        intro attached
        simp [Problem.message] at attached
      · rw [noFix, Fix.applied, nothing]
        rfl
      · rw [noFix, nothing, Fix.replaceFrom_zero_nil]
        rfl
  | none =>
      obtain ⟨emitted, ran, rfl⟩ := (Source.lint_eq_ok_iff problem).mp linted
      obtain ⟨apart, proper⟩ := RuleConfig.apart_of_run aligned tidy distinct ran
      have sorted : ((Message.inOrder emitted).filterMap (·.fix)).Perm
          (emitted.filterMap (·.fix)) :=
        (List.mergeSort_perm emitted Message.before).filterMap _
      have sortedApart := (sorted.pairwise_iff Fix.Apart.symm).mpr apart
      have all := Fix.applied_eq_inOrder
        (fun fix member => proper fix (sorted.mem_iff.mp member)) sortedApart
      refine ⟨?_, sortedApart, all, ?_⟩
      · intro message member
        exact RuleConfig.rule_of_fix aligned ran message (Message.mem_inOrder.mp member)
      · have output := Fix.getD_applyAll source.text
          ((Message.inOrder emitted).filterMap (·.fix))
        rw [all] at output
        exact output

theorem isTidy_functionBelowString : functionBelowString.IsTidy where
  nested := isNested_functionBelowString
  separated := by
    simp [functionBelowString, Node.nodes, Node.nodesOf, Node.SeparatesStatements,
      Padding.containerKinds]
  clear := by
    simp [functionBelowString, Node.nodes, Node.nodesOf, Node.isSealed]

theorem lintText_applies_all_fixes_functionBelowString :
    ∃ result, lintText (fun _ _ => functionBelowString) RuleBook.standard quotesAndBlanks
        "a.js" ['"', '"', '\n', 'f', ';'] = .ok result ∧
      (result.messages.filterMap (·.fix)).Perm [⟨3, 3, ['\n']⟩, ⟨0, 2, ['\'', '\'']⟩] ∧
      (result.messages.filterMap (·.fix)).Pairwise Fix.Apart ∧
      result.output.getD ['"', '"', '\n', 'f', ';'] =
        Fix.replaceFrom ['"', '"', '\n', 'f', ';'] 0
          (Fix.inOrder (result.messages.filterMap (·.fix))) := by
  obtain ⟨blank, quote, success, blankFix, quoteFix⟩ := lintText_functionBelowString
  have distinct : (quotesAndBlanks.map (·.1)).Nodup := by decide
  have tidy : (Source.ofText (fun _ _ => functionBelowString) (Path.ofString "a.js")
      ['"', '"', '\n', 'f', ';']).root.IsTidy := isTidy_functionBelowString
  obtain ⟨-, apart, -, output⟩ := lintText_applies_all_fixes distinct tidy success
  refine ⟨_, success, ?_, apart, output⟩
  have fixes := (List.mergeSort_perm [blank, quote] Message.before).filterMap (·.fix)
  rwa [List.filterMap_cons_some blankFix, List.filterMap_cons_some quoteFix] at fixes

end ScriptLint
