import ScriptLint.Proofs.Engine.Along
import ScriptLint.Proofs.Engine.Independence
import ScriptLint.Proofs.Engine.Voice
import ScriptLint.Proofs.Fix

/-!
# What a rule reports in the end

Some rules look at the whole source when the traversal is over and report on places of the
tree.  Checking a text tells these reports by position, whether the rule is on alone or
among others.
-/

namespace ScriptLint

def Place.message (source : Source) (rule : String) (level : Level) (place : Place)
    (text : String) : Message :=
  { rule := some rule
    severity := level.number
    text := text
    line := (source.start place.node).line
    column := source.utf16Column (source.start place.node)
    endLine := some (source.stop place.node).line
    endColumn := some (source.utf16Column (source.stop place.node))
    fix := none
    fatal := false }

/-- Places with what a rule reports about them.  Checking the text tells the reports by
position: all that is told if the rule is the only one, and all that is told in the name of
the rule if it is one of many. -/
structure Reports (parse : Parser) (path : String) (text : List Char) (rule : String)
    (reports : List (Place × String)) : Prop where
  alone : ∀ (setting : RuleSetting) (level : Level),
    setting.validate RuleBook.standard rule = .ok () →
    setting.severity.level? = some level → level ≠ .off →
      lintText parse RuleBook.standard [(rule, setting)] path text =
        .ok ⟨Message.inOrder (reports.map fun report =>
          report.1.message (Source.ofText parse (Path.ofString path) text) rule level report.2),
          none⟩
  among : ∀ (config : RuleConfig) (setting : RuleSetting) (level : Level) (result : LintResult),
    (config.map (·.1)).Nodup → (rule, setting) ∈ config →
    setting.severity.level? = some level → level ≠ .off →
    lintText parse RuleBook.standard config path text = .ok result →
      result.messages.filter (·.rule = some rule) =
        Message.inOrder (reports.map fun report =>
          report.1.message (Source.ofText parse (Path.ofString path) text) rule level report.2)

/-- What findings about whole nodes come to. -/
theorem RuleContext.messages_about (source : Source) (name : String) (level : Level)
    (options : Options) (fixable : Bool) (reports : List (Place × String)) :
    RuleContext.messages ⟨name, level.number, options, source, fixable⟩
        (reports.map fun report =>
          RuleContext.about ⟨name, level.number, options, source, fixable⟩ report.1.node
            report.2) =
      .ok (reports.map fun report => report.1.message source name level report.2) := by
  induction reports with
  | nil => rfl
  | cons report rest induction =>
      rw [List.map_cons, RuleContext.messages, induction]
      rfl

theorem filter_lintText_of_run {parse : Parser} {config : RuleConfig} {name path : String}
    {text : List Char} {rule : Rule} {setting : RuleSetting} {level : Level}
    {result : LintResult} {messages : List Message}
    (known : RuleBook.standard.rule? name = some rule)
    (clean : (Source.ofText parse (Path.ofString path) text).problem? = none)
    (distinct : (config.map (·.1)).Nodup) (member : (name, setting) ∈ config)
    (isLevel : setting.severity.level? = some level) (on : level ≠ .off)
    (success : lintText parse RuleBook.standard config path text = .ok result)
    (ran : Pass.run [.ofRule ⟨name, level.number, setting.options,
        Source.ofText parse (Path.ofString path) text, rule.fixable⟩ rule]
      (Source.ofText parse (Path.ofString path) text).root = .ok messages) :
    result.messages.filter (·.rule = some name) = Message.inOrder messages := by
  obtain ⟨accepted, linted⟩ := lintText_eq_ok_iff.mp success
  obtain ⟨emitted, ranAll, rfl⟩ := (Source.lint_eq_ok_iff clean).mp linted
  have atWork := RuleConfig.mem_activate (Source.ofText parse (Path.ofString path) text)
    known member isLevel on
  have own := Pass.filter_run ranAll (RuleConfig.nodup_activate distinct) atWork
  rw [ran, Except.ok.injEq] at own
  rw [LintResult.ofMessages, Message.filter_inOrder, own]
  rfl

/-- A rule that is on for a text that was checked has entered all the nodes that it watches
and has finished. -/
theorem of_lintText {parse : Parser} {config : RuleConfig} {name path : String}
    {text : List Char} {rule : Rule} {setting : RuleSetting} {level : Level}
    {result : LintResult} (known : RuleBook.standard.rule? name = some rule)
    (clean : (Source.ofText parse (Path.ofString path) text).problem? = none)
    (member : (name, setting) ∈ config)
    (isLevel : setting.severity.level? = some level) (on : level ≠ .off)
    (success : lintText parse RuleBook.standard config path text = .ok result) :
    (∀ place ∈ (Source.ofText parse (Path.ofString path) text).walk,
      rule.kinds.contains place.kind = true →
        ∃ before answer, rule.enter ⟨name, level.number, setting.options,
          Source.ofText parse (Path.ofString path) text, rule.fixable⟩ place before =
            .ok answer) ∧
    ∃ last findings, rule.finish ⟨name, level.number, setting.options,
      Source.ofText parse (Path.ofString path) text, rule.fixable⟩ last = .ok findings := by
  obtain ⟨-, linted⟩ := lintText_eq_ok_iff.mp success
  obtain ⟨emitted, ran, -⟩ := (Source.lint_eq_ok_iff clean).mp linted
  obtain ⟨parts, spoken⟩ := Pass.exists_run_iff.mp ⟨emitted, ran⟩ _
    (RuleConfig.mem_activate (Source.ofText parse (Path.ofString path) text)
      known member isLevel on)
  have went := ActiveRule.of_voice spoken
  rwa [Visit.entered_ofRoot] at went

namespace Reports

variable {parse : Parser} {path : String} {text : List Char} {name : String}
  {options : List (String × OptionType)}
  {check : RuleContext → Except Fault (List Finding)} {reports : List (Place × String)}

theorem run_atEnd {context : RuleContext} {root : Node} {findings : List Finding}
    {messages : List Message} (found : check context = .ok findings)
    (told : context.messages findings = .ok messages) :
    Pass.run [.ofRule context (Rule.atEnd options check)] root = .ok messages := by
  have silent : ∀ (state : (Rule.atEnd options check).State) (visits : List Visit),
      along ((Rule.atEnd options check).step context) state visits = .ok (state, []) := by
    intro state visits
    induction visits with
    | nil => rfl
    | cons visit rest induction =>
        refine (along_cons_of_silent rest ?_).trans induction
        cases visit with
        | enter place => rfl
        | leave place => rfl
  exact Pass.run_of_along (silent _ _) found rfl told

theorem of_atEnd (known : RuleBook.standard.rule? name = some (Rule.atEnd options check))
    (clean : (Source.ofText parse (Path.ofString path) text).problem? = none)
    (found : ∀ level settings,
      check ⟨name, level, settings, Source.ofText parse (Path.ofString path) text, false⟩ =
        .ok (reports.map fun report =>
          RuleContext.about
            ⟨name, level, settings, Source.ofText parse (Path.ofString path) text, false⟩
            report.1.node report.2)) :
    Reports parse path text name reports := by
  have ran : ∀ (level : Level) (settings : Options),
      Pass.run [.ofRule ⟨name, level.number, settings,
          Source.ofText parse (Path.ofString path) text, false⟩ (Rule.atEnd options check)]
        (Source.ofText parse (Path.ofString path) text).root =
      .ok (reports.map fun report => report.1.message
        (Source.ofText parse (Path.ofString path) text) name level report.2) := by
    intro level settings
    exact run_atEnd (found level.number settings) (RuleContext.messages_about _ _ _ _ _ _)
  constructor
  · intro setting level accepted isLevel on
    have validated := RuleSetting.validate_options accepted known isLevel on
    have linted := lintText_singleton known validated isLevel on clean (ran level setting.options)
    have noFix : (Message.inOrder (reports.map fun report => report.1.message
        (Source.ofText parse (Path.ofString path) text) name level report.2)).filterMap
          (·.fix) = [] := by
      rw [List.filterMap_eq_nil_iff]
      intro message member
      obtain ⟨report, -, rfl⟩ := List.mem_map.mp (Message.mem_inOrder.mp member)
      rfl
    rw [linted, LintResult.ofMessages, noFix, Fix.applyAll_nil]
  · intro config setting level result distinct member isLevel on success
    exact filter_lintText_of_run known clean distinct member isLevel on success
      (ran level setting.options)

end Reports

end ScriptLint
