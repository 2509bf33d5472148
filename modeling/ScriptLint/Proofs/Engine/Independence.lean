import ScriptLint.Proofs.Engine.Chorus
import ScriptLint.Proofs.Engine.Lint
import ScriptLint.Rules.Book

/-!
# Independence of rules

All rules of a configuration share one traversal and one list of messages.  Each
of them still reports exactly what it reports when it is the only rule, settings
that are off report nothing, and messages at one position stand in the order in
which they arose.
-/

namespace ScriptLint

namespace Pass

/-- A list beside one with a known member is split at the partner of the
member. -/
private theorem forall₂_split {α : Type*} {β : Type*} {related : α → β → Prop}
    {before after : List α} {item : α} {partners : List β}
    (all : List.Forall₂ related (before ++ item :: after) partners) :
    ∃ partnersBefore partner partnersAfter,
      partners = partnersBefore ++ partner :: partnersAfter ∧
        List.Forall₂ related before partnersBefore ∧ related item partner ∧
          List.Forall₂ related after partnersAfter := by
  induction before generalizing partners with
  | nil =>
      obtain ⟨partner, rest, isRelated, others, rfl⟩ :=
        List.forall₂_cons_left_iff.mp all
      exact ⟨[], partner, rest, rfl, .nil, isRelated, others⟩
  | cons first before induction =>
      obtain ⟨partner, rest, isRelated, others, rfl⟩ :=
        List.forall₂_cons_left_iff.mp all
      obtain ⟨partnersBefore, own, partnersAfter, rfl, left, ownRelated, right⟩ :=
        induction others
      exact ⟨partner :: partnersBefore, own, partnersAfter, rfl,
        .cons isRelated left, ownRelated, right⟩

/-- What rules of other names say bears none of a given name. -/
private theorem silent_of_forall₂ {rules : List ActiveRule} {visits : List Visit}
    {voices : List (List (List Message))} {name : String}
    (each : List.Forall₂ (fun active parts => active.voice visits = .ok parts)
      rules voices)
    (others : ∀ active ∈ rules, active.context.rule ≠ name) :
    ∀ parts ∈ voices, ∀ part ∈ parts,
      part.filter (·.rule = some name) = [] := by
  induction each with
  | nil => simp
  | @cons active parts rules voices spoken _ induction =>
      intro other otherMember part partMember
      rcases List.mem_cons.mp otherMember with rfl | later
      · rw [List.filter_eq_nil_iff]
        intro message member
        have named := ActiveRule.rule_of_mem_voice spoken part partMember
          message member
        have differs := others active List.mem_cons_self
        simp [named, differs]
      · exact induction
          (fun active member => others active (List.mem_cons_of_mem _ member))
          other later part partMember

/-- Of the messages of a pass, those with a rule's name are those of a pass of
this rule alone. -/
theorem filter_run {rules : List ActiveRule} {root : Node}
    {emitted : List Message} {active : ActiveRule}
    (ran : run rules root = .ok emitted)
    (distinct : (rules.map (·.context.rule)).Nodup) (member : active ∈ rules) :
    run [active] root =
      .ok (emitted.filter (·.rule = some active.context.rule)) := by
  obtain ⟨voices, each, rfl⟩ := run_eq_ok_iff.mp ran
  obtain ⟨before, after, rfl⟩ := List.append_of_mem member
  obtain ⟨voicesBefore, parts, voicesAfter, rfl, left, spoken, right⟩ :=
    forall₂_split each
  rw [List.map_append, List.map_cons, List.nodup_append,
    List.nodup_cons] at distinct
  obtain ⟨-, ⟨notAfter, -⟩, apart⟩ := distinct
  have othersBefore : ∀ other ∈ before,
      other.context.rule ≠ active.context.rule := by
    intro other otherMember
    exact apart _ (List.mem_map_of_mem otherMember) _ List.mem_cons_self
  have othersAfter : ∀ other ∈ after,
      other.context.rule ≠ active.context.rule := by
    intro other otherMember same
    exact notAfter (same ▸ List.mem_map_of_mem otherMember)
  have own : ∀ part ∈ parts,
      part.filter (·.rule = some active.context.rule) = part := by
    intro part partMember
    rw [List.filter_eq_self]
    intro message messageMember
    simp [ActiveRule.rule_of_mem_voice spoken part partMember message messageMember]
  rw [run_singleton_eq_ok_iff]
  refine ⟨parts, spoken, ?_⟩
  rw [← ActiveRule.length_voice spoken]
  exact filter_chorus _ (silent_of_forall₂ left othersBefore)
    (silent_of_forall₂ right othersAfter) own

theorem rule_of_mem_run {rules : List ActiveRule} {root : Node}
    {emitted : List Message} {message : Message}
    (ran : run rules root = .ok emitted) (said : message ∈ emitted) :
    ∃ active ∈ rules, message.rule = some active.context.rule := by
  obtain ⟨voices, each, rfl⟩ := run_eq_ok_iff.mp ran
  obtain ⟨parts, partsMember, part, partMember, spoken⟩ := of_mem_chorus said
  obtain ⟨voicesBefore, voicesAfter, rfl⟩ := List.append_of_mem partsMember
  obtain ⟨before, active, after, rfl, -, voiced, -⟩ := forall₂_split each.flip
  exact ⟨active, by simp,
    ActiveRule.rule_of_mem_voice voiced part partMember message spoken⟩

end Pass

namespace RuleConfig

/-- The rules at work bear different names if the settings do. -/
theorem nodup_activate {book : RuleBook} {source : Source} {config : RuleConfig}
    (distinct : (config.map (·.1)).Nodup) :
    ((activate book source config).map (·.context.rule)).Nodup := by
  have names : ((activate book source config).map (·.context.rule)).Sublist
      (config.map (·.1)) := by
    rw [activate_eq_filterMap]
    clear distinct
    induction config with
    | nil => exact .slnil
    | cons entry rest induction =>
        simp only [List.filterMap_cons, List.map_cons]
        split
        · exact induction.cons _
        · rename_i active started
          rw [List.map_cons, (RuleSetting.of_activate?_eq_some started).1]
          exact induction.cons_cons _
  exact distinct.sublist names

end RuleConfig

theorem RuleConfig.exists_mem_activate {book : RuleBook} (source : Source)
    {config : RuleConfig} {name : String} {setting : RuleSetting}
    (accepted : config.validate book = .ok ()) (member : (name, setting) ∈ config)
    (on : setting.isOn = true) :
    ∃ active, setting.activate? book source name = some active ∧
      active ∈ config.activate book source := by
  have own := RuleConfig.validate_eq_ok_iff.mp accepted name setting member
  obtain ⟨active, started⟩ :
      ∃ active, setting.activate? book source name = some active :=
    RuleSetting.activate?_of_isOn own on
  rw [RuleConfig.activate_eq_filterMap]
  exact ⟨active, started, List.mem_filterMap.mpr ⟨_, member, started⟩⟩

/-- Each rule that is on reports what it reports alone, no other rule reports
anything, and the messages are sorted by position, in the order in which they
arose where they are at the same one. -/
theorem lintText_messages_independent {parse : Parser} {config : RuleConfig}
    {path : String} {text : List Char} {result : LintResult}
    (distinct : (config.map (·.1)).Nodup)
    (clean : (Source.ofText parse (Path.ofString path) text).problem? = none)
    (success : lintText parse RuleBook.standard config path text = .ok result) :
    (∀ name setting, (name, setting) ∈ config → setting.isOn = true →
      ∃ alone,
        lintText parse RuleBook.standard [(name, setting)] path text =
          .ok alone ∧
        result.messages.filter (·.rule = some name) = alone.messages) ∧
    (∀ message ∈ result.messages, ∃ name setting,
      (name, setting) ∈ config ∧ setting.isOn = true ∧
        message.rule = some name) ∧
    result.messages.Pairwise (fun first second =>
      first.line < second.line ∨
        first.line = second.line ∧ first.column ≤ second.column) ∧
    ∃ emitted,
      Pass.Emits
        (config.activate RuleBook.standard
          (Source.ofText parse (Path.ofString path) text))
        (Source.ofText parse (Path.ofString path) text).root emitted ∧
      ∀ line column : Int,
        result.messages.filter
            (fun message => message.line = line && message.column = column) =
          emitted.filter
            (fun message => message.line = line && message.column = column) := by
  obtain ⟨accepted, linted⟩ := lintText_eq_ok_iff.mp success
  obtain ⟨emitted, ran, rfl⟩ := (Source.lint_eq_ok_iff clean).mp linted
  refine ⟨?_, ?_, ?_, emitted, Pass.run_eq_ok_iff.mp ran, ?_⟩
  · intro name setting member on
    obtain ⟨active, started, atWork⟩ :=
      RuleConfig.exists_mem_activate
        (Source.ofText parse (Path.ofString path) text) accepted member on
    obtain ⟨named, -⟩ := RuleSetting.of_activate?_eq_some started
    have onlyRule : RuleConfig.activate RuleBook.standard
        (Source.ofText parse (Path.ofString path) text) [(name, setting)] =
          [active] := by
      simp [RuleConfig.activate, started]
    have alone := Pass.filter_run ran (RuleConfig.nodup_activate distinct) atWork
    rw [← onlyRule, named] at alone
    refine ⟨_, lintText_eq_ok_iff.mpr ⟨RuleConfig.validate_eq_ok_iff.mpr ?_,
      (Source.lint_eq_ok_iff clean).mpr ⟨_, alone, rfl⟩⟩, ?_⟩
    · intro otherName otherSetting otherMember
      obtain ⟨rfl, rfl⟩ : otherName = name ∧ otherSetting = setting := by
        simpa using otherMember
      exact RuleConfig.validate_eq_ok_iff.mp accepted _ _ member
    · exact Message.filter_inOrder _ emitted
  · intro message reported
    obtain ⟨active, atWork, named⟩ :=
      Pass.rule_of_mem_run ran (Message.mem_inOrder.mp reported)
    rw [RuleConfig.activate_eq_filterMap] at atWork
    obtain ⟨⟨name, setting⟩, member, started⟩ := List.mem_filterMap.mp atWork
    obtain ⟨sameName, on⟩ := RuleSetting.of_activate?_eq_some started
    exact ⟨name, setting, member, on, by rw [named, sameName]⟩
  · apply (Message.pairwise_inOrder emitted).imp
    intro first second inOrder
    exact Message.before_eq_true_iff.mp inOrder
  · intro line column
    exact Message.filter_position_inOrder line column emitted

/-- A program of two statements, one for each of two rules. -/
def twoStatements : Node :=
  ⟨"program", true, false, false, 0, 13, none,
    [⟨"debugger_statement", true, false, false, 0, 8, none, []⟩,
      ⟨"variable_declaration", true, false, false, 9, 13, none, []⟩]⟩

/-- Settings of which the second is off. -/
def threeSettings : RuleConfig :=
  [("no-var", ⟨.int 2, []⟩), ("no-console", ⟨.text "off", []⟩),
    ("no-debugger", ⟨.text "warn", []⟩)]

theorem lintText_messages_independent_twoStatements :
    ∃ result alone,
      lintText (fun _ _ => twoStatements) RuleBook.standard threeSettings "a.js"
          "debugger;var x".toList = .ok result ∧
      lintText (fun _ _ => twoStatements) RuleBook.standard
          [("no-var", ⟨.int 2, []⟩)] "a.js" "debugger;var x".toList = .ok alone ∧
      result.messages.filter (·.rule = some "no-var") = alone.messages := by
  have clean : (Source.ofText (fun _ _ => twoStatements) (Path.ofString "a.js")
      "debugger;var x".toList).problem? = none := rfl
  obtain ⟨emitted, ran⟩ : ∃ emitted,
      Pass.run
        (threeSettings.activate RuleBook.standard
          (Source.ofText (fun _ _ => twoStatements) (Path.ofString "a.js")
            "debugger;var x".toList))
        twoStatements = .ok emitted := by
    unfold Pass.run
    simp only [Visit.ofRoot, Visit.run, twoStatements, Place.namedChildren,
      Place.children, Place.childrenFrom, Place.ofRoot, List.filter_cons,
      List.filter_nil, if_true, List.map_cons, List.map_nil, List.cons_append,
      List.nil_append]
    exact ⟨_, rfl⟩
  have success := lintText_eq_ok_iff.mpr
    ⟨rfl, (Source.lint_eq_ok_iff clean).mpr ⟨emitted, ran, rfl⟩⟩
  obtain ⟨alone, aloneSuccess, same⟩ :=
    (lintText_messages_independent (by decide) clean success).1 "no-var"
      ⟨.int 2, []⟩ List.mem_cons_self rfl
  exact ⟨_, alone, success, aloneSuccess, same⟩

end ScriptLint
