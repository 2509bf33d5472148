import ScriptLint.Engine.Lint
import ScriptLint.Proofs.StableSort

/-!
# What checking a text comes to

Checking a text succeeds if its configuration is accepted and the pass over a
tree without problem succeeds.  The rules of the pass are those of the settings
that are on, in order, and the result holds their messages by position.
-/

namespace ScriptLint

/-- Whether a setting lets its rule report. -/
def RuleSetting.isOn (setting : RuleSetting) : Bool :=
  setting.severity.level?.any (· ≠ .off)

namespace RuleConfig

theorem validate_eq_ok_iff {book : RuleBook} {config : RuleConfig} :
    validate book config = .ok () ↔
      ∀ name setting, (name, setting) ∈ config →
        setting.validate book name = .ok () := by
  induction config with
  | nil => simp [validate]
  | cons entry rest induction =>
      obtain ⟨name, setting⟩ := entry
      unfold validate
      cases checked : setting.validate book name with
      | error error =>
          simp only [reduceCtorEq, false_iff]
          intro all
          have accepted := all name setting List.mem_cons_self
          simp [checked] at accepted
      | ok accepted =>
          simp only [induction, List.mem_cons, Prod.mk.injEq]
          constructor
          · intro others otherName otherSetting member
            rcases member with ⟨rfl, rfl⟩ | later
            · exact checked
            · exact others otherName otherSetting later
          · intro all otherName otherSetting member
            exact all otherName otherSetting (.inr member)

/-- The rules at work are those of the settings that are on. -/
theorem activate_eq_filterMap (book : RuleBook) (source : Source)
    (config : RuleConfig) :
    activate book source config =
      config.filterMap fun entry => entry.2.activate? book source entry.1 := by
  induction config with
  | nil => rfl
  | cons entry rest induction =>
      obtain ⟨name, setting⟩ := entry
      unfold activate
      cases started : setting.activate? book source name with
      | none => simp [started, induction]
      | some active => simp [started, induction]

end RuleConfig

namespace RuleSetting

theorem of_activate?_eq_some {book : RuleBook} {source : Source} {name : String}
    {setting : RuleSetting} {active : ActiveRule}
    (started : setting.activate? book source name = some active) :
    active.context.rule = name ∧ setting.isOn = true := by
  unfold activate? at started
  split at started
  · simp at started
  · rename_i level notOff known isLevel
    have differs : ¬level = .off := fun off => notOff off
    simp only [Option.some.injEq] at started
    subst started
    exact ⟨rfl, by simp [isOn, isLevel, differs]⟩
  · simp at started

theorem activate?_of_isOn {book : RuleBook} {source : Source} {name : String}
    {setting : RuleSetting} (accepted : setting.validate book name = .ok ())
    (on : setting.isOn = true) :
    ∃ active, setting.activate? book source name = some active := by
  unfold validate at accepted
  split at accepted
  · simp at accepted
  · rename_i rule known
    unfold isOn at on
    unfold activate?
    cases isLevel : setting.severity.level? with
    | none => simp [isLevel] at on
    | some level =>
        cases level with
        | off => simp [isLevel] at on
        | warning => exact ⟨_, by rw [known]⟩
        | error => exact ⟨_, by rw [known]⟩

theorem validate_options {book : RuleBook} {name : String} {setting : RuleSetting}
    {rule : Rule} {level : Level} (accepted : setting.validate book name = .ok ())
    (known : book.rule? name = some rule)
    (isLevel : setting.severity.level? = some level) (on : level ≠ .off) :
    Options.validate rule.options name setting.options = .ok () := by
  unfold validate at accepted
  rw [known] at accepted
  dsimp only at accepted
  rw [RuleSetting.level, isLevel] at accepted
  cases level with
  | off => exact absurd rfl on
  | warning => exact accepted
  | error => exact accepted

end RuleSetting

theorem RuleConfig.of_mem_activate {book : RuleBook} {source : Source}
    {config : RuleConfig} {active : ActiveRule}
    (atWork : active ∈ activate book source config) :
    ∃ name setting rule level, (name, setting) ∈ config ∧
      book.rule? name = some rule ∧ setting.severity.level? = some level ∧
      level ≠ .off ∧
      active = .ofRule
        ⟨name, level.number, setting.options, source, rule.fixable⟩ rule := by
  rw [activate_eq_filterMap] at atWork
  obtain ⟨⟨name, setting⟩, member, started⟩ := List.mem_filterMap.mp atWork
  dsimp only at started
  unfold RuleSetting.activate? at started
  split at started
  · simp at started
  · rename_i rule level notOff known isLevel
    exact ⟨name, setting, rule, level, member, known, isLevel, fun off => notOff off,
      (Option.some.inj started).symm⟩
  · simp at started

theorem RuleConfig.mem_activate {book : RuleBook} (source : Source) {config : RuleConfig}
    {name : String} {setting : RuleSetting} {rule : Rule} {level : Level}
    (known : book.rule? name = some rule) (member : (name, setting) ∈ config)
    (isLevel : setting.severity.level? = some level) (on : level ≠ .off) :
    .ofRule ⟨name, level.number, setting.options, source, rule.fixable⟩ rule ∈
      activate book source config := by
  rw [activate_eq_filterMap]
  refine List.mem_filterMap.mpr ⟨_, member, ?_⟩
  rw [RuleSetting.activate?, known, isLevel]
  cases level with
  | off => exact absurd rfl on
  | warning => rfl
  | error => rfl

namespace Message

theorem before_eq_true_iff {left right : Message} :
    left.before right = true ↔
      left.line < right.line ∨
        left.line = right.line ∧ left.column ≤ right.column := by
  simp [before]

theorem sortable_before : Sortable Message.before where
  transitive := by
    intro first second third
    simp only [before_eq_true_iff]
    omega
  total := by
    intro left right
    simp only [Bool.or_eq_true, before_eq_true_iff]
    omega

theorem tied_before_eq_true_iff {left right : Message} :
    Sortable.tied before left right = true ↔
      left.line = right.line ∧ left.column = right.column := by
  simp only [Sortable.tied, Bool.and_eq_true, before_eq_true_iff]
  omega

theorem pairwise_inOrder (messages : List Message) :
    (inOrder messages).Pairwise (·.before · = true) :=
  List.pairwise_mergeSort sortable_before.transitive sortable_before.total messages

theorem mem_inOrder {message : Message} {messages : List Message} :
    message ∈ inOrder messages ↔ message ∈ messages :=
  (List.mergeSort_perm messages before).mem_iff

theorem filter_position_inOrder (line column : Int) (messages : List Message) :
    (inOrder messages).filter
        (fun message => message.line = line && message.column = column) =
      messages.filter
        (fun message => message.line = line && message.column = column) := by
  -- Any message at the position names the class of tied messages.
  let anchor : Message := ⟨none, 0, "", line, column, none, none, none, false⟩
  have sameTest : (fun message : Message =>
      (message.line = line && message.column = column : Bool)) =
        Sortable.tied before anchor := by
    funext message
    rw [Bool.eq_iff_iff, tied_before_eq_true_iff]
    simp only [Bool.and_eq_true, decide_eq_true_eq]
    exact and_congr eq_comm eq_comm
  rw [sameTest]
  exact sortable_before.filter_tied_mergeSort anchor messages

theorem filter_inOrder (keep : Message → Bool) (messages : List Message) :
    (inOrder messages).filter keep = inOrder (messages.filter keep) :=
  sortable_before.filter_mergeSort keep messages

end Message

/-- A source without problem is checked by a pass of the rules at work. -/
theorem Source.lint_eq_ok_iff {source : Source} {book : RuleBook}
    {config : RuleConfig} {result : LintResult} (clean : source.problem? = none) :
    source.lint book config = .ok result ↔
      ∃ emitted,
        Pass.run (RuleConfig.activate book source config) source.root =
          .ok emitted ∧
        result = .ofMessages source.text emitted := by
  unfold Source.lint
  simp only [clean]
  cases Pass.run (RuleConfig.activate book source config) source.root with
  | error fault => simp
  | ok emitted => simp [eq_comm]

theorem Source.lint_of_problem {source : Source} {book : RuleBook} {config : RuleConfig}
    {problem : Problem} (found : source.problem? = some problem) :
    source.lint book config = .ok ⟨[problem.message source], none⟩ := by
  rw [Source.lint, found]

theorem lintText_eq_ok_iff {parse : Parser} {book : RuleBook}
    {config : RuleConfig} {path : String} {text : List Char}
    {result : LintResult} :
    lintText parse book config path text = .ok result ↔
      RuleConfig.validate book config = .ok () ∧
        (Source.ofText parse (Path.ofString path) text).lint book config =
          .ok result := by
  unfold lintText
  cases RuleConfig.validate book config with
  | error error => simp
  | ok accepted =>
      cases (Source.ofText parse (Path.ofString path) text).lint book config with
      | error fault => simp
      | ok found => simp

end ScriptLint
