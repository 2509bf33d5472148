import ScriptLint.Proofs.Engine.Lint
import ScriptLint.Proofs.Source.Span
import ScriptLint.Rules.Book

/-!
# A rule along a traversal

Steps taken one after the other lead from state to state and put something out; steps
after others go on from the state that these leave.  A rule by itself takes a step at
each visit.  What it has found in the end are the messages of a pass of this rule
alone, and of checking a text under a configuration of this rule alone.
-/

namespace ScriptLint

universe u

section Steps

variable {State : Type u} {Input Output : Type}
  {step : State → Input → Except Fault (State × List Output)}

/-- Takes a step for each input and collects what the steps put out, up to the first
step that fails. -/
def along (step : State → Input → Except Fault (State × List Output)) (state : State) :
    List Input → Except Fault (State × List Output)
  | [] => .ok (state, [])
  | input :: rest => do
      let now ← step state input
      let later ← along step now.1 rest
      return (later.1, now.2 ++ later.2)

theorem along_append (state : State) (first second : List Input) :
    along step state (first ++ second) = (do
      let now ← along step state first
      let later ← along step now.1 second
      return (later.1, now.2 ++ later.2)) := by
  induction first generalizing state with
  | nil =>
      rw [List.nil_append, along]
      cases done : along step state second with
      | error fault => simp [bind, Except.bind, done]
      | ok later => simp [bind, Except.bind, done, pure, Except.pure]
  | cons input rest induction =>
      simp only [List.cons_append, along]
      cases step state input with
      | error fault => rfl
      | ok now =>
          simp only [bind, Except.bind, induction]
          cases along step now.1 rest with
          | error fault => rfl
          | ok middle =>
              dsimp only [pure, Except.pure]
              cases along step middle.1 second with
              | error fault => rfl
              | ok later => simp only [List.append_assoc]

variable {state middle last : State} {out more : List Output}

theorem along_cons_of_silent {input : Input} (rest : List Input)
    (now : step state input = .ok (middle, [])) :
    along step state (input :: rest) = along step middle rest := by
  rw [along, now]
  cases done : along step middle rest with
  | error fault => simp [bind, Except.bind, done]
  | ok later => simp [bind, Except.bind, done, pure, Except.pure]

theorem along_singleton (state : State) (input : Input) :
    along step state [input] = step state input := by
  rw [along]
  cases step state input with
  | error fault => rfl
  | ok now => simp [bind, Except.bind, along, pure, Except.pure]

theorem along_append_eq_ok {first second : List Input}
    (now : along step state first = .ok (middle, out))
    (later : along step middle second = .ok (last, more)) :
    along step state (first ++ second) = .ok (last, out ++ more) := by
  rw [along_append, now]
  simp [bind, Except.bind, later, pure, Except.pure]

theorem along_flatMap_eq_ok {α : Type} {parts : List α} {inputs : α → List Input}
    {found : α → List Output}
    (each : ∀ part ∈ parts, along step state (inputs part) = .ok (state, found part)) :
    along step state (parts.flatMap inputs) = .ok (state, parts.flatMap found) := by
  induction parts with
  | nil => rfl
  | cons part rest induction =>
      obtain ⟨here, later⟩ := List.forall_mem_cons.mp each
      exact along_append_eq_ok here (induction later)

end Steps

/-- The messages of findings and of more findings follow each other. -/
theorem RuleContext.messages_append_eq_ok {context : RuleContext}
    {first second : List Finding} {messages : List Message}
    (told : context.messages (first ++ second) = .ok messages) :
    ∃ own others, context.messages first = .ok own ∧ context.messages second = .ok others ∧
      messages = own ++ others := by
  induction first generalizing messages with
  | nil => exact ⟨[], messages, rfl, told, rfl⟩
  | cons finding rest induction =>
      rw [List.cons_append, RuleContext.messages] at told
      split at told
      · simp at told
      · rename_i head placed
        split at told
        · simp at told
        · rename_i tail toldRest
          obtain ⟨own, others, toldFirst, toldSecond, rfl⟩ := induction toldRest
          rw [← Except.ok.inj told]
          exact ⟨head :: own, others, by rw [RuleContext.messages, placed, toldFirst],
            toldSecond, rfl⟩

def Rule.step (rule : Rule) (context : RuleContext) (state : rule.State) (moment : Visit) :
    Answer rule.State :=
  ActiveRule.answer ⟨context, rule, state⟩ moment

namespace Rule

variable {rule : Rule} {place : Place} (context : RuleContext) (state : rule.State)

theorem step_enter_of_watched (watched : rule.kinds.contains place.kind = true) :
    rule.step context state (.enter place) = rule.enter context place state :=
  if_pos watched

theorem step_leave_of_watched (watched : rule.kinds.contains place.kind = true) :
    rule.step context state (.leave place) = rule.leave context place state :=
  if_pos watched

theorem step_enter_of_unwatched (unwatched : ¬rule.kinds.contains place.kind = true) :
    rule.step context state (.enter place) = .ok (state, []) :=
  if_neg unwatched

theorem step_leave_of_unwatched (unwatched : ¬rule.kinds.contains place.kind = true) :
    rule.step context state (.leave place) = .ok (state, []) :=
  if_neg unwatched

end Rule

namespace Pass

variable {rule : Rule} {context : RuleContext} {state last : rule.State}
  {findings : List Finding} {messages : List Message}

theorem follow_singleton {visits : List Visit}
    (found : along (rule.step context) state visits = .ok (last, findings))
    (told : context.messages findings = .ok messages) :
    follow [⟨context, rule, state⟩] visits = .ok ([⟨context, rule, last⟩], messages) := by
  induction visits generalizing state findings messages with
  | nil =>
      obtain ⟨rfl, rfl⟩ := Prod.mk.inj (Except.ok.inj found)
      rw [← Except.ok.inj told]
      rfl
  | cons moment rest induction =>
      rw [along] at found
      cases answered : rule.step context state moment with
      | error fault => simp [answered, bind, Except.bind] at found
      | ok now =>
          cases continued : along (rule.step context) now.1 rest with
          | error fault => simp [answered, continued, bind, Except.bind] at found
          | ok later =>
              simp only [answered, continued, bind, Except.bind, pure, Except.pure,
                Except.ok.injEq, Prod.mk.injEq] at found
              obtain ⟨rfl, rfl⟩ := found
              obtain ⟨own, others, toldNow, toldLater, rfl⟩ :=
                RuleContext.messages_append_eq_ok told
              have visited : ActiveRule.visit ⟨context, rule, state⟩ moment =
                  .ok (⟨context, rule, now.1⟩, own) := by
                rw [ActiveRule.visit, show ActiveRule.answer ⟨context, rule, state⟩ moment =
                  .ok now from answered]
                simp [toldNow]
              simp [follow, visitAll, visited, induction continued toldLater]

/-- A pass of a rule says what it finds along the traversal and then what it finds in
the end. -/
theorem run_of_along {root : Node} {closing : List Finding} {more : List Message}
    (found : along (rule.step context) rule.initial (Visit.ofRoot root) =
      .ok (last, findings))
    (finished : rule.finish context last = .ok closing)
    (told : context.messages findings = .ok messages)
    (toldLast : context.messages closing = .ok more) :
    run [.ofRule context rule] root = .ok (messages ++ more) := by
  have followed : follow [.ofRule context rule] (Visit.ofRoot root) =
      .ok ([⟨context, rule, last⟩], messages) := follow_singleton found told
  have ended : ActiveRule.finish ⟨context, rule, last⟩ = .ok more := by
    rw [ActiveRule.finish, finished]
    exact toldLast
  simp [run, followed, finishAll, ended]

/-- A pass of a rule that says nothing more in the end. -/
theorem run_singleton {root : Node}
    (found : along (rule.step context) rule.initial (Visit.ofRoot root) =
      .ok (last, findings))
    (finished : rule.finish context last = .ok [])
    (told : context.messages findings = .ok messages) :
    run [.ofRule context rule] root = .ok messages := by
  have ran := run_of_along found finished told rfl
  rwa [List.append_nil] at ran

end Pass

theorem lintText_singleton {parse : Parser} {name path : String} {rule : Rule}
    {severity : Value} {level : Level} {options : Options} {text : List Char}
    {messages : List Message} (known : RuleBook.standard.rule? name = some rule)
    (accepted : Options.validate rule.options name options = .ok ())
    (isLevel : severity.level? = some level) (on : level ≠ .off)
    (clean : (Source.ofText parse (Path.ofString path) text).problem? = none)
    (ran : Pass.run
        [.ofRule ⟨name, level.number, options, Source.ofText parse (Path.ofString path) text,
          rule.fixable⟩ rule]
        (Source.ofText parse (Path.ofString path) text).root = .ok messages) :
    lintText parse RuleBook.standard [(name, ⟨severity, options⟩)] path text =
      .ok (.ofMessages text messages) := by
  have validated : RuleConfig.validate RuleBook.standard [(name, ⟨severity, options⟩)] =
      .ok () := by
    rw [RuleConfig.validate, RuleSetting.validate, known]
    simp only [RuleSetting.level, isLevel]
    cases level with
    | off => exact absurd rfl on
    | warning => simp [accepted, RuleConfig.validate]
    | error => simp [accepted, RuleConfig.validate]
  have atWork : RuleConfig.activate RuleBook.standard
      (Source.ofText parse (Path.ofString path) text) [(name, ⟨severity, options⟩)] =
      [.ofRule ⟨name, level.number, options, Source.ofText parse (Path.ofString path) text,
        rule.fixable⟩ rule] := by
    rw [RuleConfig.activate, RuleSetting.activate?, known, isLevel]
    cases level with
    | off => exact absurd rfl on
    | warning => rfl
    | error => rfl
  refine lintText_eq_ok_iff.mpr ⟨validated, (Source.lint_eq_ok_iff clean).mpr ⟨messages, ?_, ?_⟩⟩
  · rw [atWork, ran]
  · rw [Source.text_ofText]

end ScriptLint
