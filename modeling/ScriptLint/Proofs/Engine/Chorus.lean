import Mathlib.Data.List.Forall2
import ScriptLint.Engine.Pass

/-!
# A pass as a chorus of rules

A rule that follows a traversal by itself has something to say at each visit and
at the end: its voice.  A pass of several rules succeeds exactly if each of them
succeeds by itself, and its messages are those of the voices, turn by turn and
within a turn in the order of the rules.
-/

namespace ScriptLint

namespace ActiveRule

/-- What a rule says by itself: its messages at each visit, then those at the
end. -/
def voice (active : ActiveRule) : List Visit → Except Fault (List (List Message))
  | [] =>
      match active.finish with
      | .error fault => .error fault
      | .ok messages => .ok [messages]
  | moment :: rest =>
      match active.visit moment with
      | .error fault => .error fault
      | .ok (next, messages) =>
          match next.voice rest with
          | .error fault => .error fault
          | .ok more => .ok (messages :: more)

theorem voice_nil_eq_ok_iff {active : ActiveRule} {parts : List (List Message)} :
    active.voice [] = .ok parts ↔
      ∃ messages, active.finish = .ok messages ∧ parts = [messages] := by
  unfold voice
  cases active.finish with
  | error fault => simp
  | ok messages => simp [eq_comm]

theorem voice_cons_eq_ok_iff {active : ActiveRule} {moment : Visit}
    {rest : List Visit} {parts : List (List Message)} :
    active.voice (moment :: rest) = .ok parts ↔
      ∃ next messages more, active.visit moment = .ok (next, messages) ∧
        next.voice rest = .ok more ∧ parts = messages :: more := by
  conv => lhs; unfold voice
  cases visited : active.visit moment with
  | error fault => simp
  | ok outcome =>
      obtain ⟨next, messages⟩ := outcome
      cases continued : next.voice rest with
      | error fault => simp [continued]
      | ok more => simp [continued, eq_comm]

theorem length_voice {active : ActiveRule} {visits : List Visit}
    {parts : List (List Message)} (spoken : active.voice visits = .ok parts) :
    parts.length = visits.length + 1 := by
  induction visits generalizing active parts with
  | nil =>
      obtain ⟨messages, -, rfl⟩ := voice_nil_eq_ok_iff.mp spoken
      rfl
  | cons moment rest induction =>
      obtain ⟨next, messages, more, -, continued, rfl⟩ :=
        voice_cons_eq_ok_iff.mp spoken
      simp [induction continued]

end ActiveRule

theorem RuleContext.rule_of_mem_messages {context : RuleContext}
    {findings : List Finding} {messages : List Message}
    (told : context.messages findings = .ok messages) :
    ∀ message ∈ messages, message.rule = some context.rule := by
  induction findings generalizing messages with
  | nil =>
      simp only [RuleContext.messages, Except.ok.injEq] at told
      simp [← told]
  | cons finding rest induction =>
      unfold RuleContext.messages at told
      split at told
      · simp at told
      · rename_i first placed
        split at told
        · simp at told
        · rename_i others toldRest
          simp only [Except.ok.injEq] at told
          subst told
          have firstRule : first.rule = some context.rule := by
            unfold RuleContext.message at placed
            split at placed
            · simp at placed
            · split at placed
              · simp at placed
              · simp only [Except.ok.injEq] at placed
                rw [← placed]
          intro message member
          rcases List.mem_cons.mp member with rfl | later
          · exact firstRule
          · exact induction toldRest message later

namespace ActiveRule

/-- A visit keeps the context of a rule, and its messages bear the rule's name. -/
theorem visit_context {active next : ActiveRule} {moment : Visit}
    {messages : List Message} (visited : active.visit moment = .ok (next, messages)) :
    next.context = active.context ∧
      ∀ message ∈ messages, message.rule = some active.context.rule := by
  unfold visit at visited
  split at visited
  · simp at visited
  · split at visited
    · simp at visited
    · rename_i told
      simp only [Except.ok.injEq, Prod.mk.injEq] at visited
      obtain ⟨rfl, rfl⟩ := visited
      exact ⟨rfl, RuleContext.rule_of_mem_messages told⟩

theorem rule_of_mem_finish {active : ActiveRule} {messages : List Message}
    (finished : active.finish = .ok messages) :
    ∀ message ∈ messages, message.rule = some active.context.rule := by
  unfold finish at finished
  split at finished
  · simp at finished
  · exact RuleContext.rule_of_mem_messages finished

theorem rule_of_mem_voice {active : ActiveRule} {visits : List Visit}
    {parts : List (List Message)} (spoken : active.voice visits = .ok parts) :
    ∀ part ∈ parts, ∀ message ∈ part,
      message.rule = some active.context.rule := by
  induction visits generalizing active parts with
  | nil =>
      obtain ⟨messages, finished, rfl⟩ := voice_nil_eq_ok_iff.mp spoken
      intro part partMember
      rw [List.mem_singleton.mp partMember]
      exact rule_of_mem_finish finished
  | cons moment rest induction =>
      obtain ⟨next, messages, more, visited, continued, rfl⟩ :=
        voice_cons_eq_ok_iff.mp spoken
      obtain ⟨sameContext, named⟩ := visit_context visited
      intro part partMember
      rcases List.mem_cons.mp partMember with rfl | later
      · exact named
      · rw [← sameContext]
        exact induction continued part later

end ActiveRule

namespace Pass

/-- What several voices say in a number of turns: in each turn the next part of
each voice, in order. -/
def chorus : Nat → List (List (List Message)) → List Message
  | 0, _ => []
  | turns + 1, voices =>
      voices.flatMap (·.headD []) ++ chorus turns (voices.map List.tail)

theorem chorus_singleton (parts : List (List Message)) :
    chorus parts.length [parts] = parts.flatten := by
  induction parts with
  | nil => rfl
  | cons part rest induction => simp [chorus, induction]

theorem of_mem_chorus {turns : Nat} {voices : List (List (List Message))}
    {message : Message} (said : message ∈ chorus turns voices) :
    ∃ parts ∈ voices, ∃ part ∈ parts, message ∈ part := by
  induction turns generalizing voices with
  | zero => simp [chorus] at said
  | succ turns induction =>
      rcases List.mem_append.mp said with now | later
      · obtain ⟨parts, member, spoken⟩ := List.mem_flatMap.mp now
        cases parts with
        | nil => simp at spoken
        | cons part rest =>
            exact ⟨_, member, part, List.mem_cons_self, spoken⟩
      · obtain ⟨shorter, member, part, partMember, spoken⟩ := induction later
        obtain ⟨parts, partsMember, rfl⟩ := List.mem_map.mp member
        exact ⟨parts, partsMember, part, List.mem_of_mem_tail partMember, spoken⟩

/-- If a test holds for all that one voice says and for nothing that the others
say, it picks that voice out of the chorus. -/
theorem filter_chorus (keep : Message → Bool)
    {before after : List (List (List Message))} {parts : List (List Message)}
    (silentBefore : ∀ other ∈ before, ∀ part ∈ other, part.filter keep = [])
    (silentAfter : ∀ other ∈ after, ∀ part ∈ other, part.filter keep = [])
    (own : ∀ part ∈ parts, part.filter keep = part) :
    (chorus parts.length (before ++ parts :: after)).filter keep =
      parts.flatten := by
  have silentHeads : ∀ others : List (List (List Message)),
      (∀ other ∈ others, ∀ part ∈ other, part.filter keep = []) →
        (others.flatMap (·.headD [])).filter keep = [] := by
    intro others silent
    rw [List.filter_flatMap, List.flatMap_eq_nil_iff]
    intro other member
    cases other with
    | nil => rfl
    | cons part rest => exact silent _ member part List.mem_cons_self
  have silentTails : ∀ others : List (List (List Message)),
      (∀ other ∈ others, ∀ part ∈ other, part.filter keep = []) →
        ∀ other ∈ others.map List.tail, ∀ part ∈ other, part.filter keep = [] := by
    intro others silent shorter shorterMember part partMember
    obtain ⟨other, member, rfl⟩ := List.mem_map.mp shorterMember
    exact silent other member part (List.mem_of_mem_tail partMember)
  induction parts generalizing before after with
  | nil => rfl
  | cons part rest induction =>
      have later := induction (silentTails before silentBefore)
        (silentTails after silentAfter)
        (fun later member => own later (List.mem_cons_of_mem part member))
      have now := own part List.mem_cons_self
      simp only [List.length_cons, chorus, List.flatMap_append,
        List.flatMap_cons, List.headD_cons, List.filter_append,
        silentHeads before silentBefore, silentHeads after silentAfter, now,
        List.map_append, List.map_cons, List.tail_cons, later,
        List.flatten_cons, List.nil_append, List.append_nil]

theorem visitAll_eq_ok_iff {moment : Visit} {rules nexts : List ActiveRule}
    {messages : List Message} :
    visitAll moment rules = .ok (nexts, messages) ↔
      ∃ answers : List (ActiveRule × List Message),
        List.Forall₂ (fun active answer => active.visit moment = .ok answer)
          rules answers ∧
        nexts = answers.map (·.1) ∧ messages = answers.flatMap (·.2) := by
  induction rules generalizing nexts messages with
  | nil =>
      simp only [visitAll, Except.ok.injEq, Prod.mk.injEq, List.forall₂_nil_left_iff]
      constructor
      · rintro ⟨rfl, rfl⟩
        exact ⟨[], rfl, rfl, rfl⟩
      · rintro ⟨answers, rfl, rfl, rfl⟩
        exact ⟨rfl, rfl⟩
  | cons active rest induction =>
      constructor
      · intro visited
        unfold visitAll at visited
        split at visited
        · simp at visited
        · rename_i next own visitedHead
          split at visited
          · simp at visited
          · rename_i others more visitedRest
            simp only [Except.ok.injEq, Prod.mk.injEq] at visited
            obtain ⟨rfl, rfl⟩ := visited
            obtain ⟨answers, each, rfl, rfl⟩ := induction.mp visitedRest
            exact ⟨(next, own) :: answers, .cons visitedHead each, rfl, rfl⟩
      · rintro ⟨answers, each, rfl, rfl⟩
        cases each with
        | @cons _ answer _ answers visitedHead each =>
            have visitedRest := induction.mpr ⟨answers, each, rfl, rfl⟩
            simp [visitAll, visitedHead, visitedRest]

theorem finishAll_eq_ok_iff {rules : List ActiveRule} {messages : List Message} :
    finishAll rules = .ok messages ↔
      ∃ answers : List (List Message),
        List.Forall₂ (fun active answer => active.finish = .ok answer)
          rules answers ∧
        messages = answers.flatten := by
  induction rules generalizing messages with
  | nil =>
      simp only [finishAll, Except.ok.injEq, List.forall₂_nil_left_iff]
      constructor
      · rintro rfl
        exact ⟨[], rfl, rfl⟩
      · rintro ⟨answers, rfl, rfl⟩
        rfl
  | cons active rest induction =>
      constructor
      · intro finished
        unfold finishAll at finished
        split at finished
        · simp at finished
        · rename_i own finishedHead
          split at finished
          · simp at finished
          · rename_i more finishedRest
            simp only [Except.ok.injEq] at finished
            subst finished
            obtain ⟨answers, each, rfl⟩ := induction.mp finishedRest
            exact ⟨own :: answers, .cons finishedHead each, rfl⟩
      · rintro ⟨answers, each, rfl⟩
        cases each with
        | @cons _ answer _ answers finishedHead each =>
            have finishedRest := induction.mpr ⟨answers, each, rfl⟩
            simp [finishAll, finishedHead, finishedRest]

theorem voices_nil_iff {rules : List ActiveRule}
    {voices : List (List (List Message))} :
    List.Forall₂ (fun active parts => active.voice [] = .ok parts) rules voices ↔
      ∃ answers : List (List Message),
        List.Forall₂ (fun active answer => active.finish = .ok answer)
          rules answers ∧
        voices = answers.map ([·]) := by
  constructor
  · intro each
    induction each with
    | nil => exact ⟨[], .nil, rfl⟩
    | cons spoken _ induction =>
        obtain ⟨messages, finished, rfl⟩ := ActiveRule.voice_nil_eq_ok_iff.mp spoken
        obtain ⟨answers, others, rfl⟩ := induction
        exact ⟨messages :: answers, .cons finished others, rfl⟩
  · rintro ⟨answers, each, rfl⟩
    rw [List.forall₂_map_right_iff]
    apply each.imp
    intro active answer finished
    exact ActiveRule.voice_nil_eq_ok_iff.mpr ⟨answer, finished, rfl⟩

theorem voices_cons_iff {moment : Visit} {rest : List Visit}
    {rules : List ActiveRule} {voices : List (List (List Message))} :
    List.Forall₂ (fun active parts => active.voice (moment :: rest) = .ok parts)
        rules voices ↔
      ∃ answers : List (ActiveRule × List Message),
      ∃ later : List (List (List Message)),
        List.Forall₂ (fun active answer => active.visit moment = .ok answer)
          rules answers ∧
        List.Forall₂ (fun active parts => active.voice rest = .ok parts)
          (answers.map (·.1)) later ∧
        voices = answers.zipWith (fun answer parts => answer.2 :: parts) later := by
  constructor
  · intro each
    induction each with
    | nil => exact ⟨[], [], .nil, .nil, rfl⟩
    | cons spoken _ induction =>
        obtain ⟨next, messages, more, visited, continued, rfl⟩ :=
          ActiveRule.voice_cons_eq_ok_iff.mp spoken
        obtain ⟨answers, later, visits, continuations, rfl⟩ := induction
        exact ⟨(next, messages) :: answers, more :: later,
          .cons visited visits, .cons continued continuations, rfl⟩
  · rintro ⟨answers, later, visits, continuations, rfl⟩
    induction visits generalizing later with
    | nil => exact .nil
    | @cons active answer _ _ visited _ induction =>
        cases continuations with
        | cons continued continuations =>
            refine .cons ?_ (induction _ continuations)
            exact ActiveRule.voice_cons_eq_ok_iff.mpr
              ⟨answer.1, answer.2, _, visited, continued, rfl⟩

/-- Answers put before later voices can be taken off again. -/
private theorem heads_and_tails_zipWith {answers : List (ActiveRule × List Message)}
    {later : List (List (List Message))} (sameLength : answers.length = later.length) :
    (answers.zipWith (fun answer parts => answer.2 :: parts) later).flatMap
          (·.headD []) = answers.flatMap (·.2) ∧
      (answers.zipWith (fun answer parts => answer.2 :: parts) later).map
          List.tail = later := by
  induction answers generalizing later with
  | nil =>
      cases later with
      | nil => exact ⟨rfl, rfl⟩
      | cons parts later => simp at sameLength
  | cons answer answers induction =>
      cases later with
      | nil => simp at sameLength
      | cons parts later =>
          simp only [List.length_cons, Nat.add_right_cancel_iff] at sameLength
          obtain ⟨heads, tails⟩ := induction sameLength
          constructor
          · simp only [List.zipWith_cons_cons, List.flatMap_cons,
              List.headD_cons, heads]
          · simp only [List.zipWith_cons_cons, List.map_cons, List.tail_cons,
              tails]

theorem chorus_zipWith (turns : Nat) {answers : List (ActiveRule × List Message)}
    {later : List (List (List Message))} (sameLength : answers.length = later.length) :
    chorus (turns + 1)
        (answers.zipWith (fun answer parts => answer.2 :: parts) later) =
      answers.flatMap (·.2) ++ chorus turns later := by
  obtain ⟨heads, tails⟩ := heads_and_tails_zipWith sameLength
  rw [chorus, heads, tails]

/-- Rules follow visits and finish exactly if each of them does by itself, and
then they say what the chorus of their voices does. -/
theorem follow_finishAll_iff {visits : List Visit} {rules : List ActiveRule}
    {emitted : List Message} :
    (∃ final messages more, follow rules visits = .ok (final, messages) ∧
        finishAll final = .ok more ∧ emitted = messages ++ more) ↔
      ∃ voices,
        List.Forall₂ (fun active parts => active.voice visits = .ok parts)
          rules voices ∧
        emitted = chorus (visits.length + 1) voices := by
  induction visits generalizing rules emitted with
  | nil =>
      constructor
      · rintro ⟨final, messages, more, followed, finished, rfl⟩
        simp only [follow, Except.ok.injEq, Prod.mk.injEq] at followed
        obtain ⟨rfl, rfl⟩ := followed
        obtain ⟨answers, each, rfl⟩ := finishAll_eq_ok_iff.mp finished
        refine ⟨_, voices_nil_iff.mpr ⟨answers, each, rfl⟩, ?_⟩
        simp [chorus, List.flatMap_map]
      · rintro ⟨voices, each, rfl⟩
        obtain ⟨answers, finished, rfl⟩ := voices_nil_iff.mp each
        refine ⟨rules, [], answers.flatten, rfl,
          finishAll_eq_ok_iff.mpr ⟨answers, finished, rfl⟩, ?_⟩
        simp [chorus, List.flatMap_map]
  | cons moment rest induction =>
      constructor
      · rintro ⟨final, messages, more, followed, finished, rfl⟩
        unfold follow at followed
        split at followed
        · simp at followed
        · rename_i nexts own visited
          split at followed
          · simp at followed
          · rename_i last others followedRest
            simp only [Except.ok.injEq, Prod.mk.injEq] at followed
            obtain ⟨rfl, rfl⟩ := followed
            obtain ⟨answers, visits, rfl, rfl⟩ := visitAll_eq_ok_iff.mp visited
            obtain ⟨later, continuations, said⟩ := induction.mp
              ⟨_, others, more, followedRest, finished, rfl⟩
            refine ⟨_, voices_cons_iff.mpr
              ⟨answers, later, visits, continuations, rfl⟩, ?_⟩
            have sameLength : answers.length = later.length := by
              simpa using continuations.length_eq
            rw [List.length_cons, chorus_zipWith _ sameLength, ← said,
              List.append_assoc]
      · rintro ⟨voices, each, rfl⟩
        obtain ⟨answers, later, visits, continuations, rfl⟩ :=
          voices_cons_iff.mp each
        obtain ⟨final, messages, more, followed, finished, said⟩ :=
          induction.mpr ⟨later, continuations, rfl⟩
        have visited := visitAll_eq_ok_iff.mpr ⟨answers, visits, rfl, rfl⟩
        refine ⟨final, answers.flatMap (·.2) ++ messages, more, ?_, finished, ?_⟩
        · simp [follow, visited, followed]
        · have sameLength : answers.length = later.length := by
            simpa using continuations.length_eq
          rw [List.length_cons, chorus_zipWith _ sameLength, said,
            List.append_assoc]

/-- Rules that follow the traversal of a tree, each by itself, and what they say
together in the order in which it arises. -/
def Emits (rules : List ActiveRule) (root : Node) (emitted : List Message) : Prop :=
  ∃ voices,
    List.Forall₂
      (fun active parts => active.voice (Visit.ofRoot root) = .ok parts)
      rules voices ∧
    emitted = chorus ((Visit.ofRoot root).length + 1) voices

/-- A pass succeeds exactly if each of its rules does by itself, and its messages
are those of the chorus. -/
theorem run_eq_ok_iff {rules : List ActiveRule} {root : Node}
    {emitted : List Message} :
    run rules root = .ok emitted ↔ Emits rules root emitted := by
  unfold Emits
  rw [← follow_finishAll_iff]
  unfold run
  constructor
  · intro ran
    split at ran
    · simp at ran
    · rename_i final messages followed
      split at ran
      · simp at ran
      · rename_i more finished
        simp only [Except.ok.injEq] at ran
        exact ⟨final, messages, more, followed, finished, ran.symm⟩
  · rintro ⟨final, messages, more, followed, finished, rfl⟩
    simp [followed, finished]

theorem run_singleton_eq_ok_iff {active : ActiveRule} {root : Node}
    {emitted : List Message} :
    run [active] root = .ok emitted ↔
      ∃ parts, active.voice (Visit.ofRoot root) = .ok parts ∧
        emitted = parts.flatten := by
  rw [run_eq_ok_iff]
  constructor
  · rintro ⟨voices, each, rfl⟩
    obtain ⟨parts, none, spoken, noMore, rfl⟩ := List.forall₂_cons_left_iff.mp each
    obtain rfl := List.forall₂_nil_left_iff.mp noMore
    refine ⟨parts, spoken, ?_⟩
    rw [← ActiveRule.length_voice spoken, chorus_singleton]
  · rintro ⟨parts, spoken, rfl⟩
    refine ⟨[parts], .cons spoken .nil, ?_⟩
    rw [← ActiveRule.length_voice spoken, chorus_singleton]

end Pass

end ScriptLint
