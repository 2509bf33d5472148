import ScriptLint.Proofs.Rules.Maximum
import ScriptLint.Proofs.Tree.Owners

/-!
# Depth of nesting

The rule on nesting keeps a counter for each open program or function.  What it
does to its counters when a place is entered it takes back when the place is left,
so at each place they are determined by the places above, and the innermost counter
is the number of nesting statements up to the nearest program or function.
-/

namespace ScriptLint.Limits

def isNesting (place : Place) : Bool :=
  nestingKinds.contains place.kind && nests place

/-- Whether a place lies in a program or function. -/
def isBounded (place : Place) : Bool :=
  place.ancestors.any (isBoundary ·.node)

/-- The levels from the nearest program or function down to a place. -/
def depthOf (place : Place) : Nat :=
  (place :: place.ancestors.takeWhile (!isBoundary ·.node)).countP isNesting

/-- What is said about a statement that is nested too deeply. -/
def depthText (limit : Int) (depth : Nat) : String :=
  "Blocks are nested too deeply (" ++ toString depth ++ ")." ++ limitText limit

/-- The counters inside a place, given those around it. -/
def deepen (place : Place) (counters : List Nat) : List Nat :=
  if isBoundary place.node then 0 :: counters
  else if isNesting place then addToTop 1 counters
  else counters

/-- What is found when a place is entered. -/
def tooDeep (context : RuleContext) (limit : Int) (place : Place) : List Nat → List Finding
  | [] => []
  | depth :: _ =>
      if isNesting place && limit < (depth + 1 : Nat) then
        [context.about place.node (depthText limit (depth + 1))]
      else []

theorem not_isBoundary_of_nestingKind {place : Place}
    (isKind : nestingKinds.contains place.kind = true) : ¬isBoundary place.node = true := by
  have kinds : place.node.kind ∈ nestingKinds := List.contains_iff_mem.mp isKind
  simp only [nestingKinds, List.mem_cons, List.not_mem_nil, or_false] at kinds
  rcases kinds with kind | kind | kind | kind | kind | kind | kind | kind <;>
    simp [isBoundary, Node.isFunction, functionKinds, kind]

theorem isNesting_eq_nests {place : Place}
    (isKind : nestingKinds.contains place.kind = true) : isNesting place = nests place := by
  rw [isNesting, isKind, Bool.true_and]

theorem not_isNesting_of_isBoundary {place : Place} (bounds : isBoundary place.node = true) :
    isNesting place = false := by
  cases isKind : nestingKinds.contains place.kind with
  | true => exact absurd bounds (not_isBoundary_of_nestingKind isKind)
  | false => rw [isNesting, isKind, Bool.false_and]

theorem maxDepth_watches_iff {place : Place} :
    maxDepth.kinds.contains place.kind = true ↔
      isBoundary place.node = true ∨ nestingKinds.contains place.kind = true := by
  simp only [maxDepth, isBoundary, Node.isFunction, Place.kind, List.contains_iff_mem,
    List.mem_append, List.mem_singleton, Bool.or_eq_true, decide_eq_true_eq]
  tauto

theorem tooDeep_of_not_isNesting {context : RuleContext} {limit : Int} {place : Place}
    (notNesting : isNesting place = false) (counters : List Nat) :
    tooDeep context limit place counters = [] := by
  cases counters with
  | nil => rfl
  | cons depth rest => rw [tooDeep, notNesting, Bool.false_and, if_neg Bool.false_ne_true]

/-- The places that the rule does not watch are neither boundaries nor levels. -/
theorem unbounded_of_unwatched {place : Place}
    (unwatched : ¬maxDepth.kinds.contains place.kind = true) :
    ¬isBoundary place.node = true ∧ isNesting place = false := by
  rw [maxDepth_watches_iff, not_or] at unwatched
  obtain ⟨noBoundary, noKind⟩ := unwatched
  rw [isNesting, Bool.eq_false_iff.mpr noKind]
  exact ⟨noBoundary, Bool.false_and _⟩

section Steps

variable (context : RuleContext) (place : Place) (counters : List Nat)

theorem maxDepth_enter :
    maxDepth.step context counters (.enter place) =
      .ok (deepen place counters, tooDeep context (maximum context 4) place counters) := by
  by_cases isWatched : maxDepth.kinds.contains place.kind = true
  · refine (Rule.step_enter_of_watched context counters isWatched).trans ?_
    simp only [maxDepth, deepen]
    rcases maxDepth_watches_iff.mp isWatched with bounds | isKind
    · rw [if_pos bounds, if_pos bounds,
        tooDeep_of_not_isNesting (not_isNesting_of_isBoundary bounds)]
    · have noBoundary := not_isBoundary_of_nestingKind isKind
      rw [if_neg noBoundary, if_neg noBoundary]
      cases counters with
      | nil => rw [addToTop, ite_self, tooDeep]
      | cons depth rest =>
          rw [tooDeep, isNesting_eq_nests isKind]
          cases nests place with
          | true =>
              simp only [if_true, Bool.true_and, decide_eq_true_eq]
              split
              · rfl
              · rfl
          | false => rfl
  · obtain ⟨noBoundary, notNesting⟩ := unbounded_of_unwatched isWatched
    rw [deepen, if_neg noBoundary, notNesting, if_neg Bool.false_ne_true,
      tooDeep_of_not_isNesting notNesting]
    exact Rule.step_enter_of_unwatched context counters isWatched

theorem maxDepth_leave :
    maxDepth.step context (deepen place counters) (.leave place) = .ok (counters, []) := by
  by_cases isWatched : maxDepth.kinds.contains place.kind = true
  · refine (Rule.step_leave_of_watched context _ isWatched).trans ?_
    simp only [maxDepth, deepen]
    rcases maxDepth_watches_iff.mp isWatched with bounds | isKind
    · rw [if_pos bounds, if_pos bounds]
    · have noBoundary := not_isBoundary_of_nestingKind isKind
      rw [if_neg noBoundary, if_neg noBoundary, isNesting_eq_nests isKind]
      cases counters with
      | nil => rw [addToTop, ite_self]
      | cons depth rest =>
          cases nests place with
          | true => rfl
          | false => rfl
  · obtain ⟨noBoundary, notNesting⟩ := unbounded_of_unwatched isWatched
    rw [deepen, if_neg noBoundary, notNesting, if_neg Bool.false_ne_true]
    exact Rule.step_leave_of_unwatched context counters isWatched

end Steps

/-- The counters below some places, the nearest first. -/
def countersOf : List Place → List Nat
  | [] => []
  | place :: above => deepen place (countersOf above)

/-- Around a place the counters stay as the places above determine them. -/
theorem maxDepth_along_around (context : RuleContext) (place : Place) :
    along (maxDepth.step context) (countersOf place.ancestors) (Visit.around place) =
      .ok (countersOf place.ancestors,
        place.walk.flatMap fun inner =>
          tooDeep context (maximum context 4) inner (countersOf inner.ancestors)) := by
  induction place using Place.induction_namedChildren with
  | step place induction =>
      have inside : along (maxDepth.step context) (deepen place (countersOf place.ancestors))
            (place.namedChildren.flatMap Visit.around) =
          .ok (deepen place (countersOf place.ancestors),
            place.namedChildren.flatMap fun child => child.walk.flatMap fun inner =>
              tooDeep context (maximum context 4) inner (countersOf inner.ancestors)) := by
        apply along_flatMap_eq_ok
        intro child isChild
        have around := induction child isChild
        rw [Place.ancestors_of_mem_namedChildren isChild] at around
        exact around
      have entered := (along_singleton _ _).trans
        (maxDepth_enter context place (countersOf place.ancestors))
      have left := (along_singleton _ _).trans
        (maxDepth_leave context place (countersOf place.ancestors))
      rw [Visit.around_eq, Place.walk_eq, List.flatMap_cons, List.flatMap_assoc]
      have bracketed := along_append_eq_ok entered (along_append_eq_ok inside left)
      rw [List.append_nil] at bracketed
      exact bracketed

theorem head?_addToTop (amount : Nat) (stack : List Nat) :
    (addToTop amount stack).head? = stack.head?.map (· + amount) := by
  cases stack with
  | nil => rfl
  | cons top rest => rfl

/-- The innermost counter is the number of levels up to the nearest program or
function. -/
theorem head?_countersOf (above : List Place) :
    (countersOf above).head? =
      if above.any (isBoundary ·.node) then
        some ((above.takeWhile (!isBoundary ·.node)).countP isNesting)
      else none := by
  induction above with
  | nil => rfl
  | cons place above induction =>
      rw [countersOf, deepen, List.any_cons, List.takeWhile_cons]
      cases isBoundary place.node with
      | true => rfl
      | false =>
          simp only [Bool.false_eq_true, if_false, Bool.false_or, Bool.not_false, if_true,
            List.countP_cons]
          cases isNesting place with
          | true =>
              rw [if_pos rfl, if_pos rfl, head?_addToTop, induction]
              split
              · rfl
              · rfl
          | false => simpa using induction

theorem tooDeep_countersOf (context : RuleContext) (limit : Int) (place : Place) :
    tooDeep context limit place (countersOf place.ancestors) =
      if isNesting place && isBounded place && limit < depthOf place then
        [context.about place.node (depthText limit (depthOf place))]
      else [] := by
  have innermost := head?_countersOf place.ancestors
  rw [← isBounded] at innermost
  cases nesting : isNesting place with
  | false => rw [tooDeep_of_not_isNesting nesting, Bool.false_and, Bool.false_and,
      if_neg Bool.false_ne_true]
  | true =>
      cases bounded : isBounded place with
      | false =>
          rw [bounded, if_neg Bool.false_ne_true, List.head?_eq_none_iff] at innermost
          rw [innermost, tooDeep, Bool.and_false, Bool.false_and, if_neg Bool.false_ne_true]
      | true =>
          rw [bounded, if_pos rfl, List.head?_eq_some_iff] at innermost
          obtain ⟨rest, counters⟩ := innermost
          rw [counters, tooDeep, nesting, depthOf, List.countP_cons_of_pos nesting]
          rfl

/-- With the rule about nesting alone, checking a text reports each level of nesting
that lies too deep in a program or function, and nothing else. -/
theorem lintText_maxDepth {parse : Parser} {path : String} {text : List Char}
    {source : Source} {severity : Value} {level : Level} {limit : Int}
    (sourced : Source.ofText parse (Path.ofString path) text = source)
    (clean : source.problem? = none) (isLevel : severity.level? = some level)
    (on : level ≠ .off) (positive : 1 ≤ limit) :
    ∃ emitted,
      lintText parse RuleBook.standard
          [("max-depth", ⟨severity, [("max", .int limit)]⟩)] path text =
        .ok (.ofMessages text emitted) ∧
      (contextOf "max-depth" level limit source).messages
          ((source.walk.filter fun place =>
            isNesting place && isBounded place && limit < depthOf place).map fun place =>
              (contextOf "max-depth" level limit source).about place.node
                (depthText limit (depthOf place))) =
        .ok emitted ∧
      emitted.map (·.text) =
        (source.walk.filter fun place =>
          isNesting place && isBounded place && limit < depthOf place).map fun place =>
            depthText limit (depthOf place) := by
  have found := maxDepth_along_around (contextOf "max-depth" level limit source)
    (Place.ofRoot source.root)
  rw [maximum_contextOf, ← Visit.ofRoot_eq_around] at found
  simp only [tooDeep_countersOf] at found
  rw [flatMap_ite, ← List.map_eq_flatMap] at found
  exact exists_lintText_maximum rfl rfl rfl (fun _ => ⟨_, rfl⟩) found rfl sourced clean isLevel on
    positive

/-- Three loops outside any program, and a program in which a loop is nested in a
condition and the `else if` of another, with an inner function. -/
def nestedBranches : Node :=
  ⟨"module", true, false, false, 0, 0, none,
    [⟨"do_statement", true, false, false, 0, 0, none,
      [⟨"for_statement", true, false, false, 0, 0, none,
        [⟨"while_statement", true, false, false, 0, 0, none, []⟩]⟩]⟩,
      ⟨"program", true, false, false, 0, 0, none,
        [⟨"if_statement", true, false, false, 0, 0, none,
          [⟨"if_statement", true, false, false, 0, 0, none,
            [⟨"else_clause", true, false, false, 0, 0, none,
              [⟨"if_statement", true, false, false, 0, 0, none,
                [⟨"while_statement", true, false, false, 0, 0, none,
                  [⟨"arrow_function", true, false, false, 0, 0, none,
                    [⟨"try_statement", true, false, false, 0, 0, none, []⟩]⟩]⟩]⟩]⟩]⟩]⟩]⟩]⟩

theorem lintText_maxDepth_nestedBranches :
    ∃ emitted,
      lintText (fun _ _ => nestedBranches) RuleBook.standard
          [("max-depth", ⟨.text "error", [("max", .int 2)]⟩)] "a.js" [] =
        .ok (.ofMessages [] emitted) ∧
      emitted.map (·.text) =
        ["Blocks are nested too deeply (3). Maximum allowed is 2."] := by
  have clean : (Source.ofText (fun _ _ => nestedBranches) (Path.ofString "a.js")
      []).problem? = none := rfl
  have isLevel : (Value.text "error").level? = some .error := rfl
  have positive : (1 : Int) ≤ 2 := by decide
  obtain ⟨emitted, linted, -, texts⟩ :=
    lintText_maxDepth rfl clean isLevel (by decide) positive
  refine ⟨emitted, linted, texts.trans ?_⟩
  decide +kernel

end ScriptLint.Limits
