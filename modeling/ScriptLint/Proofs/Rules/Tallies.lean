import ScriptLint.Proofs.Rules.Maximum
import ScriptLint.Proofs.Tree.Owners

/-!
# Counts of functions

Two of the limits on functions are counted on a stack while the tree is traversed:
a function puts an entry on it, what is counted at a node is added to the top entry,
and when the function is left its entry is taken off and compared with the maximum.
Along the visits around a place the stack grows by what is exposed there, so the
entry of a function has come to the count of its interior when it is taken off.
-/

namespace ScriptLint.Limits

theorem addToTop_zero (stack : List Nat) : addToTop 0 stack = stack := by
  cases stack with
  | nil => rfl
  | cons top rest => rfl

theorem addToTop_addToTop (first second : Nat) (stack : List Nat) :
    addToTop second (addToTop first stack) = addToTop (first + second) stack := by
  cases stack with
  | nil => rfl
  | cons top rest => simp only [addToTop, Nat.add_assoc]

/-- Answers that count on a stack.  Nothing is counted at functions themselves. -/
structure Tallies (answer : List Nat → Visit → Answer (List Nat)) (base : Nat)
    (counted : Place → List Node) (report : Place → Nat → List Finding) : Prop where
  opening : ∀ place stack, place.node.isFunction = true →
    answer stack (.enter place) = .ok (base :: stack, [])
  adding : ∀ place stack, place.node.isFunction = false →
    answer stack (.enter place) = .ok (addToTop (counted place).length stack, [])
  closing : ∀ place count stack, place.node.isFunction = true →
    answer (count :: stack) (.leave place) = .ok (stack, report place count)
  passing : ∀ place stack, place.node.isFunction = false →
    answer stack (.leave place) = .ok (stack, [])
  uncounted : ∀ place, place.node.isFunction = true → counted place = []

namespace Tallies

variable {answer : List Nat → Visit → Answer (List Nat)} {base : Nat}
  {counted : Place → List Node} {report : Place → Nat → List Finding}

/-- What is reported when a place is left, given what it owns. -/
def reportAt (base : Nat) (counted : Place → List Node)
    (report : Place → Nat → List Finding) (owned : Place → List Place) (place : Place) :
    List Finding :=
  if place.node.isFunction then report place (base + ((owned place).flatMap counted).length)
  else []

/-- Around a place the top entry grows by what is exposed there, and each function
is reported on with the count of its interior. -/
theorem along_around (tallies : Tallies answer base counted report) (place : Place)
    (stack : List Nat) :
    along answer stack (Visit.around place) =
      .ok (addToTop (place.exposed.flatMap counted).length stack,
        (Visit.left (Visit.around place)).flatMap
          (reportAt base counted report Place.interior)) := by
  induction place using Place.induction_namedChildren generalizing stack with
  | step place induction =>
      have below : ∀ children : List Place, (∀ child ∈ children, child ∈ place.namedChildren) →
          ∀ stack, along answer stack (children.flatMap Visit.around) =
            .ok (addToTop ((children.flatMap Place.exposed).flatMap counted).length stack,
              (children.flatMap fun child => Visit.left (Visit.around child)).flatMap
                (reportAt base counted report Place.interior)) := by
        intro children within stack
        induction children generalizing stack with
        | nil => rw [List.flatMap_nil, along, List.flatMap_nil, List.flatMap_nil,
            List.length_nil, addToTop_zero]; rfl
        | cons child others inductionOthers =>
            obtain ⟨isChild, areChildren⟩ := List.forall_mem_cons.mp within
            simp only [List.flatMap_cons, List.flatMap_append, List.length_append,
              ← addToTop_addToTop]
            exact along_append_eq_ok (induction child isChild stack)
              (inductionOthers areChildren _)
      have inside := below _ fun _ isChild => isChild
      rw [Visit.left_around, Visit.around_eq place, Place.exposed_eq, List.flatMap_append,
        List.flatMap_singleton, List.flatMap_cons, reportAt]
      cases isFunction : place.node.isFunction with
      | true =>
          rw [if_pos rfl, if_pos rfl, tallies.uncounted place isFunction, List.nil_append,
            List.flatMap_nil, List.length_nil, addToTop_zero]
          rw [along_cons_of_silent _ (tallies.opening place stack isFunction)]
          apply along_append_eq_ok (inside (base :: stack))
          rw [along_singleton]
          exact tallies.closing place _ stack isFunction
      | false =>
          rw [if_neg Bool.false_ne_true, if_neg Bool.false_ne_true, List.length_append,
            ← addToTop_addToTop, along_cons_of_silent _ (tallies.adding place stack isFunction)]
          apply along_append_eq_ok (inside _)
          rw [along_singleton]
          exact tallies.passing place _ isFunction

/-- Along the traversal of a tree each function is reported on with the count of
what it owns. -/
theorem along_ofRoot (tallies : Tallies answer base counted report) (root : Node) :
    along answer [] (Visit.ofRoot root) =
      .ok ([], (Visit.left (Visit.ofRoot root)).flatMap
        (reportAt base counted report fun function =>
          (Place.ofRoot root).walk.filter (·.isOwnedBy function))) := by
  rw [Visit.ofRoot_eq_around, tallies.along_around]
  congr 2
  apply List.flatMap_congr
  intro function isLeft
  have reached : (Place.ofRoot root).Reaches function :=
    Place.mem_walk_iff.mp ((Visit.left_around_perm _).mem_iff.mp isLeft)
  dsimp only [reportAt]
  split
  · rename_i isFunction
    rw [Place.filter_isOwnedBy_of_reaches reached isFunction]
  · rfl

end Tallies

/-- What is found when a function is left with a count. -/
def overLimit (context : RuleContext) (limit : Int) (text : Place → Nat → String)
    (function : Place) (count : Nat) : List Finding :=
  if limit < count then [aboutHead context function (text function count)] else []

/-- What a counting rule says about a function with a count. -/
def tallyText (words : Nat → String) (source : Source) (limit : Int) (function : Place)
    (count : Nat) : String :=
  source.functionName function ++ words count ++ limitText limit

/-- A counting rule counts on a stack if it watches all nodes at which something is
counted, and these are no functions. -/
theorem tallies_tally {others : List String} {base : Nat} {gain : Source → Node → Nat}
    {default : Int} {words : Nat → String} {context : RuleContext}
    {counted : Place → List Node}
    (watched : ∀ place, counted place ≠ [] → place.kind ∈ others)
    (gains : ∀ place, place.node.isFunction = false → place.kind ∈ others →
      gain context.source place.node = (counted place).length)
    (uncounted : ∀ place, place.node.isFunction = true → counted place = []) :
    Tallies ((tally others base gain default words).step context) base counted
      (overLimit context (maximum context default)
        (tallyText words context.source (maximum context default))) := by
  have watchesFunction : ∀ place : Place, place.node.isFunction = true →
      (functionKinds ++ others).contains place.kind = true := by
    intro place isFunction
    exact List.contains_iff_mem.mpr
      (List.mem_append_left _ (List.contains_iff_mem.mp isFunction))
  constructor
  case opening =>
    intro place stack isFunction
    exact (if_pos (watchesFunction place isFunction)).trans (if_pos isFunction)
  case adding =>
    intro place stack noFunction
    by_cases isWatched : (functionKinds ++ others).contains place.kind = true
    · have isOther : place.kind ∈ others := by
        rcases List.mem_append.mp (List.contains_iff_mem.mp isWatched) with isKind | isOther
        · exact absurd (List.contains_iff_mem.mpr isKind) (Bool.eq_false_iff.mp noFunction)
        · exact isOther
      rw [← gains place noFunction isOther]
      exact (if_pos isWatched).trans (if_neg (Bool.eq_false_iff.mp noFunction))
    · have nothing : counted place = [] := by
        by_contra something
        exact isWatched (List.contains_iff_mem.mpr
          (List.mem_append_right _ (watched place something)))
      rw [nothing, List.length_nil, addToTop_zero]
      exact if_neg isWatched
  case closing =>
    intro place count stack isFunction
    refine (if_pos (watchesFunction place isFunction)).trans ((if_pos isFunction).trans ?_)
    rw [overLimit]
    dsimp only
    split
    · rfl
    · rfl
  case passing =>
    intro place stack noFunction
    by_cases isWatched : (functionKinds ++ others).contains place.kind = true
    · exact (if_pos isWatched).trans (if_neg (Bool.eq_false_iff.mp noFunction))
    · exact if_neg isWatched
  case uncounted => exact uncounted

/-- The functions of a tree whose count exceeds a maximum, in the order in which they
are left. -/
def functionsOver (source : Source) (count : Place → Nat) (limit : Int) : List Place :=
  (Visit.left (Visit.ofRoot source.root)).filter fun function =>
    function.node.isFunction && limit < count function

theorem functionsOver_perm (source : Source) (count : Place → Nat) (limit : Int) :
    (functionsOver source count limit).Perm
      (source.walk.filter fun function =>
        function.node.isFunction && limit < count function) := by
  rw [functionsOver, Visit.ofRoot_eq_around]
  exact (Visit.left_around_perm (Place.ofRoot source.root)).filter _

theorem filter_same_functionsOver {source : Source} {count : Place → Nat} {limit : Int}
    {function : Place} (isOver : function ∈ functionsOver source count limit) :
    (functionsOver source count limit).filter (·.same function) = [function] := by
  have listed := functionsOver_perm source count limit
  obtain ⟨walked, exceeds⟩ := List.mem_filter.mp (listed.mem_iff.mp isOver)
  apply List.perm_singleton.mp
  apply (listed.filter _).trans
  rw [List.filter_comm, Source.walk, Place.filter_same_walk (Place.mem_walk_iff.mp walked),
    List.filter_cons, if_pos exceeds]
  exact .refl _

/-- Rules that count on a stack find each function whose count exceeds the maximum. -/
theorem Tallies.along_overLimit {answer : List Nat → Visit → Answer (List Nat)} {base : Nat}
    {counted : Place → List Node} {context : RuleContext} {limit : Int}
    {text : Place → Nat → String}
    (tallies : Tallies answer base counted (overLimit context limit text)) {source : Source}
    {count : Place → Nat}
    (counts : ∀ function, base +
      ((source.walk.filter (·.isOwnedBy function)).flatMap counted).length = count function) :
    along answer [] (Visit.ofRoot source.root) =
      .ok ([], (functionsOver source count limit).map fun function =>
        aboutHead context function (text function (count function))) := by
  have each : ∀ function, Tallies.reportAt base counted (overLimit context limit text)
        (fun function => source.walk.filter (·.isOwnedBy function)) function =
      if function.node.isFunction && limit < count function then
        [aboutHead context function (text function (count function))]
      else [] := by
    intro function
    rw [Tallies.reportAt, counts, overLimit]
    cases function.node.isFunction with
    | true => simp
    | false => simp
  rw [tallies.along_ofRoot, functionsOver, List.map_eq_flatMap, ← flatMap_ite]
  congr 2
  exact List.flatMap_congr fun function _ => each function

/-- The decision points that lie in a function and not in an inner one. -/
def decisionsOf (source : Source) (function : Place) : List Place :=
  source.walk.filter fun place =>
    place.isOwnedBy function && isDecision source place.node

/-- One more than the number of decision points of a function. -/
def complexityOf (source : Source) (function : Place) : Nat :=
  1 + (decisionsOf source function).length

/-- What is said about a function that is too complex. -/
def complexityText (source : Source) (limit : Int) (function : Place) (count : Nat) : String :=
  source.functionName function ++ " has a complexity of " ++ toString count ++ "." ++
    limitText limit

theorem not_isDecision_of_isFunction {source : Source} {node : Node}
    (isFunction : node.isFunction = true) : isDecision source node = false := by
  have isKind : node.kind ∈ functionKinds := List.contains_iff_mem.mp isFunction
  simp only [functionKinds, List.mem_cons, List.not_mem_nil, or_false] at isKind
  rcases isKind with kind | kind | kind | kind | kind | kind | kind <;>
    simp [isDecision, branchKinds, kind]

theorem kind_of_isDecision {source : Source} {place : Place}
    (decides : isDecision source place.node = true) :
    place.kind ∈ branchKinds ++ ["binary_expression", "augmented_assignment_expression"] := by
  rw [List.mem_append]
  simp only [isDecision, Bool.or_eq_true, Bool.and_eq_true, decide_eq_true_eq] at decides
  rcases decides with (branches | ⟨isBinary, -⟩) | ⟨isAssignment, -⟩
  · exact .inl (List.contains_iff_mem.mp branches)
  · exact .inr (List.mem_cons.mpr (.inl isBinary))
  · exact .inr (List.mem_cons_of_mem _ (List.mem_singleton.mpr isAssignment))

/-- The rule about complexity counts decision points, starting from one. -/
theorem complexity_tallies (context : RuleContext) :
    Tallies (complexity.step context) 1
      (fun place => if isDecision context.source place.node then [place.node] else [])
      (overLimit context (maximum context 20)
        (complexityText context.source (maximum context 20))) := by
  have worded : complexityText context.source (maximum context 20) =
      tallyText (fun count => " has a complexity of " ++ toString count ++ ".") context.source
        (maximum context 20) := by
    funext function count
    simp only [complexityText, tallyText, String.append_assoc]
  rw [worded]
  apply tallies_tally
  · intro place counted
    exact kind_of_isDecision (ite_ne_right_iff.mp counted).1
  · intro place _ _
    split
    · rfl
    · rfl
  · intro place isFunction
    rw [not_isDecision_of_isFunction isFunction, if_neg Bool.false_ne_true]

theorem complexity_count (source : Source) (function : Place) :
    1 + ((source.walk.filter (·.isOwnedBy function)).flatMap fun place =>
      if isDecision source place.node then [place.node] else []).length =
        complexityOf source function := by
  rw [flatMap_ite, ← List.map_eq_flatMap, List.length_map, List.filter_comm,
    List.filter_filter]
  rfl

/-- With the rule about complexity alone, checking a text reports each function once
whose complexity exceeds the maximum, and no other.  The decision points of all
functions together are those that lie in some function. -/
theorem lintText_complexity {parse : Parser} {path : String} {text : List Char}
    {source : Source} {severity : Value} {level : Level} {limit : Int}
    (sourced : Source.ofText parse (Path.ofString path) text = source)
    (clean : source.problem? = none) (isLevel : severity.level? = some level)
    (on : level ≠ .off) (positive : 1 ≤ limit) :
    (∃ emitted,
      lintText parse RuleBook.standard
          [("complexity", ⟨severity, [("max", .int limit)]⟩)] path text =
        .ok (.ofMessages text emitted) ∧
      (contextOf "complexity" level limit source).messages
          ((functionsOver source (complexityOf source) limit).map fun function =>
            aboutHead (contextOf "complexity" level limit source) function
              (complexityText source limit function (complexityOf source function))) =
        .ok emitted ∧
      emitted.map (·.text) =
        (functionsOver source (complexityOf source) limit).map fun function =>
          complexityText source limit function (complexityOf source function)) ∧
    (functionsOver source (complexityOf source) limit).Perm
      (source.walk.filter fun function =>
        function.node.isFunction && limit < complexityOf source function) ∧
    (∀ function ∈ functionsOver source (complexityOf source) limit,
      (functionsOver source (complexityOf source) limit).filter (·.same function) =
        [function]) ∧
    ((source.walk.filter (·.node.isFunction)).flatMap (decisionsOf source)).Perm
      (source.walk.filter fun place =>
        place.enclosingFunction?.isSome && isDecision source place.node) := by
  have tallies := complexity_tallies (contextOf "complexity" level limit source)
  rw [maximum_contextOf] at tallies
  have found := tallies.along_overLimit (complexity_count source)
  refine ⟨?_, functionsOver_perm source _ limit, fun _ => filter_same_functionsOver,
    Place.perm_flatMap_filter_isOwnedBy source.root _⟩
  exact exists_lintText_maximum rfl rfl rfl (fun _ => ⟨_, rfl⟩) found rfl sourced clean isLevel on
    positive

/-- A condition, and a function with a condition, a conjunction and an inner function
that decides for itself. -/
def innerDecisions : Node :=
  ⟨"program", true, false, false, 0, 2, none,
    [⟨"if_statement", true, false, false, 0, 0, none, []⟩,
      ⟨"function_declaration", true, false, false, 0, 2, none,
        [⟨"statement_block", true, false, false, 0, 2, some "body",
          [⟨"if_statement", true, false, false, 0, 0, none, []⟩,
            ⟨"arrow_function", true, false, false, 0, 0, none,
              [⟨"ternary_expression", true, false, false, 0, 0, none, []⟩]⟩,
            ⟨"binary_expression", true, false, false, 0, 2, none,
              [⟨"&&", false, false, false, 0, 2, some "operator", []⟩]⟩]⟩]⟩]⟩

theorem lintText_complexity_innerDecisions :
    ∃ emitted,
      lintText (fun _ _ => innerDecisions) RuleBook.standard
          [("complexity", ⟨.text "warn", [("max", .int 2)]⟩)] "a.js" ['&', '&'] =
        .ok (.ofMessages ['&', '&'] emitted) ∧
      emitted.map (·.text) = ["Function has a complexity of 3. Maximum allowed is 2."] := by
  have clean : (Source.ofText (fun _ _ => innerDecisions) (Path.ofString "a.js")
      ['&', '&']).problem? = none := rfl
  have isLevel : (Value.text "warn").level? = some .warning := rfl
  have positive : (1 : Int) ≤ 2 := by decide
  obtain ⟨⟨emitted, linted, -, texts⟩, -⟩ :=
    lintText_complexity rfl clean isLevel (by decide) positive
  refine ⟨emitted, linted, texts.trans ?_⟩
  decide +kernel

/-- The statements of the blocks that lie in a function and not in an inner one. -/
def statementsOf (source : Source) (function : Place) : List Node :=
  (source.walk.filter fun place =>
    place.isOwnedBy function && place.kind = "statement_block").flatMap (·.node.codeChildren)

def statementCount (source : Source) (function : Place) : Nat :=
  (statementsOf source function).length

/-- What is said about a function with too many statements. -/
def statementsText (source : Source) (limit : Int) (function : Place) (count : Nat) : String :=
  source.functionName function ++ " has too many statements (" ++ toString count ++ ")." ++
    limitText limit

theorem statements_of_block {node : Node} (isBlock : node.kind = "statement_block") :
    node.statements = node.codeChildren := by
  simp [Node.statements, isBlock]

theorem not_isBlock_of_isFunction {place : Place} (isFunction : place.node.isFunction = true) :
    ¬place.kind = "statement_block" := by
  intro isBlock
  have isKind : place.kind ∈ functionKinds := List.contains_iff_mem.mp isFunction
  simp [isBlock, functionKinds] at isKind

theorem maxStatements_tallies (context : RuleContext) :
    Tallies (maxStatements.step context) 0
      (fun place => if place.kind = "statement_block" then place.node.codeChildren else [])
      (overLimit context (maximum context 10)
        (statementsText context.source (maximum context 10))) := by
  have worded : statementsText context.source (maximum context 10) =
      tallyText (fun count => " has too many statements (" ++ toString count ++ ").")
        context.source (maximum context 10) := by
    funext function count
    simp only [statementsText, tallyText, String.append_assoc]
  rw [worded]
  apply tallies_tally
  · intro place counted
    exact List.mem_singleton.mpr (ite_ne_right_iff.mp counted).1
  · intro place _ isOther
    have isBlock := List.mem_singleton.mp isOther
    rw [if_pos isBlock, ← statements_of_block isBlock]
  · intro place isFunction
    rw [if_neg (not_isBlock_of_isFunction isFunction)]

theorem maxStatements_count (source : Source) (function : Place) :
    0 + ((source.walk.filter (·.isOwnedBy function)).flatMap fun place =>
      if place.kind = "statement_block" then place.node.codeChildren else []).length =
        statementCount source function := by
  have selected := flatMap_ite (source.walk.filter (·.isOwnedBy function))
    (fun place => place.kind = "statement_block") (fun place => place.node.codeChildren)
  simp only [decide_eq_true_eq] at selected
  rw [Nat.zero_add, selected, List.filter_comm, List.filter_filter]
  rfl

/-- With the rule about statements alone, checking a text reports each function once
that has more statements than the maximum, and no other. -/
theorem lintText_maxStatements {parse : Parser} {path : String} {text : List Char}
    {source : Source} {severity : Value} {level : Level} {limit : Int}
    (sourced : Source.ofText parse (Path.ofString path) text = source)
    (clean : source.problem? = none) (isLevel : severity.level? = some level)
    (on : level ≠ .off) (positive : 1 ≤ limit) :
    (∃ emitted,
      lintText parse RuleBook.standard
          [("max-statements", ⟨severity, [("max", .int limit)]⟩)] path text =
        .ok (.ofMessages text emitted) ∧
      (contextOf "max-statements" level limit source).messages
          ((functionsOver source (statementCount source) limit).map fun function =>
            aboutHead (contextOf "max-statements" level limit source) function
              (statementsText source limit function (statementCount source function))) =
        .ok emitted ∧
      emitted.map (·.text) =
        (functionsOver source (statementCount source) limit).map fun function =>
          statementsText source limit function (statementCount source function)) ∧
    (functionsOver source (statementCount source) limit).Perm
      (source.walk.filter fun function =>
        function.node.isFunction && limit < statementCount source function) ∧
    (∀ function ∈ functionsOver source (statementCount source) limit,
      (functionsOver source (statementCount source) limit).filter (·.same function) =
        [function]) := by
  have tallies := maxStatements_tallies (contextOf "max-statements" level limit source)
  rw [maximum_contextOf] at tallies
  have found := tallies.along_overLimit (maxStatements_count source)
  refine ⟨?_, functionsOver_perm source _ limit, fun _ => filter_same_functionsOver⟩
  exact exists_lintText_maximum rfl rfl rfl (fun _ => ⟨_, rfl⟩) found rfl sourced clean isLevel on
    positive

/-- A function with two statements, of which the first has a block of its own and
the second an inner function. -/
def innerStatements : Node :=
  ⟨"program", true, false, false, 0, 0, none,
    [⟨"function_declaration", true, false, false, 0, 0, none,
      [⟨"statement_block", true, false, false, 0, 0, some "body",
        [⟨"comment", true, false, false, 0, 0, none, []⟩,
          ⟨"if_statement", true, false, false, 0, 0, none,
            [⟨"statement_block", true, false, false, 0, 0, none,
              [⟨"return_statement", true, false, false, 0, 0, none, []⟩]⟩]⟩,
          ⟨"arrow_function", true, false, false, 0, 0, none,
            [⟨"statement_block", true, false, false, 0, 0, some "body",
              [⟨"return_statement", true, false, false, 0, 0, none, []⟩]⟩]⟩]⟩]⟩]⟩

theorem lintText_maxStatements_innerStatements :
    ∃ emitted,
      lintText (fun _ _ => innerStatements) RuleBook.standard
          [("max-statements", ⟨.int 2, [("max", .int 2)]⟩)] "a.js" [] =
        .ok (.ofMessages [] emitted) ∧
      emitted.map (·.text) =
        ["Function has too many statements (3). Maximum allowed is 2."] := by
  have clean : (Source.ofText (fun _ _ => innerStatements) (Path.ofString "a.js")
      []).problem? = none := rfl
  have isLevel : (Value.int 2).level? = some .error := rfl
  have positive : (1 : Int) ≤ 2 := by decide
  obtain ⟨⟨emitted, linted, -, texts⟩, -⟩ :=
    lintText_maxStatements rfl clean isLevel (by decide) positive
  refine ⟨emitted, linted, texts.trans ?_⟩
  decide +kernel

end ScriptLint.Limits
