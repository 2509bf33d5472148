import ScriptLint.Proofs.Engine.Lint
import ScriptLint.Proofs.Source.Span
import ScriptLint.Proofs.Tree.Nodes
import ScriptLint.Rules.Book

/-!
# The first problem of a tree

The search for a problem leaves out what lies below nodes without a mark.  In a tree
whose marks are consistent nothing is lost by that: a mark stands exactly where there is
a problem at or below, so the search ends at the first problem of the whole tree in
document order.
-/

namespace ScriptLint

namespace Node

/-- Nodes that are missing or that the parser could not make sense of. -/
def IsFaulty (node : Node) : Prop :=
  node.missing = true ∨ node.kind = "ERROR"

/-- The marked nodes of a tree are the faulty ones and those with a marked child. -/
def MarksFaults (tree : Node) : Prop :=
  ∀ node ∈ tree.nodes,
    (node.hasError = true ↔ node.IsFaulty ∨ ∃ child ∈ node.children, child.hasError = true)

instance (node : Node) : Decidable node.IsFaulty :=
  inferInstanceAs (Decidable (_ ∨ _))

instance (tree : Node) : Decidable tree.MarksFaults :=
  inferInstanceAs (Decidable (∀ node ∈ tree.nodes, _))

theorem isProblem_eq_true_iff {node : Node} : node.isProblem = true ↔ node.IsFaulty := by
  simp [isProblem, IsFaulty]

theorem nodesOf_append (first second : List Node) :
    nodesOf (first ++ second) = nodesOf first ++ nodesOf second := by
  induction first with
  | nil => rfl
  | cons tree rest induction => simp only [List.cons_append, nodesOf, induction, List.append_assoc]

theorem MarksFaults.child {tree child : Node} (marked : tree.MarksFaults)
    (isChild : child ∈ tree.children) : child.MarksFaults := by
  intro node member
  exact marked node (mem_nodes.mpr (.inr ⟨child, isChild, member⟩))

theorem MarksFaults.hasError_iff {tree : Node} (marked : tree.MarksFaults) :
    tree.hasError = true ↔ ∃ node ∈ tree.nodes, node.IsFaulty := by
  have below : ∀ child ∈ tree.children,
      (child.hasError = true ↔ ∃ node ∈ child.nodes, node.IsFaulty) := by
    intro child isChild
    exact (marked.child isChild).hasError_iff
  rw [marked tree (self_mem_nodes tree)]
  constructor
  · rintro (faulty | ⟨child, isChild, isMarked⟩)
    · exact ⟨tree, self_mem_nodes tree, faulty⟩
    · obtain ⟨node, member, faulty⟩ := (below child isChild).mp isMarked
      exact ⟨node, mem_nodes.mpr (.inr ⟨child, isChild, member⟩), faulty⟩
  · rintro ⟨node, member, faulty⟩
    rcases mem_nodes.mp member with rfl | ⟨child, isChild, inChild⟩
    · exact .inl faulty
    · exact .inr ⟨child, isChild, (below child isChild).mpr ⟨node, inChild, faulty⟩⟩
termination_by tree.size
decreasing_by exact size_lt_of_mem_children isChild

/-- The search finds the first problem of all nodes. -/
theorem firstProblem?_eq_find? {pending : List Node}
    (marked : ∀ tree ∈ pending, tree.MarksFaults) :
    firstProblem? pending = (nodesOf pending).find? isProblem := by
  fun_induction firstProblem? pending with
  | case1 => rfl
  | case2 node rest isProblem =>
      rw [nodesOf, nodes_eq, List.cons_append, List.find?_cons, isProblem]
  | case3 node rest noProblem isMarked induction =>
      obtain ⟨here, later⟩ := List.forall_mem_cons.mp marked
      rw [induction, nodesOf_append, nodesOf, nodes_eq, List.cons_append, List.find?_cons,
        Bool.eq_false_iff.mpr noProblem]
      intro tree member
      rcases List.mem_append.mp member with isChild | waiting
      · exact here.child isChild
      · exact later tree waiting
  | case4 node rest _ unmarked induction =>
      -- What is left out holds no problem, since it has no mark.
      obtain ⟨here, later⟩ := List.forall_mem_cons.mp marked
      have nothing : node.nodes.find? isProblem = none := by
        rw [List.find?_eq_none]
        intro inner member problem
        exact unmarked (here.hasError_iff.mpr ⟨inner, member, isProblem_eq_true_iff.mp problem⟩)
      rw [induction later, nodesOf, List.find?_append, nothing, Option.none_or]

end Node

namespace Source

variable {source : Source}

theorem problem?_eq_find? (marked : source.root.MarksFaults) :
    source.problem? = (source.root.nodes.find? Node.isProblem).map fun node =>
      ⟨source.start node, source.problemDetail node⟩ := by
  have searched : Node.firstProblem? [source.root] =
      source.root.nodes.find? Node.isProblem := by
    rw [Node.firstProblem?_eq_find? (by simpa using marked)]
    simp [Node.nodesOf]
  unfold problem?
  cases found : source.root.nodes.find? Node.isProblem with
  | none =>
      rw [if_neg]
      · rfl
      · intro isMarked
        obtain ⟨node, member, faulty⟩ := marked.hasError_iff.mp isMarked
        exact List.find?_eq_none.mp found node member (Node.isProblem_eq_true_iff.mpr faulty)
  | some node =>
      have isMarked : source.root.hasError = true :=
        marked.hasError_iff.mpr ⟨node, List.mem_of_find?_eq_some found,
          Node.isProblem_eq_true_iff.mp (List.find?_some found)⟩
      simp only [if_pos isMarked, searched, found, Option.map_some]

theorem problem?_eq_none_iff (marked : source.root.MarksFaults) :
    source.problem? = none ↔ ∀ node ∈ source.root.nodes, ¬node.IsFaulty := by
  simp [problem?_eq_find? marked, Node.isProblem_eq_true_iff]

/-- What is said about a faulty node. -/
def faultText (node : Node) (covered : List Char) : String :=
  if node.missing then "'" ++ node.kind ++ "' expected."
  else "Unexpected token " ++ snippet covered

theorem problemDetail_eq {node : Node} {covered : List Char}
    (covers : source.fileText? node = some covered) :
    source.problemDetail node = faultText node covered := by
  rw [problemDetail, covers]
  rfl

theorem Aligned.exists_fileText? (aligned : source.Aligned) (node : Node) :
    ∃ covered, source.fileText? node = some covered := by
  rw [fileText?, aligned.span?_eq]
  exact ⟨_, rfl⟩

end Source

/-- A tree with consistent marks has a problem if some node is missing or an error, and
the problem is the first of these nodes in document order.  Checking the text then comes
to one fatal message at its start under any configuration. -/
theorem lintText_first_fault {parse : Parser} {path : String} {text : List Char}
    {source : Source} (sourced : Source.ofText parse (Path.ofString path) text = source)
    (marked : source.root.MarksFaults) :
    (source.problem? = none ↔ ∀ node ∈ source.root.nodes, ¬node.IsFaulty) ∧
    ((∃ node ∈ source.root.nodes, node.IsFaulty) →
      ∃ before node after covered,
        source.root.nodes = before ++ node :: after ∧ node.IsFaulty ∧
        (∀ earlier ∈ before, ¬earlier.IsFaulty) ∧
        source.fileText? node = some covered ∧
        source.problem? = some ⟨source.start node, Source.faultText node covered⟩ ∧
        ∀ (book : RuleBook) (config : RuleConfig), config.validate book = .ok () →
          lintText parse book config path text =
            .ok ⟨[{ rule := none
                    severity := 2
                    text := "Parsing error: " ++ Source.faultText node covered
                    line := (source.start node).line
                    column := source.utf16Column (source.start node)
                    endLine := none
                    endColumn := none
                    fix := none
                    fatal := true }], none⟩) := by
  refine ⟨Source.problem?_eq_none_iff marked, ?_⟩
  rintro ⟨faulty, member, isFaulty⟩
  obtain ⟨node, found⟩ : ∃ node, source.root.nodes.find? Node.isProblem = some node := by
    rw [← Option.isSome_iff_exists, List.find?_isSome]
    exact ⟨faulty, member, Node.isProblem_eq_true_iff.mpr isFaulty⟩
  obtain ⟨isProblem, before, after, split, earlier⟩ :=
    List.find?_eq_some_iff_append.mp found
  subst sourced
  have aligned := Source.aligned_ofText parse (Path.ofString path) text
  obtain ⟨covered, covers⟩ := aligned.exists_fileText? node
  have problem := Source.problem?_eq_find? marked
  rw [found, Option.map_some, Source.problemDetail_eq covers] at problem
  refine ⟨before, node, after, covered, split, Node.isProblem_eq_true_iff.mp isProblem,
    ?_, covers, problem, ?_⟩
  · intro other isEarlier faultyToo
    simpa [Node.isProblem_eq_true_iff.mpr faultyToo] using earlier other isEarlier
  · intro book config accepted
    refine lintText_eq_ok_iff.mpr ⟨accepted, ?_⟩
    simp only [Source.lint, problem, Problem.message]

def missingBracket : Node :=
  ⟨")", false, true, true, 6, 6, none, []⟩

/-- A bracket that is never closed, after a character of two code units and before an
error. -/
def unclosedBracket : Node :=
  ⟨"program", true, false, true, 0, 6, none,
    [⟨"comment", true, false, false, 0, 4, none, []⟩,
      ⟨"parenthesized_expression", true, false, true, 5, 6, none,
        [⟨"(", false, false, false, 5, 6, none, []⟩, missingBracket]⟩,
      ⟨"ERROR", true, false, true, 6, 6, none, []⟩]⟩

theorem lintText_first_fault_unclosedBracket :
    lintText (fun _ _ => unclosedBracket) RuleBook.standard [("no-var", ⟨.int 2, []⟩)] "a.js"
        ['😀', ' ', '('] =
      .ok ⟨[⟨none, 2, "Parsing error: ')' expected.", 1, 5, none, none, none, true⟩], none⟩ := by
  have sourced : Source.ofText (fun _ _ => unclosedBracket) (Path.ofString "a.js")
      ['😀', ' ', '('] =
      ⟨['😀', ' ', '('], ['😀', ' ', '('], .javascript, unclosedBracket, none⟩ := rfl
  have marked : unclosedBracket.MarksFaults := by decide +kernel
  have faults : ∃ node ∈ unclosedBracket.nodes, node.IsFaulty := by decide +kernel
  obtain ⟨before, node, after, covered, split, isFaulty, earlier, -, -, linted⟩ :=
    (lintText_first_fault sourced marked).2 faults
  have first : unclosedBracket.nodes.find? Node.isProblem = some node := by
    refine List.find?_eq_some_iff_append.mpr
      ⟨Node.isProblem_eq_true_iff.mpr isFaulty, before, after, split, ?_⟩
    intro other isEarlier
    rw [Bool.not_eq_true', Bool.eq_false_iff, ne_eq, Node.isProblem_eq_true_iff]
    exact earlier other isEarlier
  obtain rfl : missingBracket = node := Option.some.inj first
  exact linted RuleBook.standard _ rfl

end ScriptLint
